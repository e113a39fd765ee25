import CommentBot.Comment.Handler
import CommentBot.Proofs.Command.Tokens
import Mathlib.Data.List.TakeWhile

/-!
# The block in an acknowledgement

An acknowledgement shows a comment in a block of Markdown. A block stands between fences and is read line by line.

1. `lines`: the lines of a text, and `endedLines` those that stand before a line feed. `ClosesFence`: the lines that
   close a block whose fence is three backticks. `block` and `behind`: what it shows, and what stands behind it.
2. `lines_acknowledgement`: the lines of an acknowledgement. Those of the comment stand below its fence (`belowFence`).
3. `body_shown_iff`: they are shown as they are unless one of them closes the block. A comment may have such a line
   (`body_closes_block`).
-/

namespace CommentBot

namespace Text

/-! ## Lines -/

/-- Whether the character ends a line. -/
def isLineBreak (c : Char) : Bool := c = '\n' || c = '\r'

/-- The lines of a text. A carriage return ends a line together with the line feed behind it. -/
def lines : List Char → List (List Char)
  | [] => [[]]
  | '\r' :: '\n' :: rest => [] :: lines rest
  | c :: rest => if isLineBreak c then [] :: lines rest else (lines rest).modifyHead (c :: ·)

/-- The lines of a text if a line feed follows it. -/
def endedLines (text : List Char) : List (List Char) := (lines (text ++ ['\n'])).dropLast

theorem lines_cons {c : Char} {rest : List Char} (h : ∀ more, c = '\r' → rest ≠ '\n' :: more) :
    lines (c :: rest) = if isLineBreak c then [] :: lines rest else (lines rest).modifyHead (c :: ·) := by
  rw [lines]
  exact h

theorem lines_cons_of_not_break {c : Char} (hc : isLineBreak c = false) (rest : List Char) :
    lines (c :: rest) = (lines rest).modifyHead (c :: ·) := by
  have hplain : ∀ more, c = '\r' → rest ≠ '\n' :: more := by
    rintro more rfl
    cases hc
  rw [lines_cons hplain, hc, if_neg Bool.false_ne_true]

/-- The lines before a line feed do not depend on what stands behind it. -/
theorem exists_ended (text : List Char) :
    ∃ ended, ended ≠ [] ∧ ∀ rest, lines (text ++ '\n' :: rest) = ended ++ lines rest := by
  fun_induction lines text with
  | case1 => exact ⟨[[]], List.cons_ne_nil _ _, fun rest => lines_cons nofun⟩
  | case2 text ih =>
    obtain ⟨ended, -, hended⟩ := ih
    exact ⟨[] :: ended, List.cons_ne_nil _ _, fun rest => congrArg ([] :: ·) (hended rest)⟩
  | case3 c text hcrlf hbreak ih =>
    by_cases hreturn : c = '\r' ∧ text = []
    · obtain ⟨rfl, rfl⟩ := hreturn
      exact ⟨[[]], List.cons_ne_nil _ _, fun rest => rfl⟩
    · obtain ⟨ended, -, hended⟩ := ih
      refine ⟨[] :: ended, List.cons_ne_nil _ _, fun rest => ?_⟩
      have hplain : ∀ more, c = '\r' → text ++ '\n' :: rest ≠ '\n' :: more := by
        intro more hc heq
        cases text with
        | nil => exact hreturn ⟨hc, rfl⟩
        | cons d text => exact hcrlf text hc (by rw [(List.cons.inj heq).1])
      rw [List.cons_append, lines_cons hplain, if_pos hbreak, hended, List.cons_append]
  | case4 c text hcrlf hbreak ih =>
    obtain ⟨ended, hne, hended⟩ := ih
    obtain ⟨line, others, rfl⟩ := List.exists_cons_of_ne_nil hne
    refine ⟨(c :: line) :: others, List.cons_ne_nil _ _, fun rest => ?_⟩
    rw [List.cons_append, lines_cons_of_not_break (Bool.eq_false_of_not_eq_true hbreak), hended, List.cons_append,
      List.modifyHead_cons, List.cons_append]

theorem lines_append_newline (text rest : List Char) :
    lines (text ++ '\n' :: rest) = endedLines text ++ lines rest := by
  obtain ⟨ended, -, hended⟩ := exists_ended text
  have hlines : endedLines text = ended := by
    rw [endedLines, hended, lines, List.dropLast_concat]
  rw [hended, hlines]

/-- No line ends in the text. -/
def OneLine (text : List Char) : Prop := ∀ c ∈ text, isLineBreak c = false

/-- Tests whether a text has no end of a line. -/
instance : DecidablePred OneLine := fun text =>
  decidable_of_iff ((text.all fun c => !isLineBreak c) = true) (by simp [OneLine])

theorem OneLine.cons {c : Char} {text : List Char} (hc : isLineBreak c = false) (h : OneLine text) :
    OneLine (c :: text) := List.forall_mem_cons.2 ⟨hc, h⟩

theorem OneLine.append {u v : List Char} (hu : OneLine u) (hv : OneLine v) : OneLine (u ++ v) :=
  List.forall_mem_append.2 ⟨hu, hv⟩

theorem endedLines_of_oneLine {text : List Char} (h : OneLine text) : endedLines text = [text] := by
  have hlines : lines (text ++ ['\n']) = [text, []] := by
    induction text with
    | nil => rfl
    | cons c text ih =>
      obtain ⟨hc, htext⟩ := List.forall_mem_cons.1 h
      rw [List.cons_append, lines_cons_of_not_break hc, ih htext, List.modifyHead_cons]
  rw [endedLines, hlines]
  rfl

/-! ## Blocks -/

/-- The line closes a block whose fence is three backticks: at most three spaces, at least three backticks, and then
only blanks. -/
def ClosesFence (line : List Char) : Prop :=
  ∃ i n blanks, i ≤ 3 ∧ 3 ≤ n ∧ (∀ c ∈ blanks, c = ' ' ∨ c = '\t') ∧
    line = List.replicate i ' ' ++ List.replicate n '`' ++ blanks

/-- The same as a test. -/
def closesFence (line : List Char) : Bool :=
  let mark := line.dropWhile (· = ' ')
  (line.takeWhile (· = ' ')).length ≤ 3 && 3 ≤ (mark.takeWhile (· = '`')).length &&
    (mark.dropWhile (· = '`')).all fun c => c = ' ' || c = '\t'

/-- A run of one character ends in front of any other one. -/
theorem run_replicate {c : Char} {rest : List Char} (h : ∀ d ∈ rest.head?, d ≠ c) (n : Nat) :
    (List.replicate n c ++ rest).takeWhile (· = c) = List.replicate n c ∧
      (List.replicate n c ++ rest).dropWhile (· = c) = rest := by
  have hrun : ∀ d ∈ List.replicate n c, decide (d = c) = true :=
    fun d hd => decide_eq_true (List.eq_of_mem_replicate hd)
  rw [List.takeWhile_append_of_pos hrun, List.dropWhile_append_of_pos hrun]
  cases rest with
  | nil => exact ⟨List.append_nil _, rfl⟩
  | cons d rest =>
    have hd : decide (d = c) = false := decide_eq_false (h d rfl)
    rw [List.takeWhile_cons, List.dropWhile_cons, hd]
    exact ⟨List.append_nil _, rfl⟩

theorem closesFence_iff {line : List Char} : closesFence line = true ↔ ClosesFence line := by
  have hrun : ∀ (c : Char) (text : List Char),
      List.replicate (text.takeWhile (· = c)).length c = text.takeWhile (· = c) := by
    intro c text
    have hall : ∀ d ∈ text.takeWhile (· = c), d = c :=
      fun d hd => of_decide_eq_true (List.mem_takeWhile_imp (p := (· = c)) hd)
    exact (List.eq_replicate_of_mem hall).symm
  constructor
  · intro h
    obtain ⟨h, hblanks⟩ := Bool.and_eq_true_iff.1 h
    obtain ⟨hspaces, hmark⟩ := Bool.and_eq_true_iff.1 h
    refine ⟨_, _, (line.dropWhile (· = ' ')).dropWhile (· = '`'), of_decide_eq_true hspaces, of_decide_eq_true hmark,
      fun c hc => ?_, ?_⟩
    · exact (Bool.or_eq_true_iff.1 (List.all_eq_true.1 hblanks c hc)).imp of_decide_eq_true of_decide_eq_true
    · rw [hrun, hrun, List.append_assoc, List.takeWhile_append_dropWhile, List.takeWhile_append_dropWhile]
  · rintro ⟨i, n, blanks, hi, hn, hblanks, rfl⟩
    obtain ⟨m, rfl⟩ : ∃ m, n = m + 1 := ⟨n - 1, by omega⟩
    have hblank : ∀ c ∈ blanks.head?, c ≠ '`' := by
      intro c hc
      rcases hblanks c (List.mem_of_mem_head? hc) with rfl | rfl <;> decide
    have hbacktick : ∀ c ∈ (List.replicate (m + 1) '`' ++ blanks).head?, c ≠ ' ' := by
      intro c hc
      obtain rfl := Option.some.inj hc
      decide
    have hspaces := run_replicate hbacktick i
    have hmark := run_replicate hblank (m + 1)
    rw [closesFence, List.append_assoc, hspaces.1, hspaces.2, hmark.1, hmark.2, List.length_replicate,
      List.length_replicate, decide_eq_true hi, decide_eq_true hn]
    simpa using hblanks

/-- Tests whether a line closes the block. -/
instance : DecidablePred ClosesFence := fun _ => decidable_of_iff _ closesFence_iff

/-- The lines that a block shows if the lines stand behind its fence. -/
def block (below : List (List Char)) : List (List Char) := below.takeWhile fun line => !decide (ClosesFence line)

/-- The lines behind the block. -/
def behind (below : List (List Char)) : List (List Char) :=
  (below.dropWhile fun line => !decide (ClosesFence line)).drop 1

/-- A block ends at the first line that closes it. -/
theorem block_of_closes {inside outside : List (List Char)} {mark : List Char}
    (hinside : ∀ line ∈ inside, ¬ ClosesFence line) (hmark : ClosesFence mark) :
    block (inside ++ mark :: outside) = inside ∧ behind (inside ++ mark :: outside) = outside := by
  have hopen : ∀ line ∈ inside, (!decide (ClosesFence line)) = true := by simpa using hinside
  rw [block, behind, List.takeWhile_append_of_pos hopen, List.dropWhile_append_of_pos hopen, List.takeWhile_cons,
    List.dropWhile_cons, decide_eq_true hmark]
  exact ⟨List.append_nil inside, rfl⟩

end Text

namespace Command

open Text

theorem isLineBreak_of_isWordChar {c : Char} (h : isWordChar c = true) : isLineBreak c = false := by
  refine Bool.eq_false_iff.2 fun hbreak => ?_
  rcases Bool.or_eq_true_iff.1 hbreak with hc | hc <;> rw [of_decide_eq_true hc] at h <;> cases h

theorem Tail.oneLine {u : List Char} (h : Tail u) : OneLine u := by
  induction h with
  | nil => exact nofun
  | char hc _ ih => exact ih.cons (isLineBreak_of_isWordChar hc)
  | hyphen hc _ ih => exact (ih.cons (isLineBreak_of_isWordChar hc)).cons rfl

/-- Tokens of commands stand in one line. -/
theorem oneLine_token (text : String) : OneLine (classify text).token.toList := by
  cases htoken : slashToken? text.toList with
  | none =>
    rw [classify_of_no_token htoken]
    decide
  | some token =>
    obtain ⟨hmem, -⟩ := slashToken?_eq_some_iff.1 htoken
    obtain ⟨c, u, rfl, hc, hu⟩ := mem_language_iff.1 hmem
    rw [classify_of_token htoken, token_ofToken, String.toList_ofList]
    exact (hu.oneLine.cons (isLineBreak_of_isWordChar hc)).cons rfl

end Command

namespace Comment

open Text Command

/-- The fence of an acknowledgement. -/
def fence : List Char := "```".toList

/-- The line that names the command. -/
def foundLine (command : Command) : List Char :=
  "Found the slash command: `".toList ++ command.token.toList ++ "`".toList

/-- The lines below the fence of an acknowledgement. -/
def belowFence (body : String) : List (List Char) :=
  endedLines body.toList ++ [fence, foundLine (classify body), []]

theorem lines_acknowledgement (preamble author body : String) (hauthor : OneLine author.toList) :
    lines (acknowledgement preamble author body (classify body)).toList =
      endedLines preamble.toList ++ (author.toList ++ " said".toList) :: fence :: belowFence body := by
  have htext : (acknowledgement preamble author body (classify body)).toList =
      preamble.toList ++ '\n' :: (author.toList ++ " said".toList ++ '\n' :: (fence ++ '\n' ::
        (body.toList ++ '\n' :: (fence ++ '\n' :: (foundLine (classify body) ++ '\n' :: []))))) := by
    have hnewline : "\n".toList = ['\n'] := rfl
    have hopening : " said\n```\n".toList = " said".toList ++ '\n' :: (fence ++ ['\n']) := rfl
    have hclosing : "\n```\nFound the slash command: `".toList =
        '\n' :: (fence ++ '\n' :: "Found the slash command: `".toList) := rfl
    have hend : "`\n".toList = "`".toList ++ ['\n'] := rfl
    unfold acknowledgement foundLine
    simp only [String.toList_append, hnewline, hopening, hclosing, hend, List.append_assoc, List.cons_append,
      List.nil_append]
  have hsaid : OneLine (author.toList ++ " said".toList) := hauthor.append (by decide)
  have hfence : OneLine fence := by decide
  have hfound : OneLine (foundLine (classify body)) := by
    have hfront : OneLine "Found the slash command: `".toList := by decide
    exact (hfront.append (oneLine_token body)).append (by decide)
  rw [htext, lines_append_newline, lines_append_newline, lines_append_newline, lines_append_newline,
    lines_append_newline, lines_append_newline, endedLines_of_oneLine hsaid, endedLines_of_oneLine hfence,
    endedLines_of_oneLine hfound]
  rfl

/-- **A comment is shown as it is unless a line of it closes its block.** Such a line is a fence of its own, of three
or more backticks. The first one ends the block, and the rest of the comment stands behind it. -/
theorem body_shown_iff (preamble author body : String) (hauthor : OneLine author.toList) :
    lines (acknowledgement preamble author body (classify body)).toList =
        endedLines preamble.toList ++ (author.toList ++ " said".toList) :: fence :: belowFence body ∧
      (block (belowFence body) = endedLines body.toList ∧ behind (belowFence body) = [foundLine (classify body), []] ↔
        ∀ line ∈ endedLines body.toList, ¬ ClosesFence line) ∧
      ∀ inside mark outside, endedLines body.toList = inside ++ mark :: outside →
        (∀ line ∈ inside, ¬ ClosesFence line) → ClosesFence mark →
          block (belowFence body) = inside ∧
            behind (belowFence body) = outside ++ [fence, foundLine (classify body), []] := by
  have hfence : ClosesFence fence := ⟨0, 3, [], by decide, by decide, nofun, rfl⟩
  refine ⟨lines_acknowledgement preamble author body hauthor, ⟨fun h => ?_, fun h => ?_⟩, ?_⟩
  · rw [← h.1]
    intro line hline
    simpa using List.mem_takeWhile_imp hline
  · exact block_of_closes h hfence
  · intro inside mark outside hsplit hinside hmark
    rw [belowFence, hsplit, List.append_assoc]
    exact block_of_closes hinside hmark

/-- A fence that opens a block, one that is indented too far and one that is too short close nothing. -/
theorem fenced_body_shown :
    OneLine "ann".toList ∧
      block (belowFence "```rust\r\n    ```\n`` `") = endedLines "```rust\r\n    ```\n`` `".toList := by
  refine ⟨by decide, ((body_shown_iff "Hi there!" "ann" "```rust\r\n    ```\n`` `" (by decide)).2.1.2 ?_).1⟩
  decide

/-- A comment may close its block with its first line. What follows is then shown as any other text. -/
theorem body_closes_block :
    ¬ ∀ preamble author body : String, OneLine author.toList →
      ∀ below, lines (acknowledgement preamble author body (classify body)).toList =
          endedLines preamble.toList ++ (author.toList ++ " said".toList) :: fence :: below →
        block below = endedLines body.toList ∧ behind below = [foundLine (classify body), []] := by
  intro h
  have hauthor : OneLine "ann".toList := by decide
  have hblock := (h _ _ _ hauthor _ (lines_acknowledgement "Hi there!" "ann" "```\n@everyone" hauthor)).1
  revert hblock
  decide

end Comment

end CommentBot
