import CommentBot.Proofs.Text.Pattern
import CommentBot.Workflow.Basic

/-!
# Slash tokens

1. `tokenPattern` describes slash tokens: a slash, a word, and further words behind hyphens. `Tail` says the same of
   what stands behind the first two characters, one character after the other (`mem_language_iff`).
2. `slashToken?_eq_some_iff`: the token of a text is a token behind which the text cannot go on with it (`EndsToken`).
3. `head?_rests_tokenPattern`: it is what a greedy search for the pattern finds.
4. `token_is_longest`: so it is the longest prefix that the pattern describes, and it alone decides about commands and
   workflows.
-/

namespace CommentBot

open Text Computability

namespace Command

/-! ## The pattern -/

/-- A word. -/
def word : Pattern := .plus (.one isWordChar)

/-- A further word, behind a hyphen. -/
def furtherWord : Pattern := .seq (.one (· = '-')) word

/-- A slash, a word, and any number of further words. -/
def tokenPattern : Pattern := .seq (.one (· = '/')) (.seq word (.star furtherWord))

/-- The rest of a token behind a character of a word. A hyphen always has a character of a word behind it. -/
inductive Tail : List Char → Prop
  | nil : Tail []
  | char {c rest} (hc : isWordChar c = true) (h : Tail rest) : Tail (c :: rest)
  | hyphen {c rest} (hc : isWordChar c = true) (h : Tail rest) : Tail ('-' :: c :: rest)

/-- No token goes on with this text: it begins neither with a character of a word nor with a hyphen that has one
behind it. -/
def EndsToken (text : List Char) : Prop :=
  (∀ c rest, text = c :: rest → isWordChar c = false) ∧
    ∀ c rest, text = '-' :: c :: rest → isWordChar c = false

theorem mem_word_iff {w : List Char} : w ∈ word.language ↔
    ∃ c rest, w = c :: rest ∧ isWordChar c = true ∧ ∀ d ∈ rest, isWordChar d = true := by
  have hstar : ∀ {rest : List Char}, rest ∈ (Pattern.star (.one isWordChar)).language ↔
      ∀ d ∈ rest, isWordChar d = true := by
    intro rest
    constructor
    · rintro ⟨words, rfl, hwords⟩ d hd
      obtain ⟨w, hw, hd⟩ := List.mem_flatten.1 hd
      obtain ⟨c, hc, rfl⟩ := hwords w hw
      rwa [List.mem_singleton.1 hd]
    · intro h
      refine ⟨rest.map fun d => [d], (List.flatMap_singleton' rest).symm, fun w hw => ?_⟩
      obtain ⟨d, hd, rfl⟩ := List.mem_map.1 hw
      exact ⟨d, h d hd, rfl⟩
  rw [word, Pattern.plus, Pattern.language, Language.mem_mul]
  constructor
  · rintro ⟨v, ⟨c, hc, rfl⟩, rest, hrest, rfl⟩
    exact ⟨c, rest, rfl, hc, hstar.1 hrest⟩
  · rintro ⟨c, rest, rfl, hc, hrest⟩
    exact ⟨[c], ⟨c, hc, rfl⟩, rest, hstar.2 hrest, rfl⟩

theorem Tail.append {u v : List Char} (hu : Tail u) (hv : Tail v) : Tail (u ++ v) := by
  induction hu with
  | nil => exact hv
  | char hc _ ih => exact .char hc ih
  | hyphen hc _ ih => exact .hyphen hc ih

theorem Tail.of_word {u : List Char} (h : ∀ c ∈ u, isWordChar c = true) : Tail u := by
  induction u with
  | nil => exact .nil
  | cons c u ih => exact .char (h c List.mem_cons_self) (ih fun d hd => h d (List.mem_cons_of_mem c hd))

theorem Tail.of_furtherWords {u : List Char} (h : u ∈ (Pattern.star furtherWord).language) : Tail u := by
  obtain ⟨words, rfl, hwords⟩ := h
  induction words with
  | nil => exact .nil
  | cons w words ih =>
    obtain ⟨v, ⟨c, hc, rfl⟩, w', hword, rfl⟩ := Language.mem_mul.1 (hwords w List.mem_cons_self)
    obtain ⟨d, rest, rfl, hd, hrest⟩ := mem_word_iff.1 hword
    obtain rfl := of_decide_eq_true hc
    rw [List.flatten_cons]
    exact (Tail.hyphen hd (.of_word hrest)).append (ih fun w hw => hwords w (List.mem_cons_of_mem _ hw))

/-- A tail finishes one word and goes on with further ones. -/
theorem Tail.split {u : List Char} (h : Tail u) :
    ∃ rest more, u = rest ++ more ∧ (∀ d ∈ rest, isWordChar d = true) ∧ more ∈ (Pattern.star furtherWord).language := by
  induction h with
  | nil => exact ⟨[], [], rfl, nofun, Language.nil_mem_kstar _⟩
  | @char c _ hc _ ih =>
    obtain ⟨rest, more, rfl, hrest, hmore⟩ := ih
    exact ⟨c :: rest, more, rfl, List.forall_mem_cons.2 ⟨hc, hrest⟩, hmore⟩
  | @hyphen c _ hc _ ih =>
    obtain ⟨rest, more, rfl, hrest, hmore⟩ := ih
    have hword : '-' :: c :: rest ∈ furtherWord.language :=
      Language.append_mem_mul (a := ['-']) ⟨'-', rfl, rfl⟩ (mem_word_iff.2 ⟨c, rest, rfl, hc, hrest⟩)
    refine ⟨[], '-' :: c :: rest ++ more, rfl, nofun, ?_⟩
    rw [Pattern.language, ← Language.one_add_self_mul_kstar_eq_kstar]
    exact .inr (Language.append_mem_mul hword hmore)

/-- The words of the pattern. -/
theorem mem_language_iff {w : List Char} :
    w ∈ tokenPattern.language ↔ ∃ c u, w = '/' :: c :: u ∧ isWordChar c = true ∧ Tail u := by
  rw [tokenPattern, Pattern.language, Language.mem_mul]
  constructor
  · rintro ⟨v, ⟨s, hs, rfl⟩, w, hw, rfl⟩
    obtain rfl := of_decide_eq_true hs
    obtain ⟨first, hfirst, more, hmore, rfl⟩ := Language.mem_mul.1 hw
    obtain ⟨c, rest, rfl, hc, hrest⟩ := mem_word_iff.1 hfirst
    exact ⟨c, rest ++ more, rfl, hc, (Tail.of_word hrest).append (.of_furtherWords hmore)⟩
  · rintro ⟨c, u, rfl, hc, hu⟩
    obtain ⟨rest, more, rfl, hrest, hmore⟩ := hu.split
    refine ⟨['/'], ⟨'/', rfl, rfl⟩, c :: (rest ++ more), ?_, rfl⟩
    exact Language.append_mem_mul (a := c :: rest) (mem_word_iff.2 ⟨c, rest, rfl, hc, hrest⟩) hmore

/-! ## The token of a text -/

theorem tokenTail_of_word {c : Char} (hc : isWordChar c = true) (rest : List Char) :
    tokenTail (c :: rest) = c :: tokenTail rest := by
  cases rest with
  | nil => rw [tokenTail.eq_2, if_pos hc]; rfl
  | cons d rest => rw [tokenTail.eq_3, if_pos hc]

theorem tokenTail_of_hyphen {c : Char} (hc : isWordChar c = true) (rest : List Char) :
    tokenTail ('-' :: c :: rest) = '-' :: c :: tokenTail rest := by
  rw [tokenTail, if_neg (by decide), hc]
  rfl

theorem tokenTail_of_ends {text : List Char} (h : EndsToken text) : tokenTail text = [] := by
  cases text with
  | nil => rfl
  | cons c rest =>
    have hc : isWordChar c = false := h.1 c rest rfl
    cases rest with
    | nil => rw [tokenTail, hc]; rfl
    | cons d rest =>
      rw [tokenTail, hc, if_neg Bool.false_ne_true]
      refine if_neg fun hd => ?_
      obtain ⟨hhyphen, hword⟩ := Bool.and_eq_true_iff.1 hd
      obtain rfl := of_decide_eq_true hhyphen
      rw [h.2 d rest rfl] at hword
      cases hword

theorem tokenTail_append {u : List Char} (h : Tail u) (rest : List Char) :
    tokenTail (u ++ rest) = u ++ tokenTail rest := by
  induction h with
  | nil => rfl
  | char hc _ ih => rw [List.cons_append, tokenTail_of_word hc, ih, List.cons_append]
  | hyphen hc _ ih =>
    rw [List.cons_append, List.cons_append, tokenTail_of_hyphen hc, ih, List.cons_append, List.cons_append]

/-- A text is a tail and what ends it. -/
theorem tokenTail_spec (text : List Char) :
    Tail (tokenTail text) ∧ ∃ rest, EndsToken rest ∧ text = tokenTail text ++ rest := by
  fun_induction tokenTail text with
  | case1 => exact ⟨.nil, [], ⟨nofun, nofun⟩, rfl⟩
  | case2 c hc => exact ⟨.char hc .nil, [], ⟨nofun, nofun⟩, rfl⟩
  | case3 c hc =>
    refine ⟨.nil, [c], ⟨fun d rest h => ?_, nofun⟩, rfl⟩
    rw [← (List.cons.inj h).1]
    exact Bool.eq_false_of_not_eq_true hc
  | case4 c d rest hc ih =>
    obtain ⟨htail, rest', hends, heq⟩ := ih
    exact ⟨.char hc htail, rest', hends, congrArg (c :: ·) heq⟩
  | case5 c d rest hc hd ih =>
    obtain ⟨htail, rest', hends, heq⟩ := ih
    obtain ⟨hhyphen, hword⟩ := Bool.and_eq_true_iff.1 hd
    obtain rfl := of_decide_eq_true hhyphen
    exact ⟨.hyphen hword htail, rest', hends, congrArg ('-' :: d :: ·) heq⟩
  | case6 c d rest hc hd =>
    refine ⟨.nil, c :: d :: rest, ⟨fun e more h => ?_, fun e more h => ?_⟩, rfl⟩
    · rw [← (List.cons.inj h).1]
      exact Bool.eq_false_of_not_eq_true hc
    · obtain ⟨rfl, hrest⟩ := List.cons.inj h
      obtain rfl := (List.cons.inj hrest).1
      exact Bool.eq_false_of_not_eq_true fun hword => hd (by rw [hword]; rfl)

theorem slashToken?_append {token rest : List Char} (ht : token ∈ tokenPattern.language) :
    slashToken? (token ++ rest) = some (token ++ tokenTail rest) := by
  obtain ⟨c, u, rfl, hc, hu⟩ := mem_language_iff.1 ht
  rw [List.cons_append, List.cons_append, slashToken?, if_pos hc, tokenTail_append hu, List.cons_append,
    List.cons_append]

/-- The token of a text is a token that the text does not go on with. -/
theorem slashToken?_eq_some_iff {text token : List Char} : slashToken? text = some token ↔
    token ∈ tokenPattern.language ∧ ∃ rest, EndsToken rest ∧ text = token ++ rest := by
  constructor
  · intro h
    unfold slashToken? at h
    split at h
    · next c text =>
      split at h
      · next hc =>
        obtain rfl := Option.some.inj h
        obtain ⟨htail, rest, hends, heq⟩ := tokenTail_spec text
        exact ⟨mem_language_iff.2 ⟨c, _, rfl, hc, htail⟩, rest, hends, congrArg ('/' :: c :: ·) heq⟩
      · cases h
    · cases h
  · rintro ⟨htoken, rest, hends, rfl⟩
    rw [slashToken?_append htoken, tokenTail_of_ends hends, List.append_nil]

/-- A text has no token exactly if no token begins it. -/
theorem slashToken?_eq_none_iff {text : List Char} :
    slashToken? text = none ↔ ¬ ∃ c rest, text = '/' :: c :: rest ∧ isWordChar c = true := by
  constructor
  · rintro h ⟨c, rest, rfl, hc⟩
    rw [slashToken?, if_pos hc] at h
    cases h
  · intro h
    unfold slashToken?
    split
    · next c rest => exact if_neg fun hc => h ⟨c, rest, rfl, hc⟩
    · rfl

/-! ## The search for the pattern -/

theorem head?_rests_furtherWord_of_ends {text : List Char} (h : EndsToken text) :
    (furtherWord.rests text).head? = none := by
  cases text with
  | nil => rfl
  | cons c text =>
    rw [furtherWord, Pattern.head?_rests_seq_one_cons]
    split
    · next hc =>
      obtain rfl := of_decide_eq_true hc
      cases text with
      | nil => rfl
      | cons d text =>
        rw [word, Pattern.head?_rests_plus_one_cons, h.2 d text rfl]
        rfl
    · rfl

theorem head?_rests_furtherWord {c : Char} (hc : isWordChar c = true) (text : List Char) :
    (furtherWord.rests ('-' :: c :: text)).head? = some (text.dropWhile isWordChar) := by
  rw [furtherWord, Pattern.head?_rests_seq_one_cons, if_pos (decide_eq_true rfl), word,
    Pattern.head?_rests_plus_one_cons, if_pos hc]

/-- Behind the first word the search takes all further words of a tail and stops where the tail ends. -/
theorem head?_rests_furtherWords {u rest : List Char} (hu : Tail u) (hrest : EndsToken rest) :
    ((Pattern.star furtherWord).rests ((u ++ rest).dropWhile isWordChar)).head? = some rest := by
  have hne : [] ∉ furtherWord.language := by
    rintro ⟨v, ⟨c, -, rfl⟩, w, -, h⟩
    cases h
  induction hu with
  | nil =>
    have hstop : rest.dropWhile isWordChar = rest := by
      cases rest with
      | nil => rfl
      | cons c rest => exact List.dropWhile_cons_of_neg (Bool.eq_false_iff.1 (hrest.1 c rest rfl))
    rw [List.nil_append, hstop, Pattern.head?_rests_star hne, head?_rests_furtherWord_of_ends hrest]
  | char hc _ ih =>
    rw [List.cons_append, List.dropWhile_cons_of_pos hc]
    exact ih
  | @hyphen c u hc _ ih =>
    rw [List.cons_append, List.cons_append, List.dropWhile_cons_of_neg (by decide), Pattern.head?_rests_star hne,
      head?_rests_furtherWord hc]
    exact ih

/-- A greedy search for the pattern finds the token of the text. -/
theorem head?_rests_tokenPattern (text : List Char) :
    (tokenPattern.rests text).head? = (slashToken? text).map fun token => text.drop token.length := by
  cases h : slashToken? text with
  | none =>
    rw [Option.map_none, List.head?_eq_none_iff, List.eq_nil_iff_forall_not_mem]
    intro rest hrest
    obtain ⟨token, htoken, rfl⟩ := Pattern.mem_rests_iff.1 hrest
    rw [slashToken?_append htoken] at h
    cases h
  | some token =>
    obtain ⟨htoken, rest, hrest, rfl⟩ := slashToken?_eq_some_iff.1 h
    rw [Option.map_some, List.drop_left]
    obtain ⟨c, u, rfl, hc, hu⟩ := mem_language_iff.1 htoken
    rw [List.cons_append, List.cons_append, tokenPattern, Pattern.head?_rests_seq_one_cons,
      if_pos (decide_eq_true rfl), Pattern.head?_rests_seq (Pattern.rests_star_ne_nil _), word,
      Pattern.head?_rests_plus_one_cons, if_pos hc]
    exact head?_rests_furtherWords hu hrest

/-! ## The longest prefix -/

/-- Among the prefixes of a text in a language this is the longest one. -/
def IsLongestPrefix (l : Language Char) (text w : List Char) : Prop :=
  w ∈ l ∧ w <+: text ∧ ∀ v ∈ l, v <+: text → v.length ≤ w.length

theorem slashToken?_eq_some_iff_longest {text token : List Char} :
    slashToken? text = some token ↔ IsLongestPrefix tokenPattern.language text token := by
  constructor
  · intro h
    obtain ⟨htoken, rest, -, rfl⟩ := slashToken?_eq_some_iff.1 h
    refine ⟨htoken, List.prefix_append token rest, ?_⟩
    rintro v hv ⟨more, hmore⟩
    rw [← hmore, slashToken?_append hv] at h
    rw [← Option.some.inj h, List.length_append]
    exact Nat.le_add_right _ _
  · rintro ⟨htoken, ⟨rest, rfl⟩, hlongest⟩
    have hfound : slashToken? (token ++ rest) = some (token ++ tokenTail rest) := slashToken?_append htoken
    obtain ⟨hlonger, more, -, hmore⟩ := slashToken?_eq_some_iff.1 hfound
    have hlength := hlongest _ hlonger ⟨more, hmore.symm⟩
    rw [List.length_append] at hlength
    have hnil : tokenTail rest = [] := List.eq_nil_of_length_eq_zero (by omega)
    rw [hfound, hnil, List.append_nil]

theorem slashToken?_eq_none_iff_no_prefix {text : List Char} :
    slashToken? text = none ↔ ∀ v ∈ tokenPattern.language, ¬ v <+: text := by
  constructor
  · rintro h v hv ⟨rest, rfl⟩
    rw [slashToken?_append hv] at h
    cases h
  · intro h
    cases htoken : slashToken? text with
    | none => rfl
    | some token =>
      obtain ⟨hmem, hprefix, -⟩ := slashToken?_eq_some_iff_longest.1 htoken
      exact absurd hprefix (h token hmem)

/-- A token is its own token. -/
theorem slashToken?_self {token : List Char} (h : token ∈ tokenPattern.language) : slashToken? token = some token :=
  slashToken?_eq_some_iff.2 ⟨h, [], ⟨nofun, nofun⟩, (List.append_nil token).symm⟩

/-! ## Commands -/

theorem classify_of_token {text : String} {token : List Char} (h : slashToken? text.toList = some token) :
    classify text = ofToken (String.ofList token) := by
  rw [classify, h]

theorem classify_of_no_token {text : String} (h : slashToken? text.toList = none) : classify text = absent := by
  rw [classify, h]

theorem ofToken_ne_absent (token : String) : ofToken token ≠ absent := by
  unfold ofToken
  split_ifs <;> exact nofun

theorem classify_eq_absent_iff {text : String} : classify text = absent ↔ slashToken? text.toList = none := by
  constructor
  · intro h
    cases htoken : slashToken? text.toList with
    | none => rfl
    | some token => exact absurd (classify_of_token htoken ▸ h) (ofToken_ne_absent _)
  · exact classify_of_no_token

end Command

namespace Workflow

open Command

/-- The token that asks for a workflow. -/
def trigger : Workflow → String
  | createBranch => "/create-branch"
  | openPullRequest => "/create-pr"
  | createBranchAndOpenPullRequest => "/testpr"

theorem ofCommand?_ofToken_iff {w : Workflow} {token : String} :
    ofCommand? (ofToken token) = some w ↔ token = w.trigger := by
  unfold ofToken
  split_ifs with hbranch hpr htest
  · subst hbranch
    cases w <;> decide
  · subst hpr
    cases w <;> decide
  · subst htest
    cases w <;> decide
  · refine iff_of_false nofun fun h => ?_
    cases w
    · exact hbranch h
    · exact hpr h
    · exact htest h

theorem trigger_mem_language (w : Workflow) : w.trigger.toList ∈ tokenPattern.language := by
  have htoken : slashToken? w.trigger.toList = some w.trigger.toList := by
    cases w <;> decide
  exact (slashToken?_eq_some_iff.1 htoken).1

/-- A text asks for a workflow exactly if it begins with the token for it and does not go on with that token. -/
theorem ofCommand?_classify_iff {w : Workflow} {text : String} : ofCommand? (classify text) = some w ↔
    ∃ rest, text.toList = w.trigger.toList ++ rest ∧ EndsToken rest := by
  constructor
  · intro h
    cases htoken : slashToken? text.toList with
    | none =>
      rw [classify_of_no_token htoken] at h
      cases h
    | some token =>
      rw [classify_of_token htoken, ofCommand?_ofToken_iff] at h
      obtain ⟨-, rest, hends, heq⟩ := slashToken?_eq_some_iff.1 htoken
      refine ⟨rest, ?_, hends⟩
      rw [← h, String.toList_ofList]
      exact heq
  · rintro ⟨rest, heq, hends⟩
    have htoken := slashToken?_eq_some_iff.2 ⟨trigger_mem_language w, rest, hends, heq⟩
    rw [classify_of_token htoken, String.ofList_toList, ofCommand?_ofToken_iff]

end Workflow

namespace Command

/-- **The token of a text is its longest one.** The token that is found in a text is the longest prefix that the
pattern describes, and what a greedy search for the pattern finds; there is none exactly if no prefix is described. It
ends between two characters. A text has no command exactly if it does not begin with a slash and a character of a word.
Otherwise its command shows the token as it was written, and the token alone gives the same command. A workflow is asked
for exactly if the text begins with the token for it, and neither with a character of a word behind that nor with a
hyphen and one. -/
theorem token_is_longest (text : String) :
    (∀ token, slashToken? text.toList = some token ↔ IsLongestPrefix tokenPattern.language text.toList token) ∧
    (slashToken? text.toList = none ↔ ∀ v ∈ tokenPattern.language, ¬ v <+: text.toList) ∧
    (tokenPattern.rests text.toList).head? =
        (slashToken? text.toList).map (fun token => text.toList.drop token.length) ∧
    (∀ token ∈ slashToken? text.toList, String.Pos.Raw.IsValid text (String.ofList token).rawEndPos) ∧
    (classify text = absent ↔ ¬ ∃ c rest, text.toList = '/' :: c :: rest ∧ isWordChar c = true) ∧
    (classify text ≠ absent → IsLongestPrefix tokenPattern.language text.toList (classify text).token.toList ∧
      classify (classify text).token = classify text) ∧
    ∀ w, Workflow.ofCommand? (classify text) = some w ↔
      ∃ rest, text.toList = w.trigger.toList ++ rest ∧ EndsToken rest := by
  refine ⟨fun token => slashToken?_eq_some_iff_longest, slashToken?_eq_none_iff_no_prefix,
    head?_rests_tokenPattern text.toList, fun token htoken => ?_, ?_, fun hpresent => ?_,
    fun w => Workflow.ofCommand?_classify_iff⟩
  · obtain ⟨-, rest, -, heq⟩ := slashToken?_eq_some_iff.1 htoken
    refine String.Pos.Raw.isValid_iff_exists_append.2 ⟨String.ofList token, String.ofList rest, ?_, rfl⟩
    rw [← String.ofList_append, ← heq, String.ofList_toList]
  · rw [classify_eq_absent_iff, slashToken?_eq_none_iff]
  · obtain ⟨token, htoken⟩ := Option.ne_none_iff_exists'.1 (mt classify_eq_absent_iff.2 hpresent)
    have hlongest := slashToken?_eq_some_iff_longest.1 htoken
    have hself : slashToken? (String.ofList token).toList = some token := by
      rw [String.toList_ofList]
      exact slashToken?_self hlongest.1
    rw [classify_of_token htoken, token_ofToken, String.toList_ofList]
    exact ⟨hlongest, classify_of_token hself⟩

example : classify "/testpr--x" = testPr ∧ classify "/testpr-x" = unrecognized "/testpr-x" := by decide

end Command

end CommentBot
