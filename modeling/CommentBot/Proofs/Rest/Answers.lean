import CommentBot.Proofs.Json.Restoring
import CommentBot.Proofs.Rest.Gateways
import CommentBot.Proofs.Time.Spelling

/-!
# How answers are read

A client takes a reference, a tree, a commit or a pull request from the body of an answer. The body is any text of a
value with the members that matter: they come in any order, with others among them at every level, ids are in letters
of any size, and dates in any spelling.

1. `refBody_iff` and its neighbours: which values the bodies are read from. An id may still be any string then.
2. `response_iff`: what the ids in a body must spell.
3. `answers_read` puts this together. A client that asked for a commit gets it back if the answer repeats the request
   (`Echoes`), and an answer with a string in place of an id is an error.
-/

namespace CommentBot

open Json Forge Git Fields

namespace Git

/-! ## Ids -/

/-- The text is the id, in letters of any size. -/
def SpellsId (text : String) (id : ObjectId) : Prop := text.toLower = id.text

theorem isHexDigit_of_toLower {c : Char} (h : isLowerHexDigit c.toLower = true) : isHexDigit c = true := by
  by_cases hc : c.toNat < 128
  · revert h
    exact Text.of_forall_ofNat hc (by decide)
  · rw [Char.toLower] at h
    split at h
    · next hletter =>
      have hle := hletter.2
      rw [UInt32.le_iff_toNat_le] at hle
      exact absurd (Nat.lt_of_le_of_lt hle (by decide)) hc
    · rw [isHexDigit, h, Bool.true_or]

/-- An id is read from its spellings. -/
theorem parse_eq_ok_iff {text : String} {id : ObjectId} : ObjectId.parse text = .ok id ↔ SpellsId text id := by
  have hlower : text.toLower = String.ofList (text.toList.map Char.toLower) := by
    rw [← String.toList_map, String.ofList_toList]
    rfl
  obtain ⟨idText, hcanonical⟩ := id
  unfold ObjectId.parse SpellsId
  rw [hlower]
  split
  · simp
  · next hbad =>
    refine iff_of_false (by simp) ?_
    rintro rfl
    simp only [isCanonical, String.toList_ofList, List.length_map, Bool.and_eq_true, decide_eq_true_eq,
      List.all_eq_true, List.mem_map] at hcanonical
    exact hbad ⟨hcanonical.1, List.all_eq_true.2 fun c hc => isHexDigit_of_toLower (hcanonical.2 _ ⟨c, hc, rfl⟩)⟩

end Git

namespace Rest

/-! ## Bodies -/

/-- A record of an id, which may be any string. -/
def IdWritten (text : String) : Node → Prop := Shaped True [⟨"sha", Node.IsString text, False⟩]

/-- A string that spells the instant. -/
def DateWritten (t : Time.Instant) (n : Node) : Prop :=
  ∃ text, n.IsString text ∧ ∃ p : Time.DateParts, p.Denotes t ∧ text.toList ∈ p.language

/-- Who made a commit, and when. -/
def SignatureWritten (s : Signature) : Node → Prop :=
  Shaped True
    [⟨"name", Node.IsString s.name, False⟩, ⟨"email", Node.IsString s.email, False⟩,
      ⟨"date", DateWritten s.date, False⟩]

/-- The value of a part that is a string, or null. -/
def OptionWritten (o : Option String) (n : Node) : Prop := n.IsNull ∧ o = none ∨ ∃ text, o = some text ∧ n.IsString text

/-- A reference. -/
def RefBody.Written (b : RefBody) : Node → Prop :=
  Shaped True [⟨"ref", Node.IsString b.name, False⟩, ⟨"object", IdWritten b.target, False⟩]

/-- A commit. -/
def CommitBody.Written (b : CommitBody) : Node → Prop :=
  Shaped True
    [⟨"sha", Node.IsString b.id, False⟩,
      ⟨"message", Node.IsString b.message, False⟩,
      ⟨"author", SignatureWritten b.author, False⟩,
      ⟨"tree", IdWritten b.tree, False⟩,
      ⟨"parents", fun n => ∃ ns, n = .array ns none ∧ List.Forall₂ IdWritten b.parents ns, False⟩]

/-- A pull request. -/
def PullRequestBody.Written (b : PullRequestBody) : Node → Prop :=
  Shaped True
    [⟨"number", Node.IsNatural b.number.toNat, False⟩, ⟨"title", OptionWritten b.title, b.title = none⟩,
      ⟨"html_url", OptionWritten b.url, b.url = none⟩]

/-- The value is what the body of an answer to the effect is read from. -/
def BodyWritten : (e : Effect) → (reading e).α → Node → Prop
  | .getRef _ => RefBody.Written
  | .createRef .. => RefBody.Written
  | .updateRef .. => RefBody.Written
  | .createTree .. => IdWritten
  | .getCommit _ => CommitBody.Written
  | .createCommit .. => CommitBody.Written
  | .createPullRequest _ => PullRequestBody.Written
  | .postComment .. => fun _ _ => False

section Records

variable {depth : Nat} {n : Node}

/-- The part of a field that is a string. -/
theorem covers_string (ctx : Context) {name text : String} :
    Part.Covers ⟨name, Node.IsString text, False⟩ (readings name .string none ctx (· = text)) :=
  covers_required fun n _ => by simp [string_eq_ok_iff]

/-- The part of a field that is a string, or null or missing. -/
theorem covers_optionalString (ctx : Context) {name : String} {o : Option String} :
    Part.Covers ⟨name, OptionWritten o, o = none⟩
      (readings name (.option .string) (some none) ctx (· = o)) := by
  refine covers_optional (fun n _ => or_congr (and_congr_right fun _ => eq_comm) ?_) eq_comm
  simp only [string_eq_ok_iff]
  constructor
  · rintro ⟨text, rfl, htext⟩
    refine ⟨?_, text, rfl, htext⟩
    obtain ⟨s, rfl, -⟩ := htext
    nofun
  · rintro ⟨-, text, rfl, htext⟩
    exact ⟨text, rfl, htext⟩

theorem anyId_iff {wanted text : String} (hn : n.Whole) :
    anyId wanted ⟨depth + 1, .text⟩ n = .ok text ↔ IdWritten text n := by
  have hmeans := (Means.field "sha" .string none ⟨depth, .text⟩).map id
  exact record_iff_shaped hmeans (fun ps => by simp [Choice, readings, List.forall₂_cons_left_iff])
    (.cons (covers_string ⟨depth, .text⟩) .nil) hn

/-- The part of a field that is a record of an id. -/
theorem covers_anyId (depth : Nat) (wanted : String) {name text : String} :
    Part.Covers ⟨name, IdWritten text, False⟩ (readings name (anyId wanted) none ⟨depth + 1, .text⟩ (· = text)) :=
  covers_required fun n hn => by simp [anyId_iff hn]

theorem refBody_iff {b : RefBody} (hn : n.Whole) : RefBody.decode ⟨depth + 2, .text⟩ n = .ok b ↔ b.Written n := by
  have hmeans := ((Means.field "ref" .string none ⟨depth + 1, .text⟩).map RefBody.mk).seq
    (Means.field "object" (anyId "struct RefObject") none ⟨depth + 1, .text⟩) (by decide)
  obtain ⟨name, target⟩ := b
  exact record_iff_shaped hmeans (fun ps => by simp [Choice, readings, List.forall₂_cons_left_iff])
    (.cons (covers_string ⟨depth + 1, .text⟩) (.cons (covers_anyId depth "struct RefObject") .nil)) hn

theorem date_iff {ctx : Context} {t : Time.Instant} : Time.Instant.decode ctx n = .ok t ↔ DateWritten t n := by
  unfold DateWritten
  simp only [← Time.Instant.read_eq_ok_iff]
  constructor
  · intro h
    unfold Time.Instant.decode at h
    split at h
    · next s =>
      obtain ⟨text, htext, h⟩ := bind_eq_ok.1 h
      cases hread : Time.Instant.read text with
      | ok t' =>
        rw [hread] at h
        obtain rfl := Except.ok.inj h
        exact ⟨text, ⟨s, rfl, Spelling.read_eq_ok_iff.1 htext⟩, hread⟩
      | error e =>
        rw [hread] at h
        cases h
    · exact absurd h unexpected_ne_ok
  · rintro ⟨text, ⟨s, rfl, hs⟩, hread⟩
    refine bind_eq_ok.2 ⟨text, Spelling.read_eq_ok_iff.2 hs, ?_⟩
    rw [hread]
    rfl

theorem signature_iff {wanted : String} {s : Signature} (hn : n.Whole) :
    Signature.fields.record wanted ⟨depth + 1, .text⟩ n = .ok s ↔ SignatureWritten s n := by
  have hmeans := (((Means.field "name" .string none ⟨depth, .text⟩).map Signature.mk).seq
    (Means.field "email" .string none ⟨depth, .text⟩) (by decide)).seq
    (Means.field "date" Time.Instant.decode none ⟨depth, .text⟩) (by decide)
  have hdate : Part.Covers ⟨"date", DateWritten s.date, False⟩
      (readings "date" Time.Instant.decode none ⟨depth, .text⟩ (· = s.date)) :=
    covers_required fun n _ => by simp [date_iff]
  obtain ⟨name, email, date⟩ := s
  exact record_iff_shaped hmeans (fun ps => by simp [Choice, readings, List.forall₂_cons_left_iff])
    (.cons (covers_string ⟨depth, .text⟩) (.cons (covers_string ⟨depth, .text⟩) (.cons hdate .nil))) hn

theorem forall₂_congr_of_mem {α β : Type} {r s : α → β → Prop} {as : List α} {bs : List β}
    (h : ∀ b ∈ bs, ∀ a, r a b ↔ s a b) : List.Forall₂ r as bs ↔ List.Forall₂ s as bs := by
  induction bs generalizing as with
  | nil => simp
  | cons b bs ih =>
    obtain ⟨hb, hbs⟩ := List.forall_mem_cons.1 h
    simp only [List.forall₂_cons_right_iff, hb, ih hbs]

theorem parents_iff {wanted : String} {texts : List String} (hn : n.Whole) :
    Decoder.list (anyId wanted) ⟨depth + 2, .text⟩ n = .ok texts ↔
      ∃ ns, n = .array ns none ∧ List.Forall₂ IdWritten texts ns := by
  rw [list_eq_ok_iff]
  refine exists_congr fun ns => and_congr_right ?_
  rintro rfl
  cases hn with
  | array hns => exact forall₂_congr_of_mem fun n hmem _ => anyId_iff (hns n hmem)

theorem commitBody_iff {b : CommitBody} (hn : n.Whole) :
    CommitBody.decode ⟨depth + 3, .text⟩ n = .ok b ↔ b.Written n := by
  have hmeans := (((((Means.field "sha" .string none ⟨depth + 2, .text⟩).map CommitBody.mk).seq
    (Means.field "message" .string none ⟨depth + 2, .text⟩) (by decide)).seq
    (Means.field "author" (Signature.fields.record "struct AuthorResponse") none ⟨depth + 2, .text⟩) (by decide)).seq
    (Means.field "tree" (anyId "struct ShaOnly") none ⟨depth + 2, .text⟩) (by decide)).seq
    (Means.field "parents" (.list (anyId "struct ShaOnly")) none ⟨depth + 2, .text⟩) (by decide)
  have hauthor : Part.Covers ⟨"author", SignatureWritten b.author, False⟩ (readings "author"
      (Signature.fields.record "struct AuthorResponse") none ⟨depth + 2, .text⟩ (· = b.author)) :=
    covers_required fun n hn => by simp [signature_iff hn]
  have hparents : Part.Covers
      ⟨"parents", fun n => ∃ ns, n = .array ns none ∧ List.Forall₂ IdWritten b.parents ns, False⟩
      (readings "parents" (.list (anyId "struct ShaOnly")) none ⟨depth + 2, .text⟩ (· = b.parents)) :=
    covers_required fun n hn => by simp [parents_iff hn]
  obtain ⟨id, message, author, tree, parents⟩ := b
  exact record_iff_shaped hmeans (fun ps => by simp [Choice, readings, List.forall₂_cons_left_iff])
    (.cons (covers_string ⟨depth + 2, .text⟩) (.cons (covers_string ⟨depth + 2, .text⟩) (.cons hauthor
      (.cons (covers_anyId (depth + 1) "struct ShaOnly") (.cons hparents .nil))))) hn

theorem pullRequestBody_iff {b : PullRequestBody} (hn : n.Whole) :
    PullRequestBody.decode ⟨depth + 1, .text⟩ n = .ok b ↔ b.Written n := by
  have hmeans := (((Means.field "number" .uint64 none ⟨depth, .text⟩).map PullRequestBody.mk).seq
    (Means.field "title" (.option .string) (some none) ⟨depth, .text⟩) (by decide)).seq
    (Means.field "html_url" (.option .string) (some none) ⟨depth, .text⟩) (by decide)
  have hnumber : Part.Covers ⟨"number", Node.IsNatural b.number.toNat, False⟩
      (readings "number" .uint64 none ⟨depth, .text⟩ (· = b.number)) :=
    covers_required fun n _ => by simp [uint64_eq_ok_iff]
  obtain ⟨number, title, url⟩ := b
  exact record_iff_shaped hmeans (fun ps => by simp [Choice, readings, List.forall₂_cons_left_iff])
    (.cons hnumber (.cons (covers_optionalString ⟨depth, .text⟩)
      (.cons (covers_optionalString ⟨depth, .text⟩) .nil))) hn

theorem body_iff {e : Effect} (he : e.kind ≠ .postComment) {a : (reading e).α} (hn : n.Whole) :
    (reading e).decode .top n = .ok a ↔ BodyWritten e a n := by
  cases e with
  | getRef name => exact refBody_iff hn
  | createRef name target => exact refBody_iff hn
  | updateRef name target force => exact refBody_iff hn
  | createTree base entries => exact anyId_iff hn
  | getCommit id => exact commitBody_iff hn
  | createCommit message author tree parents => exact commitBody_iff hn
  | createPullRequest request => exact pullRequestBody_iff hn
  | postComment issue body => exact absurd rfl he

end Records

/-! ## Responses -/

/-- The body says which reference it is. -/
def RefBody.Spells (b : RefBody) : Response → Prop
  | .ref v => b.name = v.name ∧ SpellsId b.target v.target
  | _ => False

/-- The text is the id of a tree. -/
def SpellsTree (text : String) : Response → Prop
  | .tree id => SpellsId text id
  | _ => False

/-- The body says which commit it is, with all of its parents in their order. -/
def CommitBody.Spells (b : CommitBody) : Response → Prop
  | .commit c => SpellsId b.id c.id ∧ b.message = c.message ∧ b.author = c.author ∧ SpellsId b.tree c.tree ∧
      List.Forall₂ SpellsId b.parents c.parents
  | _ => False

/-- The body says which pull request it is. The title is the one asked for unless the body has another. -/
def PullRequestBody.Spells (asked : String) (b : PullRequestBody) : Response → Prop
  | .pullRequest p => b.number = p.number.value ∧ b.title.getD asked = p.title ∧ b.url = some p.url
  | _ => False

/-- The body spells the response to the effect. -/
def BodySpells : (e : Effect) → (reading e).α → Response → Prop
  | .getRef _ => RefBody.Spells
  | .createRef .. => RefBody.Spells
  | .updateRef .. => RefBody.Spells
  | .createTree .. => SpellsTree
  | .getCommit _ => CommitBody.Spells
  | .createCommit .. => CommitBody.Spells
  | .createPullRequest request => PullRequestBody.Spells request.title
  | .postComment .. => fun _ _ => False

/-- The value writes the response to the effect. -/
def ResponseWritten (e : Effect) (response : Response) (n : Node) : Prop :=
  ∃ a, BodyWritten e a n ∧ BodySpells e a response

section Responses

variable {response : Response}

theorem objectId_eq_ok_iff {member text : String} {id : ObjectId} :
    objectId member text = .ok id ↔ SpellsId text id := mapError_eq_ok.trans parse_eq_ok_iff

theorem refBody_response_iff {b : RefBody} : b.response = .ok response ↔ b.Spells response := by
  unfold RefBody.response
  simp only [bind_eq_ok, pure_eq_ok, objectId_eq_ok_iff]
  constructor
  · rintro ⟨id, hid, rfl⟩
    exact ⟨rfl, hid⟩
  · intro h
    cases response with
    | ref v => exact ⟨v.target, h.2, by rw [h.1]⟩
    | _ => exact h.elim

theorem treeResponse_iff {text : String} : treeResponse text = .ok response ↔ SpellsTree text response := by
  unfold treeResponse
  simp only [bind_eq_ok, pure_eq_ok, objectId_eq_ok_iff]
  constructor
  · rintro ⟨id, hid, rfl⟩
    exact hid
  · intro h
    cases response with
    | tree id => exact ⟨id, h, rfl⟩
    | _ => exact h.elim

theorem commitBody_response_iff {b : CommitBody} : b.response = .ok response ↔ b.Spells response := by
  unfold CommitBody.response
  simp only [bind_eq_ok, pure_eq_ok, mapM_eq_ok_iff, objectId_eq_ok_iff]
  constructor
  · rintro ⟨parents, hparents, id, hid, tree, htree, rfl⟩
    exact ⟨hid, rfl, rfl, htree, hparents⟩
  · intro h
    cases response with
    | commit c =>
      obtain ⟨hid, hmessage, hauthor, htree, hparents⟩ := h
      exact ⟨c.parents, hparents, c.id, hid, c.tree, htree, by rw [hmessage, hauthor]⟩
    | _ => exact h.elim

theorem pullRequestBody_response_iff {asked : String} {b : PullRequestBody} :
    b.response asked = .ok response ↔ b.Spells asked response := by
  unfold PullRequestBody.response
  constructor
  · intro h
    split at h
    · next url hurl =>
      rw [← Except.ok.inj h]
      exact ⟨rfl, rfl, hurl⟩
    · cases h
  · intro h
    cases response with
    | pullRequest p =>
      obtain ⟨hnumber, htitle, hurl⟩ := h
      rw [hurl]
      dsimp only
      rw [hnumber, htitle]
    | _ => exact h.elim

theorem response_iff {e : Effect} (he : e.kind ≠ .postComment) {a : (reading e).α} :
    (reading e).response a = .ok response ↔ BodySpells e a response := by
  cases e with
  | getRef name => exact refBody_response_iff
  | createRef name target => exact refBody_response_iff
  | updateRef name target force => exact refBody_response_iff
  | createTree base entries => exact treeResponse_iff
  | getCommit id => exact commitBody_response_iff
  | createCommit message author tree parents => exact commitBody_response_iff
  | createPullRequest request => exact pullRequestBody_response_iff
  | postComment issue body => exact absurd rfl he

end Responses

/-! ## Answers -/

/-- A string among the members of the value. -/
def repeated (v : Value) (name : String) : Part :=
  ⟨name, fun n => ∃ text, v.get? name = some (.string text) ∧ n.IsString text, False⟩

/-- The answer repeats what the body of a request for a commit says: its message, author, tree and parents. It names
the commit. -/
def Echoes (content : Value) (name : String) : Node → Prop :=
  Shaped True
    [⟨"sha", Node.IsString name, False⟩,
      repeated content "message",
      ⟨"author", fun n => ∃ author, content.get? "author" = some author ∧
        Shaped True [repeated author "name", repeated author "email", repeated author "date"] n, False⟩,
      ⟨"tree", fun n => ∃ text, content.get? "tree" = some (.string text) ∧ IdWritten text n, False⟩,
      ⟨"parents", fun n => ∃ items, content.get? "parents" = some (.array items) ∧ ∃ ns, n = .array ns none ∧
        List.Forall₂ (fun item n => ∃ text, item = .string text ∧ IdWritten text n) items ns, False⟩]

section Gateway

variable {σ : Type} {c : Client} {transport : Transport σ} {e : Effect} {s s' : σ} {request : Request}
  {status : UInt16} {body : List UInt8} {n : Node} {response : Response}

theorem spellsId_text (id : ObjectId) : SpellsId id.text id := parse_eq_ok_iff.1 id.parse_text

theorem dateWritten_of_text {t : Time.Instant} (h : n.IsString t.text) : DateWritten t n :=
  ⟨t.text, h, Time.Instant.read_eq_ok_iff.1 t.read_text⟩

/-- A part of the answer that repeats a string is that string. -/
theorem repeated_gives {v : Value} {name text : String} (h : v.get? name = some (.string text)) :
    Part.Gives (repeated v name) ⟨name, Node.IsString text, False⟩ := by
  refine ⟨rfl, ?_, id⟩
  rintro n ⟨text', htext', hn⟩
  cases h.symm.trans htext'
  exact hn

/-- An answer that repeats a request for a commit has a body with the same author, message, tree and parents. -/
theorem written_of_echoes {message name : String} {author : Signature} {tree : ObjectId} {parents : List ObjectId}
    {content : Value} (hcontent : effectBody? (.createCommit message author tree parents) = some content)
    (h : Echoes content name n) :
    CommitBody.Written ⟨name, message, author, tree.text, parents.map (·.text)⟩ n := by
  cases hcontent
  refine Shaped.mono h id (.cons (.refl _) (.cons (repeated_gives rfl) (.cons ⟨rfl, ?_, id⟩ (.cons ⟨rfl, ?_, id⟩
    (.cons ⟨rfl, ?_, id⟩ .nil)))))
  · rintro n ⟨v, hv, hn⟩
    obtain rfl : author.encode = v := Option.some.inj hv
    have hdate : Part.Gives (repeated author.encode "date") ⟨"date", DateWritten author.date, False⟩ :=
      ⟨rfl, fun n hn => dateWritten_of_text ((repeated_gives rfl).holds n hn), id⟩
    exact Shaped.mono hn id (.cons (repeated_gives rfl) (.cons (repeated_gives rfl) (.cons hdate .nil)))
  · rintro n ⟨text, htext, hn⟩
    obtain rfl : tree.text = text := Value.string.inj (Option.some.inj htext)
    exact hn
  · rintro n ⟨items, hitems, ns, rfl, hns⟩
    obtain rfl : parents.map ObjectId.encode = items := Value.array.inj (Option.some.inj hitems)
    refine ⟨ns, rfl, ?_⟩
    rw [List.forall₂_map_left_iff] at hns ⊢
    refine hns.imp fun parent n hparent => ?_
    obtain ⟨text, htext, hn⟩ := hparent
    obtain rfl : parent.text = text := Value.string.inj htext
    exact hn

theorem namesObject_of_usable {a : (reading e).α} (h : Usable e a) : ∀ text ∈ spelledIds e a, NamesObject text := by
  cases e with
  | getRef name => exact List.forall_mem_singleton.2 h
  | createRef name target => exact List.forall_mem_singleton.2 h
  | updateRef name target force => exact List.forall_mem_singleton.2 h
  | createTree base entries => exact List.forall_mem_singleton.2 h
  | getCommit id => exact h
  | createCommit message author tree parents => exact h
  | createPullRequest request => nofun
  | postComment issue body => nofun

theorem body_of_request? (h : c.request? e = some request) : request.body = effectBody? e := by
  unfold Client.request? Request.sent? at h
  dsimp only at h
  split at h
  · rw [← Option.some.inj h]
    rfl
  · cases h

/-- **Answers are read as what they write.** An answer that grants an effect is read as a response exactly if its body
writes the response. This leaves open the order of members, others among them, the size of the letters of ids and the
spelling of dates; parents keep their order and their number.

In particular, an answer that repeats the request for a commit is read as the commit that was asked for, whose author
did it at the same nanosecond. An answer with a string in place of an id is an error: it is useless. -/
theorem answers_read (he : e.kind ≠ .postComment) (hrequest : c.request? e = some request)
    (hreply : transport request s = (.arrived status body, s')) (hgranted : Granted status)
    (htext : n.IsTextOf body) :
    (∀ response, (c.gateway transport e s).1 = .ok response ↔ ResponseWritten e response n) ∧
    (∀ message author tree parents content name id, e = .createCommit message author tree parents →
      request.body = some content → Echoes content name n → SpellsId name id →
        (c.gateway transport e s).1 = .ok (.commit ⟨id, message, author, tree, parents⟩)) ∧
    ∀ a text, BodyWritten e a n → text ∈ spelledIds e a → ¬ NamesObject text →
      ∃ error, (c.gateway transport e s).1 = .error error ∧ error.kind = .invalidResponse := by
  rw [gateway_of_arrived hrequest hreply]
  have hread : ∀ a, (reading e).decode.readFirst body = .ok a ↔ BodyWritten e a n := by
    intro a
    rw [Decoder.readFirst, parse_of_isTextOf htext]
    exact body_iff he (Phrase.Written.whole htext)
  have hanswers : ∀ response, readReply e (.arrived status body) = .ok response ↔ ResponseWritten e response n := by
    intro response
    rw [readReply_eq_ok_iff]
    constructor
    · rintro ⟨_, _, harrived, -, a, ha, hresponse⟩
      cases harrived
      exact ⟨a, (hread a).1 ha, (response_iff he).1 hresponse⟩
    · rintro ⟨a, ha, hspells⟩
      exact ⟨status, body, rfl, hgranted, a, (hread a).2 ha, (response_iff he).2 hspells⟩
  refine ⟨hanswers, ?_, ?_⟩
  · rintro message author tree parents content name id rfl hcontent hechoes hid
    rw [body_of_request? hrequest] at hcontent
    refine (hanswers _).2 ⟨_, written_of_echoes hcontent hechoes, hid, rfl, rfl, spellsId_text tree, ?_⟩
    rw [List.forall₂_map_left_iff]
    exact List.forall₂_same.2 fun parent _ => spellsId_text parent
  · intro a text ha hmem hbad
    exact invalidResponse_iff.2 ⟨hgranted, a, (hread a).2 ha, fun h => hbad (namesObject_of_usable h text hmem)⟩

end Gateway

/-! ## A commit that is made -/

/-- An effect that merges two commits. -/
def merge : Effect := .createCommit "Merge" ⟨"Ann", "ann@example.org", .epoch⟩ (.ofNat 1) [.ofNat 2, .ofNat 3]

/-- An answer that repeats it. The id of the commit is in capital letters, and there is more than anyone asked for. -/
def merged : Value := .object
  [("node_id", .string "C_1"),
    ("parents", .array
      [.object [("sha", .string (ObjectId.ofNat 2).text), ("url", .null)],
        .object [("url", .null), ("sha", .string (ObjectId.ofNat 3).text)]]),
    ("tree", .object [("url", .null), ("sha", .string (ObjectId.ofNat 1).text)]),
    ("message", .string "Merge"),
    ("author", .object [("date", .string Time.Instant.epoch.text), ("email", .string "ann@example.org"),
      ("name", .string "Ann")]),
    ("sha", .string "00000000000000000000000000000000C0FFEE00")]

theorem isString_node (text : String) : (Value.string text).node.IsString text :=
  ⟨_, by rw [Value.node], spells_spelling text⟩

theorem shaped_node {arrays : Prop} {parts : List Part} {members : List (String × Value)}
    (h : ∀ p ∈ parts, p.Stands (entries members)) : Shaped arrays parts (Value.object members).node :=
  .inl ⟨_, _, by rw [Value.node], keyed members, h⟩

theorem merge_read : ∃ request, widgets.request? merge = some request ∧ Granted 201 ∧
    (widgets.gateway (always 201 merged.text) merge ()).1 =
      .ok (.commit ⟨.ofNat 0xc0ffee00, "Merge", ⟨"Ann", "ann@example.org", .epoch⟩, .ofNat 1,
        [.ofNat 2, .ofNat 3]⟩) := by
  have hasks : (widgets.request? merge).isSome = true := by decide +kernel
  obtain ⟨request, hrequest⟩ := Option.isSome_iff_exists.1 hasks
  have hgranted : Granted 201 := ⟨by decide, by decide⟩
  have hplain : merged.Plain 3 := by
    have hrecord : ∀ depth members, (∀ m ∈ members, Value.Plain depth m.2) →
        Value.Plain (depth + 1) (.object members) := fun _ _ => .object
    have hlist : ∀ depth items, (∀ v ∈ items, Value.Plain depth v) → Value.Plain (depth + 1) (.array items) :=
      fun _ _ => .array
    exact .object (by simp [hrecord, hlist, Value.Plain.string, Value.Plain.null])
  have hid : ∀ text, IdWritten text (Value.object [("url", .null), ("sha", .string text)]).node := fun text =>
    shaped_node (by simp [Part.Stands, Sole, entries, isString_node])
  have hid' : ∀ text, IdWritten text (Value.object [("sha", .string text), ("url", .null)]).node := fun text =>
    shaped_node (by simp [Part.Stands, Sole, entries, isString_node])
  have hechoes : ∀ content, effectBody? merge = some content →
      Echoes content "00000000000000000000000000000000C0FFEE00" merged.node := by
    intro content hcontent
    cases hcontent
    refine shaped_node ?_
    simp only [List.forall_mem_cons, List.not_mem_nil, false_imp_iff, implies_true, and_true]
    refine ⟨.inl ⟨_, rfl, isString_node _⟩, .inl ⟨_, rfl, _, rfl, isString_node _⟩, .inl ⟨_, rfl, _, rfl, ?_⟩,
      .inl ⟨_, rfl, _, rfl, hid _⟩, .inl ⟨_, rfl, _, rfl, _, by rw [Value.node], ?_⟩⟩
    · refine shaped_node ?_
      simp only [List.forall_mem_cons, List.not_mem_nil, false_imp_iff, implies_true, and_true]
      exact ⟨.inl ⟨_, rfl, _, rfl, isString_node _⟩, .inl ⟨_, rfl, _, rfl, isString_node _⟩,
        .inl ⟨_, rfl, _, rfl, isString_node _⟩⟩
    · rw [Value.itemNodes_eq_map]
      exact .cons ⟨_, rfl, hid' _⟩ (.cons ⟨_, rfl, hid _⟩ .nil)
  have hread := answers_read (n := merged.node) (by decide) hrequest (rfl : always 201 merged.text request () = _)
    hgranted (written_node hplain).unpadded
  refine ⟨request, hrequest, hgranted, hread.2.1 _ _ _ _ _ _ _ rfl ?_ (hechoes _ rfl) ?_⟩
  · exact body_of_request? hrequest
  · rw [SpellsId]
    decide +kernel

end Rest

end CommentBot
