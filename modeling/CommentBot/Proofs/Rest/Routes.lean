import CommentBot.Comment.Payload
import CommentBot.Proofs.Comment.Rendering
import CommentBot.Proofs.Json.Restoring
import CommentBot.Proofs.Text.Percent
import CommentBot.Rest.Client
import Mathlib

/-!
# Routes and repositories

The route of an effect begins with the names of the repository, as they are, and goes on with a tail of harmless
characters (`isTailChar_of_mem_effectTail`).

1. `reported_iff`: a delivery can report an event in any repository whose names are not empty.
2. `inRepository_iff`: so a route leads into the repository exactly if its names are plain, without slashes, question
   marks, number signs and escapes.
3. `repositories_confused`: names that are not plain can be those of two repositories with one route.
4. `routes_scoped` puts this together; for plain names no route is one of two repositories (`eq_of_route_eq`).
-/

namespace CommentBot.Rest

open Comment Forge Git Json

/-! ## Tails -/

/-- The characters behind the names of a repository: letters, digits, and some marks that mean nothing else there. -/
def isTailChar (c : Char) : Bool := c.isAlphanum || ['-', '.', '_', '~', '%', '/'].contains c

theorem isTailChar_of_escaped {text : List Char} (h : Text.Escaped text) : ∀ c ∈ text, isTailChar c = true := by
  have hmarks : ∀ c ∈ ['-', '.', '_', '~', '/'], isTailChar c = true := List.all_eq_true.1 (by decide)
  have hdigits : ∀ c ∈ Text.escapeDigits, isTailChar c = true := List.all_eq_true.1 (by decide)
  induction h with
  | nil => exact nofun
  | plain hc _ ih =>
    refine List.forall_mem_cons.2 ⟨?_, ih⟩
    rcases hc with hc | hc
    · rw [isTailChar, hc, Bool.true_or]
    · exact hmarks _ hc
  | escape hhigh hlow _ ih =>
    simp only [List.forall_mem_cons]
    exact ⟨by decide, hdigits _ hhigh, hdigits _ hlow, ih⟩

/-- Names are escaped in the tail of a route. -/
theorem isTailChar_of_mem_percentEncodePath {path : String} :
    ∀ c ∈ (Text.percentEncodePath path).toList, isTailChar c = true :=
  isTailChar_of_escaped (Text.escaped_percentEncodePath path)

theorem isTailChar_of_isDigit {c : Char} (h : c.isDigit = true) : isTailChar c = true := by
  simp [isTailChar, Char.isAlphanum, h]

theorem isTailChar_of_isLowerHexDigit {c : Char} (h : isLowerHexDigit c = true) : isTailChar c = true := by
  have hlt : c.toNat < 128 := toNat_lt_of_isHexDigit (by simp [isHexDigit, h])
  revert h
  exact Text.of_forall_ofNat hlt (by decide)

theorem isTailChar_of_mem_text (id : ObjectId) : ∀ c ∈ id.text.toList, isTailChar c = true := by
  intro c hc
  have hcanonical := id.canonical
  simp only [isCanonical, Bool.and_eq_true, List.all_eq_true] at hcanonical
  exact isTailChar_of_isLowerHexDigit (hcanonical.2 c hc)

/-- All characters behind the names of the repository are harmless. -/
theorem isTailChar_of_mem_effectTail (e : Effect) : ∀ c ∈ (effectTail e).toList, isTailChar c = true := by
  cases e with
  | getRef name =>
    rw [effectTail, String.toList_append, List.forall_mem_append]
    exact ⟨List.all_eq_true.1 (by decide), isTailChar_of_mem_percentEncodePath⟩
  | createRef name target =>
    exact List.all_eq_true.1 (show "git/refs".toList.all isTailChar = true by decide)
  | updateRef name target force =>
    rw [effectTail, String.toList_append, List.forall_mem_append]
    exact ⟨List.all_eq_true.1 (by decide), isTailChar_of_mem_percentEncodePath⟩
  | createTree base entries =>
    exact List.all_eq_true.1 (show "git/trees".toList.all isTailChar = true by decide)
  | getCommit id =>
    rw [effectTail, String.toList_append, List.forall_mem_append]
    exact ⟨List.all_eq_true.1 (by decide), isTailChar_of_mem_text id⟩
  | createCommit message author tree parents =>
    exact List.all_eq_true.1 (show "git/commits".toList.all isTailChar = true by decide)
  | createPullRequest request =>
    exact List.all_eq_true.1 (show "pulls".toList.all isTailChar = true by decide)
  | postComment issue body =>
    have hnumber : ∀ c ∈ (toString issue.value.toNat).toList, isTailChar c = true := by
      intro c hc
      rw [show toString issue.value.toNat = String.ofList (Nat.toDigits 10 issue.value.toNat) from
        Nat.repr_eq_ofList_toDigits, String.toList_ofList] at hc
      exact isTailChar_of_isDigit (Nat.isDigit_of_mem_toDigits (by decide) (by decide) hc)
    show ∀ c ∈ ("issues/" ++ toString issue.value.toNat ++ "/comments").toList, isTailChar c = true
    simp only [String.toList_append, List.forall_mem_append]
    exact ⟨⟨List.all_eq_true.1 (by decide), hnumber⟩, List.all_eq_true.1 (by decide)⟩

/-- No character of a tail ends the path or the part that it stands in. -/
theorem of_isTailChar {c : Char} (h : isTailChar c = true) :
    c ≠ '?' ∧ c ≠ '#' ∧ mayStandInPath c = true ∧ mayStandInQuery c = true := by
  have hlt : c.toNat < 128 := by
    simp only [isTailChar, Char.isAlphanum, Char.isAlpha, Char.isUpper, Char.isLower, Char.isDigit, Bool.or_eq_true,
      Bool.and_eq_true, decide_eq_true_eq, UInt32.le_iff_toNat_le, ge_iff_le, List.contains_iff_mem, List.mem_cons,
      List.not_mem_nil, or_false] at h
    have hvalue : c.toNat = c.val.toNat := rfl
    have hZ : 'Z'.val.toNat = 90 := rfl
    have hz : 'z'.val.toNat = 122 := rfl
    have hnine : '9'.val.toNat = 57 := rfl
    rcases h with h | rfl | rfl | rfl | rfl | rfl | rfl
    · omega
    all_goals decide
  revert h
  exact Text.of_forall_ofNat hlt (by decide)

/-! ## Repositories that are reported -/

/-- A delivery reports an event in the repository. -/
def Reported (r : RepoId) : Prop := ∃ octets e, Event.ofDelivery "issue_comment" octets = .ok (some e) ∧ e.repo = r

/-- A comment in a repository. -/
def commentIn (r : RepoId) : Event where
  repo := r
  action := .created
  issue := ⟨1⟩
  isPullRequest := false
  id := ⟨1⟩
  body := ""
  author := "ann"
  installation := none

/-- A payload that reports the comment. -/
def commentPayload (r : RepoId) : Value :=
  .object [("action", .string "created"),
    ("comment", .object [("id", .nat 1), ("body", .null), ("user", .object [("login", .string "ann")])]),
    ("issue", .object [("number", .nat 1), ("pull_request", .null)]),
    ("repository", .object [("owner", .object [("login", .string r.owner)]), ("name", .string r.repo)]),
    ("installation", .null)]

theorem login_restores {depth : Nat} (wanted login : String) :
    Restores (depth + 1) (Payload.login wanted) (.object [("login", .string login)]) login :=
  ((Fields.Restores.required "login" (.string login)).map id).record _

theorem commentPayload_restores (r : RepoId) : Restores 3 Payload.decode (commentPayload r)
    (Payload.ofParts "created" (1, none, "ann") (1, none) (r.owner, r.repo) none) := by
  have hcomment : Restores 2 Payload.comment
      (.object [("id", .nat 1), ("body", .null), ("user", .object [("login", .string "ann")])]) (1, none, "ann") :=
    ((((Fields.Restores.required "id" (.uint64 1)).map fun id (body : Option String) (author : String) =>
      (id, body, author)).andOptional "body" .null rfl).andRequired "user" (login_restores _ "ann") rfl).record _
  have hissue : Restores 2 Payload.issueRecord (.object [("number", .nat 1), ("pull_request", .null)]) (1, none) :=
    (((Fields.Restores.required "number" (.uint64 1)).map (Prod.mk (β := Option Value))).andOptional "pull_request"
      .null rfl).record _
  have hrepository : Restores 2 Payload.repository
      (.object [("owner", .object [("login", .string r.owner)]), ("name", .string r.repo)]) (r.owner, r.repo) :=
    (((Fields.Restores.required "owner" (login_restores _ r.owner)).map (Prod.mk (β := String))).andRequired "name"
      (.string r.repo) rfl).record _
  exact ((((((Fields.Restores.required "action" (.string "created")).map Payload.ofParts).andRequired "comment"
    hcomment rfl).andRequired "issue" hissue rfl).andRequired "repository" hrepository rfl).andOptional "installation"
    .null rfl).record _

/-- A repository is reported by some delivery if it has names. -/
theorem reported_iff {r : RepoId} : Reported r ↔ r.owner ≠ "" ∧ r.repo ≠ "" := by
  constructor
  · rintro ⟨octets, e, hread, rfl⟩
    rw [Event.ofDelivery, if_pos rfl, map_eq_ok] at hread
    obtain ⟨e', hread, heq⟩ := hread
    obtain rfl := Option.some.inj heq
    obtain ⟨-, -, -, howner, hname, -⟩ := ofPayload_eq_ok_iff_readAll.1 hread
    exact ⟨howner, hname⟩
  · rintro ⟨howner, hname⟩
    refine ⟨Text.utf8 (commentPayload r).text, commentIn r, ?_, rfl⟩
    have hread := (commentPayload_restores r).readAll (by decide)
    have hevent : Event.ofPayload (Text.utf8 (commentPayload r).text) = .ok (commentIn r) :=
      ofPayload_eq_ok_iff_readAll.2 ⟨_, hread, rfl, howner, hname, show "ann" ≠ "" by decide⟩
    rw [Event.ofDelivery, if_pos rfl, hevent]
    rfl

/-! ## Routes into a repository -/

/-- A route without query and fragment leads to the tail in the repository: the parts of its path are the names of the
repository, as far as escapes in them do not matter, and those of the tail. -/
structure InRepository (r : RepoId) (tail route : String) : Prop where
  noQuery : '?' ∉ route.toList
  noFragment : '#' ∉ route.toList
  parts : ∃ owner name, route.toList.splitOn '/' = [] :: "repos".toList :: owner :: name :: tail.toList.splitOn '/' ∧
    Text.percentDecode (owner.flatMap String.utf8EncodeChar) = Text.utf8 r.owner ∧
    Text.percentDecode (name.flatMap String.utf8EncodeChar) = Text.utf8 r.repo

/-- The name can stand in a route for itself. -/
structure IsPlainName (name : String) : Prop where
  noSlash : '/' ∉ name.toList
  noQuery : '?' ∉ name.toList
  noFragment : '#' ∉ name.toList
  noEscape : Text.percentDecode (Text.utf8 name) = Text.utf8 name

/-- Both names can stand in a route for themselves. -/
def IsPlainRepo (r : RepoId) : Prop := IsPlainName r.owner ∧ IsPlainName r.repo

theorem toList_route (r : RepoId) (e : Effect) : (Request.ofEffect r e).route.toList =
    '/' :: ("repos".toList ++ '/' :: (r.owner.toList ++ '/' :: (r.repo.toList ++ '/' :: (effectTail e).toList))) := by
  show (repoRoute r (effectTail e)).toList = _
  unfold repoRoute
  simp only [String.toList_append, List.append_assoc]
  rfl

theorem splitOn_route (r : RepoId) (e : Effect) : (Request.ofEffect r e).route.toList.splitOn '/' =
    [] :: "repos".toList :: (r.owner.toList.splitOn '/' ++ (r.repo.toList.splitOn '/' ++
      (effectTail e).toList.splitOn '/')) := by
  have hrepos : "repos".toList.splitOn '/' = ["repos".toList] := by decide
  rw [toList_route, ← List.nil_append ('/' :: _), List.splitOn_append_cons_self, List.splitOn_append_cons_self,
    List.splitOn_append_cons_self, List.splitOn_append_cons_self, hrepos]
  rfl

theorem splitOn_singleton_iff {cs part : List Char} : cs.splitOn '/' = [part] ↔ '/' ∉ cs ∧ part = cs := by
  constructor
  · intro h
    have hnot : '/' ∉ cs := by
      intro hmem
      obtain ⟨before, after, rfl⟩ := List.append_of_mem hmem
      rw [List.splitOn_append_cons_self] at h
      have hlength := congrArg List.length h
      have hbefore := List.length_pos_iff.2 (List.splitOn_ne_nil '/' before)
      have hafter := List.length_pos_iff.2 (List.splitOn_ne_nil '/' after)
      rw [List.length_append, List.length_singleton] at hlength
      omega
    rw [List.splitOn_eq_singleton hnot] at h
    exact ⟨hnot, (List.singleton_inj.1 h).symm⟩
  · rintro ⟨hnot, rfl⟩
    exact List.splitOn_eq_singleton hnot

/-- A path has two parts in front of its tail if both names are parts. -/
theorem names_of_parts {names more tail : List (List Char)} {owner name : List Char} (hnames : names ≠ [])
    (hmore : more ≠ []) (h : names ++ (more ++ tail) = owner :: name :: tail) : names = [owner] ∧ more = [name] := by
  have hboth : names ++ more = [owner, name] := by
    have hparts : (names ++ more) ++ tail = [owner, name] ++ tail := (List.append_assoc ..).trans h
    exact List.append_cancel_right hparts
  cases names with
  | nil => exact absurd rfl hnames
  | cons n names =>
    obtain ⟨rfl, hrest⟩ := List.cons.inj hboth
    cases names with
    | nil => exact ⟨rfl, hrest⟩
    | cons n' names => exact absurd (List.append_eq_nil_iff.1 (List.cons.inj hrest).2).2 hmore

theorem not_mem_route {c : Char} (hc : c = '?' ∨ c = '#') {r : RepoId} {e : Effect} :
    c ∉ (Request.ofEffect r e).route.toList ↔ c ∉ r.owner.toList ∧ c ∉ r.repo.toList := by
  have htail : c ∉ (effectTail e).toList := by
    intro hmem
    have h := of_isTailChar (isTailChar_of_mem_effectTail e c hmem)
    rcases hc with rfl | rfl
    · exact h.1 rfl
    · exact h.2.1 rfl
  have hslash : c ≠ '/' := by rcases hc with rfl | rfl <;> decide
  have hrepos : c ∉ "repos".toList := by rcases hc with rfl | rfl <;> decide
  rw [toList_route]
  simp only [List.mem_cons, List.mem_append, hslash, hrepos, htail, false_or, or_false, not_or]

/-- **A route leads into its repository** exactly if the names of the repository are plain. -/
theorem inRepository_iff {r : RepoId} {e : Effect} :
    InRepository r (effectTail e) (Request.ofEffect r e).route ↔ IsPlainRepo r := by
  constructor
  · rintro ⟨hquery, hfragment, owner, name, hparts, howner, hname⟩
    rw [splitOn_route] at hparts
    obtain ⟨howners, hnames⟩ := names_of_parts (List.splitOn_ne_nil _ _) (List.splitOn_ne_nil _ _)
      (List.cons.inj (List.cons.inj hparts).2).2
    obtain ⟨hslash, rfl⟩ := splitOn_singleton_iff.1 howners
    obtain ⟨hslash', rfl⟩ := splitOn_singleton_iff.1 hnames
    obtain ⟨hquery, hquery'⟩ := (not_mem_route (.inl rfl)).1 hquery
    obtain ⟨hfragment, hfragment'⟩ := (not_mem_route (.inr rfl)).1 hfragment
    exact ⟨⟨hslash, hquery, hfragment, howner⟩, ⟨hslash', hquery', hfragment', hname⟩⟩
  · rintro ⟨howner, hname⟩
    refine ⟨(not_mem_route (.inl rfl)).2 ⟨howner.noQuery, hname.noQuery⟩,
      (not_mem_route (.inr rfl)).2 ⟨howner.noFragment, hname.noFragment⟩, r.owner.toList, r.repo.toList, ?_,
      howner.noEscape, hname.noEscape⟩
    rw [splitOn_route, List.splitOn_eq_singleton howner.noSlash, List.splitOn_eq_singleton hname.noSlash]
    rfl

/-- Two repositories with plain names have no route in common. -/
theorem eq_of_route_eq {r₁ r₂ : RepoId} (h₁ : IsPlainRepo r₁) (h₂ : IsPlainRepo r₂) {e₁ e₂ : Effect}
    (h : (Request.ofEffect r₁ e₁).route = (Request.ofEffect r₂ e₂).route) : r₁ = r₂ := by
  have hparts : (Request.ofEffect r₁ e₁).route.toList.splitOn '/' =
      (Request.ofEffect r₂ e₂).route.toList.splitOn '/' := by rw [h]
  rw [splitOn_route, splitOn_route, List.splitOn_eq_singleton h₁.1.noSlash, List.splitOn_eq_singleton h₁.2.noSlash,
    List.splitOn_eq_singleton h₂.1.noSlash, List.splitOn_eq_singleton h₂.2.noSlash] at hparts
  have hnames := (List.cons.inj (List.cons.inj hparts).2).2
  obtain ⟨owner₁, name₁⟩ := r₁
  obtain ⟨owner₂, name₂⟩ := r₂
  obtain rfl : owner₁ = owner₂ := String.toList_inj.1 (List.cons.inj hnames).1
  obtain rfl : name₁ = name₂ := String.toList_inj.1 (List.cons.inj (List.cons.inj hnames).2).1
  rfl

/-- One effect has the same route in two repositories if these are written alike. -/
theorem route_eq_iff {r₁ r₂ : RepoId} {e : Effect} :
    (Request.ofEffect r₁ e).route = (Request.ofEffect r₂ e).route ↔ r₁.text = r₂.text := by
  have hroute : ∀ r, (Request.ofEffect r e).route = "/repos/" ++ (r.text ++ ("/" ++ effectTail e)) := by
    intro r
    show repoRoute r (effectTail e) = _
    unfold repoRoute RepoId.text
    simp only [String.append_assoc]
  rw [hroute, hroute]
  constructor
  · intro h
    have hlist := congrArg String.toList h
    simp only [String.toList_append] at hlist
    exact String.toList_inj.1 (List.append_cancel_right (List.append_cancel_left hlist))
  · intro h
    rw [h]

/-- **How far routes tell repositories apart.** Deliveries report events in all repositories with names, and the names
stand in routes as they are. So a route leads into the repository exactly if its names are plain; repositories with
plain names have no route in common, and any two have those routes in common that are written alike. -/
theorem routes_scoped (r₁ r₂ : RepoId) (e₁ e₂ : Effect) :
    (Reported r₁ ↔ r₁.owner ≠ "" ∧ r₁.repo ≠ "") ∧
      (InRepository r₁ (effectTail e₁) (Request.ofEffect r₁ e₁).route ↔ IsPlainRepo r₁) ∧
      (IsPlainRepo r₁ → IsPlainRepo r₂ →
        (Request.ofEffect r₁ e₁).route = (Request.ofEffect r₂ e₂).route → r₁ = r₂) ∧
      ((Request.ofEffect r₁ e₁).route = (Request.ofEffect r₂ e₁).route ↔ r₁.text = r₂.text) :=
  ⟨reported_iff, inRepository_iff, fun h₁ h₂ h => eq_of_route_eq h₁ h₂ h, route_eq_iff⟩

theorem widgets_scoped : IsPlainRepo ⟨"octo", "widgets"⟩ ∧ IsPlainRepo ⟨"octo", "gadgets"⟩ ∧
    (Request.ofEffect ⟨"octo", "widgets"⟩ (.getRef "heads/main")).route ≠
      (Request.ofEffect ⟨"octo", "gadgets"⟩ (.getRef "heads/main")).route := by
  have howner : IsPlainName "octo" := ⟨by decide, by decide, by decide, by decide⟩
  have hwidgets : IsPlainName "widgets" := ⟨by decide, by decide, by decide, by decide⟩
  have hgadgets : IsPlainName "gadgets" := ⟨by decide, by decide, by decide, by decide⟩
  refine ⟨⟨howner, hwidgets⟩, ⟨howner, hgadgets⟩, fun h => ?_⟩
  exact absurd ((routes_scoped _ _ _ _).2.2.1 ⟨howner, hwidgets⟩ ⟨howner, hgadgets⟩ h) (by decide)

/-- Two repositories that are reported, with a slash in different places of their names, have a route in common, which
leads into neither. -/
theorem repositories_confused :
    Reported ⟨"octo/widgets", "x"⟩ ∧ Reported ⟨"octo", "widgets/x"⟩ ∧
      (⟨"octo/widgets", "x"⟩ : RepoId) ≠ ⟨"octo", "widgets/x"⟩ ∧
      (Request.ofEffect ⟨"octo/widgets", "x"⟩ (.getRef "heads/main")).route =
        (Request.ofEffect ⟨"octo", "widgets/x"⟩ (.getRef "heads/main")).route ∧
      ¬ InRepository ⟨"octo/widgets", "x"⟩ (effectTail (.getRef "heads/main"))
        (Request.ofEffect ⟨"octo/widgets", "x"⟩ (.getRef "heads/main")).route ∧
      ¬ InRepository ⟨"octo", "widgets/x"⟩ (effectTail (.getRef "heads/main"))
        (Request.ofEffect ⟨"octo", "widgets/x"⟩ (.getRef "heads/main")).route := by
  refine ⟨reported_iff.2 ⟨by decide, by decide⟩, reported_iff.2 ⟨by decide, by decide⟩, by decide,
    route_eq_iff.2 (by decide), fun h => ?_, fun h => ?_⟩
  · exact absurd (inRepository_iff.1 h).1.noSlash (by decide)
  · exact absurd (inRepository_iff.1 h).2.noSlash (by decide)

end CommentBot.Rest
