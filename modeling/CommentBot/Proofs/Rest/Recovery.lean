import CommentBot.Proofs.Rest.Sending
import CommentBot.Proofs.RoundTrip
import CommentBot.Proofs.Text.Percent

/-!
# Requests tell their effects

The effect of a request can be read from it: the tail of the route and the method say which kind it is of, and the
arguments stand in the tail and in the body.

1. `entryBody_restores` and its neighbours: what the bodies hold is read back.
2. `effectOf?` reads the effect of a request. `effectOf?_ofEffect`: it is the one that the request was made for.
3. `request_tells_effect`: so two effects with one request are the same.
-/

namespace CommentBot.Rest

open Json Forge Git

/-! ## Bodies -/

/-- The contents of a file, if either the octets are given or the id that names them. -/
def contentOf : Option String → Option ObjectId → Except String Content
  | some text, none => .ok (.inline text)
  | none, some id => .ok (.blob id)
  | _, _ => .error "either content or sha expected"

/-- Reads an entry of a tree from the body of a request. -/
def readEntry : Decoder TreeEntry :=
  .refine (Fields.record "tree entry" <|
      (fun path mode kind text id => (contentOf text id).map (TreeEntry.mk path mode kind))
        <$> .required "path" .string <*> .required "mode" FileMode.decode <*> .required "type" ObjectKind.decode
        <*> .optional "content" .string <*> .optional "sha" ObjectId.decode)
    fun entry => entry

/-- Reads the body that creates a reference. -/
def readCreateRef : Decoder Effect :=
  Fields.record "reference" <| .createRef <$> .required "ref" .string <*> .required "sha" ObjectId.decode

/-- Reads the body that points a reference at another commit. -/
def readUpdateRef (name : String) : Decoder Effect :=
  Fields.record "target" <| .updateRef name <$> .required "sha" ObjectId.decode <*> .required "force" .bool

/-- Reads the body that creates a tree. -/
def readCreateTree : Decoder Effect :=
  Fields.record "tree" <|
    .createTree <$> .required "base_tree" ObjectId.decode <*> .required "tree" (.list readEntry)

/-- Reads the body that creates a commit. -/
def readCreateCommit : Decoder Effect :=
  Fields.record "commit" <|
    (fun message tree parents author => .createCommit message author tree parents)
      <$> .required "message" .string <*> .required "tree" ObjectId.decode
      <*> .required "parents" (.list ObjectId.decode) <*> .required "author" Signature.decode

/-- Reads the body that opens a pull request. -/
def readCreatePullRequest : Decoder Effect :=
  Fields.record "pull request" <| .createPullRequest <$> NewPullRequest.fields

/-- Reads the body that posts a comment. -/
def readPostComment (issue : IssueNumber) : Decoder Effect :=
  Fields.record "comment" <| .postComment issue <$> .required "body" .string

variable {depth : Nat}

/-- An entry of a tree is read back: whether its text was given or the id of its octets does not get lost. -/
theorem entryBody_restores (e : TreeEntry) : Restores (depth + 1) readEntry (entryBody e) e := by
  obtain ⟨path, mode, kind, content⟩ := e
  have hnames : Fields.Finds depth _ ["path", "mode", "type"] _ _ :=
    ((((Fields.Restores.required "path" (.string path)).map
      fun path mode kind text id => (contentOf text id).map (TreeEntry.mk path mode kind)).andRequired "mode"
      mode.restores rfl).andRequired "type" kind.restores rfl).finds
  cases content with
  | inline text =>
    have htext : Fields.Finds depth _ ["content"] [("content", .string text)] (some text) :=
      (Fields.Restores.optional "content" (.option (o := some text) (fun text _ => .string text) nofun)).finds
    exact (((hnames.seq htext (by decide)).seq (.absent "sha") (by decide)).record _).refine rfl
  | blob id =>
    have hid : Fields.Finds depth _ ["sha"] [("sha", id.encode)] (some id) :=
      (Fields.Restores.optional "sha" (.option (o := some id) (fun id _ => id.restores) nofun)).finds
    exact (((hnames.seq (.absent "content") (by decide)).seq hid (by decide)).record _).refine rfl

theorem createRef_restores (name : String) (target : ObjectId) :
    Restores (depth + 1) readCreateRef (.object [("ref", .string name), ("sha", target.encode)])
      (.createRef name target) :=
  (((Fields.Restores.required "ref" (.string name)).map Effect.createRef).andRequired "sha" target.restores
    rfl).record _

theorem updateRef_restores (name : String) (target : ObjectId) (force : Bool) :
    Restores (depth + 1) (readUpdateRef name) (.object [("sha", target.encode), ("force", .bool force)])
      (.updateRef name target force) :=
  (((Fields.Restores.required "sha" target.restores).map (Effect.updateRef name)).andRequired "force" (.bool force)
    rfl).record _

theorem createTree_restores (base : ObjectId) (entries : List TreeEntry) :
    Restores (depth + 3) readCreateTree (.object [("base_tree", base.encode), ("tree", .ofList entryBody entries)])
      (.createTree base entries) :=
  (((Fields.Restores.required "base_tree" base.restores).map Effect.createTree).andRequired "tree"
    (.list fun entry _ => entryBody_restores entry) rfl).record _

theorem createCommit_restores (message : String) (author : Signature) (tree : ObjectId) (parents : List ObjectId) :
    Restores (depth + 2) readCreateCommit (.object [("message", .string message), ("tree", tree.encode),
      ("parents", .ofList ObjectId.encode parents), ("author", author.encode)])
      (.createCommit message author tree parents) :=
  (((((Fields.Restores.required "message" (.string message)).map fun message tree parents author =>
    Effect.createCommit message author tree parents).andRequired "tree" tree.restores rfl).andRequired "parents"
    (.list fun id _ => id.restores) rfl).andRequired "author" author.restores rfl).record _

theorem createPullRequest_restores (request : NewPullRequest) :
    Restores (depth + 1) readCreatePullRequest request.encode (.createPullRequest request) :=
  (request.restores.map Effect.createPullRequest).record _

theorem postComment_restores (issue : IssueNumber) (body : String) :
    Restores (depth + 1) (readPostComment issue) (.object [("body", .string body)]) (.postComment issue body) :=
  ((Fields.Restores.required "body" (.string body)).map (Effect.postComment issue)).record _

/-! ## Tails -/

/-- The name that a path is the escape of. -/
def nameOf? (path : List Char) : Option String :=
  Text.ofUtf8? (Text.percentDecode (path.flatMap String.utf8EncodeChar))

/-- The issue of a tail that leads to its comments. -/
def issueOf? (tail : List Char) : Option IssueNumber := do
  let rest ← "issues/".toList.isPrefixOf? tail
  if rest.dropWhile Char.isDigit = "/comments".toList then
    some ⟨UInt64.ofNat (ofDigits ((rest.takeWhile Char.isDigit).map fun c => c.toNat - 48))⟩
  else none

/-- What a body is read as, if it is there and can be read. -/
def readBody? {α : Type} (read : Decoder α) (body : Option String) : Option α :=
  body.bind fun text => (read.readAll (Text.utf8 text)).toOption

/-- The effect of a request that gets something. -/
def getOf? (tail : List Char) : Option Effect :=
  match "git/ref/".toList.isPrefixOf? tail, "git/commits/".toList.isPrefixOf? tail with
  | some path, _ => (nameOf? path).map .getRef
  | none, some text => (ObjectId.parse (String.ofList text)).toOption.map .getCommit
  | none, none => none

/-- The effect of a request that changes something. -/
def patchOf? (tail : List Char) (body : Option String) : Option Effect := do
  let path ← "git/refs/".toList.isPrefixOf? tail
  let name ← nameOf? path
  readBody? (readUpdateRef name) body

/-- The tails of requests that create something other than a comment, and how their bodies are read. -/
def creations : List (String × Decoder Effect) :=
  [("git/refs", readCreateRef), ("git/trees", readCreateTree), ("git/commits", readCreateCommit),
    ("pulls", readCreatePullRequest)]

/-- The effect of a request that creates something. -/
def postOf? (tail : List Char) (body : Option String) : Option Effect :=
  match creations.lookup (String.ofList tail) with
  | some read => readBody? read body
  | none => (issueOf? tail).bind fun issue => readBody? (readPostComment issue) body

/-- The effect of a request with this tail. -/
def tailOf? (method : Method) (tail : List Char) (body : Option String) : Option Effect :=
  match method with
  | .get => getOf? tail
  | .patch => patchOf? tail body
  | .post => postOf? tail body

/-- The effect that a request on the repository was made for. -/
def effectOf? (repo : RepoId) (method : Method) (route : String) (body : Option String) : Option Effect :=
  ((repoRoute repo "").toList.isPrefixOf? route.toList).bind fun tail => tailOf? method tail body

theorem nameOf?_percentEncodePath (name : String) : nameOf? (Text.percentEncodePath name).toList = some name := by
  rw [nameOf?, Text.percentDecode_percentEncodePath, Text.ofUtf8?_utf8]

theorem readBody?_text {α : Type} {read : Decoder α} {v : Value} {a : α} (h : Restores 4 read v a) :
    readBody? read (some v.text) = some a := by
  show (read.readAll (Text.utf8 v.text)).toOption = some a
  rw [h.readAll (by decide)]
  rfl

theorem isPrefixOf?_append (front behind : String) :
    front.toList.isPrefixOf? (front ++ behind).toList = some behind.toList :=
  List.isPrefixOf?_eq_some_iff_append_eq.2 String.toList_append.symm

theorem getOf?_ref (name : String) : getOf? (effectTail (.getRef name)).toList = some (.getRef name) := by
  have hpath : "git/ref/".toList.isPrefixOf? (effectTail (.getRef name)).toList = _ := isPrefixOf?_append "git/ref/" _
  unfold getOf?
  rw [hpath]
  dsimp only
  rw [nameOf?_percentEncodePath]
  rfl

theorem getOf?_commit (id : ObjectId) : getOf? (effectTail (.getCommit id)).toList = some (.getCommit id) := by
  have hnot : "git/ref/".toList.isPrefixOf? (effectTail (.getCommit id)).toList = none := by
    rw [effectTail, String.toList_append]
    rfl
  have hid : "git/commits/".toList.isPrefixOf? (effectTail (.getCommit id)).toList = _ :=
    isPrefixOf?_append "git/commits/" _
  unfold getOf?
  rw [hnot, hid]
  dsimp only
  rw [String.ofList_toList, ObjectId.parse_text]
  rfl

theorem patchOf?_tail (name : String) (target : ObjectId) (force : Bool) (body : Option String) :
    patchOf? (effectTail (.updateRef name target force)).toList body = readBody? (readUpdateRef name) body := by
  have hpath : "git/refs/".toList.isPrefixOf? (effectTail (.updateRef name target force)).toList = _ :=
    isPrefixOf?_append "git/refs/" _
  unfold patchOf?
  rw [hpath, Option.bind_eq_bind, Option.bind_some, nameOf?_percentEncodePath, Option.bind_eq_bind, Option.bind_some]

theorem toList_commentsTail (issue : IssueNumber) (text : String) :
    (effectTail (.postComment issue text)).toList =
      "issues/".toList ++ (Nat.toDigits 10 issue.value.toNat ++ "/comments".toList) := by
  have hnumber : (toString issue.value.toNat).toList = Nat.toDigits 10 issue.value.toNat := by
    rw [show toString issue.value.toNat = String.ofList (Nat.toDigits 10 issue.value.toNat) from
      Nat.repr_eq_ofList_toDigits, String.toList_ofList]
  show ("issues/" ++ toString issue.value.toNat ++ "/comments").toList = _
  rw [String.toList_append, String.toList_append, List.append_assoc, hnumber]

theorem issueOf?_tail (issue : IssueNumber) (text : String) :
    issueOf? (effectTail (.postComment issue text)).toList = some issue := by
  have hdigits : ∀ c ∈ Nat.toDigits 10 issue.value.toNat, c.isDigit = true :=
    fun c hc => Nat.isDigit_of_mem_toDigits (by decide) (by decide) hc
  have hnumber : ofDigits (decimals issue.value.toNat) = issue.value.toNat := ofDigits_decimals _
  have hprefix := List.isPrefixOf?_eq_some_iff_append_eq.2 (toList_commentsTail issue text).symm
  rw [issueOf?, hprefix, Option.bind_eq_bind, Option.bind_some, List.takeWhile_append_of_pos hdigits,
    List.dropWhile_append_of_pos hdigits]
  have hbehind : "/comments".toList.takeWhile Char.isDigit = [] := by decide
  rw [if_pos (by decide), hbehind, List.append_nil, ← decimals, hnumber, UInt64.ofNat_toNat]

theorem postOf?_of_lookup {tail : String} {read : Decoder Effect} (h : creations.lookup tail = some read)
    (body : Option String) : postOf? tail.toList body = readBody? read body := by
  rw [postOf?, String.ofList_toList, h]

theorem postOf?_comments (issue : IssueNumber) (text : String) (body : Option String) :
    postOf? (effectTail (.postComment issue text)).toList body = readBody? (readPostComment issue) body := by
  have hfirst : ∀ entry ∈ creations, entry.1.toList.head? ≠ some 'i' := by decide
  have hnone : creations.lookup (effectTail (.postComment issue text)) = none := by
    refine List.lookup_eq_none_iff.2 fun entry hentry => bne_iff_ne.2 fun heq => hfirst entry hentry ?_
    rw [← heq, toList_commentsTail]
    rfl
  rw [postOf?, String.ofList_toList, hnone, issueOf?_tail, Option.bind_some]

/-- The effect of a request is the one that the request was made for. -/
theorem effectOf?_ofEffect (repo : RepoId) (e : Effect) :
    effectOf? repo (effectMethod e) (repoRoute repo (effectTail e)) ((effectBody? e).map Value.text) = some e := by
  have htail : (repoRoute repo "").toList.isPrefixOf? (repoRoute repo (effectTail e)).toList =
      some (effectTail e).toList := List.isPrefixOf?_eq_some_iff_append_eq.2 (repoRoute_eq repo _).symm
  rw [effectOf?, htail, Option.bind_some]
  cases e with
  | getRef name => exact getOf?_ref name
  | createRef name target => exact (postOf?_of_lookup rfl _).trans (readBody?_text (createRef_restores name target))
  | updateRef name target force =>
    exact (patchOf?_tail name target force _).trans (readBody?_text (updateRef_restores name target force))
  | createTree base entries => exact (postOf?_of_lookup rfl _).trans (readBody?_text (createTree_restores base entries))
  | getCommit id => exact getOf?_commit id
  | createCommit message author tree parents =>
    exact (postOf?_of_lookup rfl _).trans (readBody?_text (createCommit_restores message author tree parents))
  | createPullRequest request =>
    exact (postOf?_of_lookup rfl _).trans (readBody?_text (createPullRequest_restores request))
  | postComment issue body =>
    exact (postOf?_comments issue body _).trans (readBody?_text (postComment_restores issue body))

/-! ## What is sent -/

/-- The names of the repository do not end the path of a route. -/
structure StayInPath (r : RepoId) : Prop where
  noQuery : '?' ∉ r.owner.toList ∧ '?' ∉ r.repo.toList
  noFragment : '#' ∉ r.owner.toList ∧ '#' ∉ r.repo.toList

/-- What is sent is the request as it is. -/
theorem eq_ofEffect_of_sent {c : Client} (h : StayInPath c.repo) {e : Effect} {q : Request}
    (hq : c.request? e = some q) : q = Request.ofEffect c.repo e := by
  have hroute : withoutFragment (Request.ofEffect c.repo e).route.toList = (Request.ofEffect c.repo e).route.toList :=
    takeWhile_ne_of_not_mem ((not_mem_route (.inr rfl)).2 h.noFragment)
  unfold Client.request? Request.sent? at hq
  dsimp only at hq
  split at hq
  · rw [hroute, String.ofList_toList] at hq
    exact (Option.some.inj hq).symm
  · cases hq

theorem entryBody_names (entry : TreeEntry) : ∃ members, entryBody entry = .object members ∧
    ("content" ∈ members.map (·.1) ↔ "sha" ∉ members.map (·.1)) := by
  obtain ⟨path, mode, kind, content⟩ := entry
  cases content with
  | inline text => exact ⟨_, rfl, by simp⟩
  | blob id => exact ⟨_, rfl, by simp⟩

/-- **A request tells its effect.** In a repository whose names do not end the path of a route, the effect of a request
that is sent can be read from its method, its path and the text of its body. So two effects for which this is the same
are the same effect. In particular an entry of a tree is sent with its text or with an id, and never with both. Where
the names can stand in a path, every request is sent whose route is not too long. -/
theorem request_tells_effect (c : Client) (h : StayInPath c.repo) :
    (FormPath c.repo → ∀ e, (c.request? e).isSome = true ↔ Fits c.repo e) ∧
    (∀ e q, c.request? e = some q → ('?' ∉ q.route.toList ∧ '#' ∉ q.route.toList) ∧
      effectOf? c.repo q.method q.route (q.body.map Value.text) = some e) ∧
    (∀ e₁ e₂ q₁ q₂, c.request? e₁ = some q₁ → c.request? e₂ = some q₂ → q₁.method = q₂.method →
      q₁.route = q₂.route → q₁.body.map Value.text = q₂.body.map Value.text → e₁ = e₂) ∧
    ∀ entry : TreeEntry, ∃ members, entryBody entry = .object members ∧
      ("content" ∈ members.map (·.1) ↔ "sha" ∉ members.map (·.1)) := by
  have hread : ∀ e q, c.request? e = some q → effectOf? c.repo q.method q.route (q.body.map Value.text) = some e := by
    intro e q hq
    rw [eq_ofEffect_of_sent h hq]
    exact effectOf?_ofEffect c.repo e
  refine ⟨request?_isSome_iff, fun e q hq => ⟨?_, hread e q hq⟩, fun e₁ e₂ q₁ q₂ h₁ h₂ hmethod hroute hbody => ?_,
    entryBody_names⟩
  · rw [eq_ofEffect_of_sent h hq]
    exact ⟨(not_mem_route (.inl rfl)).2 h.noQuery, (not_mem_route (.inr rfl)).2 h.noFragment⟩
  · have hfirst := hread e₁ q₁ h₁
    rw [hmethod, hroute, hbody, hread e₂ q₂ h₂] at hfirst
    exact (Option.some.inj hfirst).symm

/-- A name is read back from its escape. -/
theorem escaped_name_told : StayInPath widgets.repo ∧ ∃ q, widgets.request? (.getRef "heads/50% ü") = some q ∧
    effectOf? widgets.repo q.method q.route (q.body.map Value.text) = some (.getRef "heads/50% ü") := by
  have hnames : StayInPath widgets.repo := ⟨by decide, by decide⟩
  have hpath : FormPath widgets.repo := by
    unfold FormPath
    decide +kernel
  have hfits : Fits widgets.repo (.getRef "heads/50% ü") := by
    unfold Fits
    decide +kernel
  obtain ⟨hsent, hread, -⟩ := request_tells_effect widgets hnames
  obtain ⟨q, hq⟩ := Option.isSome_iff_exists.1 ((hsent hpath _).2 hfits)
  exact ⟨hnames, q, hq, (hread _ q hq).2⟩

end CommentBot.Rest
