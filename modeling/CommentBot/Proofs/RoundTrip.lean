import CommentBot.Comment.Codec
import CommentBot.Proofs.Json.Restoring
import CommentBot.Proofs.Time.Reading

/-!
# Values are read back

Everything that is written as JSON is read back as it was, whatever strings, numbers and dates it holds. For each type
there is a lemma `restores`, assembled from those of its parts; the depth in it counts the brackets that the value
opens.

`written_values_return`: reading undoes writing, for all types at once.
-/

namespace CommentBot

open Json

/-! ## Git -/

theorem Time.Instant.restores {depth : Nat} (t : Time.Instant) : Restores depth Time.Instant.decode t.encode t := by
  refine ⟨.string t.text, fun ctx _ => bind_eq_ok.2 ⟨t.text, ?_, ?_⟩⟩
  · exact Spelling.read_eq_ok_iff.2 (spells_spelling t.text)
  · rw [Time.Instant.read_text]
    rfl

namespace Git

variable {depth : Nat}

theorem ObjectId.restores (id : ObjectId) : Restores depth ObjectId.decode id.encode id :=
  (Restores.string id.text).refine (by rw [ObjectId.parse_text]; rfl)

theorem Reference.restores (r : Reference) : Restores (depth + 1) Reference.decode r.encode r :=
  (((Fields.Restores.required "ref_name" (.string r.name)).map Reference.mk).andRequired "sha"
    r.target.restores rfl).record _

theorem FileMode.restores (m : FileMode) : Restores depth FileMode.decode m.encode m :=
  .name (by cases m <;> rfl)

theorem ObjectKind.restores (k : ObjectKind) : Restores depth ObjectKind.decode k.encode k :=
  .name (by cases k; rfl)

theorem Content.restores (c : Content) : Restores (depth + 1) Content.decode c.encode c := by
  cases c with
  | inline text => exact .carrying rfl ((Restores.string text).map Content.inline)
  | blob id => exact .carrying rfl (id.restores.map Content.blob)

theorem TreeEntry.restores (e : TreeEntry) : Restores (depth + 2) TreeEntry.decode e.encode e :=
  (((((Fields.Restores.required "path" (.string e.path)).map TreeEntry.mk).andRequired "mode"
    e.mode.restores rfl).andRequired "kind" e.kind.restores rfl).andRequired "content" e.content.restores rfl).record _

theorem Signature.restores (s : Signature) : Restores (depth + 1) Signature.decode s.encode s :=
  ((((Fields.Restores.required "name" (.string s.name)).map Signature.mk).andRequired "email"
    (.string s.email) rfl).andRequired "date" s.date.restores rfl).record _

theorem Commit.restores (c : Commit) : Restores (depth + 2) Commit.decode c.encode c :=
  ((((((Fields.Restores.required "sha" c.id.restores).map Commit.mk).andRequired "message"
    (.string c.message) rfl).andRequired "author" c.author.restores rfl).andRequired "tree"
    c.tree.restores rfl).andRequired "parents" (.list fun id _ => id.restores) rfl).record _

end Git

/-! ## Effects and responses -/

namespace Forge

variable {depth : Nat}

theorem IssueNumber.restores (n : IssueNumber) : Restores depth IssueNumber.decode n.encode n :=
  (Restores.uint64 n.value).map IssueNumber.mk

theorem CommentId.restores (id : CommentId) : Restores depth CommentId.decode id.encode id :=
  (Restores.uint64 id.value).map CommentId.mk

theorem InstallationId.restores (id : InstallationId) : Restores depth InstallationId.decode id.encode id :=
  (Restores.uint64 id.value).map InstallationId.mk

theorem RepoId.restores (r : RepoId) : Restores (depth + 1) RepoId.decode r.encode r :=
  (((Fields.Restores.required "owner" (.string r.owner)).map RepoId.mk).andRequired "repo"
    (.string r.repo) rfl).record _

theorem ErrorKind.restores (k : ErrorKind) : Restores depth ErrorKind.decode k.encode k :=
  .name (by cases k <;> rfl)

theorem PullRequest.restores (p : PullRequest) : Restores (depth + 1) PullRequest.decode p.encode p :=
  ((((Fields.Restores.required "number" p.number.restores).map PullRequest.mk).andRequired "title"
    (.string p.title) rfl).andRequired "html_url" (.string p.url) rfl).record _

theorem NewPullRequest.restores (r : NewPullRequest) : Fields.Restores depth NewPullRequest.fields r.members r :=
  ((((Fields.Restores.required "title" (.string r.title)).map NewPullRequest.mk).andRequired "head"
    (.string r.head) rfl).andRequired "base" (.string r.base) rfl).andRequired "body" (.string r.body) rfl

/-- The arguments of an effect are read back by the decoder for its kind. -/
theorem Effect.restores_arguments (e : Effect) :
    Restores (depth + 4) e.kind.decodeArguments (.object e.members) e := by
  cases e with
  | getRef name =>
    exact ((Fields.Restores.required "ref_name" (.string name)).map Effect.getRef).record _
  | createRef name target =>
    exact (((Fields.Restores.required "ref_name" (.string name)).map Effect.createRef).andRequired "sha"
      target.restores rfl).record _
  | updateRef name target force =>
    exact ((((Fields.Restores.required "ref_name" (.string name)).map Effect.updateRef).andRequired "sha"
      target.restores rfl).andRequired "force" (.bool force) rfl).record _
  | createTree base entries =>
    exact (((Fields.Restores.required "base_tree" base.restores).map Effect.createTree).andRequired "entries"
      (.list fun entry _ => entry.restores) rfl).record _
  | getCommit id =>
    exact ((Fields.Restores.required "sha" id.restores).map Effect.getCommit).record _
  | createCommit message author tree parents =>
    exact (((((Fields.Restores.required "message" (.string message)).map Effect.createCommit).andRequired "author"
      author.restores rfl).andRequired "tree" tree.restores rfl).andRequired "parents"
      (.list fun id _ => id.restores) rfl).record _
  | createPullRequest request =>
    exact (request.restores.map Effect.createPullRequest).record _
  | postComment issue body =>
    exact (((Fields.Restores.required "issue" issue.restores).map Effect.postComment).andRequired "body"
      (.string body) rfl).record _

theorem Effect.restores (e : Effect) : Restores (depth + 4) Effect.decode e.encode e := by
  have harguments : Restores (depth + 4) e.kind.decodeArguments (.object e.members) e := e.restores_arguments
  have hlookup : (EffectKind.all.map fun kind => (kind.name, kind.decodeArguments)).lookup e.name =
      some e.kind.decodeArguments := by
    unfold Effect.name
    cases e.kind <;> rfl
  have hlacks : "type" ∉ e.members.map (·.1) := by
    cases e <;> simp [Effect.members, NewPullRequest.members]
  cases harguments.plain with
  | object hplain => exact .merged hlookup hlacks hplain harguments

theorem Response.restores (r : Response) : Restores (depth + 3) Response.decode r.encode r := by
  have htag : "data" ≠ "type" := by decide
  cases r with
  | ref r => exact .taggedContent htag rfl (r.restores.map Response.ref)
  | tree id =>
    exact .taggedContent htag rfl (((Fields.Restores.required "sha" id.restores).map Response.tree).objectOnly _)
  | commit c => exact .taggedContent htag rfl (c.restores.map Response.commit)
  | pullRequest p => exact .taggedContent htag rfl (p.restores.map Response.pullRequest)
  | commentPosted id =>
    exact .taggedContent htag rfl
      (((Fields.Restores.required "id" id.restores).map Response.commentPosted).objectOnly _)

end Forge

/-! ## Commands and reports -/

theorem Command.restores {depth : Nat} (c : Command) : Restores (depth + 1) Command.decode c.encode c := by
  cases c with
  | createBranch => exact .taggedName rfl
  | createPr => exact .taggedName rfl
  | testPr => exact .taggedName rfl
  | unrecognized token => exact .taggedContent (by decide) rfl ((Restores.string token).map Command.unrecognized)
  | absent => exact .taggedName rfl

namespace Workflow

variable {depth : Nat}

theorem restores (w : Workflow) : Restores depth decode w.encode w :=
  .name (by cases w <;> rfl)

theorem Step.restores (s : Step) : Restores depth Step.decode s.encode s :=
  .name (by cases s <;> rfl)

theorem Completed.restores (c : Completed) : Restores (depth + 4) Completed.decode c.encode c :=
  (((Fields.Restores.required "step" c.step.restores).map Completed.mk).andRequired "output"
    c.output.restores rfl).record _

theorem Failure.restores (f : Failure) : Restores (depth + 1) Failure.decode f.encode f :=
  (((((Fields.Restores.required "step" f.step.restores).map Failure.mk).andRequired "kind"
    f.kind.restores rfl).andOptional "status_code" (.option (fun code _ => .uint16 code) (by nofun)) rfl).andRequired
    "message" (.string f.message) rfl).record _

theorem Report.restores (r : Report) : Restores (depth + 6) Report.decode r.encode r :=
  ((((Fields.Restores.required "workflow" r.workflow.restores).map Report.mk).andRequired "completed"
    (.list fun c _ => c.restores) rfl).andOptional "failure"
    (.option (fun f _ => f.restores) (by nofun)) rfl).record _

end Workflow

/-! ## Comment events -/

namespace Comment

variable {depth : Nat}

theorem Action.restores (a : Action) : Restores (depth + 1) Action.decode a.encode a := by
  cases a with
  | created => exact .named rfl
  | edited => exact .named rfl
  | deleted => exact .named rfl
  | other name => exact .carrying rfl ((Restores.string name).map Action.other)

theorem Event.restores (e : Event) : Restores (depth + 3) Event.decode e.encode e := by
  have hrepo : Fields.Restores (depth + 1) _ _ e.repo := .required "repo" e.repo.restores
  have hnames := (hrepo.map Event.mk).andRequired "action" e.action.restores rfl
  have hnumbers := ((hnames.andRequired "issue_number" e.issue.restores rfl).andRequired "is_pull_request"
    (.bool e.isPullRequest) rfl).andRequired "comment_id" e.id.restores rfl
  have htexts := (hnumbers.andRequired "body" (.string e.body) rfl).andRequired "author_login" (.string e.author) rfl
  have hevent := htexts.andOptional "installation_id"
    (.option (o := e.installation) (fun id _ => id.restores) (by nofun)) rfl
  exact .carrying rfl (hevent.record _)

end Comment

/-! ## All types -/

/-- What `encode` writes is read back by `decode`. So a text that is read, in whatever spelling, comes to the same value
as the text that is written for this value. -/
structure RoundTrips {α : Type} (encode : α → Value) (decode : Decoder α) : Prop where
  returns : ∀ a, decode.readAll (Text.utf8 (encode a).text) = .ok a
  stable : ∀ octets a, decode.readAll octets = .ok a →
    decode.readAll (Text.utf8 (encode a).text) = decode.readAll octets

theorem RoundTrips.of_restores {α : Type} {encode : α → Value} {decode : Decoder α} (brackets : Nat)
    (h : ∀ depth a, Restores (depth + brackets) decode (encode a) a) (hle : brackets ≤ 127) :
    RoundTrips encode decode where
  returns a := (h 0 a).readAll (by omega)
  stable octets a hread := by rw [hread, (h 0 a).readAll (by omega)]

/-- **Reading undoes writing**, for every type that is written and read as JSON. -/
theorem written_values_return :
    RoundTrips Git.Reference.encode Git.Reference.decode ∧
    RoundTrips Git.TreeEntry.encode Git.TreeEntry.decode ∧
    RoundTrips Git.Commit.encode Git.Commit.decode ∧
    RoundTrips Forge.PullRequest.encode Forge.PullRequest.decode ∧
    RoundTrips Command.encode Command.decode ∧
    RoundTrips Forge.Effect.encode Forge.Effect.decode ∧
    RoundTrips Forge.Response.encode Forge.Response.decode ∧
    RoundTrips Workflow.Failure.encode Workflow.Failure.decode ∧
    RoundTrips Workflow.Completed.encode Workflow.Completed.decode ∧
    RoundTrips Workflow.Report.encode Workflow.Report.decode ∧
    RoundTrips Comment.Action.encode Comment.Action.decode ∧
    RoundTrips Comment.Event.encode Comment.Event.decode :=
  ⟨.of_restores 1 (fun _ r => r.restores) (by decide), .of_restores 2 (fun _ e => e.restores) (by decide),
    .of_restores 2 (fun _ c => c.restores) (by decide), .of_restores 1 (fun _ p => p.restores) (by decide),
    .of_restores 1 (fun _ c => c.restores) (by decide), .of_restores 4 (fun _ e => e.restores) (by decide),
    .of_restores 3 (fun _ r => r.restores) (by decide), .of_restores 1 (fun _ f => f.restores) (by decide),
    .of_restores 4 (fun _ c => c.restores) (by decide), .of_restores 6 (fun _ r => r.restores) (by decide),
    .of_restores 1 (fun _ a => a.restores) (by decide), .of_restores 3 (fun _ e => e.restores) (by decide)⟩

end CommentBot
