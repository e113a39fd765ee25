import CommentBot.Forge.ApiError
import CommentBot.Forge.Response
import CommentBot.Git.Codec

/-!
# Effects and responses as JSON
-/

namespace CommentBot.Forge

open Json Git

/-- An issue number as a number. -/
def IssueNumber.encode (n : IssueNumber) : Value := .nat n.value.toNat

/-- Reads an issue number. -/
def IssueNumber.decode : Decoder IssueNumber := .map .mk .uint64

/-- A comment id as a number. -/
def CommentId.encode (id : CommentId) : Value := .nat id.value.toNat

/-- Reads a comment id. -/
def CommentId.decode : Decoder CommentId := .map .mk .uint64

/-- An installation id as a number. -/
def InstallationId.encode (id : InstallationId) : Value := .nat id.value.toNat

/-- Reads an installation id. -/
def InstallationId.decode : Decoder InstallationId := .map .mk .uint64

/-- A delivery id as a string. -/
def DeliveryId.encode (id : DeliveryId) : Value := .string id.value

/-- Reads a delivery id. -/
def DeliveryId.decode : Decoder DeliveryId := .map .mk .string

/-- A repository's names as a record. -/
def RepoId.encode (r : RepoId) : Value := .object [("owner", .string r.owner), ("repo", .string r.repo)]

/-- Reads a repository's names. -/
def RepoId.decode : Decoder RepoId :=
  Fields.record "struct RepoId" <| RepoId.mk <$> .required "owner" .string <*> .required "repo" .string

/-- A kind of error as its name. -/
def ErrorKind.encode (k : ErrorKind) : Value := .string k.name

/-- Reads a kind of error. -/
def ErrorKind.decode : Decoder ErrorKind := .name (ErrorKind.all.map fun k => (k.name, k))

/-- The members of a request for a pull request. -/
def NewPullRequest.members (r : NewPullRequest) : List (String × Value) :=
  [("title", .string r.title), ("head", .string r.head), ("base", .string r.base), ("body", .string r.body)]

/-- A request for a pull request as a record. -/
def NewPullRequest.encode (r : NewPullRequest) : Value := .object r.members

/-- The fields of a request for a pull request. -/
def NewPullRequest.fields : Fields NewPullRequest :=
  NewPullRequest.mk <$> .required "title" .string <*> .required "head" .string
    <*> .required "base" .string <*> .required "body" .string

/-- A pull request as a record. -/
def PullRequest.encode (p : PullRequest) : Value :=
  .object [("number", p.number.encode), ("title", .string p.title), ("html_url", .string p.url)]

/-- Reads a pull request. -/
def PullRequest.decode : Decoder PullRequest :=
  Fields.record "struct PullRequestData" <|
    PullRequest.mk <$> .required "number" IssueNumber.decode <*> .required "title" .string
      <*> .required "html_url" .string

/-! ## Effects -/

/-- The members of an effect besides its name. -/
def Effect.members : Effect → List (String × Value)
  | getRef name => [("ref_name", .string name)]
  | createRef name target => [("ref_name", .string name), ("sha", target.encode)]
  | updateRef name target force =>
    [("ref_name", .string name), ("sha", target.encode), ("force", .bool force)]
  | createTree base entries => [("base_tree", base.encode), ("entries", .ofList TreeEntry.encode entries)]
  | getCommit id => [("sha", id.encode)]
  | createCommit message author tree parents =>
    [("message", .string message), ("author", author.encode), ("tree", tree.encode),
      ("parents", .ofList ObjectId.encode parents)]
  | createPullRequest request => request.members
  | postComment issue body => [("issue", issue.encode), ("body", .string body)]

/-- An effect as a record of its name and its arguments. -/
def Effect.encode (e : Effect) : Value := .object (("type", .string e.name) :: e.members)

/-- Reads the arguments of an effect of a kind. -/
def EffectKind.decodeArguments : EffectKind → Decoder Effect
  | getRef =>
    Fields.record "struct variant GitHubEffect::GetRef" <| Effect.getRef <$> .required "ref_name" .string
  | createRef =>
    Fields.record "struct variant GitHubEffect::CreateRef" <|
      Effect.createRef <$> .required "ref_name" .string <*> .required "sha" ObjectId.decode
  | updateRef =>
    Fields.record "struct variant GitHubEffect::UpdateRef" <|
      Effect.updateRef <$> .required "ref_name" .string <*> .required "sha" ObjectId.decode
        <*> .required "force" .bool
  | createTree =>
    Fields.record "struct variant GitHubEffect::CreateTree" <|
      Effect.createTree <$> .required "base_tree" ObjectId.decode
        <*> .required "entries" (.list TreeEntry.decode)
  | getCommit =>
    Fields.record "struct variant GitHubEffect::GetCommit" <|
      Effect.getCommit <$> .required "sha" ObjectId.decode
  | createCommit =>
    Fields.record "struct variant GitHubEffect::CreateCommit" <|
      Effect.createCommit <$> .required "message" .string <*> .required "author" Signature.decode
        <*> .required "tree" ObjectId.decode <*> .required "parents" (.list ObjectId.decode)
  | createPullRequest =>
    Fields.record "struct NewPullRequest" <| Effect.createPullRequest <$> NewPullRequest.fields
  | postComment =>
    Fields.record "struct variant GitHubEffect::PostComment" <|
      Effect.postComment <$> .required "issue" IssueNumber.decode <*> .required "body" .string

/-- Reads an effect. -/
def Effect.decode : Decoder Effect :=
  .merged "internally tagged enum GitHubEffect" "type"
    (EffectKind.all.map fun kind => (kind.name, kind.decodeArguments))

/-! ## Responses -/

/-- What an answer holds, as JSON. -/
def Response.payload : Response → Value
  | ref r => r.encode
  | tree id => .object [("sha", id.encode)]
  | commit c => c.encode
  | pullRequest p => p.encode
  | commentPosted id => .object [("id", id.encode)]

/-- An answer as a record of the name of its shape and what it holds. -/
def Response.encode (r : Response) : Value :=
  .object [("type", .string r.name), ("data", r.payload)]

/-- Reads an answer. -/
def Response.decode : Decoder Response :=
  .tagged ⟨"adjacently tagged enum GitHubResponse", "type", "data"⟩ [
    (Shape.ref.name, .carrying (.map .ref Reference.decode)),
    (Shape.tree.name, .carrying <| Fields.objectOnly "struct variant GitHubResponse::Tree" <|
      Response.tree <$> .required "sha" ObjectId.decode),
    (Shape.commit.name, .carrying (.map .commit Commit.decode)),
    (Shape.pullRequest.name, .carrying (.map .pullRequest PullRequest.decode)),
    (Shape.commentPosted.name,
      .carrying <| Fields.objectOnly "struct variant GitHubResponse::CommentPosted" <|
        Response.commentPosted <$> .required "id" CommentId.decode)]

end CommentBot.Forge
