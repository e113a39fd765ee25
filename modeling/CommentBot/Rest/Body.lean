import CommentBot.Forge.Interaction
import CommentBot.Rest.Comment

/-!
# Bodies of answers

The members of an answer that matter, and what is made of them. Ids of objects are read as any strings first:
a wrong one is no fault of the text but an answer that cannot be used.
-/

namespace CommentBot.Rest

open Json Forge Git

/-- The id that a member of an answer names. -/
def objectId (member text : String) : Except ApiError ObjectId :=
  (ObjectId.parse text).mapError fun e => .invalidResponse s!"{member} in response: {e.message}"

/-- An answer that is a reference. -/
structure RefBody where
  name : String
  target : String

/-- Reads a record of an id, which may be any string. -/
def anyId (wanted : String) : Decoder String := Fields.record wanted <| id <$> .required "sha" .string

/-- Reads a reference. -/
def RefBody.decode : Decoder RefBody :=
  Fields.record "struct RefResponse" <|
    RefBody.mk <$> .required "ref" .string <*> .required "object" (anyId "struct RefObject")

/-- The response that a reference makes. -/
def RefBody.response (b : RefBody) : Answer := do
  return .ref ⟨b.name, ← objectId "object.sha" b.target⟩

/-- Reads the id of a tree. -/
def treeBody : Decoder String := anyId "struct CreateTreeResponse"

/-- The response that the id of a tree makes. -/
def treeResponse (text : String) : Answer := do
  return .tree (← objectId "sha" text)

/-- An answer that is a commit. -/
structure CommitBody where
  id : String
  message : String
  author : Signature
  tree : String
  parents : List String

/-- Reads a commit. -/
def CommitBody.decode : Decoder CommitBody :=
  Fields.record "struct CommitResponse" <|
    CommitBody.mk <$> .required "sha" .string <*> .required "message" .string
      <*> .required "author" (Signature.fields.record "struct AuthorResponse")
      <*> .required "tree" (anyId "struct ShaOnly")
      <*> .required "parents" (.list (anyId "struct ShaOnly"))

/-- The response that a commit makes. -/
def CommitBody.response (b : CommitBody) : Answer := do
  let parents ← b.parents.mapM (objectId "parents[].sha")
  let id ← objectId "sha" b.id
  let tree ← objectId "tree.sha" b.tree
  return .commit ⟨id, b.message, b.author, tree, parents⟩

/-- An answer that is a pull request. -/
structure PullRequestBody where
  number : UInt64
  title : Option String
  url : Option String

/-- Reads a pull request. -/
def PullRequestBody.decode : Decoder PullRequestBody :=
  Fields.record "struct PullRequestResponse" <|
    PullRequestBody.mk <$> .required "number" .uint64 <*> .optional "title" .string
      <*> .optional "html_url" .string

/-- The response that a pull request makes. Its title is the one asked for unless the answer has another. -/
def PullRequestBody.response (title : String) (b : PullRequestBody) : Answer :=
  match b.url with
  | some url => .ok (.pullRequest ⟨⟨b.number⟩, b.title.getD title, url⟩)
  | none => .error (.invalidResponse s!"pull request #{b.number.toNat} has no html_url")

/-- How the body of an answer is read, and what is made of it. -/
structure Reading where
  {α : Type}
  decode : Decoder α
  response : α → Answer

/-- How the answer to an effect is read. -/
def reading : Effect → Reading
  | .getRef _ => ⟨RefBody.decode, RefBody.response⟩
  | .createRef .. => ⟨RefBody.decode, RefBody.response⟩
  | .updateRef .. => ⟨RefBody.decode, RefBody.response⟩
  | .createTree .. => ⟨treeBody, treeResponse⟩
  | .getCommit _ => ⟨CommitBody.decode, CommitBody.response⟩
  | .createCommit .. => ⟨CommitBody.decode, CommitBody.response⟩
  | .createPullRequest request => ⟨PullRequestBody.decode, PullRequestBody.response request.title⟩
  | .postComment .. => ⟨comment, fun id => .ok (.commentPosted ⟨id⟩)⟩

end CommentBot.Rest
