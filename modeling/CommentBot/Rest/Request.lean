import CommentBot.Forge.Codec
import CommentBot.Text.Percent

/-!
# Requests

Every effect on a repository is one HTTP request. The method, the route and the body say which.
-/

namespace CommentBot.Rest

open Json Forge Git

/-- What a request does. -/
inductive Method
  | get
  | post
  | patch
  deriving DecidableEq, Repr

/-- The name of a method. -/
def Method.name : Method → String
  | get => "GET"
  | post => "POST"
  | patch => "PATCH"

/-- An HTTP request. -/
structure Request where
  method : Method
  route : String
  body : Option Value

/-- The route of something in a repository. -/
def repoRoute (repo : RepoId) (tail : String) : String := "/repos/" ++ repo.owner ++ "/" ++ repo.repo ++ "/" ++ tail

/-- An entry of a tree in the body of a request: the octets of the file, or the id that names them. -/
def entryBody (e : TreeEntry) : Value :=
  .object <| [("path", .string e.path), ("mode", .string e.mode.text), ("type", .string e.kind.text)] ++
    match e.content with
    | .inline text => [("content", .string text)]
    | .blob id => [("sha", id.encode)]

/-- The method of an effect. -/
def effectMethod : Effect → Method
  | .getRef _ => .get
  | .getCommit _ => .get
  | .updateRef .. => .patch
  | _ => .post

/-- The route of an effect, behind that of the repository. -/
def effectTail : Effect → String
  | .getRef name => "git/ref/" ++ Text.percentEncodePath name
  | .createRef .. => "git/refs"
  | .updateRef name _ _ => "git/refs/" ++ Text.percentEncodePath name
  | .createTree .. => "git/trees"
  | .getCommit id => "git/commits/" ++ id.text
  | .createCommit .. => "git/commits"
  | .createPullRequest _ => "pulls"
  | .postComment issue _ => s!"issues/{issue.value.toNat}/comments"

/-- The body of an effect. -/
def effectBody? : Effect → Option Value
  | .getRef _ => none
  | .createRef name target => some (.object [("ref", .string name), ("sha", target.encode)])
  | .updateRef _ target force => some (.object [("sha", target.encode), ("force", .bool force)])
  | .createTree base entries =>
    some (.object [("base_tree", base.encode), ("tree", .ofList entryBody entries)])
  | .getCommit _ => none
  | .createCommit message author tree parents =>
    some (.object [("message", .string message), ("tree", tree.encode),
      ("parents", .ofList ObjectId.encode parents), ("author", author.encode)])
  | .createPullRequest request => some request.encode
  | .postComment _ body => some (.object [("body", .string body)])

/-- The request of an effect on a repository. -/
def Request.ofEffect (repo : RepoId) (e : Effect) : Request :=
  ⟨effectMethod e, repoRoute repo (effectTail e), effectBody? e⟩

/-! ## What can be sent -/

/-- Whether a character may stand in the path of a request. -/
def mayStandInPath (c : Char) : Bool :=
  32 < c.toNat && c.toNat ≠ 127 && !(['<', '>', '`'].contains c)

/-- Whether a character may stand behind the question mark of a request. -/
def mayStandInQuery (c : Char) : Bool :=
  32 < c.toNat && c.toNat ≠ 127 && !(['"', '<', '>'].contains c)

/-- The part of a route in front of its fragment. -/
def withoutFragment (route : List Char) : List Char := route.takeWhile (· ≠ '#')

/-- How many octets a route may have. -/
def longestRoute : Nat := 65534

/-- Whether a route without fragment can be sent: a path, and perhaps a question mark and a query. -/
def isSendable (route : List Char) : Bool :=
  (route.takeWhile (· ≠ '?')).all mayStandInPath && (route.dropWhile (· ≠ '?')).all mayStandInQuery

/-- The request as it is sent, if it can be. -/
def Request.sent? (r : Request) : Option Request :=
  let route := withoutFragment r.route.toList
  if r.route.utf8ByteSize ≤ longestRoute && isSendable route then
    some { r with route := String.ofList route }
  else none

end CommentBot.Rest
