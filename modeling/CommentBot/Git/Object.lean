import CommentBot.Git.ObjectId
import CommentBot.Time.Instant

/-!
# Git objects

Objects never change once they are stored; only a reference can be pointed at another object.
-/

namespace CommentBot.Git

/-- A name for an object, such as `refs/heads/main`. -/
structure Reference where
  name : String
  target : ObjectId
  deriving DecidableEq, Repr

/-- A name without the leading `refs/`. -/
def Reference.shortName (r : Reference) : String :=
  if "refs/".toList.isPrefixOf r.name.toList then String.ofList (r.name.toList.drop 5) else r.name

/-- How a file may be used. -/
inductive FileMode
  | regular
  | executable
  deriving DecidableEq, Repr

/-- The mode in octal digits. -/
def FileMode.text : FileMode → String
  | regular => "100644"
  | executable => "100755"

/-- What an entry of a tree names. -/
inductive ObjectKind
  | blob
  deriving DecidableEq, Repr

/-- The name of the kind. -/
def ObjectKind.text : ObjectKind → String
  | blob => "blob"

/-- Where the octets of a file come from. -/
inductive Content
  | inline (text : String)
  | blob (id : ObjectId)
  deriving DecidableEq, Repr

/-- A file in a tree. -/
structure TreeEntry where
  path : String
  mode : FileMode
  kind : ObjectKind
  content : Content
  deriving DecidableEq, Repr

/-- A regular file with the given text. -/
def TreeEntry.file (path text : String) : TreeEntry := ⟨path, .regular, .blob, .inline text⟩

/-- Who did something, and when. -/
structure Signature where
  name : String
  email : String
  date : Time.Instant
  deriving DecidableEq, Repr

/-- A tree with its history. -/
structure Commit where
  id : ObjectId
  message : String
  author : Signature
  tree : ObjectId
  parents : List ObjectId
  deriving DecidableEq, Repr

end CommentBot.Git
