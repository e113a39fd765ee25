import CommentBot.Git.Object
import CommentBot.Json.Decoder.Choice
import CommentBot.Time.Rfc3339

/-!
# Git objects as JSON
-/

namespace CommentBot

open Json

/-- An instant as its text. -/
def Time.Instant.encode (t : Time.Instant) : Value := .string t.text

/-- Reads an instant in any of the spellings of `Instant.read`. -/
def Time.Instant.decode : Decoder Time.Instant
  | _, .scalar (.string s) => do
    match Time.Instant.read (← s.read) with
    | .ok t => return t
    | .error e => problem (.rejected e.message)
  | _, n => unexpected "an RFC 3339 formatted date and time string" n

namespace Git

/-- An id as its text. -/
def ObjectId.encode (id : ObjectId) : Value := .string id.text

/-- Reads an id. -/
def ObjectId.decode : Decoder ObjectId :=
  .refine .string fun text => (ObjectId.parse text).mapError (·.message)

/-- A reference as a record. -/
def Reference.encode (r : Reference) : Value :=
  .object [("ref_name", .string r.name), ("sha", r.target.encode)]

/-- Reads a reference. -/
def Reference.decode : Decoder Reference :=
  Fields.record "struct GitReference" <|
    Reference.mk <$> .required "ref_name" .string <*> .required "sha" ObjectId.decode

/-- A mode as its digits. -/
def FileMode.encode (m : FileMode) : Value := .string m.text

/-- Reads a mode. -/
def FileMode.decode : Decoder FileMode :=
  .name [(FileMode.text .regular, .regular), (FileMode.text .executable, .executable)]

/-- A kind as its name. -/
def ObjectKind.encode (k : ObjectKind) : Value := .string k.text

/-- Reads a kind. -/
def ObjectKind.decode : Decoder ObjectKind := .name [(ObjectKind.text .blob, .blob)]

/-- Contents as a member whose key says where they come from. -/
def Content.encode : Content → Value
  | .inline text => .object [("inline", .string text)]
  | .blob id => .object [("blob", id.encode)]

/-- Reads contents. -/
def Content.decode : Decoder Content :=
  .choice [("inline", .carrying (.map .inline .string)), ("blob", .carrying (.map .blob ObjectId.decode))]

/-- An entry of a tree as a record. -/
def TreeEntry.encode (e : TreeEntry) : Value :=
  .object [("path", .string e.path), ("mode", e.mode.encode), ("kind", e.kind.encode),
    ("content", e.content.encode)]

/-- Reads an entry of a tree. -/
def TreeEntry.decode : Decoder TreeEntry :=
  Fields.record "struct TreeEntry" <|
    TreeEntry.mk <$> .required "path" .string <*> .required "mode" FileMode.decode
      <*> .required "kind" ObjectKind.decode <*> .required "content" Content.decode

/-- A signature as a record. -/
def Signature.encode (s : Signature) : Value :=
  .object [("name", .string s.name), ("email", .string s.email), ("date", s.date.encode)]

/-- The fields of a signature. -/
def Signature.fields : Fields Signature :=
  Signature.mk <$> .required "name" .string <*> .required "email" .string
    <*> .required "date" Time.Instant.decode

/-- Reads a signature. -/
def Signature.decode : Decoder Signature := Signature.fields.record "struct CommitAuthor"

/-- A commit as a record. -/
def Commit.encode (c : Commit) : Value :=
  .object [("sha", c.id.encode), ("message", .string c.message), ("author", c.author.encode),
    ("tree", c.tree.encode), ("parents", .ofList ObjectId.encode c.parents)]

/-- Reads a commit. -/
def Commit.decode : Decoder Commit :=
  Fields.record "struct CommitData" <|
    Commit.mk <$> .required "sha" ObjectId.decode <*> .required "message" .string
      <*> .required "author" Signature.decode <*> .required "tree" ObjectId.decode
      <*> .required "parents" (.list ObjectId.decode)

end Git

end CommentBot
