/-!
# Messages of the server

A request as it comes in, and the reply that goes out.
-/

namespace CommentBot.Server

/-- A request to the server. -/
structure Request where
  method : String
  /-- The target as it was sent, with its query: a path, or a URL with scheme and host. -/
  target : String
  headers : List (String × String)
  body : List UInt8

namespace Request

/-- Whether the character may stand in the scheme of a target. -/
def isOfScheme (c : Char) : Bool := c.isAlphanum || c = '+' || c = '-' || c = '.'

/-- A target without scheme and host, if it has them. A host alone leaves the root, and what has neither a
scheme nor a leading slash names no resource. -/
def resource (target : List Char) : List Char :=
  match target, target.dropWhile isOfScheme with
  | '/' :: rest, _ => '/' :: rest
  | _, ':' :: '/' :: '/' :: rest =>
    match rest.dropWhile fun c => c ≠ '/' && c ≠ '?' && c ≠ '#' with
    | '/' :: path => '/' :: path
    | behind => '/' :: behind
  | _, _ => []

/-- The resource that the request names, without its query. -/
def path (r : Request) : String :=
  String.ofList ((resource r.target.toList).takeWhile fun c => c ≠ '?' && c ≠ '#')

/-- Whether a header value holds nothing but tabs, blanks and visible ASCII characters. -/
def isReadable (value : String) : Bool :=
  value.toList.all fun c => c = '\t' || (32 ≤ c.toNat && c.toNat ≤ 126)

/-- The value of the first header with a name, if it is readable. The size of the letters in names does not
matter. -/
def header? (r : Request) (name : String) : Option String :=
  ((r.headers.find? fun entry => entry.1.toLower == name).map (·.2)).filter isReadable

end Request

/-- A reply of the server. -/
structure Reply where
  status : Nat
  /-- The methods that the path takes, if the request had another one. -/
  allow : Option String := none
  body : String
  deriving DecidableEq, Repr

end CommentBot.Server
