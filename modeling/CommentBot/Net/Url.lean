import CommentBot.Net.Domain
import CommentBot.Net.SocketAddress
import CommentBot.Text.Percent

/-!
# Absolute URLs

A URL begins with a scheme and a colon. Behind some schemes a host must come, which is a domain name or an
address, and perhaps a port. Whatever follows the host is allowed.
-/

namespace CommentBot.Net

/-- Why a text is no URL. -/
inductive UrlError
  | relative
  | emptyHost
  | invalidPort
  | invalidIPv4
  | invalidIPv6
  | invalidDomain
  | invalidCharacter
  deriving DecidableEq, Repr

/-- The words for an error. -/
def UrlError.message : UrlError → String
  | relative => "relative URL without a base"
  | emptyHost => "empty host"
  | invalidPort => "invalid port number"
  | invalidIPv4 => "invalid IPv4 address"
  | invalidIPv6 => "invalid IPv6 address"
  | invalidDomain => "invalid international domain name"
  | invalidCharacter => "invalid domain character"

namespace Url

/-- What a scheme says of the part behind it. -/
inductive SchemeKind
  /-- A host must come. -/
  | hosted
  /-- A path on this machine or, behind a host, on another one. -/
  | file
  | other
  deriving DecidableEq, Repr

/-- The kind of a scheme. -/
def schemeKind (scheme : List Char) : SchemeKind :=
  let name := String.ofList (scheme.map Char.toLower)
  if ["http", "https", "ws", "wss", "ftp"].contains name then .hosted
  else if name = "file" then .file
  else .other

/-- The characters that count: no blanks around, no tabs or line breaks within. -/
def significant (text : List Char) : List Char :=
  let trimmed := ((text.dropWhile (·.toNat ≤ 32)).reverse.dropWhile (·.toNat ≤ 32)).reverse
  trimmed.filter fun c => c ≠ '\t' && c ≠ '\n' && c ≠ '\r'

/-- The scheme of a URL, and what follows its colon. -/
def splitScheme? (text : List Char) : Option (List Char × List Char) :=
  let scheme := text.takeWhile fun c => c.isAlphanum || c = '+' || c = '-' || c = '.'
  match scheme, text.drop scheme.length with
  | c :: _, ':' :: rest => if c.isAlpha then some (scheme, rest) else none
  | _, _ => none

/-- A number of an address in decimal, octal or hexadecimal digits. -/
def ipv4Number? (part : List Char) : Option Nat :=
  let (radix, digits) := match part with
    | '0' :: 'x' :: rest => (16, rest)
    | '0' :: 'X' :: rest => (16, rest)
    | '0' :: c :: rest => (8, c :: rest)
    | digits => (10, digits)
  if part.isEmpty then none
  else if digits.all fun c => (digit? radix c).isSome then
    some ((digits.filterMap (digit? radix)).foldl (fun n d => radix * n + d) 0)
  else none

/-- The labels that count. An empty one at the end does not. -/
def countedLabels (labels : List (List Char)) : List (List Char) :=
  if labels.getLast? = some [] then labels.dropLast else labels

/-- Whether the last label is a number, so that the whole must be an address. -/
def endsInNumber (labels : List (List Char)) : Bool :=
  match (countedLabels labels).getLast? with
  | none => false
  | some label => !label.isEmpty && (label.all Char.isDigit || (ipv4Number? label).isSome)

/-- Refuses a wrong address of 32 bits. -/
def checkIPv4 (labels : List (List Char)) : Except UrlError Unit :=
  let parts := countedLabels labels
  match (parts.mapM ipv4Number?).map List.reverse with
  | some (last :: others) =>
    if parts.length ≤ 4 && last < Nat.pow 256 (5 - parts.length) && others.all (· < 256) then .ok ()
    else .error .invalidIPv4
  | _ => .error .invalidIPv4

/-- Refuses a wrong domain name. -/
def checkDomain (text : List Char) : Except UrlError Unit :=
  match Domain.labels? text with
  | none => .error .invalidDomain
  | some [[]] => .error .emptyHost
  | some labels => if endsInNumber labels then checkIPv4 labels else .ok ()

/-- Refuses a wrong address of 128 bits, from behind the opening bracket on. -/
def checkIPv6 (text : List Char) : Except UrlError Unit :=
  match text.getLast?, IPv6.read text.dropLast with
  | some ']', some (_, []) => .ok ()
  | _, _ => .error .invalidIPv6

/-- Refuses a wrong host. -/
def checkHost (host : List Char) : Except UrlError Unit :=
  match host with
  | '[' :: rest => checkIPv6 rest
  | _ =>
    match Text.ofUtf8? (Text.percentDecode (host.flatMap String.utf8EncodeChar)) with
    | none => .error .invalidDomain
    | some domain => checkDomain domain.toList

/-- Whether the character may not stand in a host behind a scheme that needs none. -/
def isForbiddenOpaque (c : Char) : Bool :=
  "\x00\t\n\r #/:<>?@[\\]^|".toList.contains c

/-- Refuses a host behind a scheme that needs none, if it is wrong. -/
def checkOpaqueHost (host : List Char) : Except UrlError Unit :=
  match host with
  | '[' :: rest => checkIPv6 rest
  | _ => if host.any isForbiddenOpaque then .error .invalidCharacter else .ok ()

/-- The host, up to a colon outside brackets, and what follows it. -/
def splitHost (inBrackets : Bool) : List Char → List Char × List Char
  | [] => ([], [])
  | c :: rest =>
    if c = ':' && !inBrackets then ([], c :: rest)
    else
      let (host, rest) := splitHost (c = '[' || (inBrackets && c ≠ ']')) rest
      (c :: host, rest)

/-- Whether the character ends a port. -/
def endsPort (c : Char) : Bool := c = '/' || c = '\\' || c = '?' || c = '#'

/-- Refuses a wrong port. -/
def checkPort (text : List Char) : Except UrlError Unit :=
  let port := text.takeWhile (!endsPort ·)
  if port.all Char.isDigit && (port.filterMap (digit? 10)).foldl (fun n d => 10 * n + d) 0 < 65536 then .ok ()
  else .error .invalidPort

/-- Refuses a wrong host with a port. A host may be missing where it need not come, but then there is no port. -/
def checkHostAndPort (kind : SchemeKind) (text : List Char) : Except UrlError Unit := do
  let (host, rest) := splitHost false text
  if host.isEmpty && (kind = .hosted || !rest.isEmpty) then .error .emptyHost
  if kind = .other then checkOpaqueHost host else checkHost host
  checkPort rest.tail

/-- Whether the character separates the parts of a path. -/
def isSlash (kind : SchemeKind) (c : Char) : Bool := c = '/' || (kind ≠ .other && c = '\\')

/-- What stands in front of the path, and what follows it. -/
def splitAuthority (kind : SchemeKind) (text : List Char) : List Char × List Char :=
  let authority := text.takeWhile fun c => !isSlash kind c && c ≠ '?' && c ≠ '#'
  (authority, text.drop authority.length)

/-- The parts in front of and behind the last character `@`, if there is one. -/
def splitUser? (authority : List Char) : Option (List Char × List Char) :=
  if authority.contains '@' then
    let host := (authority.reverse.takeWhile (· ≠ '@')).reverse
    some (authority.take (authority.length - host.length - 1), host)
  else none

/-- Refuses a wrong authority: perhaps a user, a host and perhaps a port. A host must follow a user, and
something must follow the mark of a user without name. -/
def checkAuthority (kind : SchemeKind) (text : List Char) : Except UrlError Unit := do
  let (authority, path) := splitAuthority kind text
  match splitUser? authority with
  | none => checkHostAndPort kind authority
  | some (user, host) =>
    if user.isEmpty && host.isEmpty && !path.isEmpty then .error .emptyHost
    checkHostAndPort kind host
    if host.isEmpty && !user.isEmpty && user ≠ [':'] then .error .emptyHost

/-- Whether the text is a letter and a mark behind it, which stand for a drive and not for a host. -/
def isDrive : List Char → Bool
  | [letter, mark] => letter.isAlpha && (mark = ':' || mark = '|')
  | _ => false

/-- Refuses a wrong host in front of a path on a machine. -/
def checkFileHost (text : List Char) : Except UrlError Unit :=
  let host := (splitAuthority .file text).1
  if host.isEmpty || isDrive host then .ok () else checkHost host

/-- Refuses a text that is no absolute URL. -/
def check (text : String) : Except UrlError Unit :=
  match splitScheme? (significant text.toList) with
  | none => .error .relative
  | some (scheme, rest) =>
    match schemeKind scheme, rest with
    | .hosted, rest => checkAuthority .hosted (rest.dropWhile (isSlash .hosted))
    | .file, a :: b :: rest => if isSlash .file a && isSlash .file b then checkFileHost rest else .ok ()
    | .other, '/' :: '/' :: rest => checkAuthority .other rest
    | _, _ => .ok ()

end Url

end CommentBot.Net
