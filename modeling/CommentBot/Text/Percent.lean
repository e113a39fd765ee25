import CommentBot.Text.Utf8

/-!
# Percent-encoding

Octets outside the unreserved set are written as `%` and two capital hexadecimal digits. A path is
encoded segment by segment, so its slashes keep their meaning.
-/

namespace CommentBot.Text

/-- Whether the octet is a letter, a digit, or one of `-`, `.`, `_`, `~`. -/
def isUnreserved (octet : UInt8) : Bool :=
  let c := Char.ofNat octet.toNat
  c.isAlphanum || c = '-' || c = '.' || c = '_' || c = '~'

/-- The digit of value `n`, for `n` below sixteen, in capital letters. -/
def upperHexDigit (n : Nat) : Char :=
  if n < 10 then Char.ofNat (48 + n) else Char.ofNat (55 + n)

/-- One octet, escaped unless it is unreserved. -/
def percentOctet (octet : UInt8) : List Char :=
  if isUnreserved octet then [Char.ofNat octet.toNat]
  else ['%', upperHexDigit (octet.toNat / 16), upperHexDigit (octet.toNat % 16)]

/-- The value of a hexadecimal digit. -/
def hexValue? (octet : UInt8) : Option UInt8 :=
  if 48 ≤ octet && octet ≤ 57 then some (octet - 48)
  else if 65 ≤ octet && octet ≤ 70 then some (octet - 55)
  else if 97 ≤ octet && octet ≤ 102 then some (octet - 87)
  else none

/-- Octets with the escapes among them resolved. A percent sign without two digits stands for itself. -/
def percentDecode : List UInt8 → List UInt8
  | [] => []
  | [a] => [a]
  | [a, b] => [a, b]
  | a :: b :: c :: rest =>
    match (if a = 37 then hexValue? b else none), hexValue? c with
    | some high, some low => (16 * high + low) :: percentDecode rest
    | _, _ => a :: percentDecode (b :: c :: rest)

/-- A text with every octet outside the unreserved set escaped. -/
def percentEncode (text : List Char) : List Char :=
  (text.flatMap String.utf8EncodeChar).flatMap percentOctet

/-- A path with each segment escaped and the slashes between them kept. -/
def percentEncodePath (path : String) : String :=
  String.ofList (['/'].intercalate ((path.toList.splitOn '/').map percentEncode))

end CommentBot.Text
