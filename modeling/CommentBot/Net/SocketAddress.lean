/-!
# Socket addresses

An address of a machine with a port: four decimal octets, or eight groups of hexadecimal digits in
brackets, of which one run of zeros may be left out.
-/

namespace CommentBot.Net

/-- An address of 32 bits. -/
structure IPv4 where
  a : UInt8
  b : UInt8
  c : UInt8
  d : UInt8
  deriving DecidableEq, Repr

/-- An address of 128 bits, in groups of sixteen. -/
structure IPv6 where
  groups : List UInt16
  length_groups : groups.length = 8
  deriving DecidableEq, Repr

/-- An address with a port. An address of 128 bits may be bound to one link of the machine. -/
inductive SocketAddress
  | v4 (ip : IPv4) (port : UInt16)
  | v6 (ip : IPv6) (scope : UInt32) (port : UInt16)
  deriving DecidableEq, Repr

/-! ## Writing -/

/-- The octets, with points between them. -/
def IPv4.text (ip : IPv4) : String :=
  s!"{ip.a.toNat}.{ip.b.toNat}.{ip.c.toNat}.{ip.d.toNat}"

/-- The address that two groups make up. -/
def IPv4.ofGroups (high low : UInt16) : IPv4 :=
  ⟨(high >>> 8).toUInt8, high.toUInt8, (low >>> 8).toUInt8, low.toUInt8⟩

/-- The two groups of an address. -/
def IPv4.groups (ip : IPv4) : List UInt16 :=
  [ip.a.toUInt16 <<< 8 ||| ip.b.toUInt16, ip.c.toUInt16 <<< 8 ||| ip.d.toUInt16]

/-- Groups in hexadecimal digits, with colons between them. -/
def groupsText (groups : List UInt16) : String :=
  ":".intercalate (groups.map fun g => String.ofList (Nat.toDigits 16 g.toNat))

/-- How many groups at the front are zero. -/
def leadingZeros (groups : List UInt16) : Nat := (groups.takeWhile (· = 0)).length

/-- The start and the length of the longest run of zeros, the first of them if there are several. -/
def longestZeros : List UInt16 → Nat × Nat
  | [] => (0, 0)
  | g :: rest =>
    let (start, length) := longestZeros rest
    if length ≤ leadingZeros (g :: rest) then (0, leadingZeros (g :: rest)) else (start + 1, length)

/-- The shortest text of an address. Addresses that stand for those of 32 bits end in their text. -/
def IPv6.text (ip : IPv6) : String :=
  match ip.groups with
  | [0, 0, 0, 0, 0, 0xffff, high, low] => "::ffff:" ++ (IPv4.ofGroups high low).text
  | groups =>
    let (start, length) := longestZeros groups
    if 1 < length then groupsText (groups.take start) ++ "::" ++ groupsText (groups.drop (start + length))
    else groupsText groups

namespace SocketAddress

/-- The port of an address. -/
def port : SocketAddress → UInt16
  | v4 _ port => port
  | v6 _ _ port => port

/-- Whether the address has 128 bits. -/
def isV6 : SocketAddress → Bool
  | v4 .. => false
  | v6 .. => true

/-- The text of an address. -/
def text : SocketAddress → String
  | v4 ip port => s!"{ip.text}:{port.toNat}"
  | v6 ip scope port =>
    let link := if scope = 0 then "" else s!"%{scope.toNat}"
    s!"[{ip.text}{link}]:{port.toNat}"

end SocketAddress

/-! ## Reading -/

/-- The value of a digit, if it is one in the radix. -/
def digit? (radix : Nat) (c : Char) : Option Nat :=
  let n := c.toNat
  let value := if 48 ≤ n && n ≤ 57 then n - 48 else if 97 ≤ n && n ≤ 122 then n - 87
    else if 65 ≤ n && n ≤ 90 then n - 55 else radix
  if value < radix then some value else none

/-- A number below `bound`, and what follows it. -/
def readNumber (radix bound : Nat) (text : List Char) : Option (Nat × List Char) :=
  let digits := text.takeWhile fun c => (digit? radix c).isSome
  let value := (digits.filterMap (digit? radix)).foldl (fun n d => radix * n + d) 0
  if digits.isEmpty || bound ≤ value then none else some (value, text.drop digits.length)

/-- A decimal octet without leading zeros. -/
def readOctet (text : List Char) : Option (UInt8 × List Char) := do
  let (value, rest) ← readNumber 10 UInt8.size text
  if text.head? = some '0' && rest.length + 1 < text.length then none
  else some (UInt8.ofNat value, rest)

/-- A group of at most four hexadecimal digits. -/
def readGroup (text : List Char) : Option (UInt16 × List Char) := do
  let (value, rest) ← readNumber 16 UInt16.size text
  if rest.length + 4 < text.length then none else some (UInt16.ofNat value, rest)

/-- One character that must come next. -/
def readMark (mark : Char) : List Char → Option (List Char)
  | [] => none
  | c :: rest => if c = mark then some rest else none

/-- A separator, unless nothing comes before it. -/
def readSeparator (isFirst : Bool) (mark : Char) (text : List Char) : Option (List Char) :=
  if isFirst then some text else readMark mark text

/-- An address of four octets. -/
def IPv4.read (text : List Char) : Option (IPv4 × List Char) := do
  let (a, rest) ← readOctet text
  let (b, rest) ← readOctet (← readMark '.' rest)
  let (c, rest) ← readOctet (← readMark '.' rest)
  let (d, rest) ← readOctet (← readMark '.' rest)
  return (⟨a, b, c, d⟩, rest)

/-- Up to `room` groups, as many as there are. An address of four octets may stand for the last two; then
the flag is set. -/
def readGroups (isFirst : Bool) : Nat → List Char → List UInt16 × Bool × List Char
  | 0, text => ([], false, text)
  | room + 1, text =>
    let embedded := if room = 0 then none else (readSeparator isFirst ':' text).bind IPv4.read
    match embedded with
    | some (ip, rest) => (ip.groups, true, rest)
    | none =>
      match (readSeparator isFirst ':' text).bind readGroup with
      | some (g, rest) =>
        let (groups, mixed, rest) := readGroups false room rest
        (g :: groups, mixed, rest)
      | none => ([], false, text)

/-- An address of eight groups, or of fewer with two colons for at least one group of zeros. -/
def IPv6.read (text : List Char) : Option (IPv6 × List Char) := do
  let (front, mixed, rest) := readGroups true 8 text
  if h : front.length = 8 then return (⟨front, h⟩, rest)
  if mixed then none
  let rest ← readMark ':' rest
  let rest ← readMark ':' rest
  let (back, _, rest) := readGroups true (7 - front.length) rest
  let groups := front ++ List.replicate (8 - front.length - back.length) 0 ++ back
  if h : groups.length = 8 then return (⟨groups, h⟩, rest) else none

/-- The link that an address is bound to, zero if there is none. -/
def readScope (text : List Char) : UInt32 × List Char :=
  match (readMark '%' text).bind (readNumber 10 UInt32.size) with
  | some (scope, rest) => (UInt32.ofNat scope, rest)
  | none => (0, text)

/-- A colon and a port, at the end of the text. -/
def readPort (text : List Char) : Option UInt16 := do
  let (port, rest) ← readNumber 10 UInt16.size (← readMark ':' text)
  if rest.isEmpty then some (UInt16.ofNat port) else none

namespace SocketAddress

/-- Reads an address of 32 bits. -/
def readV4 (text : List Char) : Option SocketAddress := do
  let (ip, rest) ← IPv4.read text
  return v4 ip (← readPort rest)

/-- Reads an address of 128 bits. -/
def readV6 (text : List Char) : Option SocketAddress := do
  let (ip, rest) ← IPv6.read (← readMark '[' text)
  let (scope, rest) := readScope rest
  return v6 ip scope (← readPort (← readMark ']' rest))

/-- Reads an address. -/
def read? (text : String) : Option SocketAddress :=
  (readV4 text.toList).or (readV6 text.toList)

end SocketAddress

end CommentBot.Net
