import CommentBot.Json.Fault
import CommentBot.Text.Utf8

/-!
# Strings as they are written

A string can be spelled in many ways. A `Spelling` keeps what stands between the quotation marks, with the
escapes resolved one by one; `Spelling.octets` joins them to the text. A string that is only passed over
is never joined, so neither surrogates nor octets beyond ASCII matter there.
-/

namespace CommentBot.Json

/-- A piece of a string: an octet that stands for itself or follows a backslash, or a sixteen-bit unit given
by four hexadecimal digits. -/
inductive Piece
  | octet (value : UInt8)
  | unit (value : Nat)
  deriving DecidableEq, Repr

/-- The pieces of a string up to its end, or up to the fault that keeps it from ending. -/
structure Spelling where
  pieces : List Piece
  fault : Option Fault
  deriving DecidableEq, Repr

/-! ## Scanning -/

/-- The octet that a letter after a backslash stands for. -/
def escaped? (letter : UInt8) : Option UInt8 :=
  if letter = 34 || letter = 92 || letter = 47 then some letter
  else if letter = 98 then some 8
  else if letter = 102 then some 12
  else if letter = 110 then some 10
  else if letter = 114 then some 13
  else if letter = 116 then some 9
  else none

/-- The value of a hexadecimal digit. -/
def hexDigit? (octet : UInt8) : Option Nat :=
  if 48 ≤ octet && octet ≤ 57 then some (octet.toNat - 48)
  else if 65 ≤ octet && octet ≤ 70 then some (octet.toNat - 55)
  else if 97 ≤ octet && octet ≤ 102 then some (octet.toNat - 87)
  else none

/-- The unit that four hexadecimal digits write. -/
def unit? (a b c d : UInt8) : Option Nat := do
  let a ← hexDigit? a
  let b ← hexDigit? b
  let c ← hexDigit? c
  let d ← hexDigit? d
  some (((16 * a + b) * 16 + c) * 16 + d)

/-- Reads the pieces of a string whose opening quotation mark has been read; `done` holds those found so
far, the last one first. -/
def Spelling.scanFrom (done : List Piece) : List UInt8 → Spelling × List UInt8
  | [] => (⟨done.reverse, some Flaw.endOfString.fault⟩, [])
  | 34 :: rest => (⟨done.reverse, none⟩, rest)
  | 92 :: 117 :: a :: b :: c :: d :: rest =>
    match unit? a b c d with
    | some value => scanFrom (.unit value :: done) rest
    | none => (⟨done.reverse, some Flaw.badUnit.fault⟩, [])
  | 92 :: letter :: rest =>
    if letter = 117 then (⟨done.reverse, some Flaw.endOfString.fault⟩, [])
    else match escaped? letter with
      | some value => scanFrom (.octet value :: done) rest
      | none => (⟨done.reverse, some Flaw.badLetter.fault⟩, [])
  | [92] => (⟨done.reverse, some Flaw.endOfString.fault⟩, [])
  | value :: rest =>
    if value < 32 then (⟨done.reverse, some Flaw.control.fault⟩, [])
    else scanFrom (.octet value :: done) rest

/-- Reads the string whose opening quotation mark has been read. -/
def Spelling.scan (octets : List UInt8) : Spelling × List UInt8 := scanFrom [] octets

theorem Spelling.length_scanFrom_le (done : List Piece) (octets : List UInt8) :
    (scanFrom done octets).2.length ≤ octets.length := by
  fun_induction scanFrom done octets <;> simp_all <;> omega

theorem Spelling.length_scan_le (octets : List UInt8) : (scan octets).2.length ≤ octets.length :=
  length_scanFrom_le [] octets

/-! ## Joining -/

/-- Whether the unit opens a pair. -/
def opensPair (unit : Nat) : Bool := 0xD800 ≤ unit && unit < 0xDC00

/-- Whether the unit closes a pair. -/
def closesPair (unit : Nat) : Bool := 0xDC00 ≤ unit && unit < 0xE000

/-- The character that a pair of units stands for. -/
def pairCharacter (first second : Nat) : Char :=
  Char.ofNat (0x10000 + (first - 0xD800) * 0x400 + (second - 0xDC00))

/-- What is wrong with a unit that opens a pair where the string has the flaw. Only its end, and a unit that cannot
be read, come before the missing half. -/
def Flaw.behindOpening : Flaw → Flaw
  | endOfString => endOfString
  | badUnit => badUnit
  | _ => cutPair

/-- The octets of the pieces, appended to `done`, whose last octet comes first. The fault is that of the
string, met where the pieces end; a unit that should be half of a pair and is not is met before it. -/
def joinPieces (fault : Option Fault) (done : List UInt8) : List Piece → Except Flaw (List UInt8)
  | [] =>
    match fault with
    | some f => .error f.wanted
    | none => .ok done.reverse
  | .octet value :: rest => joinPieces fault (value :: done) rest
  | .unit first :: rest =>
    if closesPair first then .error .halfPair
    else if opensPair first then
      match rest with
      | .unit second :: rest =>
        if closesPair second then
          joinPieces fault ((String.utf8EncodeChar (pairCharacter first second)).reverse ++ done) rest
        else .error .halfPair
      | .octet _ :: _ => .error .cutPair
      | [] => .error ((fault.map (·.wanted.behindOpening)).getD .cutPair)
    else joinPieces fault ((String.utf8EncodeChar (Char.ofNat first)).reverse ++ done) rest

/-- The octets of the string. -/
def Spelling.octets (s : Spelling) : Except Flaw (List UInt8) := joinPieces s.fault [] s.pieces

/-- The text of the string. Its octets are judged when the string has ended. -/
def Spelling.text (s : Spelling) : Except Flaw String := do
  match Text.ofUtf8? (← s.octets) with
  | some text => .ok text
  | none => .error .badOctets

end CommentBot.Json
