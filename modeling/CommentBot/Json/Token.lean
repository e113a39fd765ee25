import CommentBot.Json.Number
import CommentBot.Json.Spelling

/-!
# Tokens

A JSON text is a sequence of tokens with white space between them. A token at which the text stops being
JSON carries the fault, and nothing behind it is read.
-/

namespace CommentBot.Json

/-- A value without parts. -/
inductive Scalar
  | null
  | bool (value : Bool)
  | number (numeral : Numeral)
  | string (spelling : Spelling)
  /-- Characters that begin no value, or stop being one. -/
  | garbled (fault : Fault)
  /-- The text has ended. -/
  | missing
  /-- The text breaks off before the place of the value. -/
  | unreached (fault : Fault)
  deriving DecidableEq, Repr

/-- Why the text cannot be read beyond the value. -/
def Scalar.fault? : Scalar → Option Fault
  | .string s => s.fault
  | .garbled f => some f
  | .missing => some Flaw.endOfValue.fault
  | .unreached f => some f
  | _ => none

/-- What a text is made of. -/
inductive Token
  | scalar (value : Scalar)
  | openArray
  | closeArray
  | openObject
  | closeObject
  | comma
  | colon
  deriving DecidableEq, Repr

/-- Whether the octet is a space, a tab, a line feed or a carriage return. -/
def isSpace (octet : UInt8) : Bool := octet = 32 || octet = 9 || octet = 10 || octet = 13

/-- Reads on through a word of which the first letter has been read. -/
def scanWord (value : Scalar) : List UInt8 → List UInt8 → Token × List UInt8
  | [], rest => (.scalar value, rest)
  | _ :: _, [] => (.scalar (.garbled Flaw.endOfValue.fault), [])
  | letter :: word, c :: rest =>
    if c = letter then scanWord value word rest
    else (.scalar (.garbled Flaw.badWord.fault), [])

theorem length_scanWord_le (value : Scalar) (word octets : List UInt8) :
    (scanWord value word octets).2.length ≤ octets.length := by
  fun_induction scanWord value word octets <;> simp_all
  omega

/-- The token that is the character `c` alone, if there is one. -/
def punctuation? (c : UInt8) : Option Token :=
  if c = 123 then some .openObject
  else if c = 125 then some .closeObject
  else if c = 91 then some .openArray
  else if c = 93 then some .closeArray
  else if c = 44 then some .comma
  else if c = 58 then some .colon
  else none

/-- The number that starts with `c`, and what follows it. -/
def scanNumber (c : UInt8) (rest : List UInt8) : Token × List UInt8 :=
  match Numeral.scan (c :: rest) with
  | .ok (numeral, rest) => (.scalar (.number numeral), rest)
  | .error f => (.scalar (.garbled f), [])

theorem length_scanNumber_le (c : UInt8) (rest : List UInt8) :
    (scanNumber c rest).2.length ≤ rest.length := by
  unfold scanNumber
  split
  · rename_i h
    exact Nat.le_of_lt_succ (Numeral.length_scan_lt h)
  · exact Nat.zero_le _

/-- The scalar that starts with `c`, and what follows it. -/
def scanScalar (c : UInt8) (rest : List UInt8) : Token × List UInt8 :=
  if c = 34 then (.scalar (.string (Spelling.scan rest).1), (Spelling.scan rest).2)
  else if c = 110 then scanWord .null [117, 108, 108] rest
  else if c = 116 then scanWord (.bool true) [114, 117, 101] rest
  else if c = 102 then scanWord (.bool false) [97, 108, 115, 101] rest
  else if c = 45 || isDigit c then scanNumber c rest
  else (.scalar (.garbled Flaw.noValue.fault), [])

theorem length_scanScalar_le (c : UInt8) (rest : List UInt8) :
    (scanScalar c rest).2.length ≤ rest.length := by
  unfold scanScalar
  split
  · exact Spelling.length_scan_le rest
  split
  · exact length_scanWord_le _ _ _
  split
  · exact length_scanWord_le _ _ _
  split
  · exact length_scanWord_le _ _ _
  split
  · exact length_scanNumber_le c rest
  · exact Nat.zero_le _

/-- The token that starts with `c`, and what follows it. -/
def Token.scan (c : UInt8) (rest : List UInt8) : Token × List UInt8 :=
  match punctuation? c with
  | some token => (token, rest)
  | none => scanScalar c rest

theorem Token.length_scan_le (c : UInt8) (rest : List UInt8) :
    (scan c rest).2.length ≤ rest.length := by
  unfold scan
  split
  · exact Nat.le_refl _
  · exact length_scanScalar_le c rest

end CommentBot.Json
