import CommentBot.Json.Node

/-!
# The grammar of JSON

Which octets write a number, a string or any other value. The grammar is one of octets: it demands of a string
only that its escapes are complete and that no control character stands in it, and it bounds neither numbers nor
nesting. What a value must be besides that is for those who use it.
-/

namespace CommentBot.Json

/-- Spaces, tabs, line feeds and carriage returns. -/
def Blank (t : List UInt8) : Prop := ∀ c ∈ t, isSpace c = true

/-! ## Numbers -/

/-- The octets of decimal digits. -/
def digitOctets (digits : List Nat) : List UInt8 := digits.map fun d => UInt8.ofNat (48 + d)

/-- One decimal digit or more. -/
def AreDigits (digits : List Nat) : Prop := digits ≠ [] ∧ ∀ d ∈ digits, d < 10

/-- Decimal digits of which the first one is no zero, unless it is the only one. -/
def AreWhole (digits : List Nat) : Prop := AreDigits digits ∧ (digits.head? = some 0 → digits = [0])

/-- The point and the digits behind it. -/
inductive FractionWritten : List Nat → List UInt8 → Prop
  | absent : FractionWritten [] []
  | digits {digits : List Nat} (h : AreDigits digits) : FractionWritten digits (46 :: digitOctets digits)

/-- The sign of an exponent; a plus sign may be left out. -/
inductive SignWritten : Bool → List UInt8 → Prop
  | absent : SignWritten false []
  | plus : SignWritten false [43]
  | minus : SignWritten true [45]

/-- The exponent, behind an `e` of either size. -/
inductive ExponentWritten : Option Exponent → List UInt8 → Prop
  | absent : ExponentWritten none []
  | digits {mark : UInt8} {negative : Bool} {sign : List UInt8} {digits : List Nat}
      (hmark : mark = 101 ∨ mark = 69) (hsign : SignWritten negative sign) (h : AreDigits digits) :
      ExponentWritten (some ⟨negative, digits⟩) (mark :: (sign ++ digitOctets digits))

/-- The minus sign of a number. -/
def minusSign (negative : Bool) : List UInt8 := if negative then [45] else []

/-- A number. -/
inductive Numeral.Written : Numeral → List UInt8 → Prop
  | parts {negative : Bool} {whole fraction : List Nat} {exponent : Option Exponent} {f e : List UInt8}
      (hwhole : AreWhole whole) (hfraction : FractionWritten fraction f) (hexponent : ExponentWritten exponent e) :
      Written ⟨negative, whole, fraction, exponent⟩ (minusSign negative ++ (digitOctets whole ++ (f ++ e)))

/-! ## Strings -/

/-- What stands between the quotation marks of a string. -/
inductive PiecesWritten : List Piece → List UInt8 → Prop
  | nil : PiecesWritten [] []
  /-- An octet that stands for itself. -/
  | plain {v : UInt8} {ps : List Piece} {t : List UInt8} (hcontrol : ¬ v < 32) (hquote : v ≠ 34)
      (hbackslash : v ≠ 92) (h : PiecesWritten ps t) : PiecesWritten (.octet v :: ps) (v :: t)
  /-- A backslash and a letter. -/
  | escape {letter v : UInt8} {ps : List Piece} {t : List UInt8} (hletter : escaped? letter = some v)
      (h : PiecesWritten ps t) : PiecesWritten (.octet v :: ps) (92 :: letter :: t)
  /-- A backslash, a `u` and four hexadecimal digits. -/
  | unit {a b c d : UInt8} {v : Nat} {ps : List Piece} {t : List UInt8} (hdigits : unit? a b c d = some v)
      (h : PiecesWritten ps t) : PiecesWritten (.unit v :: ps) (92 :: 117 :: a :: b :: c :: d :: t)

/-! ## Values -/

/-- A value without parts. -/
inductive Scalar.Written : Scalar → List UInt8 → Prop
  | null : Written .null [110, 117, 108, 108]
  | true : Written (.bool true) [116, 114, 117, 101]
  | false : Written (.bool false) [102, 97, 108, 115, 101]
  | number {n : Numeral} {t : List UInt8} (h : n.Written t) : Written (.number n) t
  | string {ps : List Piece} {t : List UInt8} (h : PiecesWritten ps t) :
      Written (.string ⟨ps, none⟩) (34 :: (t ++ [34]))

/-- A key, with blanks around it. -/
inductive KeyWritten : Key → List UInt8 → Prop
  | string {ps : List Piece} {before t after : List UInt8} (hbefore : Blank before) (h : PiecesWritten ps t)
      (hafter : Blank after) :
      KeyWritten (.scalar (.string ⟨ps, none⟩)) (before ++ 34 :: (t ++ 34 :: after))

/-- What a stretch of a text can be. -/
inductive Phrase
  | value (n : Node)
  /-- A value with blanks around it. -/
  | padded (n : Node)
  /-- The items of an array, with commas between them. -/
  | items (ns : List Node)
  /-- The members of an object, with commas between them. -/
  | members (ms : List (Key × Node))

/-- The octets write the phrase. -/
inductive Phrase.Written : Phrase → List UInt8 → Prop
  | scalar {s : Scalar} {t : List UInt8} (h : s.Written t) : Written (.value (.scalar s)) t
  | emptyArray {t : List UInt8} (h : Blank t) : Written (.value (.array [] none)) (91 :: (t ++ [93]))
  | array {ns : List Node} {t : List UInt8} (h : Written (.items ns) t) :
      Written (.value (.array ns none)) (91 :: (t ++ [93]))
  | emptyObject {t : List UInt8} (h : Blank t) : Written (.value (.object [] none)) (123 :: (t ++ [125]))
  | object {ms : List (Key × Node)} {t : List UInt8} (h : Written (.members ms) t) :
      Written (.value (.object ms none)) (123 :: (t ++ [125]))
  | padded {n : Node} {before t after : List UInt8} (hbefore : Blank before) (h : Written (.value n) t)
      (hafter : Blank after) : Written (.padded n) (before ++ (t ++ after))
  | lastItem {n : Node} {t : List UInt8} (h : Written (.padded n) t) : Written (.items [n]) t
  | item {n : Node} {ns : List Node} {t more : List UInt8} (h : Written (.padded n) t)
      (hmore : Written (.items ns) more) : Written (.items (n :: ns)) (t ++ 44 :: more)
  | lastMember {key : Key} {n : Node} {k t : List UInt8} (hkey : KeyWritten key k)
      (h : Written (.padded n) t) : Written (.members [(key, n)]) (k ++ 58 :: t)
  | member {key : Key} {n : Node} {ms : List (Key × Node)} {k t more : List UInt8} (hkey : KeyWritten key k)
      (h : Written (.padded n) t) (hmore : Written (.members ms) more) :
      Written (.members ((key, n) :: ms)) (k ++ 58 :: (t ++ 44 :: more))

/-- The octets are a text of the value, with blanks around it. -/
def Node.IsTextOf (n : Node) (octets : List UInt8) : Prop := Phrase.Written (.padded n) octets

end CommentBot.Json
