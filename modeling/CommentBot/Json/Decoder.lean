import CommentBot.Json.Value

/-!
# Decoders

A decoder reads a value of one type from the tree of a text. It walks the tree from the left and ends at the
first thing that is wrong, be it the shape of a value or the text itself.

A value is read where it stands, or it is *recalled*: the text has been read as far as the end of a larger
value before the type was known, so the text can no longer be at fault. A value can also come without a text
of its own, as part of a value in memory.
-/

namespace CommentBot.Json

/-- Where a value is read from. -/
inductive Origin
  | text
  /-- From what has been kept of the text. -/
  | recalled
  | memory
  deriving DecidableEq, Repr

/-- The circumstances in which a value is read. -/
structure Context where
  /-- How many more brackets may be opened. -/
  depth : Nat
  origin : Origin
  deriving DecidableEq, Repr

/-- A value at the top of a text. At most 127 brackets may enclose a value that is read. -/
def Context.top : Context := ⟨127, .text⟩

/-- The circumstances in which a value is read that has been kept. -/
def Context.recall (ctx : Context) : Context := { ctx with origin := .recalled }

/-- Reads a value of type `α`. -/
abbrev Decoder (α : Type) := Context → Node → Except ReadError α

/-! ## What stands in the text -/

/-- The value itself cannot be read because the text has the flaw. -/
def flawed {α : Type} (f : Flaw) : Except ReadError α := .error (.text [] f)

/-- The value has the wrong shape. -/
def problem {α : Type} (p : Problem) : Except ReadError α := .error (.data [] p)

/-- The text of a string. -/
def Spelling.read (s : Spelling) : Except ReadError String :=
  match s.text with
  | .ok text => .ok text
  | .error f => flawed f

/-- The number that a numeral stands for. -/
def Numeral.read (n : Numeral) : Except ReadError Number :=
  match n.number? with
  | some number => .ok number
  | none => flawed .hugeNumber

/-- What a scalar is, for a message. It is read to its end. -/
def Scalar.found : Scalar → Except ReadError Found
  | .null => .ok .null
  | .bool value => .ok (.bool value)
  | .number n => n.read.map .number
  | .string s => s.read.map .string
  | .garbled f => flawed f.wanted
  | .missing => flawed .endOfValue
  | .unreached f => .error (.unreached f.wanted)

/-- What a value is, for a message. An array or an object is not read. -/
def Node.found : Node → Except ReadError Found
  | .scalar s => s.found
  | .array _ _ => .ok .sequence
  | .object _ _ => .ok .map

/-- Refuses a value of another type than the one wanted. -/
def unexpected {α : Type} (wanted : String) (n : Node) : Except ReadError α := do
  problem (.wrongType (← n.found) wanted)

/-- Passes over a value. -/
def Node.pass : Node → Except ReadError Unit
  | .scalar (.unreached f) => .error (.unreached f.passed)
  | n =>
    match n.fault? with
    | none => .ok ()
    | some f => flawed f.passed

/-- The end of an array or an object of which all parts have been read. -/
def atEnd : Option Fault → Except ReadError Unit
  | none => .ok ()
  | some f => flawed f.wanted

/-- The text of a key. -/
def readKey : Key → Except ReadError String
  | .scalar (.string s) => s.read
  | .scalar (.unreached f) => flawed f.wanted
  | token => flawed (Builder.badKey token).wanted

/-- Reads the parts of an array or an object, one bracket further in. -/
def Context.enter {α : Type} (ctx : Context) (read : Context → Except ReadError α) :
    Except ReadError α :=
  match ctx.depth with
  | 0 => flawed .tooDeep
  | depth + 1 => read ⟨depth, ctx.origin⟩

/-- Says of an error that it arose one step further down. -/
def within {α : Type} (step : Step) (read : Except ReadError α) : Except ReadError α :=
  read.mapError (·.under step)

/-- The name of a member. -/
def memberName (key : Key) : Except ReadError String := within .nameless (readKey key)

/-- The end of an object, where another member could stand. -/
def atLastMember (stop : Option Fault) : Except ReadError Unit := within .nameless (atEnd stop)

namespace Decoder

variable {α β : Type}

/-! ## Scalars -/

/-- A string. -/
def string : Decoder String
  | _, .scalar (.string s) => s.read
  | _, n => unexpected "a string" n

/-- A truth value. -/
def bool : Decoder Bool
  | _, .scalar (.bool b) => .ok b
  | _, n => unexpected "a boolean" n

/-- A natural number below `bound`, for the type called `wanted`. -/
def natural (bound : Nat) (wanted : String) : Decoder Nat
  | _, .scalar (.number n) => do
    match ← n.read with
    | .integer (.ofNat value) =>
      if value < bound then .ok value
      else problem (.wrongValue (.number (.integer value)) wanted)
    | .integer value => problem (.wrongValue (.number (.integer value)) wanted)
    | number => problem (.wrongType (.number number) wanted)
  | _, n => unexpected wanted n

/-- An integer of 64 bits without sign. -/
def uint64 : Decoder UInt64 := fun ctx n => (natural UInt64.size "u64" ctx n).map UInt64.ofNat

/-- An integer of 16 bits without sign. -/
def uint16 : Decoder UInt16 := fun ctx n => (natural UInt16.size "u16" ctx n).map UInt16.ofNat

/-! ## Combinations -/

/-- Reads a value and turns it into another. -/
def map (f : α → β) (read : Decoder α) : Decoder β := fun ctx n => (read ctx n).map f

/-- Reads a value that its type may still refuse. -/
def refine (read : Decoder α) (accept : α → Except String β) : Decoder β := fun ctx n => do
  match accept (← read ctx n) with
  | .ok b => .ok b
  | .error reason => problem (.rejected reason)

/-- A value or null. -/
def option (read : Decoder α) : Decoder (Option α)
  | _, .scalar .null => .ok none
  | ctx, n => (read ctx n).map some

/-- Reads the items of an array from position `index` on; `done` holds those before, the last one first. -/
def items (read : Node → Except ReadError α) (index : Nat) (done : List α) :
    List Node → Except ReadError (List α)
  | [] => .ok done.reverse
  | n :: rest => do
    let a ← within (.index index) (read n)
    items read (index + 1) (a :: done) rest

/-- An array of values of one type. -/
def list (read : Decoder α) : Decoder (List α)
  | ctx, .array nodes stop => ctx.enter fun ctx => do
    let values ← items (read ctx) 0 [] nodes
    atEnd stop
    return values
  | _, n => unexpected "a sequence" n

end Decoder

/-! ## Any value -/

/-- Any scalar. -/
def Scalar.value : Scalar → Except ReadError Value
  | .null => .ok .null
  | .bool b => .ok (.bool b)
  | .number n => n.read.map .number
  | .string s => s.read.map .string
  | .garbled f => flawed f.wanted
  | .missing => flawed .endOfValue
  | .unreached f => .error (.unreached f.wanted)

/-- Any value with at most `depth` brackets inside one another. -/
def Node.value : Nat → Node → Except ReadError Value
  | _, .scalar s => s.value
  | 0, _ => flawed .tooDeep
  | depth + 1, .array nodes stop => do
    let values ← Decoder.items (value depth) 0 [] nodes
    atEnd stop
    return .array values
  | depth + 1, .object members stop => do
    let members ← members.mapM fun (key, n) => do
      let name ← memberName key
      return (name, ← within (.field name) (value depth n))
    atLastMember stop
    return .object members

/-- Any value. -/
def Decoder.value : Decoder Value := fun ctx n => n.value ctx.depth

/-! ## Whole texts -/

/-- Reads a value from a text of which it is the first part. -/
def Decoder.readFirst {α : Type} (read : Decoder α) (octets : List UInt8) : Except ReadError α :=
  read .top (Document.parse octets).root

/-- Reads a value from a text of which it is the whole. -/
def Decoder.readAll {α : Type} (read : Decoder α) (octets : List UInt8) : Except ReadError α := do
  let document := Document.parse octets
  let a ← read .top document.root
  if document.surplus then flawed .trailingText else return a

end CommentBot.Json
