import CommentBot.Json.Decoder

/-!
# Records

A record is written as an object, with its members in any order and others between them, or as the array of
its fields in the order in which they are declared.

`Fields α` knows the fields from which a value of type `α` is built. Fields are combined as applicative
functors are: `Point.mk <$> required "x" .uint64 <*> required "y" .uint64`.
-/

namespace CommentBot.Json

/-- An array that is read item by item: the position of the next item, and the items from there on. -/
structure Cursor where
  index : Nat
  items : List Node
  /-- The fault behind the items. -/
  stop : Option Fault

/-- The fields of a value of type `α`. -/
structure Fields (α : Type) where
  /-- How many fields there are. -/
  count : Nat
  /-- What has been read so far. -/
  Slots : Type
  /-- Nothing has been read. -/
  empty : Slots
  /-- Reads the value of the field with a name, if there is such a field. -/
  member : Context → String → Node → Slots → Option (Except ReadError Slots)
  /-- The value, if no field is missing. -/
  build : Slots → Except Problem α
  /-- Reads all fields from an array. The text says what the whole array should be. -/
  elements : String → Context → Cursor → Except ReadError (α × Cursor)

namespace Fields

variable {α β : Type}

/-- No fields. -/
protected def pure (a : α) : Fields α where
  count := 0
  Slots := Unit
  empty := ()
  member := fun _ _ _ _ => none
  build := fun _ => .ok a
  elements := fun _ _ cursor => .ok (a, cursor)

/-- The fields of a function, then those of its argument. -/
protected def seq (f : Fields (α → β)) (a : Unit → Fields α) : Fields β where
  count := f.count + (a ()).count
  Slots := f.Slots × (a ()).Slots
  empty := (f.empty, (a ()).empty)
  member := fun ctx name n slots =>
    match f.member ctx name n slots.1 with
    | some read => some (read.map (·, slots.2))
    | none => ((a ()).member ctx name n slots.2).map (·.map (slots.1, ·))
  build := fun slots => do
    let g ← f.build slots.1
    return g (← (a ()).build slots.2)
  elements := fun wanted ctx cursor => do
    let (g, cursor) ← f.elements wanted ctx cursor
    let (x, cursor) ← (a ()).elements wanted ctx cursor
    return (g x, cursor)

/-- The same fields for another value. -/
protected def map (g : α → β) (f : Fields α) : Fields β where
  count := f.count
  Slots := f.Slots
  empty := f.empty
  member := f.member
  build := fun slots => (f.build slots).map g
  elements := fun wanted ctx cursor =>
    (f.elements wanted ctx cursor).map fun (a, cursor) => (g a, cursor)

instance : Functor Fields where
  map := Fields.map

instance : Seq Fields where
  seq := Fields.seq

/-- One field; `absent` is its value when an object lacks it. -/
def field (name : String) (read : Decoder α) (absent : Option α) : Fields α where
  count := 1
  Slots := Option α
  empty := none
  member := fun ctx key n slot =>
    if key = name then
      match slot with
      | some _ => some (problem (.duplicateField name))
      | none => some ((within (.field name) (read ctx n)).map some)
    else none
  build := fun slot =>
    match slot, absent with
    | some a, _ => .ok a
    | none, some a => .ok a
    | none, none => .error (.missingField name)
  elements := fun wanted ctx cursor =>
    match cursor.items with
    | n :: rest => do
      let a ← within (.index cursor.index) (read ctx n)
      return (a, { cursor with index := cursor.index + 1, items := rest })
    | [] => do
      atEnd cursor.stop
      problem (.wrongLength cursor.index wanted)

/-- A field that must be there. -/
def required (name : String) (read : Decoder α) : Fields α := field name read none

/-- A field that may be null, and that an object may lack. -/
def optional (name : String) (read : Decoder α) : Fields (Option α) :=
  field name (.option read) (some none)

/-- Reads the members of an object in their order. Members with other names are passed over. -/
def members (f : Fields α) (ctx : Context) (slots : f.Slots) :
    List (Key × Node) → Except ReadError f.Slots
  | [] => .ok slots
  | (key, n) :: rest => do
    let name ← memberName key
    match f.member ctx name n slots with
    | some read => members f ctx (← read) rest
    | none => do
      within (.field name) n.pass
      members f ctx slots rest

/-- The number of elements, in words. -/
def countText (count : Nat) : String :=
  toString count ++ (if count = 1 then " element" else " elements")

/-- What a flaw is to a reader who only wants the bracket behind the items. -/
def bracketFlaw : Flaw → Flaw
  | .endOfArray => .endOfArray
  | .trailingComma => .trailingComma
  | _ => .trailingText

/-- The end of an array of which `count` elements were wanted. -/
def atArrayEnd (ctx : Context) (count : Nat) (cursor : Cursor) : Except ReadError Unit :=
  match cursor.items, cursor.stop with
  | [], none => .ok ()
  | [], some f => flawed (bracketFlaw f.wanted)
  | .scalar (.unreached f) :: _, _ => flawed (bracketFlaw f.wanted)
  | rest, _ =>
    match ctx.origin with
    | .text => flawed .trailingText
    | .recalled => problem (.wrongLength (count + rest.length) (countText count ++ " in sequence"))
    | .memory => problem (.wrongLength (count + rest.length) "fewer elements in array")

/-- A record, described by `wanted`. -/
def record (wanted : String) (f : Fields α) : Decoder α
  | ctx, .object nodes stop => ctx.enter fun ctx => do
    let slots ← f.members ctx f.empty nodes
    atLastMember stop
    match f.build slots with
    | .ok a => return a
    | .error p => problem p
  | ctx, .array nodes stop => ctx.enter fun ctx => do
    let (a, cursor) ← f.elements (wanted ++ " with " ++ countText f.count) ctx ⟨0, nodes, stop⟩
    atArrayEnd ctx f.count cursor
    return a
  | _, n => unexpected wanted n

/-- A record that is written as an object only. -/
def objectOnly (wanted : String) (f : Fields α) : Decoder α
  | ctx, .array _ _ => ctx.enter fun _ => problem (.wrongType .sequence wanted)
  | ctx, n => f.record wanted ctx n

end Fields

end CommentBot.Json
