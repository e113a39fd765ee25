import CommentBot.Json.Decoder.Record

/-!
# Alternatives

A type with alternatives is written in one of three ways:

* by the name of the alternative, as a string, or as the only key of an object whose value belongs to the
  alternative (`choice`);
* as a record of two fields, the name and the value (`tagged`);
* as a record of the name and the fields of the alternative (`merged`).

In the last two forms the name may come after what it explains, which is then recalled.
-/

namespace CommentBot.Json

variable {α : Type}

/-- How the value that belongs to an alternative is read. -/
inductive Alternative (α : Type)
  /-- No value belongs to it, only null may stand there; `wanted` describes that. -/
  | bare (wanted : String) (a : α)
  | carrying (read : Decoder α)

/-- The alternative with a name. -/
def pick {κ : Type} (table : List (String × κ)) (name : String) : Except ReadError κ :=
  match table.lookup name with
  | some k => .ok k
  | none => problem (.unknownVariant name (table.map (·.1)))

/-- The value that belongs to an alternative. -/
def Alternative.read : Alternative α → Decoder α
  | bare _ a, _, .scalar .null => .ok a
  | bare wanted _, _, n => unexpected wanted n
  | carrying read, ctx, n => read ctx n

/-- The alternative that a string names. -/
def pickFrom {κ : Type} (table : List (String × κ)) : Node → Except ReadError κ
  | .scalar (.string s) => do pick table (← s.read)
  | n => unexpected "variant identifier" n

/-- The alternative itself, if only its name is given. -/
def Alternative.named : Alternative α → Except ReadError α
  | bare _ a => .ok a
  | carrying _ => problem (.wrongType .unitVariant "newtype variant")

namespace Decoder

/-! ## Names and one-key objects -/

/-- The end of an object behind its only member. -/
def atOnlyMember : List (Key × Node) → Option Fault → Except ReadError Unit
  | [], none => .ok ()
  | [], some f => flawed (if f.wanted = .endOfObject then .endOfObject else .noValue)
  | _, _ => flawed .noValue

/-- An alternative where it stands. What is neither a string nor an object is not looked at. -/
def choiceInPlace (table : List (String × Alternative α)) : Decoder α
  | _, .scalar (.string s) => do (← pick table (← s.read)).named
  | ctx, .object ((key, n) :: rest) stop => ctx.enter fun ctx => do
    let name ← readKey key
    let alternative ← pick table name
    let a ← within (.field name) (alternative.read ctx n)
    atOnlyMember rest stop
    return a
  | ctx, .object [] _ => ctx.enter fun _ => flawed .noValue
  | _, .scalar .missing => flawed .endOfValue
  | _, .scalar (.unreached f) => .error (.unreached f.wanted)
  | _, _ => flawed .noValue

/-- Whether an empty object may stand for null. -/
def isNothing (ctx : Context) : Node → Bool
  | .object [] _ => ctx.origin = .recalled
  | _ => false

/-- An alternative that has been kept or comes from memory. -/
def choiceKept (table : List (String × Alternative α)) : Decoder α
  | _, .scalar (.string s) => do (← pick table (← s.read)).named
  | ctx, .object [(key, n)] _ => do
    match ← pick table (← readKey key) with
    | .bare wanted a => if isNothing ctx n then return a else (Alternative.bare wanted a).read ctx n
    | .carrying read => read ctx n
  | _, .object _ _ => problem (.wrongValue .map "map with a single key")
  | _, n => unexpected "string or map" n

/-- One of the alternatives of a table. -/
def choice (table : List (String × Alternative α)) : Decoder α := fun ctx n =>
  if ctx.origin = .text then choiceInPlace table ctx n else choiceKept table ctx n

/-- One of the names of a table. -/
def name (table : List (String × α)) : Decoder α :=
  choice (table.map fun (name, a) => (name, .bare "unit" a))

/-! ## Name and value side by side -/

/-- A field of a tagged record. -/
inductive Part
  | tag
  | content
  deriving DecidableEq, Repr

/-- The layout of a tagged record. -/
structure Tagging where
  /-- What the record is, for a message. -/
  wanted : String
  tag : String
  content : String

/-- The next member that is part of a tagged record, and those behind it. -/
def nextPart (t : Tagging) (stop : Option Fault) :
    List (Key × Node) → Except ReadError (Option (Part × Node × List (Key × Node)))
  | [] => do
    atLastMember stop
    return none
  | (key, n) :: rest => do
    let name ← memberName key
    if name = t.tag then return some (.tag, n, rest)
    else if name = t.content then return some (.content, n, rest)
    else do
      within (.field name) n.pass
      nextPart t stop rest

/-- Refuses any further part. -/
def noFurtherPart (t : Tagging) (stop : Option Fault) (nodes : List (Key × Node)) :
    Except ReadError Unit := do
  match ← nextPart t stop nodes with
  | none => return ()
  | some (.tag, _, _) => problem (.duplicateField t.tag)
  | some (.content, _, _) => problem (.duplicateField t.content)

/-- The alternative that the tag names. -/
def tagOf (table : List (String × Alternative α)) : Decoder (Alternative α) := name table

/-- The members of a tagged record. -/
def taggedMembers (t : Tagging) (table : List (String × Alternative α)) (ctx : Context)
    (nodes : List (Key × Node)) (stop : Option Fault) : Except ReadError α := do
  match ← nextPart t stop nodes with
  | none => problem (.missingField t.tag)
  | some (.tag, tag, rest) => do
    let alternative ← within (.field t.tag) (tagOf table ctx tag)
    match ← nextPart t stop rest with
    | some (.tag, _, _) => problem (.duplicateField t.tag)
    | some (.content, content, rest) => do
      let a ← within (.field t.content) (alternative.read ctx content)
      noFurtherPart t stop rest
      return a
    | none =>
      match alternative with
      | .bare _ a => return a
      | .carrying _ => problem (.missingField t.content)
  | some (.content, content, rest) => do
    let _ ← within (.field t.content) (content.value ctx.depth)
    match ← nextPart t stop rest with
    | some (.tag, tag, rest) => do
      let alternative ← within (.field t.tag) (tagOf table ctx tag)
      let a ← within (.field t.content) (alternative.read ctx.recall content)
      noFurtherPart t stop rest
      return a
    | some (.content, _, _) => problem (.duplicateField t.content)
    | none => problem (.missingField t.tag)

/-- The items of a tagged record. -/
def taggedItems (t : Tagging) (table : List (String × Alternative α)) (ctx : Context)
    (nodes : List Node) (stop : Option Fault) : Except ReadError α := do
  match nodes with
  | [] => do
    atEnd stop
    problem (.wrongLength 0 t.wanted)
  | tag :: rest => do
    let alternative ← within (.index 0) (pickFrom table tag)
    match rest with
    | [] => do
      atEnd stop
      problem (.wrongLength 1 t.wanted)
    | content :: rest => do
      let a ← within (.index 1) (alternative.read ctx content)
      Fields.atArrayEnd ctx 2 ⟨2, rest, stop⟩
      return a

/-- A record of a name and the value that belongs to it. -/
def tagged (t : Tagging) (table : List (String × Alternative α)) : Decoder α
  | ctx, .object nodes stop => ctx.enter fun ctx => taggedMembers t table ctx nodes stop
  | ctx, .array nodes stop => ctx.enter fun ctx => taggedItems t table ctx nodes stop
  | _, n => unexpected t.wanted n

/-! ## Name among the fields -/

/-- Reads the members of a merged record: the name of the alternative when it comes, all others as any
value. Returns the others too, the last one first. -/
def mergedMembers (tag : String) (table : List (String × Decoder α)) (ctx : Context)
    (found : Option (Decoder α)) (others : List (Key × Node)) :
    List (Key × Node) → Except ReadError (Option (Decoder α) × List (Key × Node))
  | [] => .ok (found, others)
  | (key, n) :: rest => do
    let name ← memberName key
    if name = tag then
      match found with
      | some _ => problem (.duplicateField tag)
      | none => do
        let alternative ← within (.field tag) (pickFrom table n)
        mergedMembers tag table ctx (some alternative) others rest
    else do
      let _ ← within (.field name) (n.value ctx.depth)
      mergedMembers tag table ctx found ((key, n) :: others) rest

/-- A record of a name and the fields of the alternative. It is read as a whole before its fields are. -/
def merged (wanted tag : String) (table : List (String × Decoder α)) : Decoder α
  | ctx, .object nodes stop => do
    let (found, others) ← ctx.enter fun ctx => do
      let read ← mergedMembers tag table ctx none [] nodes
      atLastMember stop
      return read
    match found with
    | none => problem (.missingField tag)
    | some fields => fields ctx.recall (.object others.reverse none)
  | ctx, .array nodes stop => do
    let (fields, rest) ← ctx.enter fun ctx => do
      match nodes with
      | [] => do
        atEnd stop
        problem (.missingField tag)
      | n :: rest => do
        let fields ← within (.index 0) (pickFrom table n)
        let _ ← items (Node.value ctx.depth) 1 [] rest
        atEnd stop
        return (fields, rest)
    fields ctx.recall (.array rest none)
  | _, n => unexpected wanted n

end Decoder

end CommentBot.Json
