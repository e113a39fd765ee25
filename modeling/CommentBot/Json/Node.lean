import CommentBot.Json.Token

/-!
# The tree of a text

A text is read into a tree as far as it is JSON. The tree holds everything in front of the first fault,
and each bracket that the fault keeps open knows of it; so a decoder that walks the tree from the left
meets what a reader of the text would meet, and a value that nobody asks for is judged without looking into
it.

The tree grows by one token at a time (`Builder.feed`), with the open brackets on a stack, so nesting costs
no recursion.
-/

namespace CommentBot.Json

/-- What stands in the place of a member's key. -/
abbrev Key := Token

/-- A value, with the fault at which the text breaks off inside it, if it does. -/
inductive Node
  | scalar (value : Scalar)
  | array (items : List Node) (stop : Option Fault)
  | object (members : List (Key × Node)) (stop : Option Fault)

/-- The fault that the text has in the value, if any. -/
def Node.fault? : Node → Option Fault
  | .scalar s => s.fault?
  | .array _ stop => stop
  | .object _ stop => stop

/-- A text read as a value. -/
structure Document where
  root : Node
  /-- Whether something follows the value. -/
  surplus : Bool

/-! ## Open brackets -/

/-- An open bracket in which a value is being read, with what has been read before it, the last part
first. -/
inductive Frame
  | array (items : List Node)
  | object (members : List (Key × Node)) (key : Key)

/-- The value of the outermost bracket when the text breaks off at `node`, inside the brackets. -/
def abandon (fault : Fault) (node : Node) : List Frame → Node
  | [] => node
  | .array items :: stack => abandon fault (.array (node :: items).reverse (some fault)) stack
  | .object members key :: stack =>
    abandon fault (.object ((key, node) :: members).reverse (some fault)) stack

/-- The outcome of a text that breaks off at a value. -/
def Document.cut (stack : List Frame) (node : Node) (fault : Fault) : Document :=
  ⟨abandon fault node stack, false⟩

/-- The outcome of a text that breaks off before a value. -/
def Document.cutBefore (stack : List Frame) (fault : Fault) : Document :=
  cut stack (.scalar (.unreached fault)) fault

/-- How far the reading has come: what is due next, and the brackets around it. -/
inductive Builder
  /-- A value. -/
  | value (stack : List Frame)
  /-- The first item of an array, or its end. -/
  | firstItem (stack : List Frame)
  /-- A comma or the end of an array. -/
  | afterItem (stack : List Frame) (items : List Node)
  /-- The first key of an object, or its end. -/
  | firstKey (stack : List Frame)
  /-- A key. -/
  | nextKey (stack : List Frame) (members : List (Key × Node))
  /-- The colon behind a key. -/
  | colon (stack : List Frame) (members : List (Key × Node)) (key : Token)
  /-- A comma or the end of an object. -/
  | afterMember (stack : List Frame) (members : List (Key × Node))
  /-- The end of the text. -/
  | whole (root : Node)
  /-- Nothing: the outcome is known. -/
  | settled (document : Document)

namespace Builder

/-- The text breaks off at a value. -/
def stopAt (stack : List Frame) (node : Node) (fault : Fault) : Builder := settled (.cut stack node fault)

/-- The text breaks off before a value. -/
def stopBefore (stack : List Frame) (fault : Fault) : Builder := settled (.cutBefore stack fault)

/-- A value has been read. -/
def complete (node : Node) : List Frame → Builder
  | [] => whole node
  | .array items :: stack => afterItem stack (node :: items)
  | .object members key :: stack => afterMember stack ((key, node) :: members)

/-- Whether the innermost bracket is that of an array. -/
def isInArray : List Frame → Bool
  | .array _ :: _ => true
  | _ => false

/-- A token that begins no value. An array that ends where an item is due has a comma too many. -/
def refuse (stack : List Frame) (token : Token) : Builder :=
  if token = .closeArray && isInArray stack then stopBefore stack .noItem
  else stopAt stack (.scalar (.garbled Flaw.noValue.fault)) Flaw.noValue.fault

/-- The value that starts with a token. -/
def feedValue (stack : List Frame) : Token → Builder
  | .scalar s =>
    match s.fault? with
    | none => complete (.scalar s) stack
    | some f => stopAt stack (.scalar s) f
  | .openArray => firstItem stack
  | .openObject => firstKey stack
  | token => refuse stack token

/-- What is wrong with a key that is no string. An object that ends where a key is due has a comma too many. -/
def badKey : Token → Fault
  | .closeObject => .noMember
  | _ => Flaw.badKey.fault

/-- The key that is a token. -/
def feedKey (stack : List Frame) (members : List (Key × Node)) : Token → Builder
  | .scalar (.string s) =>
    match s.fault with
    | none => colon stack members (.scalar (.string s))
    | some f => stopBefore (.object members (.scalar (.string s)) :: stack) f
  | token => stopBefore (.object members token :: stack) (badKey token)

/-- Reads one more token. -/
def feed : Builder → Token → Builder
  | value stack, token => feedValue stack token
  | firstItem stack, .closeArray => complete (.array [] none) stack
  | firstItem stack, token => feedValue (.array [] :: stack) token
  | afterItem stack items, .comma => value (.array items :: stack)
  | afterItem stack items, .closeArray => complete (.array items.reverse none) stack
  | afterItem stack items, _ =>
    stopAt stack (.array items.reverse (some Flaw.openArray.fault)) Flaw.openArray.fault
  | firstKey stack, .closeObject => complete (.object [] none) stack
  | firstKey stack, token => feedKey stack [] token
  | nextKey stack members, token => feedKey stack members token
  | colon stack members key, .colon => value (.object members key :: stack)
  | colon stack members key, _ => stopBefore (.object members key :: stack) Flaw.noColon.fault
  | afterMember stack members, .comma => nextKey stack members
  | afterMember stack members, .closeObject => complete (.object members.reverse none) stack
  | afterMember stack members, _ =>
    stopAt stack (.object members.reverse (some Flaw.openObject.fault)) Flaw.openObject.fault
  | whole root, _ => settled ⟨root, true⟩
  | settled document, _ => settled document

/-- What the text comes to when it ends here. -/
def finish : Builder → Document
  | value stack =>
    if isInArray stack then .cutBefore stack Flaw.endOfValue.fault
    else .cut stack (.scalar .missing) Flaw.endOfValue.fault
  | firstItem stack => .cutBefore (.array [] :: stack) Flaw.endOfArray.fault
  | afterItem stack items =>
    .cut stack (.array items.reverse (some Flaw.endOfArray.fault)) Flaw.endOfArray.fault
  | firstKey stack =>
    .cutBefore (.object [] (.scalar (.unreached Flaw.endOfObject.fault)) :: stack) Flaw.endOfObject.fault
  | nextKey stack members =>
    .cutBefore (.object members (.scalar (.unreached .missingMember)) :: stack) .missingMember
  | colon stack members key => .cutBefore (.object members key :: stack) Flaw.endOfObject.fault
  | afterMember stack members =>
    .cut stack (.object members.reverse (some Flaw.endOfObject.fault)) Flaw.endOfObject.fault
  | whole root => ⟨root, false⟩
  | settled document => document

/-- Reads the rest of a text. -/
def run (b : Builder) : List UInt8 → Document
  | [] => b.finish
  | c :: rest =>
    match b with
    | settled document => document
    | b =>
      if isSpace c then b.run rest
      else (b.feed (Token.scan c rest).1).run (Token.scan c rest).2
termination_by octets => octets.length
decreasing_by
  · simp
  · have := Token.length_scan_le c rest
    simp only [List.length_cons]
    omega

end Builder

/-- The tree of a text. -/
def Document.parse (octets : List UInt8) : Document := (Builder.value []).run octets

end CommentBot.Json
