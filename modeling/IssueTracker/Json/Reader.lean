import IssueTracker.Json.Token

/-!
# From tokens to a tree

The reader keeps the containers it stands in on a stack and takes one token at a time. A token
that does not fit ends the reading: what was open stays unclosed, and the place where a value was
due holds `broken`. Nesting is limited by nothing but the text.
-/

namespace IssueTracker.Json

/-- A container being read, with what it holds so far, last first. -/
inductive Frame
  /-- An array and its items. -/
  | array (items : List Json)
  /-- An object, its members, and the key whose value is being read. -/
  | object (members : List (Bytes × Json)) (key : Bytes)

/-- Put a value into the container around it, leaving that container open. -/
def Frame.holding (value : Json) : Frame → Json
  | .array items => .array (value :: items).reverse false
  | .object members key => .object ((key, value) :: members).reverse false

/-- The value that the outermost container has become when reading stops in its midst. -/
def abandon (stack : List Frame) (value : Json) : Json :=
  stack.foldl (fun inner frame => frame.holding inner) value

/-- What must come next. The stack lists the surrounding containers, innermost first. -/
inductive Awaiting
  /-- A value. -/
  | due (stack : List Frame)
  /-- The first item of an array, or its end. -/
  | firstItem (stack : List Frame)
  /-- The first key of an object, or its end. -/
  | firstKey (stack : List Frame)
  /-- A further key of an object. -/
  | furtherKey (members : List (Bytes × Json)) (stack : List Frame)
  /-- The colon behind a key. -/
  | colonAfter (members : List (Bytes × Json)) (key : Bytes) (stack : List Frame)
  /-- Whatever the innermost container allows behind a value that is complete. -/
  | behind (value : Json) (stack : List Frame)

/-- The tree of a text that stops where something else was awaited. -/
def Awaiting.stop : Awaiting → Json
  | .due stack | .firstItem stack => abandon stack .broken
  | .firstKey stack => abandon stack (.object [] false)
  | .furtherKey members stack => abandon stack (.object members.reverse false)
  | .colonAfter members key stack =>
    abandon stack (.object ((key, .broken) :: members).reverse false)
  | .behind value stack => abandon stack value

/-- Start reading a value with a token that can begin one. -/
def Token.starting (stack : List Frame) : Token → Option Awaiting
  | .null => some (.behind .null stack)
  | .bool value => some (.behind (.bool value) stack)
  | .number numeral => some (.behind (.number numeral) stack)
  | .string written => some (.behind (.string written) stack)
  | .openArray => some (.firstItem stack)
  | .openObject => some (.firstKey stack)
  | _ => none

/-- Take one token; none means that it does not fit. -/
def Awaiting.take : Awaiting → Token → Option Awaiting
  | .due stack, token => token.starting stack
  | .firstItem stack, .closeArray => some (.behind (.array [] true) stack)
  | .firstItem stack, token => token.starting (.array [] :: stack)
  | .firstKey stack, .closeObject => some (.behind (.object [] true) stack)
  | .firstKey stack, .string key => some (.colonAfter [] key stack)
  | .furtherKey members stack, .string key => some (.colonAfter members key stack)
  | .colonAfter members key stack, .colon => some (.due (.object members key :: stack))
  | .behind value (.array items :: stack), .comma => some (.due (.array (value :: items) :: stack))
  | .behind value (.array items :: stack), .closeArray =>
    some (.behind (.array (value :: items).reverse true) stack)
  | .behind value (.object members key :: stack), .comma =>
    some (.furtherKey ((key, value) :: members) stack)
  | .behind value (.object members key :: stack), .closeObject =>
    some (.behind (.object ((key, value) :: members).reverse true) stack)
  | _, _ => none

/-- Take tokens until they end or one does not fit. -/
def Awaiting.run (awaiting : Awaiting) : List Token → Document
  | [] =>
    match awaiting with
    | .behind value [] => ⟨value, true⟩
    | _ => ⟨awaiting.stop, false⟩
  | token :: rest =>
    match awaiting.take token with
    | some awaiting => awaiting.run rest
    | none => ⟨awaiting.stop, false⟩

/-- Read a text as one JSON value. -/
def read (text : Bytes) : Document := (Awaiting.due []).run (tokens text)

end IssueTracker.Json
