import IssueTracker.Json.Writer

/-!
# Requests and responses

What a caller sends and what it is answered, as values. Header names are kept in small letters;
where several headers share a name, the first one counts. How messages travel over a connection is
not described, and neither are the headers that only serve that purpose.
-/

namespace IssueTracker.Http

/-- A header of a message. -/
structure Header where
  /-- Its name in small letters. -/
  name : String
  /-- Its value, in octets of any kind. -/
  value : Bytes
deriving Repr, DecidableEq

/-- A header with a name in letters of any case. -/
def Header.of (name : String) (value : Bytes) : Header := ⟨name.map Char.toLower, value⟩

/-- A header whose value is a text. -/
def Header.ofText (name value : String) : Header := ⟨name, Utf8.encode value⟩

/-- The value of the first header with a name. -/
def header? (headers : List Header) (name : String) : Option Bytes :=
  (headers.find? (·.name = name)).map (·.value)

/-- Whether an octet may stand in a header value: no control character, tabs aside. -/
def isLegal (b : UInt8) : Bool := (0x20 ≤ b && b ≠ 0x7F) || b = 0x09

/-- Whether an octet may stand in a header value that is read as text: a visible ASCII character,
a space or a tab. -/
def isVisible (b : UInt8) : Bool := isLegal b && b < 0x80

/-- A header value as a text, unless it has other octets. -/
def text? (value : Bytes) : Option String :=
  if value.all isVisible then some (String.ofList (value.map fun b => Char.ofNat b.toNat))
  else none

/-- The value of the first header with a name, as a text. -/
def headerText? (headers : List Header) (name : String) : Option String :=
  (header? headers name).bind text?

/-- What a caller sends. -/
structure Request where
  method : String
  /-- The path as written, with its escapes. -/
  path : String
  /-- What follows the question mark, as written; empty when there is none. -/
  query : String
  headers : List Header
  body : Bytes
deriving Repr, DecidableEq

/-- The part of a target that names something of the service. A target that begins with a solidus
does so as a whole, and so does a star. One that begins with a scheme does so behind the authority,
and means the root if nothing follows there; an authority alone names nothing. -/
def Request.resource : List Char → List Char
  | '/' :: rest => '/' :: rest
  | ['*'] => ['*']
  | target =>
    match target.dropWhile (· ≠ ':') with
    | ':' :: '/' :: '/' :: rest =>
      match rest.dropWhile fun c => c ≠ '/' && c ≠ '?' with
      | '/' :: path => '/' :: path
      | query => '/' :: query
    | _ => []

/-- A request for a target, in which a question mark starts the query and a number sign a part that
is not meant for the service. -/
def Request.ofTarget (method target : String) (headers : List Header) (body : Bytes) : Request :=
  let own := Request.resource (target.toList.takeWhile (· ≠ '#'))
  { method
    path := String.ofList (own.takeWhile (· ≠ '?'))
    query := String.ofList ((own.dropWhile (· ≠ '?')).drop 1)
    headers
    body }

/-- What a response carries. -/
inductive Content
  | none
  | json (value : Json)
  | text (value : String)
deriving Repr

/-- The octets of a body. -/
def Content.octets : Content → Bytes
  | .none => []
  | .json value => value.write
  | .text value => Utf8.encode value

/-- What a caller is answered. -/
structure Response where
  status : Nat
  headers : List Header
  content : Content
deriving Repr

namespace Response

/-- A response without a body. -/
def empty (status : Nat) : Response := ⟨status, [], .none⟩

/-- A response with a JSON body. -/
def json (status : Nat) (value : Json) : Response :=
  ⟨status, [.ofText "content-type" "application/json"], .json value⟩

/-- A response with a text body. -/
def text (status : Nat) (value : String) : Response :=
  ⟨status, [.ofText "content-type" "text/plain; charset=utf-8"], .text value⟩

/-- Add headers. -/
def add (response : Response) (headers : List Header) : Response :=
  { response with headers := response.headers ++ headers }

/-- Add a header unless there is one of its name. -/
def addIfAbsent (response : Response) (header : Header) : Response :=
  if response.headers.any (·.name = header.name) then response else response.add [header]

/-- Leave the body out. -/
def bare (response : Response) : Response := { response with content := .none }

end Response

end IssueTracker.Http
