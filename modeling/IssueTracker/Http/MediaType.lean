import IssueTracker.Http.Message

/-!
# Media types

The form of a media type is a type, a solidus, a subtype and parameters, each behind a semicolon.
The part of a subtype behind its last plus sign is its suffix. A parameter is a name, an equals
sign and a value that may be quoted; spaces may stand in front of the name and behind a quoted
value, and nowhere else. A quoted value has a character at least, which may be a quote.
-/

namespace IssueTracker.Http.MediaType

/-- The characters of a name that are neither letters nor digits. -/
def marks : List Char := "!#$%&'*+-.^_`|~".toList

/-- A character of a name. -/
def isToken (c : Char) : Bool := c.isAlphanum || marks.contains c

/-- A character that may stand in quotes. -/
def isQuotable (c : Char) : Bool := 31 < c.toNat && c.toNat ≠ 127

/-- Where a reader of parameters stands. -/
inductive Place
  /-- Behind a semicolon and any spaces. -/
  | beforeName
  | inName
  /-- Behind the equals sign. -/
  | beforeValue
  | inValue
  /-- Behind the opening quote. -/
  | openQuotes
  | inQuotes
  /-- Behind the closing quote and any spaces. -/
  | behindQuotes
deriving Repr, DecidableEq

/-- Read one character of the parameters. -/
def Place.step (place : Place) (c : Char) : Option Place :=
  match place with
  | .beforeName => if c = ' ' then some .beforeName else if isToken c then some .inName else none
  | .inName => if c = '=' then some .beforeValue else if isToken c then some .inName else none
  | .beforeValue => if c = '"' then some .openQuotes else if isToken c then some .inValue else none
  | .inValue => if c = ';' then some .beforeName else if isToken c then some .inValue else none
  | .openQuotes => if isQuotable c then some .inQuotes else none
  | .inQuotes =>
    if c = '"' then some .behindQuotes else if isQuotable c then some .inQuotes else none
  | .behindQuotes =>
    if c = ';' then some .beforeName else if c = ' ' then some .behindQuotes else none

/-- Whether the parameters may end here. A value may be empty. -/
def Place.isEnd : Place → Bool
  | .inName | .openQuotes | .inQuotes => false
  | _ => true

/-- Whether a text is a list of parameters. -/
def areParameters (text : List Char) : Bool :=
  (text.foldlM Place.step Place.beforeName).any Place.isEnd

/-- The part of a subtype in front of its suffix, and the suffix. A plus sign at the start of the
subtype does not begin a suffix. -/
def suffixed (subtype : List Char) : List Char × Option (List Char) :=
  let behind := subtype.reverse.takeWhile (· ≠ '+')
  let front := (subtype.reverse.drop (behind.length + 1)).reverse
  if front.isEmpty then (subtype, none) else (front, some behind.reverse)

/-- The subtype of JSON. -/
def jsonName : List Char := ['j', 's', 'o', 'n']

/-- The type of JSON. -/
def applicationName : List Char := ['a', 'p', 'p', 'l', 'i', 'c', 'a', 't', 'i', 'o', 'n']

/-- Whether a text is a media type of JSON: of the type `application`, with the subtype or the
suffix `json`, in letters of any case. -/
def isJson (text : List Char) : Bool :=
  let kind := (text.takeWhile isToken).map Char.toLower
  match text.dropWhile isToken with
  | '/' :: rest =>
    let subtype := (rest.takeWhile isToken).map Char.toLower
    let (name, suffix) := suffixed subtype
    let parametersFollow := match rest.dropWhile isToken with
      | [] => true
      | ';' :: parameters => !subtype.isEmpty && areParameters parameters
      | _ => false
    kind = applicationName && (name = jsonName || suffix = some jsonName) && parametersFollow
  | _ => false

/-- Whether the headers declare a JSON body. -/
def declaresJson (headers : List Header) : Bool :=
  (headerText? headers "content-type").any fun value => isJson value.toList

end IssueTracker.Http.MediaType
