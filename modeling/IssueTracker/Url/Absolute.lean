import IssueTracker.Text.Utf8
import IssueTracker.Url.Domain
import IssueTracker.Url.Percent

/-!
# Absolute addresses

Whether a text is an absolute address. It has a scheme; schemes of the web have a host that names
a domain or an internet address, and a solidus may be turned around in them; files may have such a
host; under other schemes a host may be any text without certain characters, or there may be none
and everything goes. What follows the host never matters.
-/

namespace IssueTracker.Url

/-- How an address goes on behind its scheme. -/
inductive Scheme
  /-- A scheme of the web, which needs a host. -/
  | web
  | file
  | other
deriving Repr, DecidableEq

/-- The schemes of the web. -/
def webSchemes : List (List Char) := ["http", "https", "ws", "wss", "ftp"].map String.toList

/-- The kind of a scheme in small letters. -/
def Scheme.ofName (name : List Char) : Scheme :=
  if webSchemes.contains name then .web
  else if name = ['f', 'i', 'l', 'e'] then .file
  else .other

/-- Whether a character separates parts like a solidus. -/
def Scheme.isSolidus (scheme : Scheme) (c : Char) : Bool :=
  c = '/' || (c = '\\' && scheme ≠ .other)

/-- Whether a character ends the host and what comes with it. -/
def Scheme.isDelimiter (scheme : Scheme) (c : Char) : Bool :=
  scheme.isSolidus c || c = '?' || c = '#'

/-- The text less the control characters and spaces at its ends, and less every tab and line
break. -/
def significant (text : List Char) : List Char :=
  let isEdge : Char → Bool := fun c => c.toNat ≤ 0x20
  let inner := ((text.dropWhile isEdge).reverse.dropWhile isEdge).reverse
  inner.filter fun c => !(c = '\t' || c = '\n' || c = '\r')

/-- The name of the scheme of an address in small letters, and what follows its colon. -/
def scheme? (text : List Char) : Option (List Char × List Char) :=
  let isPart : Char → Bool := fun c => c.isAlphanum || c = '+' || c = '-' || c = '.'
  match text.dropWhile isPart with
  | ':' :: rest =>
    if text.head?.any Char.isAlpha then
      some ((text.takeWhile isPart).map Char.toLower, rest)
    else none
  | _ => none

/-- The characters that an opaque host does not have. -/
def opaqueMarks : List Char := [Char.ofNat 0] ++ "\t\n\r #/:<>?@[\\]^|".toList

/-- Whether a text in brackets is an address of the newer form, or one without them a host of the
given sort. -/
def isHost (other : List Char → Bool) : List Char → Bool
  | '[' :: rest => rest.getLast? = some ']' && Ip.isNewer rest.dropLast
  | host => other host

/-- The characters of a host once its escapes are resolved. -/
def resolved? (host : List Char) : Option (List Char) :=
  (Utf8.decode? (Percent.decode (Utf8.encode (String.ofList host)))).map String.toList

/-- Whether a text names a domain or an address, once its escapes are resolved. -/
def isNamedHost : List Char → Bool := isHost fun host => (resolved? host).any Domain.isHost

/-- Whether a text may be a host under a scheme of no particular kind. -/
def isOpaqueHost : List Char → Bool := isHost fun host => host.all (!opaqueMarks.contains ·)

/-- The length of the host at the start of a text: up to a colon that is not in brackets. -/
def hostLength (inBrackets : Bool) : List Char → Nat
  | [] => 0
  | c :: rest =>
    if c = ':' && !inBrackets then 0
    else hostLength (if c = '[' then true else if c = ']' then false else inBrackets) rest + 1

/-- Whether digits are a port; there may be none. -/
def isPort (digits : List Char) : Bool :=
  digits.all Char.isDigit && (Ip.number? 10 digits).any (· ≤ 65535)

/-- The part of an authority behind its last at sign, or all of it. -/
def siteOf (authority : List Char) : List Char := (authority.reverse.takeWhile (· ≠ '@')).reverse

/-- Whether a text behind two solidi begins with an authority: the name of a user, if an at sign
ends it, then a host, then a port behind a colon. The last at sign counts. -/
def hasAuthority (scheme : Scheme) (text : List Char) : Bool :=
  let authority := text.takeWhile (!scheme.isDelimiter ·)
  let site := siteOf authority
  let user := (authority.take (authority.length - site.length)).dropLast
  let hasAt := site.length < authority.length
  let hasUser := !user.isEmpty && user ≠ [':']
  let host := site.take (hostLength false site)
  let port := site.drop host.length
  let isEnded := site.isEmpty && !(text.drop authority.length).isEmpty
  if hasAt && user.isEmpty && isEnded then false
  else if host.isEmpty then scheme = .other && port.isEmpty && !hasUser
  else (if scheme = .web then isNamedHost host else isOpaqueHost host)
    && isPort ((port.drop 1).takeWhile (· ≠ '\\'))

/-- Whether a text is the letter of a drive. -/
def isDrive : List Char → Bool
  | [letter, mark] => letter.isAlpha && (mark = ':' || mark = '|')
  | _ => false

/-- Whether the text behind the scheme of files is in order: only a host behind two solidi can be
amiss. -/
def isFile : List Char → Bool
  | a :: b :: rest =>
    if Scheme.file.isSolidus a && Scheme.file.isSolidus b then
      let host := rest.takeWhile (!Scheme.file.isDelimiter ·)
      host.isEmpty || isDrive host || isNamedHost host
    else true
  | _ => true

/-- Whether a text is an absolute address. -/
def isAbsolute (text : String) : Bool :=
  match scheme? (significant text.toList) with
  | none => false
  | some (name, rest) =>
    match Scheme.ofName name, rest with
    | .web, _ => hasAuthority .web (rest.dropWhile Scheme.web.isSolidus)
    | .file, _ => isFile rest
    | .other, '/' :: '/' :: rest => hasAuthority .other rest
    | .other, _ => true

end IssueTracker.Url
