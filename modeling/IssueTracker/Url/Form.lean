import IssueTracker.Text.Utf8
import IssueTracker.Url.Percent

/-!
# Form data

The pairs of names and values in a query. Pairs are separated by ampersands, and empty stretches
between two of them are passed over. A pair is cut at its first equals sign; without one its value
is empty. A plus sign is a space. Escapes are resolved after that, and what is not UTF-8 then is
read leniently.
-/

namespace IssueTracker.Form

/-- Cut octets at every occurrence of one of them, collecting pieces and octets last first. -/
def splitFrom (mark : UInt8) (pieces : List Bytes) (piece : Bytes) : Bytes → List Bytes
  | [] => (piece.reverse :: pieces).reverse
  | b :: rest =>
    if b = mark then splitFrom mark (piece.reverse :: pieces) [] rest
    else splitFrom mark pieces (b :: piece) rest

/-- The pieces of octets between the occurrences of one of them. -/
def split (mark : UInt8) (octets : Bytes) : List Bytes := splitFrom mark [] [] octets

/-- The text of a name or a value. -/
def component (octets : Bytes) : String :=
  Utf8.decodeLenient (Percent.decode (octets.map fun b => if b = 0x2B then 0x20 else b))

/-- A pair from the stretch that holds it. -/
def pair (stretch : Bytes) : String × String :=
  (component (stretch.takeWhile (· ≠ 0x3D)), component ((stretch.dropWhile (· ≠ 0x3D)).drop 1))

/-- The pairs of a query in order. -/
def pairs (query : Bytes) : List (String × String) :=
  ((split 0x26 query).filter (!·.isEmpty)).map pair

end IssueTracker.Form
