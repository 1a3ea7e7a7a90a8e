import IssueTracker.Text.Composed
import IssueTracker.Text.LowerCase
import IssueTracker.Url.Direction
import IssueTracker.Url.DomainTable
import IssueTracker.Url.Ip
import IssueTracker.Url.Punycode
import IssueTracker.Url.VariantTable

/-!
# Domain names as hosts

A domain name is read without regard to letter case and to variants of characters, in its composed
form, and its labels stand between dots. Certain characters refuse it, and so does a label that
begins with a mark, has a joiner without a meaning, or claims to be a written form and is none. A
name whose last label is a number is an address and has to be one. Whether a name exists plays no
part.
-/

namespace IssueTracker.Domain

open Text (within)

/-- The ASCII characters that refuse a domain name. -/
def refusedMarks : List Char := "%#/:<>?@[\\]^|".toList

/-- Whether a character in its standard form is an ASCII character that refuses a domain name. -/
def isRefusedMark (c : Char) : Bool :=
  c.toNat ≤ 0x20 || c.toNat = 0x7F || refusedMarks.contains c

/-- Whether a character beyond ASCII is one that no domain name has. -/
def isRefused (c : Char) : Bool :=
  0x80 ≤ c.toNat && (within refusedRangesFirst c.toNat || within refusedRangesSecond c.toNat)

/-- Whether a character is passed over. -/
def isIgnored (c : Char) : Bool := within ignoredRanges c.toNat

/-- The letters of Cherokee that stand for themselves and not for their small forms. -/
def isPlainCapital (c : Char) : Bool := 0x13A0 ≤ c.toNat && c.toNat ≤ 0x13F5

/-- What runs of characters say that one of them stands for. -/
def inRuns? {α : Type} (n : Nat) (runs : List (Nat × List α)) : Option α :=
  runs.findSome? fun (first, run) => if first ≤ n then run[n - first]? else none

/-- The single character that a variant stands for. -/
def variant? (n : Nat) : Option Char :=
  variantRuns.findSome? fun (first, run) =>
    if first ≤ n && n < first + run.length then run.toList[n - first]? else none

/-- The characters that a character stands for. -/
def mapped (c : Char) : List Char :=
  let n := c.toNat
  if n < 0x80 then [c.toLower]
  else if isIgnored c then []
  else if isPlainCapital c then [c]
  else
    match variant? n with
    | some character => [character]
    | none =>
      match inRuns? n expandedRunsFirst with
      | some text => text.toList
      | none =>
        match inRuns? n expandedRunsSecond with
        | some text => text.toList
        | none => LowerCase.lowerChar c

/-- The standard form of a text: what its characters stand for, composed. -/
def standard (text : List Char) : List Char := Composed.compose (text.flatMap mapped)

/-- How many characters a label with other characters than ASCII may have. -/
def longestLabel : Nat := 1000

/-- Whether characters in their standard form may make up a label. -/
def isLabelText (label : List Char) : Bool :=
  !label.head?.any isMark && joinersFit [] label
    && (label.length ≤ longestLabel || label.all (·.toNat < 0x80))

/-- The start of a label that is a written form. -/
def writtenMark : List Char := ['x', 'n', '-', '-']

/-- How many characters a written form may have. -/
def longestWritten : Nat := 2000

/-- Whether a written form may stand for some characters: not for ASCII characters alone, nor for
characters that are not in their standard form. -/
def isWrittenText (text : List Char) : Bool :=
  text.any (0x80 ≤ ·.toNat)
    && text.all (fun c => !isRefused c && !isRefusedMark c && mapped c = [c])
    && Composed.compose text = text

/-- What characters in their standard form say, if they are a label. -/
def label? (label : List Char) : Option (List Char) :=
  if label.take 4 = writtenMark then
    let written := label.drop 4
    if written.length ≤ longestWritten && written.all (·.toNat < 0x80) then
      (Punycode.decode? written).filter fun text => isWrittenText text && isLabelText text
    else none
  else if isLabelText label then some label
  else none

/-- The labels of a domain name in their standard form, unless the name is refused. -/
def labels? (text : List Char) : Option (List (List Char)) :=
  let form := standard text
  if text.any isRefused || form.any isRefusedMark then none
  else
    let labels := Ip.split '.' form
    match labels.mapM label? with
    | some texts => if areReadable texts then some labels else none
    | none => none

/-- Whether a text names a host, as a domain or as an address of the older form. -/
def isHost (text : List Char) : Bool :=
  match labels? text with
  | none => false
  | some labels => labels ≠ [[]] && (!Ip.endsInNumber labels || Ip.isOlder labels)

end IssueTracker.Domain
