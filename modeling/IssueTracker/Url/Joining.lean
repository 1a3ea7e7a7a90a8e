import IssueTracker.Text.Ranges
import IssueTracker.Url.JoiningTable
import IssueTracker.Url.MarkTable

/-!
# Joiners in domain names

Two characters without a look of their own say whether their neighbours are written joined. Behind
a character that takes away a vowel both have a meaning. Elsewhere only the one that keeps
neighbours apart has one, and only between characters that would be joined without it.
-/

namespace IssueTracker.Domain

open Text (within)

/-- Whether a character is a mark that takes up no space. -/
def isSpacelessMark (c : Char) : Bool := 0x300 ≤ c.toNat && within spacelessMarkRanges c.toNat

/-- Whether a character combines with the one before it. -/
def isMark (c : Char) : Bool :=
  isSpacelessMark c || (0x300 ≤ c.toNat && within spacingMarkRanges c.toNat)

/-- Whether a character is passed over when the neighbours of a joiner are looked for. -/
def isTransparent (c : Char) : Bool := isSpacelessMark c || c.toNat = 0x1E94B

/-- Whether a character joins the one after it. -/
def joinsNext (c : Char) : Bool :=
  within dualJoiningRanges c.toNat || within leftJoiningRanges c.toNat

/-- Whether a character joins the one before it. -/
def joinsPrevious (c : Char) : Bool :=
  within dualJoiningRanges c.toNat || within rightJoiningRanges c.toNat

/-- The character that joins neighbours. -/
def joiner : Char := '\u200D'

/-- The character that keeps neighbours apart. -/
def nonJoiner : Char := '\u200C'

/-- Whether what takes away a vowel is the last of some characters, given last first. -/
def endsInVirama (before : List Char) : Bool :=
  before.head?.any fun c => within viramaRanges c.toNat

/-- Whether characters would be joined, those before given last first. -/
def areJoined (before after : List Char) : Bool :=
  (before.find? (!isTransparent ·)).any joinsNext
    && (after.find? (!isTransparent ·)).any joinsPrevious

/-- Whether the joiners among characters have a meaning, those before given last first. -/
def joinersFit (before : List Char) : List Char → Bool
  | [] => true
  | c :: after =>
    ((c ≠ joiner && c ≠ nonJoiner) || endsInVirama before
        || (c = nonJoiner && areJoined before after))
      && joinersFit (c :: before) after

end IssueTracker.Domain
