import IssueTracker.Text.CaseTable
import IssueTracker.Text.Ranges

/-!
# Small letters

The small form of a text, by the full Unicode rules that need no language. A capital sigma becomes
the final small sigma when a cased character precedes it and none follows, characters that case
ignores being passed over; a capital I with a dot above becomes an i and a combining dot. Every
other character is mapped by itself.
-/

namespace IssueTracker.LowerCase

/-- The property Cased. -/
def isCased (c : Char) : Bool := Text.within Text.casedRanges c.toNat

/-- The property Case_Ignorable. -/
def isIgnorable (c : Char) : Bool := Text.within Text.ignorableRanges c.toNat

/-- The small form of a number in a run, if it is one of the run's. -/
def inRun? (n : Nat) : Nat × Nat × Nat × Nat → Option Nat
  | (first, last, step, small) =>
    if first ≤ n ∧ n ≤ last ∧ (n - first) % step = 0 then some (small + (n - first)) else none

/-- The small form of a character by itself. -/
def lowerChar (c : Char) : List Char :=
  let n := c.toNat
  if n < 0x80 then [if 0x41 ≤ n && n ≤ 0x5A then Char.ofNat (n + 0x20) else c]
  else if n = 0x130 then ['i', '\u0307']
  else
    match Text.lowerRuns.findSome? (inRun? n) with
    | some small => [Char.ofNat small]
    | none => [c]

/-- Whether the first character that case does not ignore has case. -/
def startsCased (s : List Char) : Bool :=
  match s.dropWhile isIgnorable with
  | [] => false
  | c :: _ => isCased c

/-- The small form of a capital sigma between the characters before it, last first, and those
after it. -/
def lowerSigma (before after : List Char) : Char :=
  if startsCased before && !startsCased after then 'ς' else 'σ'

/-- Lower a text, with the characters passed so far and the result so far, both last first. -/
def lowerFrom (before done : List Char) : List Char → List Char
  | [] => done.reverse
  | c :: after =>
    if c = 'Σ' then lowerFrom (c :: before) (lowerSigma before after :: done) after
    else lowerFrom (c :: before) ((lowerChar c).reverse ++ done) after

/-- The small form of a text. -/
def lower (s : List Char) : List Char := lowerFrom [] [] s

/-- Whether one sequence of characters stands somewhere in another. -/
def occurs (part : List Char) : List Char → Bool
  | [] => part.isEmpty
  | c :: rest => part.isPrefixOf (c :: rest) || occurs part rest

end IssueTracker.LowerCase
