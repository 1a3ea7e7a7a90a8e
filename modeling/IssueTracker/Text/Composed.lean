import IssueTracker.Text.CombiningTable
import IssueTracker.Text.CompositionTable

/-!
# Composed text

A letter and the marks on it may be written as several characters or as one. In the composed form
of a text every character is first taken apart, marks behind the same character are put into the
order of their classes, and then each character takes up what follows it as far as a composition
exists and no mark of the same class stands between. Characters that are taken apart and never put
together again are not covered; texts with them have to be rid of them first.
-/

namespace IssueTracker.Composed

/-- The class that some ranges give to a character. -/
def classIn? (n : Nat) (ranges : List (Nat × Nat × Nat)) : Option Nat :=
  ranges.findSome? fun (first, last, value) =>
    if first ≤ n && n ≤ last then some value else none

/-- The class of a combining character, and zero for any other one. -/
def combiningClass (c : Char) : Nat :=
  let n := c.toNat
  if n < 0x300 then 0
  else
    match classIn? n Text.combiningClassesFirst with
    | some value => value
    | none => (classIn? n Text.combiningClassesSecond).getD 0

/-- What a character becomes in a group that lists first characters and compositions in turn. -/
def wholeIn? (first : Char) : List Char → Option Char
  | a :: whole :: rest => if a = first then some whole else wholeIn? first rest
  | _ => none

/-- The first part of a composition in a group that lists first characters and compositions in
turn. -/
def firstIn? (whole : Char) : List Char → Option Char
  | first :: b :: rest => if b = whole then some first else firstIn? whole rest
  | _ => none

/-- The character that two characters make up. A leading consonant and a vowel make up a syllable,
and one without a final consonant takes one up. -/
def whole? (first second : Char) : Option Char :=
  let a := first.toNat
  let b := second.toNat
  if b < 0x300 then none
  else if 0x1100 ≤ a && a < 0x1113 && 0x1161 ≤ b && b < 0x1176 then
    some (Char.ofNat (0xAC00 + ((a - 0x1100) * 21 + (b - 0x1161)) * 28))
  else if 0xAC00 ≤ a && a < 0xD7A4 && (a - 0xAC00) % 28 = 0 && 0x11A7 < b && b < 0x11C3 then
    some (Char.ofNat (a + (b - 0x11A7)))
  else
    Text.compositions.findSome? fun (mark, group) =>
      if mark = b then wholeIn? first group.toList else none

/-- The two characters that make up a character. -/
def parts? (whole : Char) : Option (Char × Char) :=
  let n := whole.toNat
  if n < 0xC0 then none
  else if 0xAC00 ≤ n && n < 0xD7A4 then
    let k := n - 0xAC00
    if k % 28 = 0 then
      some (Char.ofNat (0x1100 + k / 588), Char.ofNat (0x1161 + k % 588 / 28))
    else some (Char.ofNat (n - k % 28), Char.ofNat (0x11A7 + k % 28))
  else
    Text.compositions.findSome? fun (mark, group) =>
      (firstIn? whole group.toList).map fun first => (first, Char.ofNat mark)

/-- A character taken apart up to a number of times. The second part is never a composition. -/
def decompose : Nat → Char → List Char
  | 0, c => [c]
  | times + 1, c =>
    match parts? c with
    | some (first, second) => decompose times first ++ [second]
    | none => [c]

/-- The characters of a text taken apart, with their classes. No composition is made up of more
than four characters. -/
def decomposed (text : List Char) : List (Char × Nat) :=
  (text.flatMap (decompose 3)).map fun c => (c, combiningClass c)

/-- Put a character before others whose marks are in order: behind the marks of lesser classes. -/
def place (c : Char × Nat) : List (Char × Nat) → List (Char × Nat)
  | [] => [c]
  | d :: rest => if 0 < d.2 && d.2 < c.2 then d :: place c rest else c :: d :: rest

/-- The order of classes among marks behind the same character; equal ones stay as they are. -/
def arranged (text : List (Char × Nat)) : List (Char × Nat) := text.foldr place []

/-- Put together what follows a character. Characters that are done and the marks that stay behind
the character are given last first, with the class of the last such mark, which is zero if there
is none. -/
def joinFrom (done : List Char) (first : Char) (marks : List Char) (last : Nat) :
    List (Char × Nat) → List Char
  | [] => (marks ++ first :: done).reverse
  | (c, value) :: rest =>
    match if last = 0 || last < value then whole? first c else none with
    | some whole => joinFrom done whole marks last rest
    | none =>
      if value = 0 then joinFrom (marks ++ first :: done) c [] 0 rest
      else joinFrom done first (c :: marks) value rest

/-- Put together characters; marks that follow nothing stay. -/
def joined (text : List (Char × Nat)) : List Char :=
  let leading := (text.takeWhile (0 < ·.2)).map (·.1)
  match text.dropWhile (0 < ·.2) with
  | [] => leading
  | (c, _) :: rest => joinFrom leading.reverse c [] 0 rest

/-- The composed form of a text. -/
def compose (text : List Char) : List Char := joined (arranged (decomposed text))

end IssueTracker.Composed
