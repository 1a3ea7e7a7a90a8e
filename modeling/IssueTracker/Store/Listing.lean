import IssueTracker.Text.LowerCase

/-!
# Lists in pages

A list request filters by a piece of text, skips rows and takes rows. The text is looked for in
small letters on both sides. A page limit that is absent or zero means a hundred.
-/

namespace IssueTracker

/-- What a list request asks for. -/
structure Listing where
  /-- The text to look for; the empty text is found everywhere. -/
  query : String
  /-- How many rows to take at most. -/
  limit : Nat
  /-- How many matching rows to skip. -/
  offset : Nat
deriving Repr, DecidableEq

namespace Listing

/-- The limit of a page when none is asked for. -/
def defaultLimit : Nat := 100

/-- A list request with its absent parts filled in. -/
def ofParts (query : Option String) (limit offset : Option Nat) : Listing where
  query := query.getD ""
  limit := match limit with
    | none | some 0 => defaultLimit
    | some n => n
  offset := offset.getD 0

/-- Whether a text contains the query, letter case aside. -/
def isMatch (listing : Listing) (text : String) : Bool :=
  listing.query.isEmpty
    || LowerCase.occurs (LowerCase.lower listing.query.toList) (LowerCase.lower text.toList)

/-- The rows of a page: those that match, less those skipped, up to the limit. -/
def page (listing : Listing) (text : α → String) (rows : List α) : List α :=
  ((rows.filter fun row => listing.isMatch (text row)).drop listing.offset).take listing.limit

end Listing

end IssueTracker
