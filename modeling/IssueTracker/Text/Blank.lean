/-!
# White space and trimming

The characters of the Unicode property White_Space, and the removal of them from the ends of a
text. White space inside a text is never touched.
-/

namespace IssueTracker.Blank

/-- The property White_Space. -/
def isBlank (c : Char) : Bool :=
  let n := c.toNat
  (0x09 ≤ n && n ≤ 0x0D) || n = 0x20 || n = 0x85 || n = 0xA0 || n = 0x1680
    || (0x2000 ≤ n && n ≤ 0x200A) || n = 0x2028 || n = 0x2029 || n = 0x202F || n = 0x205F
    || n = 0x3000

/-- The characters from the first one that is not white space. -/
def trimStart (s : List Char) : List Char := s.dropWhile isBlank

/-- A text without the white space at its two ends. -/
def trim (s : String) : String :=
  String.ofList ((trimStart (trimStart s.toList).reverse).reverse)

/-- A text of white space only, the empty text included. -/
def isAllBlank (s : String) : Bool := s.toList.all isBlank

end IssueTracker.Blank
