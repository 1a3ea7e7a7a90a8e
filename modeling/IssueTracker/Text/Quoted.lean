import IssueTracker.Text.EscapedTable
import IssueTracker.Text.Ranges

/-!
# Quoted texts

A text in double quotes, for messages and descriptions. The quote, the reverse solidus, tab, line
feed, carriage return and the null character have escapes of two characters; other characters
without a visible form of their own, and combining characters, are written as their number in
hexadecimal digits between braces. A single quote stands for itself.
-/

namespace IssueTracker.Quoted

/-- Whether a character is shown by its number. -/
def isHidden (c : Char) : Bool :=
  let n := c.toNat
  if n < 0x80 then n < 0x20 || n = 0x7F
  else Text.within Text.escapedRanges n

/-- How a character is written between quotes. -/
def escape (c : Char) : List Char :=
  if c = '"' then ['\\', '"']
  else if c = '\\' then ['\\', '\\']
  else if c = '\t' then ['\\', 't']
  else if c = '\n' then ['\\', 'n']
  else if c = '\r' then ['\\', 'r']
  else if c.toNat = 0 then ['\\', '0']
  else if isHidden c then '\\' :: 'u' :: '\x7b' :: (Nat.toDigits 16 c.toNat ++ ['\x7d'])
  else [c]

/-- A text in quotes. -/
def quote (s : String) : String :=
  String.ofList ('"' :: s.toList.flatMap escape ++ ['"'])

/-- Quoted texts in square brackets, with a comma and a space between them. -/
def quoteList (texts : List String) : String :=
  "[" ++ ", ".intercalate (texts.map quote) ++ "]"

end IssueTracker.Quoted
