import IssueTracker.Url.Absolute

/-!
# Targets of web addresses

What is asked of the host that an address of the web names: a path and perhaps a query. A solidus
that is turned around in the path is turned back, segments that stand for the place they are at or
the one above are resolved, and what a target does not hold as it is gets escaped. A part behind a
number sign is not asked for.
-/

namespace IssueTracker.Url

/-- The visible ASCII characters that a path does not hold as they are, and the space. -/
def pathMarks : List Char := " \"#<>?`\x7b\x7d".toList

/-- The visible ASCII characters that a query does not hold as they are, and the space. -/
def queryMarks : List Char := " \"#'<>".toList

/-- A text with some characters, control characters and those beyond ASCII escaped. -/
def escaped (marks text : List Char) : List Char :=
  (Utf8.encode (String.ofList text)).flatMap fun b =>
    let c := Char.ofNat b.toNat
    if b < 0x20 || 0x7F ≤ b || marks.contains c then Percent.escape b else [c]

/-- A segment with the escapes of dots resolved. -/
def withDots : List Char → List Char
  | '%' :: '2' :: 'e' :: rest | '%' :: '2' :: 'E' :: rest => '.' :: withDots rest
  | c :: rest => c :: withDots rest
  | [] => []

/-- Resolve segments of dots, with the segments so far last first. A path that ends in such a
segment ends in a solidus. -/
def resolve (above : List (List Char)) : List (List Char) → List (List Char)
  | [] => above.reverse
  | segment :: rest =>
    let ended : List (List Char) := if rest.isEmpty then [[]] else []
    match withDots segment with
    | ['.'] => resolve (ended ++ above) rest
    | ['.', '.'] => resolve (ended ++ above.drop 1) rest
    | _ => resolve (segment :: above) rest

/-- The path of a target. -/
def path (text : List Char) : List Char :=
  let segments := Ip.split '/' ((text.map fun c => if c = '\\' then '/' else c).drop 1)
  (resolve [] segments).flatMap fun segment => '/' :: escaped pathMarks segment

/-- The target of an address, from what follows the authority. -/
def target (text : List Char) : List Char :=
  let own := text.takeWhile (· ≠ '#')
  path (own.takeWhile (· ≠ '?')) ++ match own.dropWhile (· ≠ '?') with
    | mark :: query => mark :: escaped queryMarks query
    | [] => []

end IssueTracker.Url
