import IssueTracker.Auth.Envelope
import Mathlib.Data.List.Basic

/-!
# Cutting a text at a mark

Tokens, paths, scopes and settings are all cut by one function. It gives exactly the pieces that
have no mark in them and yield the text when the mark is put between them. That determines the
pieces, so a statement about segments can be made about the text itself: they are the parts of it
that have no mark in them and a mark or an end on each side.
-/

namespace IssueTracker.Auth.Envelope

/-- The loop that collects pieces last first is the library's cut of the rest, behind the pieces
collected so far. -/
theorem splitFrom_eq (mark : Char) (pieces : List String) (piece text : List Char) :
    splitFrom mark pieces piece text =
      pieces.reverse ++ (List.splitOnPPrepend (· == mark) text piece).map String.ofList := by
  induction text generalizing pieces piece with
  | nil => simp [splitFrom]
  | cons c rest inductionHypothesis =>
    by_cases same : c = mark
    · simp [splitFrom, List.splitOnPPrepend, same, inductionHypothesis]
    · simp [splitFrom, List.splitOnPPrepend, same, inductionHypothesis]

/-- Cutting a text cuts the list of its characters. -/
theorem split_eq (mark : Char) (text : String) :
    split mark text = (text.toList.splitOn mark).map String.ofList := by
  simp [split, splitFrom_eq, List.splitOn_eq_splitOnP]

/-- No piece of a cut has the mark in it. -/
theorem piece_without_mark (mark : Char) (text piece : List Char)
    (member : piece ∈ text.splitOn mark) : mark ∉ piece := by
  induction text generalizing piece with
  | nil => simp_all
  | cons c rest inductionHypothesis =>
    rw [List.splitOn_cons_eq_if_modifyHead] at member
    obtain ⟨first, others, cut⟩ := List.exists_cons_of_ne_nil (List.splitOn_ne_nil mark rest)
    rw [cut] at member inductionHypothesis
    by_cases same : c = mark
    · simp only [same, beq_self_eq_true, if_true, List.mem_cons] at member
      rcases member with rfl | member
      · simp
      · exact inductionHypothesis piece (by simpa using member)
    · -- The character is put in front of the first piece, which had no mark before either.
      simp only [beq_iff_eq, same, if_false, List.modifyHead_cons, List.mem_cons] at member
      rcases member with rfl | member
      · have absent : mark ∉ first := inductionHypothesis first (by simp)
        simp [absent, Ne.symm same]
      · exact inductionHypothesis piece (by simp [member])

/-- The pieces of a text are the only ones without the mark that yield the text when the mark is
put between them. -/
theorem split_eq_iff (mark : Char) (text : String) (pieces : List String) :
    split mark text = pieces ↔
      pieces ≠ [] ∧ (∀ piece ∈ pieces, mark ∉ piece.toList) ∧
        text.toList = [mark].intercalate (pieces.map String.toList) := by
  rw [split_eq]
  constructor
  · rintro rfl
    refine ⟨by simp, ?_, ?_⟩
    · intro piece member
      obtain ⟨chars, inside, rfl⟩ := List.mem_map.mp member
      simpa using piece_without_mark mark text.toList chars inside
    · simp [Function.comp_def]
  · rintro ⟨nonempty, absent, joined⟩
    have cut : text.toList.splitOn mark = pieces.map String.toList := by
      rw [joined]
      refine List.splitOn_intercalate mark ?_ (by simpa using nonempty)
      intro chars member
      obtain ⟨piece, inside, rfl⟩ := List.mem_map.mp member
      exact absent piece inside
    simp [cut, Function.comp_def]

/-- A text without the mark is one piece. -/
theorem split_of_not_mem {mark : Char} {text : String} (absent : mark ∉ text.toList) :
    split mark text = [text] := by
  simp [split_eq, List.splitOn_eq_singleton absent]

/-- The first piece ends at the first mark, and the others are those of what follows it. -/
theorem split_of_append {mark : Char} {text : String} {front rest : List Char}
    (absent : mark ∉ front) (written : text.toList = front ++ mark :: rest) :
    split mark text = String.ofList front :: split mark (String.ofList rest) := by
  simp [split_eq, written, List.splitOn_append_cons_self_of_not_mem absent]

/-- Whether a piece stands in a text by itself: on each side of it is the mark, or the end of the
text. -/
def StandsIn (mark : Char) (piece text : List Char) : Prop :=
  ∃ front back, text = front ++ (piece ++ back) ∧
    (front = [] ∨ ∃ before, front = before ++ [mark]) ∧
    (back = [] ∨ ∃ after, back = mark :: after)

section Standing

variable {mark : Char}

/-- A piece that stands in a text by itself still does behind another piece. -/
theorem StandsIn.behind {piece text : List Char} (stands : StandsIn mark piece text)
    (first : List Char) :
    StandsIn mark piece (first ++ mark :: text) := by
  obtain ⟨front, back, rfl, begins, ends⟩ := stands
  refine ⟨first ++ mark :: front, back, by simp, ?_, ends⟩
  right
  rcases begins with rfl | ⟨before, rfl⟩
  · exact ⟨first, rfl⟩
  · exact ⟨first ++ mark :: before, by simp⟩

/-- When pieces are joined by the mark, each of them stands in the result by itself. -/
theorem standsIn_intercalate {pieces : List (List Char)} {piece : List Char}
    (member : piece ∈ pieces) :
    StandsIn mark piece ([mark].intercalate pieces) := by
  induction pieces with
  | nil => cases member
  | cons first others inductionHypothesis =>
    cases others with
    | nil =>
      obtain rfl : piece = first := by simpa using member
      exact ⟨[], [], by simp, .inl rfl, .inl rfl⟩
    | cons second others =>
      rw [List.intercalate_cons_cons, List.append_assoc, List.singleton_append]
      rcases List.mem_cons.mp member with rfl | later
      · exact ⟨[], _, rfl, .inl rfl, .inr ⟨_, rfl⟩⟩
      · exact (inductionHypothesis later).behind first

/-- The pieces of a text are the parts without the mark that stand in it by themselves. -/
theorem mem_splitOn_iff {piece text : List Char} :
    piece ∈ text.splitOn mark ↔ mark ∉ piece ∧ StandsIn mark piece text := by
  constructor
  · intro member
    have stands : StandsIn mark piece _ := standsIn_intercalate member
    rw [List.intercalate_splitOn] at stands
    exact ⟨piece_without_mark mark text piece member, stands⟩
  · rintro ⟨absent, front, back, rfl, begins, ends⟩
    have first : piece ∈ (piece ++ back).splitOn mark := by
      rcases ends with rfl | ⟨after, rfl⟩
      · rw [List.append_nil, List.splitOn_eq_singleton absent]
        exact List.mem_singleton_self piece
      · rw [List.splitOn_append_cons_self_of_not_mem absent]
        exact List.mem_cons_self
    rcases begins with rfl | ⟨before, rfl⟩
    · exact first
    · rw [List.append_assoc, List.singleton_append, List.splitOn_append_cons_self]
      exact List.mem_append_right _ first

/-- The pieces that a text is cut into are the parts without the mark that stand in it by
themselves. -/
theorem mem_split_iff {piece text : String} :
    piece ∈ split mark text ↔
      mark ∉ piece.toList ∧ StandsIn mark piece.toList text.toList := by
  rw [← mem_splitOn_iff, split_eq, List.mem_map]
  constructor
  · rintro ⟨chars, inside, rfl⟩
    rwa [String.toList_ofList]
  · intro inside
    exact ⟨piece.toList, inside, String.ofList_toList⟩

end Standing

end IssueTracker.Auth.Envelope
