import IssueTracker.Text.LowerCase
import Mathlib.Data.List.TakeWhile

/-!
# Small letters of a part of a text

The small form of a character depends on what stands around it only for a capital sigma, and there
only on whether a character with case is next to it on either side, characters that case ignores
aside. So the small form of a text is made up of those of its parts, each taken between what stands
before it and what stands after it.

Taken by itself, a part has the same small form as in its place, but for capital sigmas that are
misjudged: those with nothing between them and an end of the part that case does not ignore, where
what stands beyond that end decides whether they are final.
-/

namespace IssueTracker.LowerCase

variable {one other before after front part back text : List Char} {c : Char}

/-- What stands behind a text counts only if case ignores all of the text. -/
theorem startsCased_append :
    startsCased (one ++ other) =
      (startsCased one || one.all isIgnorable && startsCased other) := by
  induction one with
  | nil => simp [startsCased]
  | cons first rest inductionHypothesis =>
    cases ignored : isIgnorable first with
    | true => simpa [startsCased, ignored] using inductionHypothesis
    | false => simp [startsCased, ignored]

/-- A text that case ignores does not begin with case. -/
theorem startsCased_of_all (ignored : one.all isIgnorable = true) : startsCased one = false := by
  have none : one.dropWhile isIgnorable = [] :=
    List.dropWhile_eq_nil_iff.mpr (List.all_eq_true.mp ignored)
  simp [startsCased, none]

/-- Whether a capital sigma between two texts is final. -/
def isFinal (before after : List Char) : Bool :=
  startsCased before.reverse && !startsCased after

/-- The small form of a character between two texts. -/
def lowerAt (before : List Char) (c : Char) (after : List Char) : List Char :=
  if c = 'Σ' then [if isFinal before after then 'ς' else 'σ'] else lowerChar c

/-- The small form of a part of a text between what stands before it and what stands after it. -/
def lowerBetween (front : List Char) : List Char → List Char → List Char
  | [], _ => []
  | c :: rest, back => lowerAt front c (rest ++ back) ++ lowerBetween (front ++ [c]) rest back

/-- A text is lowered character by character, each in its place. -/
theorem lowerFrom_eq (before done text : List Char) :
    lowerFrom before done text = done.reverse ++ lowerBetween before.reverse text [] := by
  induction text generalizing before done with
  | nil => simp [lowerFrom, lowerBetween]
  | cons c rest inductionHypothesis =>
    by_cases sigma : c = 'Σ'
    · simp [lowerFrom, lowerBetween, sigma, inductionHypothesis, lowerAt, lowerSigma, isFinal]
    · simp [lowerFrom, lowerBetween, sigma, inductionHypothesis, lowerAt]

/-- A text by itself is lowered as a part with nothing around it. -/
theorem lower_eq (text : List Char) : lower text = lowerBetween [] text [] := by
  simp [lower, lowerFrom_eq]

/-- A part made up of two has the small form of both, each in its place. -/
theorem lowerBetween_append :
    lowerBetween front (one ++ other) back =
      lowerBetween front one (other ++ back) ++ lowerBetween (front ++ one) other back := by
  induction one generalizing front with
  | nil => simp [lowerBetween]
  | cons c rest inductionHypothesis => simp [lowerBetween, inductionHypothesis]

/-- The small form of a text has that of each part of it. -/
theorem lower_surrounded :
    lower (front ++ part ++ back) =
      lowerBetween [] front (part ++ back) ++ lowerBetween front part back ++
        lowerBetween (front ++ part) back [] := by
  simp [lower_eq, lowerBetween_append]

/-- The small forms of a character in two places are equally long. -/
theorem length_lowerAt (one other another further : List Char) :
    (lowerAt one c other).length = (lowerAt another c further).length := by
  by_cases sigma : c = 'Σ' <;> simp [lowerAt, sigma]

/-- The small forms of a character in two places are the same, unless it is a capital sigma that is
final in one place only. -/
theorem lowerAt_eq_iff {another further : List Char} :
    lowerAt one c other = lowerAt another c further ↔
      (c = 'Σ' → isFinal one other = isFinal another further) := by
  by_cases sigma : c = 'Σ'
  · cases final : isFinal one other <;> cases finalToo : isFinal another further <;>
      simp [lowerAt, sigma, final, finalToo]
  · simp [lowerAt, sigma]

/-- The small forms of a part in two places are the same if each of its capital sigmas is final in
both or in neither, and only then. -/
theorem lowerBetween_eq_iff {front' back' : List Char} :
    lowerBetween front part back = lowerBetween front' part back' ↔
      ∀ before after, part = before ++ 'Σ' :: after →
        isFinal (front ++ before) (after ++ back) =
          isFinal (front' ++ before) (after ++ back') := by
  induction part generalizing front front' with
  | nil => simp [lowerBetween]
  | cons c rest inductionHypothesis =>
    have first : (lowerAt front c (rest ++ back) ++ lowerBetween (front ++ [c]) rest back =
        lowerAt front' c (rest ++ back') ++ lowerBetween (front' ++ [c]) rest back') ↔
          lowerAt front c (rest ++ back) = lowerAt front' c (rest ++ back') ∧
            lowerBetween (front ++ [c]) rest back = lowerBetween (front' ++ [c]) rest back' := by
      constructor
      · exact fun same => List.append_inj same (length_lowerAt _ _ _ _)
      · rintro ⟨head, tail⟩
        rw [head, tail]
    rw [lowerBetween, lowerBetween, first, lowerAt_eq_iff, inductionHypothesis]
    constructor
    · rintro ⟨head, tail⟩ before after shape
      cases before with
      | nil =>
        obtain ⟨rfl, rfl⟩ := List.cons.inj shape
        simpa using head rfl
      | cons d before =>
        obtain ⟨rfl, rfl⟩ := List.cons.inj shape
        simpa using tail before after rfl
    · intro all
      constructor
      · rintro rfl
        simpa using all [] rest rfl
      · rintro before after rfl
        simpa using all (c :: before) after rfl

/-- A capital sigma in a part is misjudged by what the part shows of it. -/
inductive Misjudged (front part back : List Char) : Prop
  /-- It is final, but in the part nothing before it has case. -/
  | early {before after : List Char} (shape : part = before ++ 'Σ' :: after)
      (ignored : before.all isIgnorable = true) (cased : startsCased front.reverse = true)
      (ended : startsCased (after ++ back) = false) : Misjudged front part back
  /-- It is not final, but in the part nothing after it has case. -/
  | late {before after : List Char} (shape : part = before ++ 'Σ' :: after)
      (begun : startsCased before.reverse = true) (ignored : after.all isIgnorable = true)
      (cased : startsCased back = true) : Misjudged front part back

/-- A capital sigma is final in its place exactly if it is in the part by itself, unless it is
misjudged. -/
theorem isFinal_eq_iff :
    isFinal (front ++ before) (after ++ back) = isFinal before after ↔
      ¬ (before.all isIgnorable = true ∧ startsCased front.reverse = true ∧
          startsCased (after ++ back) = false) ∧
        ¬ (startsCased before.reverse = true ∧ after.all isIgnorable = true ∧
          startsCased back = true) := by
  have silent : before.all isIgnorable = true → startsCased before.reverse = false := fun all =>
    startsCased_of_all (by simpa using all)
  have silentToo : after.all isIgnorable = true → startsCased after = false := startsCased_of_all
  simp only [isFinal, List.reverse_append, startsCased_append, List.all_reverse]
  cases begun : startsCased before.reverse <;> cases ignored : before.all isIgnorable <;>
    cases ended : startsCased after <;> cases ignoredToo : after.all isIgnorable <;>
      cases startsCased front.reverse <;> cases startsCased back <;>
        simp_all

/-- A part has its own small form in its place exactly if none of its capital sigmas is misjudged.
-/
theorem lowerBetween_eq_lower_iff :
    lowerBetween front part back = lower part ↔ ¬ Misjudged front part back := by
  rw [lower_eq, lowerBetween_eq_iff]
  simp only [List.nil_append, List.append_nil, isFinal_eq_iff]
  constructor
  · rintro judged (⟨shape, ignored, cased, ended⟩ | ⟨shape, begun, ignored, cased⟩)
    · exact (judged _ _ shape).1 ⟨ignored, cased, ended⟩
    · exact (judged _ _ shape).2 ⟨begun, ignored, cased⟩
  · intro judged before after shape
    exact ⟨fun ⟨ignored, cased, ended⟩ => judged (.early shape ignored cased ended),
      fun ⟨begun, ignored, cased⟩ => judged (.late shape begun ignored cased)⟩

/-- Where there is no capital sigma none is misjudged. -/
theorem Misjudged.mem (misjudged : Misjudged front part back) : 'Σ' ∈ part := by
  rcases misjudged with ⟨rfl, -⟩ | ⟨rfl, -⟩ <;> simp

/-- Where no character with case is next to a part, none is either. -/
theorem Misjudged.cased (misjudged : Misjudged front part back) :
    startsCased front.reverse = true ∨ startsCased back = true := by
  rcases misjudged with ⟨-, -, cased, -⟩ | ⟨-, -, -, cased⟩
  · exact .inl cased
  · exact .inr cased

/-- To occur in a text is to stand somewhere in it. -/
theorem occurs_iff_isInfix : occurs part text = true ↔ part <:+: text := by
  induction text with
  | nil => simp [occurs]
  | cons c rest inductionHypothesis =>
    rw [occurs, Bool.or_eq_true, inductionHypothesis, List.infix_cons_iff,
      List.isPrefixOf_iff_prefix]

/-- A part in which no capital sigma is misjudged occurs in small letters as well. -/
theorem occurs_lower (judged : ¬ Misjudged front part back) :
    occurs (lower part) (lower (front ++ part ++ back)) = true := by
  rw [occurs_iff_isInfix, lower_surrounded, lowerBetween_eq_lower_iff.mpr judged]
  exact List.infix_append _ _ _

end IssueTracker.LowerCase
