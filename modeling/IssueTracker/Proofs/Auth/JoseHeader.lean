import IssueTracker.Auth.Provider
import IssueTracker.Proofs.Json.Records

/-!
# What the provider reads as a header

A header is an object whose members make a record: the ones that have a field take values of that
field, each of them once, and all others are strings. It says the algorithm and the key name that
the members of those names hold, wherever they stand.
-/

namespace IssueTracker.Auth

open Json (memberOf)

/-- The text of a member that may be left out or `null`. -/
def optionalText (members : List (Bytes × Json)) (name : String) :
    Except Json.Fault (Option String) :=
  match memberOf members name with
  | some value => Json.asOptional Json.asText value
  | none => .ok none

/-- A value that says a name out of a list: a string, or an object with the name as its only key
and `null` as the value of that. -/
inductive Jwk.Names (name : String) : Json → Prop
  | string {written : Bytes} (spelled : Json.text? written = some name) :
      Names name (.string written)
  | object {key : Bytes} (spelled : Json.text? key = some name) :
      Names name (.object [(key, .null)] true)

/-- Whether a value is a string that names a text. -/
def IsText (value : Json) : Prop := ∃ written text, value = .string written ∧
  Json.text? written = some text

/-- What the members of a header say. -/
structure JoseHeader.Says (members : List (Bytes × Json)) (jose : JoseHeader) : Prop where
  record : Json.IsRecord JoseHeader.fields IsText members
  alg : ∃ value, memberOf members "alg" = some value ∧ Jwk.Names jose.alg value
  /-- The algorithm is one of those that may be named. -/
  known : jose.alg ∈ JoseHeader.algorithms
  kid : optionalText members "kid" = .ok jose.kid

/-- Whether a segment is the encoding of an object whose members say a header. -/
def HoldsHeader (segment : String) (jose : JoseHeader) : Prop :=
  ∃ bytes members, Base64Url.decode segment = .ok bytes ∧
    Json.read bytes = ⟨.object members true, true⟩ ∧ JoseHeader.Says members jose

section Values

variable {value : Json} {name : String}

/-- A string is read if it names a text. -/
theorem asText_toBool_iff : (Json.asText value).toBool = true ↔ IsText value := by
  cases value with
  | string written =>
    cases spelled : Json.text? written <;> simp [Json.asText, IsText, spelled, Except.toBool]
  | null | bool | number | array | object | broken => simp [Json.asText, IsText, Except.toBool]

/-- A name is read of the values that say it, if it is in the list. -/
theorem asName_eq_ok_iff {accepts : String → Bool} :
    Jwk.asName Jwk.isNull accepts value = .ok name ↔
      Jwk.Names name value ∧ accepts name = true := by
  constructor
  · intro read
    unfold Jwk.asName at read
    split at read
    · next written =>
      cases spelled : Json.text? written with
      | none => simp [spelled] at read
      | some found =>
        by_cases accepted : accepts found = true
        · obtain rfl : found = name := by simpa [spelled, accepted] using read
          exact ⟨.string spelled, accepted⟩
        · simp [spelled, accepted] at read
    · next key inner =>
      cases inner with
      | null =>
        cases spelled : Json.text? key with
        | none => simp [Jwk.isNull, spelled] at read
        | some found =>
          by_cases accepted : accepts found = true
          · obtain rfl : found = name := by simpa [Jwk.isNull, spelled, accepted] using read
            exact ⟨.object spelled, accepted⟩
          · simp [Jwk.isNull, spelled, accepted] at read
      | bool | number | string | array | object | broken => simp [Jwk.isNull] at read
    · cases read
  · rintro ⟨names, accepted⟩
    cases names with
    | string spelled => simp [Jwk.asName, spelled, accepted]
    | object spelled => simp [Jwk.asName, Jwk.isNull, spelled, accepted]

end Values

section Headers

variable {members : List (Bytes × Json)} {jose : JoseHeader}

/-- What is read of a field that may be left out is the text of the member. -/
theorem readOr_collected {fields : List Json.Field} {other? : Json → Option Json.Fault}
    {given : Json.Given} {name : String} (known : Json.IsFieldName fields name)
    (collected : Json.collectMembers fields other? [] members = .ok given) :
    given.readOr name (Json.asOptional Json.asText) none = optionalText members name := by
  rw [Json.Given.readOr_eq, Json.value?_of_collectMembers known collected]
  rfl

/-- A string can be read in full if it names a text. -/
theorem readable_of_isText {depth : Nat} {value : Json} (text : IsText value) :
    Jwk.unreadable? depth value = none := by
  obtain ⟨written, found, rfl, spelled⟩ := text
  cases depth <;> simp [Jwk.unreadable?, Jwk.isReadable, spelled]

/-- A member that may be collected and is a field or a string may stand in a record in which all
others are strings. -/
theorem isMember_text_iff (member : Bytes × Json) :
    Json.IsMember JoseHeader.fields (Jwk.unreadable? (Jwk.maxDepth - 1) · = none) member ∧
        JoseHeader.isFieldOrText member = true ↔
      Json.IsMember JoseHeader.fields IsText member := by
  obtain ⟨key, value⟩ := member
  cases named : Json.text? key with
  | none => simp [Json.IsMember, named]
  | some name =>
    cases found : JoseHeader.fields.find? (·.name = name) with
    | none =>
      have unknown : JoseHeader.fields.any (·.name = name) = false := by
        rw [← Option.not_isSome_iff_eq_none, List.find?_isSome] at found
        simpa using found
      have readable : IsText value → Jwk.unreadable? (Jwk.maxDepth - 1) value = none :=
        readable_of_isText
      simpa [Json.IsMember, JoseHeader.isFieldOrText, named, found, unknown, asText_toBool_iff]
        using readable
    | some field =>
      have known : JoseHeader.fields.any (·.name = name) = true := by
        rw [List.any_eq_true]
        exact ⟨field, List.mem_of_find?_eq_some found, by simpa using List.find?_some found⟩
      simp [Json.IsMember, JoseHeader.isFieldOrText, named, found, known]

/-- Members that are collected as a header's and are all fields or strings are those that make a
record in which all others are strings. -/
theorem isRecord_text_iff :
    Json.IsRecord JoseHeader.fields (Jwk.unreadable? (Jwk.maxDepth - 1) · = none) members ∧
        members.all JoseHeader.isFieldOrText = true ↔
      Json.IsRecord JoseHeader.fields IsText members := by
  constructor
  · rintro ⟨⟨readable, once⟩, texts⟩
    rw [List.all_eq_true] at texts
    refine ⟨fun member inside => ?_, once⟩
    exact (isMember_text_iff member).mp ⟨readable member inside, texts member inside⟩
  · rintro ⟨texts, once⟩
    have both (member : Bytes × Json) (inside : member ∈ members) :=
      (isMember_text_iff member).mpr (texts member inside)
    refine ⟨⟨fun member inside => (both member inside).1, once⟩, ?_⟩
    rw [List.all_eq_true]
    exact fun member inside => (both member inside).2

/-- A header is read exactly of an object whose members say it. -/
theorem jose_ofJson_iff {json : Json} :
    JoseHeader.ofJson json = .ok jose ↔
      ∃ members, json = .object members true ∧ JoseHeader.Says members jose := by
  have known : ∀ name ∈ ["alg", "kid"], Json.IsFieldName JoseHeader.fields name := by
    simp [Json.IsFieldName, JoseHeader.fields, Json.Field.of]
  constructor
  · intro read
    unfold JoseHeader.ofJson at read
    split at read
    · next members closed =>
      simp only [Except.bind_eq_ok] at read
      obtain ⟨given, collected, read⟩ := read
      split at read
      · cases read
      next shut =>
      split at read
      · cases read
      split at read
      · cases read
      next fieldsOrTexts =>
      simp only [Except.bind_eq_ok] at read
      obtain ⟨alg, algRead, kid, kidRead, returned⟩ := read
      cases returned
      have complete : closed = true := by simpa using shut
      have texts : members.all JoseHeader.isFieldOrText = true := by simpa using fieldsOrTexts
      rw [readOr_collected (known "kid" (by simp)) collected] at kidRead
      rw [Json.Given.read_eq, Json.value?_of_collectMembers (known "alg" (by simp)) collected]
        at algRead
      have named : ∃ value, memberOf members "alg" = some value ∧
          Jwk.asName Jwk.isNull JoseHeader.algorithms.contains value = .ok alg := by
        cases found : memberOf members "alg" with
        | none => simp [Json.Given.value?, found] at algRead
        | some value => exact ⟨value, rfl, by simpa [Json.Given.value?, found] using algRead⟩
      obtain ⟨value, found, named⟩ := named
      obtain ⟨names, listed⟩ := asName_eq_ok_iff.mp named
      refine ⟨members, by rw [complete], ?_, ⟨value, found, names⟩, by simpa using listed, kidRead⟩
      exact isRecord_text_iff.mp ⟨Json.exists_collected_empty_iff.mp ⟨given, collected⟩, texts⟩
    · cases read
  · rintro ⟨members, rfl, record, ⟨value, found, names⟩, listed, kid⟩
    obtain ⟨readable, texts⟩ := isRecord_text_iff.mpr record
    obtain ⟨given, collected⟩ := Json.exists_collected_empty_iff.mpr readable
    have algValue : given.value? "alg" = some value := by
      rw [Json.value?_of_collectMembers (known "alg" (by simp)) collected, found]
      rfl
    have algRead : given.read "alg" (Jwk.asName Jwk.isNull JoseHeader.algorithms.contains) =
        .ok jose.alg := by
      rw [Json.Given.read_eq, algValue]
      exact asName_eq_ok_iff.mpr ⟨names, by simpa using listed⟩
    have kidRead : given.readOr "kid" (Json.asOptional Json.asText) none = .ok jose.kid := by
      rw [readOr_collected (known "kid" (by simp)) collected, kid]
    have complete : Json.missingField? JoseHeader.fields given = none := by
      rw [Json.missingField?_eq_none_iff]
      simp [JoseHeader.fields, Json.Field.of, algValue]
    simp [JoseHeader.ofJson, collected, complete, texts, algRead, kidRead, bind, Except.bind, pure,
      Except.pure]

/-- A header is read of exactly the segments that hold it. -/
theorem jose_ofSegment_iff {segment : String} :
    JoseHeader.ofSegment segment = .ok jose ↔ HoldsHeader segment jose := by
  have read (bytes : Bytes) : Json.decode JoseHeader.ofJson bytes = .ok jose ↔
      ∃ members, Json.read bytes = ⟨.object members true, true⟩ ∧
        JoseHeader.Says members jose := by
    rw [Json.decode_eq_ok_iff, jose_ofJson_iff]
    constructor
    · rintro ⟨⟨members, root, told⟩, complete⟩
      exact ⟨members, by rw [← root, ← complete], told⟩
    · rintro ⟨members, document, told⟩
      rw [document]
      exact ⟨⟨members, rfl, told⟩, rfl⟩
  cases decoded : Base64Url.decode segment with
  | error fault => simp [JoseHeader.ofSegment, HoldsHeader, decoded]
  | ok bytes =>
    cases found : Json.decode JoseHeader.ofJson bytes with
    | error fault =>
      have none := read bytes
      rw [found] at none
      simpa [JoseHeader.ofSegment, HoldsHeader, decoded, found] using none
    | ok header =>
      have some := read bytes
      rw [found] at some
      simpa [JoseHeader.ofSegment, HoldsHeader, decoded, found] using some

end Headers

end IssueTracker.Auth
