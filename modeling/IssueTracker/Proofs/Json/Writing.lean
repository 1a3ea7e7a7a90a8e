import IssueTracker.Proofs.Json.Grammar
import IssueTracker.Proofs.Json.Records

/-!
# Reading back what is written

A tree of whole values, written without white space, is read as the tree that it was, for what is
written is one of the texts that the grammar has for it.

An object that is written with keys for texts is then read as a record: what is read for a field is
the value written under its name, in whatever order the members are written.
-/

namespace IssueTracker.Json

/-- Whether a value is whole, so that what is written of it is the value. -/
inductive IsWhole : Json → Prop
  | null : IsWhole .null
  | bool (value : Bool) : IsWhole (.bool value)
  | number {numeral : Numeral} (proper : numeral.IsProper) : IsWhole (.number numeral)
  | string {written : Bytes} (quotable : IsQuotable written) : IsWhole (.string written)
  | array {items : List Json} (each : ∀ item ∈ items, IsWhole item) : IsWhole (.array items true)
  | object {members : List (Bytes × Json)} (keys : ∀ member ∈ members, IsQuotable member.1)
      (each : ∀ member ∈ members, IsWhole member.2) : IsWhole (.object members true)

section Writing

variable {α : Type} {value : Json} {text : Bytes}

/-- How a member is written. -/
def writeMember (member : Bytes × Json) : Bytes :=
  0x22 :: (member.1 ++ 0x22 :: 0x3A :: member.2.write)

/-- An item and a member with their written texts. -/
def itemText (item : Json) : Json × Bytes := (item, item.write)

def memberText (member : Bytes × Json) : MemberText := ⟨[], member.1, [], member.2, member.2.write⟩

/-- The texts of items and of members, one by one. -/
theorem writeItems_eq (items : List Json) : writeItems items = items.map write := by
  induction items with
  | nil => rfl
  | cons item others inductionHypothesis => rw [writeItems, inductionHypothesis, List.map_cons]

theorem writeMembers_eq (members : List (Bytes × Json)) :
    writeMembers members = members.map writeMember := by
  induction members with
  | nil => rfl
  | cons member others inductionHypothesis =>
    rw [writeMembers, inductionHypothesis, List.map_cons]
    rfl

/-- What is written of a whole value is one of its texts. -/
theorem isText_of_isWhole (whole : IsWhole value) : IsText value value.write := by
  induction whole with
  | null => exact .null
  | bool value => cases value <;> constructor
  | number proper => exact .number (isText_write proper)
  | string quotable => exact .string (isQuotable_iff.mp quotable)
  | @array items each spelled =>
    have text : IsText (.array ((items.map itemText).map Prod.fst) true)
        (0x5B :: (joined ((items.map itemText).map Prod.snd) ++ [0x5D])) :=
      .array (List.forall_mem_map.mpr spelled)
    simpa [itemText, Function.comp_def, write, writeItems_eq] using text
  | @object members keys each spelled =>
    have keyed : ∀ member ∈ members, (memberText member).IsKeyed := fun member inside =>
      ⟨by simp [memberText, IsBlank], isQuotable_iff.mp (keys member inside),
        by simp [memberText, IsBlank]⟩
    have text : IsText (.object ((members.map memberText).map MemberText.member) true)
        (0x7B :: (joined ((members.map memberText).map MemberText.octets) ++ [0x7D])) :=
      .object (List.forall_mem_map.mpr keyed) (List.forall_mem_map.mpr spelled)
    have octets : MemberText.octets ∘ memberText = writeMember := rfl
    have member : MemberText.member ∘ memberText = id := rfl
    simpa [octets, member, write, writeMembers_eq] using text

/-- Reading what is written of a whole value gives it back. -/
theorem read_write (whole : IsWhole value) : read value.write = ⟨value, true⟩ :=
  read_of_isText (isText_of_isWhole whole)

/-- A text of a value is read as what a reader takes the value for. -/
theorem decode_of_isText (spelled : IsText value text) (reader : Reader α) :
    decode reader text = reader value := by
  simp only [decode, read_of_isText spelled]
  cases reader value <;> rfl

end Writing

section Records

variable {members : List (String × Json)} {fields : List Field} {name : String} {value : Json}

/-- The members of an object whose keys are written texts. -/
def writtenMembers (members : List (String × Json)) : List (Bytes × Json) :=
  members.map fun (key, value) => (written key, value)

/-- Whether the value of a member is one that the field of its name takes. -/
def IsTaken (fields : List Field) (member : String × Json) : Prop :=
  ∃ field, fields.find? (·.name = member.1) = some field ∧ field.fault? member.2 = none

/-- A field takes what its reader reads. -/
theorem isTaken_of_read {α : Type} {reader : Reader α} {absence : Absence} {result : α}
    (known : fields.find? (·.name = name) = some (.of name reader absence))
    (read : reader value = .ok result) :
    IsTaken fields (name, value) :=
  ⟨_, known, by simp only [Field.of, read]⟩

/-- The value of a written text is whole, and so is that of an integer, and an object of whole
values under written keys. -/
theorem isWhole_ofText (text : String) : IsWhole (ofText text) := .string (isQuotable_written text)

theorem isWhole_ofInt (n : Int) : IsWhole (ofInt n) := .number (isProper_integerNumeral n)

theorem isWhole_ofMembers (each : ∀ member ∈ members, IsWhole member.2) :
    IsWhole (ofMembers members) := by
  refine .object (fun member inside => ?_) fun member inside => ?_
  · obtain ⟨original, -, rfl⟩ := List.mem_map.mp inside
    exact isQuotable_written original.1
  · obtain ⟨original, given, rfl⟩ := List.mem_map.mp inside
    exact each original given

/-- A written text is read as the text. -/
theorem asText_ofText (text : String) : asText (ofText text) = .ok text := by
  simp [asText, ofText, text?_written]

/-- A written integer of 64 bits is read as the integer. -/
theorem asNumber_ofInt {n : Int} (low : -9223372036854775808 ≤ n)
    (high : n ≤ 9223372036854775807) :
    asNumber (ofInt n) = .ok (.integer n) := by
  have value : (integerNumeral n).value? = some (.integer n) := value?_integerNumeral low high
  simp only [asNumber, ofInt, integerNumeral, decimalDigits] at value ⊢
  rw [value]

/-- Under a name that is not written there is nothing. -/
theorem memberOf_unwritten (absent : name ∉ members.map Prod.fst) :
    memberOf (writtenMembers members) name = none := by
  rw [memberOf, Option.map_eq_none_iff, List.find?_eq_none]
  intro member inside
  obtain ⟨original, given, rfl⟩ := List.mem_map.mp inside
  have different : original.1 ≠ name := by
    rintro rfl
    exact absent (List.mem_map.mpr ⟨original, given, rfl⟩)
  simpa [text?_written] using different

/-- Members written under different names of fields, with values that those fields take, make a
record. -/
theorem isRecord_written {other : Json → Prop} (distinct : (members.map Prod.fst).Nodup)
    (fits : ∀ member ∈ members, IsTaken fields member) :
    IsRecord fields other (writtenMembers members) where
  each member inside := by
    obtain ⟨original, given, rfl⟩ := List.mem_map.mp inside
    obtain ⟨field, found, taken⟩ := fits original given
    exact ⟨original.1, text?_written original.1, by simp only [found, taken]⟩
  once := by
    rw [writtenMembers, List.pairwise_map]
    rw [List.Nodup, List.pairwise_map] at distinct
    refine distinct.imp fun different => ?_
    rintro ⟨name, -, first, second⟩
    simp only [text?_written, Option.some.injEq] at first second
    exact different (first.trans second.symm)

/-- Members that are written in any order are read as a record if they are of different fields, with
values that those take, and none that is required is missing. Each value is then had under its
name. -/
theorem exists_asRecord_written (fields : List Field) {canonical : List (String × Json)}
    (same : members.Perm canonical) (distinct : (canonical.map Prod.fst).Nodup)
    (fits : ∀ member ∈ canonical, IsTaken fields member)
    (required : ∀ field ∈ fields, field.absence = .refused →
      field.name ∈ canonical.map Prod.fst) :
    ∃ given, asRecord fields (.object (writtenMembers members) true) = .ok given ∧
      (∀ name value, (name, value) ∈ canonical → given.value? name = some value) ∧
      ∀ name, IsFieldName fields name → name ∉ canonical.map Prod.fst →
        given.value? name = none := by
  have known (name : String) (value : Json) (inside : (name, value) ∈ canonical) :
      IsFieldName fields name := by
    obtain ⟨field, taken, -⟩ := fits (name, value) inside
    exact ⟨field, List.mem_of_find?_eq_some taken, by simpa using List.find?_some taken⟩
  have record : IsRecord fields (fun _ => True) (writtenMembers members) :=
    (isRecord_written distinct fits).perm (same.symm.map _)
  have found (name : String) (value : Json) (inside : (name, value) ∈ canonical) :
      memberOf (writtenMembers members) name = some value := by
    have placed : (written name, value) ∈ writtenMembers members :=
      List.mem_map.mpr ⟨(name, value), same.mem_iff.mpr inside, rfl⟩
    exact record.memberOf_eq (known name value inside) placed (text?_written name)
  have complete : ∀ field ∈ fields, field.absence = .refused →
      memberOf (writtenMembers members) field.name ≠ none := by
    intro field inside refused
    obtain ⟨⟨name, value⟩, listed, called⟩ := List.mem_map.mp (required field inside refused)
    rw [found field.name value (called ▸ listed)]
    simp
  obtain ⟨given, read, values⟩ := exists_asRecord record complete
  refine ⟨given, read, fun name value inside => ?_, fun name isName absent => ?_⟩
  · rw [values name (known name value inside), found name value inside]
  · rw [values name isName]
    exact memberOf_unwritten fun inside => absent ((same.map Prod.fst).mem_iff.mp inside)

/-- The members that a record depends on are those under the names of its fields. -/
theorem filter_writtenMembers (fields : List Field) (members : List (String × Json)) :
    (writtenMembers members).filter (isRegarded fields) =
      writtenMembers (members.filter fun member => fields.any (·.name = member.1)) := by
  rw [writtenMembers, List.filter_map]
  congr 2
  funext member
  simp [isRegarded, text?_written]

/-- Members under other names may be written besides. -/
theorem exists_asRecord_among (fields : List Field) {canonical : List (String × Json)}
    (among : members.filter (fun member => fields.any (·.name = member.1)) = canonical)
    (distinct : (canonical.map Prod.fst).Nodup)
    (fits : ∀ member ∈ canonical, IsTaken fields member)
    (required : ∀ field ∈ fields, field.absence = .refused →
      field.name ∈ canonical.map Prod.fst) :
    ∃ given, asRecord fields (ofMembers members) = .ok given ∧
      ∀ name value, (name, value) ∈ canonical → given.value? name = some value := by
  have alone : canonical.filter (fun member => fields.any (·.name = member.1)) = canonical := by
    rw [← among, List.filter_filter]
    simp
  have same : (writtenMembers members).filter (isRegarded fields) =
      (writtenMembers canonical).filter (isRegarded fields) := by
    rw [filter_writtenMembers, filter_writtenMembers, among, alone]
  obtain ⟨given, read, values, -⟩ :=
    exists_asRecord_written fields (List.Perm.refl canonical) distinct fits required
  exact ⟨given, (asRecord_congr same true).trans read, values⟩

/-- A list of texts is whole, and is read as the texts. -/
theorem isWhole_ofTexts (texts : List String) : IsWhole (ofTexts texts) := by
  refine .array fun item inside => ?_
  obtain ⟨text, -, rfl⟩ := List.mem_map.mp inside
  exact isWhole_ofText text

theorem asList_ofTexts (texts : List String) : asList asText (ofTexts texts) = .ok texts := by
  have each : (texts.map ofText).mapM asText = .ok texts := by
    induction texts with
    | nil => rfl
    | cons text others inductionHypothesis =>
      rw [List.map_cons, List.mapM_cons, asText_ofText, inductionHypothesis]
      rfl
  simp only [asList, ofTexts, ofList, each]
  rfl

end Records

end IssueTracker.Json
