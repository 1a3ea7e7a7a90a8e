import IssueTracker.Proofs.Json.Members
import Mathlib.Data.List.Pairwise

/-!
# Which members make a record

Collecting stops at the first thing that is wrong, but that it does not stop at all can be said
without an order: each member is one that may stand in the record, and no field occurs twice. So
whether an object is read as a record, and what is read, does not depend on the order of its
members. Nor does it depend on members whose keys name something else than a field.
-/

namespace IssueTracker.Json

/-- Whether a name is that of one of the fields. -/
def IsFieldName (fields : List Field) (name : String) : Prop := ∃ field ∈ fields, field.name = name

/-- Whether a member may stand in a record. Its key names a text; the value of a field is one that
the field takes, the value of any other member one that is let through. -/
def IsMember (fields : List Field) (other : Json → Prop) (member : Bytes × Json) : Prop :=
  ∃ name, text? member.1 = some name ∧
    match fields.find? (·.name = name) with
    | some field => field.fault? member.2 = none
    | none => other member.2

/-- Whether two members are of the same field. -/
def SameField (fields : List Field) (one another : Bytes × Json) : Prop :=
  ∃ name, IsFieldName fields name ∧ text? one.1 = some name ∧ text? another.1 = some name

/-- Whether members make a record. -/
structure IsRecord (fields : List Field) (other : Json → Prop) (members : List (Bytes × Json)) :
    Prop where
  /-- Every member may stand in the record. -/
  each : ∀ member ∈ members, IsMember fields other member
  /-- No field occurs twice. -/
  once : members.Pairwise fun one another => ¬ SameField fields one another

/-- Whether nothing is given yet for the field that a member is of. -/
def IsFresh (fields : List Field) (given : Given) (member : Bytes × Json) : Prop :=
  ∀ name, IsFieldName fields name → text? member.1 = some name → given.value? name = none

section Collecting

variable {fields : List Field} {other? : Json → Option Fault} {other : Json → Prop}
  {given : Given} {members : List (Bytes × Json)} {name : String}

/-- A name is found among the fields exactly if it is one of theirs. -/
theorem find?_eq_none_iff : fields.find? (·.name = name) = none ↔ ¬ IsFieldName fields name := by
  simp [IsFieldName]

/-- A name is given exactly if there is a value for it. -/
theorem any_given_iff : given.any (·.1 = name) = true ↔ given.value? name ≠ none := by
  simp [Given.value?]

/-- Being of the same field does not depend on the order. -/
theorem SameField.symm {one another : Bytes × Json} (same : SameField fields one another) :
    SameField fields another one := by
  obtain ⟨name, known, first, second⟩ := same
  exact ⟨name, known, second, first⟩

/-- The order of members does not matter to whether they make a record. -/
theorem IsRecord.perm {reordered : List (Bytes × Json)} (record : IsRecord fields other members)
    (same : members.Perm reordered) :
    IsRecord fields other reordered where
  each member inside := record.each member (same.mem_iff.mpr inside)
  once := (same.pairwise_iff fun apart together => apart together.symm).mp record.once

/-- A member more makes a record if it may stand there and no other member is of its field. -/
theorem isRecord_cons {member : Bytes × Json} :
    IsRecord fields other (member :: members) ↔
      IsMember fields other member ∧ (∀ later ∈ members, ¬ SameField fields member later) ∧
        IsRecord fields other members := by
  constructor
  · rintro ⟨each, once⟩
    rw [List.pairwise_cons] at once
    exact ⟨each member (by simp), once.1, fun later inside => each later (by simp [inside]), once.2⟩
  · rintro ⟨first, apart, each, once⟩
    exact ⟨List.forall_mem_cons.mpr ⟨first, each⟩, List.pairwise_cons.mpr ⟨apart, once⟩⟩

/-- What is given for a field more is what was given before for every other field. -/
theorem value?_cons {text : String} {value : Json} :
    Given.value? ((text, value) :: given) name =
      if text = name then some value else given.value? name := by
  by_cases same : text = name
  · simp [Given.value?, same]
  · simp [Given.value?, same]

/-- What is fresh beside a member is of another field. -/
theorem isFresh_cons {key : Bytes} {text : String} {value : Json} (named : text? key = some text)
    {later : Bytes × Json} :
    IsFresh fields ((text, value) :: given) later ↔
      ¬ SameField fields (key, value) later ∧ IsFresh fields given later := by
  constructor
  · intro fresh
    constructor
    · rintro ⟨name, known, first, second⟩
      rw [named, Option.some.injEq] at first
      have empty := fresh name known second
      simp [value?_cons, first] at empty
    · intro name known second
      have empty := fresh name known second
      rw [value?_cons] at empty
      split at empty
      · cases empty
      · exact empty
  · rintro ⟨apart, fresh⟩ name known second
    have different : text ≠ name := fun same => apart ⟨name, known, same ▸ named, second⟩
    rw [value?_cons, if_neg different]
    exact fresh name known second

/-- Members are collected exactly if they make a record and none of their fields was given
before. -/
theorem exists_collected_iff :
    (∃ collected, collectMembers fields other? given members = .ok collected) ↔
      IsRecord fields (other? · = none) members ∧
        ∀ member ∈ members, IsFresh fields given member := by
  induction members generalizing given with
  | nil => simp [collectMembers, IsRecord.mk]
  | cons member rest inductionHypothesis =>
    obtain ⟨key, value⟩ := member
    rw [isRecord_cons, List.forall_mem_cons]
    cases named : text? key with
    | none => simp [collectMembers, named, IsMember]
    | some text =>
      cases found : fields.find? (·.name = text) with
      | none =>
        have unknown : ¬ IsFieldName fields text := find?_eq_none_iff.mp found
        have fresh : IsFresh fields given (key, value) := by
          intro name known first
          rw [named, Option.some.injEq] at first
          exact absurd (first ▸ known) unknown
        have apart : ∀ later ∈ rest, ¬ SameField fields (key, value) later := by
          rintro later - ⟨name, known, first, -⟩
          rw [named, Option.some.injEq] at first
          exact unknown (first ▸ known)
        have member : IsMember fields (other? · = none) (key, value) ↔ other? value = none := by
          simp [IsMember, named, found]
        cases passed : other? value with
        | some fault => simp [collectMembers, named, found, passed, member]
        | none =>
          simp only [collectMembers, named, found, passed, inductionHypothesis, member]
          constructor
          · rintro ⟨record, others⟩
            exact ⟨⟨trivial, apart, record⟩, fresh, others⟩
          · rintro ⟨⟨-, -, record⟩, -, others⟩
            exact ⟨record, others⟩
      | some field =>
        have known : IsFieldName fields text :=
          ⟨field, List.mem_of_find?_eq_some found, by simpa using List.find?_some found⟩
        have fresh : IsFresh fields given (key, value) ↔ given.value? text = none := by
          constructor
          · exact fun fresh => fresh text known named
          · rintro empty name - first
            rw [named, Option.some.injEq] at first
            exact first ▸ empty
        have member : IsMember fields (other? · = none) (key, value) ↔
            field.fault? value = none := by
          simp [IsMember, named, found]
        by_cases taken : given.any (·.1 = text) = true
        · have before : given.value? text ≠ none := any_given_iff.mp taken
          simp [collectMembers, named, found, taken, fresh, before]
        · have empty : given.value? text = none := by
            rw [any_given_iff] at taken
            exact not_not.mp taken
          cases fits : field.fault? value with
          | some fault => simp [collectMembers, named, found, taken, fits, member]
          | none =>
            simp only [collectMembers, named, found, taken, fits, inductionHypothesis, member,
              fresh, empty, Bool.false_eq_true, if_false, true_and]
            simp only [isFresh_cons named]
            constructor
            · rintro ⟨record, others⟩
              exact ⟨⟨fun later inside => (others later inside).1, record⟩,
                fun later inside => (others later inside).2⟩
            · rintro ⟨⟨apart, record⟩, others⟩
              exact ⟨record, fun later inside => ⟨apart later inside, others later inside⟩⟩

/-- From the start, members are collected exactly if they make a record. -/
theorem exists_collected_empty_iff :
    (∃ collected, collectMembers fields other? [] members = .ok collected) ↔
      IsRecord fields (other? · = none) members := by
  rw [exists_collected_iff]
  exact and_iff_left fun _ _ _ _ _ => rfl

/-- No required field is missing exactly if something is given for each. -/
theorem missingField?_eq_none_iff :
    missingField? fields given = none ↔
      ∀ field ∈ fields, field.absence = .refused → given.value? field.name ≠ none := by
  simp only [← any_given_iff]
  simp [missingField?]

/-- An object whose members make a record is read as one if no required field is missing, and what
is given for a field is the value of its member. -/
theorem exists_asRecord (record : IsRecord fields (fun _ => True) members)
    (required : ∀ field ∈ fields, field.absence = .refused → memberOf members field.name ≠ none) :
    ∃ given, asRecord fields (.object members true) = .ok given ∧
      ∀ name, IsFieldName fields name → given.value? name = memberOf members name := by
  have passed : IsRecord fields (passedOver · = none) members := by simpa [passedOver] using record
  obtain ⟨given, collected⟩ := exists_collected_empty_iff.mpr passed
  have values (name : String) (known : IsFieldName fields name) :
      given.value? name = memberOf members name :=
    value?_of_collectMembers known collected
  refine ⟨given, asMembers_eq_ok_iff.mpr ⟨collected, rfl, ?_⟩, values⟩
  rw [missingField?_eq_none_iff]
  intro field inside refused
  rw [values field.name ⟨field, inside, rfl⟩]
  exact required field inside refused

/-- An object is read as a record exactly if its members make one and none is missing that is
required. -/
theorem exists_asRecord_iff :
    (∃ given, asRecord fields (.object members true) = .ok given) ↔
      IsRecord fields (fun _ => True) members ∧
        ∀ field ∈ fields, field.absence = .refused → memberOf members field.name ≠ none := by
  constructor
  · rintro ⟨given, read⟩
    obtain ⟨collected, -, complete⟩ := asMembers_eq_ok_iff.mp read
    have record := exists_collected_empty_iff.mp ⟨given, collected⟩
    refine ⟨by simpa [passedOver] using record, ?_⟩
    intro field inside refused
    have present := missingField?_eq_none_iff.mp complete field inside refused
    rwa [value?_of_collectMembers ⟨field, inside, rfl⟩ collected] at present
  · rintro ⟨record, required⟩
    obtain ⟨given, read, -⟩ := exists_asRecord record required
    exact ⟨given, read⟩

/-- What an object gives for a field is the value of its member. -/
theorem value?_of_asRecord {given : Given} (known : IsFieldName fields name)
    (read : asRecord fields (.object members true) = .ok given) :
    given.value? name = memberOf members name :=
  value?_of_collectMembers known (asMembers_eq_ok_iff.mp read).1

end Collecting

section Regarding

variable {fields : List Field} {given : Given} {members others : List (Bytes × Json)}

/-- Whether a record depends on a member: if its key names a text, this has to be that of a field.
-/
def isRegarded (fields : List Field) (member : Bytes × Json) : Bool :=
  (text? member.1).all fun name => fields.any (·.name = name)

/-- Other members do not matter to what is collected, or to what is found wrong. -/
theorem collectMembers_filter :
    collectMembers fields passedOver given (members.filter (isRegarded fields)) =
      collectMembers fields passedOver given members := by
  induction members generalizing given with
  | nil => rfl
  | cons member rest inductionHypothesis =>
    obtain ⟨key, value⟩ := member
    cases named : text? key with
    | none =>
      have regarded : isRegarded fields (key, value) = true := by simp [isRegarded, named]
      simp only [List.filter_cons_of_pos regarded, collectMembers, named]
    | some name =>
      cases found : fields.find? (·.name = name) with
      | none =>
        have disregarded : ¬ isRegarded fields (key, value) = true := by
          simpa [isRegarded, named] using found
        rw [List.filter_cons_of_neg disregarded, inductionHypothesis]
        simp only [collectMembers, named, found, passedOver]
      | some field =>
        have regarded : isRegarded fields (key, value) = true := by
          have inside := List.mem_of_find?_eq_some found
          have called := List.find?_some found
          simp only [isRegarded, named, Option.all_some]
          exact List.any_eq_true.mpr ⟨field, inside, called⟩
        simp only [List.filter_cons_of_pos regarded, collectMembers, named, found,
          inductionHypothesis]

/-- Objects that differ in members of no field only are the same record, or have the same fault. -/
theorem asRecord_congr
    (same : members.filter (isRegarded fields) = others.filter (isRegarded fields))
    (closed : Bool) :
    asRecord fields (.object members closed) = asRecord fields (.object others closed) := by
  have collected : collectMembers fields passedOver [] members =
      collectMembers fields passedOver [] others := by
    rw [← collectMembers_filter, same, collectMembers_filter]
  simp only [asRecord, asMembers, collected]

end Regarding

section Members

variable {fields : List Field} {other : Json → Prop} {members : List (Bytes × Json)}
  {key : Bytes} {name : String} {value : Json}

/-- In a record the value for a field is that of any member of its name. -/
theorem IsRecord.memberOf_eq (record : IsRecord fields other members)
    (known : IsFieldName fields name) (inside : (key, value) ∈ members)
    (named : text? key = some name) :
    memberOf members name = some value := by
  induction members with
  | nil => cases inside
  | cons first rest inductionHypothesis =>
    obtain ⟨-, apart, others⟩ := isRecord_cons.mp record
    rcases List.mem_cons.mp inside with rfl | later
    · simp [memberOf, named]
    · have different : text? first.1 ≠ some name := fun same =>
        apart _ later ⟨name, known, same, named⟩
      have skipped := inductionHypothesis others later
      simpa [memberOf, different] using skipped

/-- Two members of one field make no record. -/
theorem IsRecord.not_sameField {former later : Bytes × Json}
    (record : IsRecord fields other members) (inside : [former, later].Sublist members) :
    ¬ SameField fields former later := by
  have apart := record.once.sublist inside
  simpa using apart

end Members

section Among

variable {fields : List Field} {own members : List (Bytes × Json)} {member : Bytes × Json}
  {name : String}

/-- Whether a member is of no field, though its key names a text. -/
def IsForeign (fields : List Field) (member : Bytes × Json) : Prop :=
  ∃ name, text? member.1 = some name ∧ ¬ IsFieldName fields name

/-- Whether members are certain own ones, in any order, and besides them only foreign ones. -/
def AreAmong (fields : List Field) (own members : List (Bytes × Json)) : Prop :=
  ∃ others, members.Perm (own ++ others) ∧ ∀ other ∈ others, IsForeign fields other

/-- A member may stand in a record if the field of its name takes its value, or if it is of no field
and nothing is asked of others. -/
theorem isMember_of_read {α : Type} {reader : Reader α} {absence : Absence} {result : α}
    {other : Json → Prop} (named : text? member.1 = some name)
    (known : fields.find? (·.name = name) = some (.of name reader absence))
    (read : reader member.2 = .ok result) :
    IsMember fields other member :=
  ⟨name, named, by simp only [known, Field.of, read]⟩

theorem IsForeign.isMember (foreign : IsForeign fields member) :
    IsMember fields (fun _ => True) member := by
  obtain ⟨name, named, unknown⟩ := foreign
  exact ⟨name, named, by simp only [find?_eq_none_iff.mpr unknown]⟩

/-- A foreign member has not the name of a field. -/
theorem IsForeign.text?_ne (foreign : IsForeign fields member) (known : IsFieldName fields name) :
    text? member.1 ≠ some name := by
  obtain ⟨text, named, unknown⟩ := foreign
  rintro called
  rw [named, Option.some.injEq] at called
  exact unknown (called ▸ known)

/-- A foreign member is of the same field as no other member. -/
theorem IsForeign.not_sameField (foreign : IsForeign fields member) (one : Bytes × Json) :
    ¬ SameField fields one member := by
  rintro ⟨name, known, -, called⟩
  exact foreign.text?_ne known called

/-- Members of different names make a record if each of them may stand in it. -/
theorem isRecord_of_names {other : Json → Prop} {names : List String}
    (named : members.map (fun member => text? member.1) = names.map some) (distinct : names.Nodup)
    (each : ∀ member ∈ members, IsMember fields other member) :
    IsRecord fields other members where
  each := each
  once := by
    have apart : (members.map fun member => text? member.1).Pairwise (· ≠ ·) := by
      rw [named, List.pairwise_map]
      exact distinct.imp fun different same => different (Option.some.inj same)
    rw [List.pairwise_map] at apart
    refine apart.imp fun different => ?_
    rintro ⟨name, -, first, second⟩
    exact different (first.trans second.symm)

/-- What is a record by itself is one among foreign members. -/
theorem IsRecord.among (record : IsRecord fields (fun _ => True) own)
    (among : AreAmong fields own members) :
    IsRecord fields (fun _ => True) members := by
  obtain ⟨others, same, foreign⟩ := among
  apply IsRecord.perm _ same.symm
  constructor
  case each =>
    intro member inside
    rcases List.mem_append.mp inside with inside | inside
    · exact record.each member inside
    · exact (foreign member inside).isMember
  case once =>
    rw [List.pairwise_append]
    refine ⟨record.once, ?_, ?_⟩
    · apply List.pairwise_of_forall_mem_list
      intro one _ other inside
      exact (foreign other inside).not_sameField one
    · intro one _ other inside
      exact (foreign other inside).not_sameField one

/-- A record among foreign members has for a field what it has by itself. -/
theorem IsRecord.memberOf_among (record : IsRecord fields (fun _ => True) own)
    (among : AreAmong fields own members) (known : IsFieldName fields name) :
    memberOf members name = memberOf own name := by
  have whole := record.among among
  obtain ⟨others, same, foreign⟩ := among
  cases found : memberOf own name with
  | none =>
    rw [memberOf_eq_none_iff] at found ⊢
    intro member inside
    rcases List.mem_append.mp (same.mem_iff.mp inside) with inside | inside
    · exact found member inside
    · exact (foreign member inside).text?_ne known
  | some value =>
    obtain ⟨member, first, rfl⟩ := Option.map_eq_some_iff.mp found
    have named : text? member.1 = some name := by simpa using List.find?_some first
    have inside : member ∈ members :=
      same.mem_iff.mpr (List.mem_append_left _ (List.mem_of_find?_eq_some first))
    exact whole.memberOf_eq known inside named

/-- An object of a record and foreign members is read as what the record is by itself, if no field
is required. -/
theorem IsRecord.exists_asRecord_among (record : IsRecord fields (fun _ => True) own)
    (among : AreAmong fields own members) (free : ∀ field ∈ fields, field.absence ≠ .refused) :
    ∃ given, asRecord fields (.object members true) = .ok given ∧
      ∀ name, IsFieldName fields name → given.value? name = memberOf own name := by
  obtain ⟨given, read, values⟩ := exists_asRecord (record.among among)
    fun field inside refused => absurd refused (free field inside)
  refine ⟨given, read, ?_⟩
  intro name known
  rw [values name known, record.memberOf_among among known]

/-- What makes a record among foreign members makes one by itself. -/
theorem AreAmong.isRecord (among : AreAmong fields own members)
    (record : IsRecord fields (fun _ => True) members) :
    IsRecord fields (fun _ => True) own := by
  obtain ⟨others, same, -⟩ := among
  have together := record.perm same
  exact ⟨fun member inside => together.each member (List.mem_append_left _ inside),
    (List.pairwise_append.mp together.once).1⟩

/-- Objects of the same members, in any order and among any foreign ones, are the same record. -/
theorem AreAmong.asRecord_alike {others : List (Bytes × Json)} {given : Given}
    (first : AreAmong fields own members) (second : AreAmong fields own others)
    (read : asRecord fields (.object members true) = .ok given) :
    ∃ same, asRecord fields (.object others true) = .ok same ∧
      ∀ name, IsFieldName fields name → same.value? name = given.value? name := by
  obtain ⟨record, required⟩ := exists_asRecord_iff.mp ⟨given, read⟩
  have alone := first.isRecord record
  have alike (name : String) (known : IsFieldName fields name) :
      memberOf others name = memberOf members name := by
    rw [alone.memberOf_among second known, alone.memberOf_among first known]
  have complete : ∀ field ∈ fields, field.absence = .refused →
      memberOf others field.name ≠ none := by
    intro field inside refused
    rw [alike field.name ⟨field, inside, rfl⟩]
    exact required field inside refused
  obtain ⟨same, reread, values⟩ := exists_asRecord (alone.among second) complete
  refine ⟨same, reread, ?_⟩
  intro name known
  rw [values name known, alike name known, value?_of_asRecord known read]

end Among

section Lacking

variable {fields : List Field} {given collected : Given} {name : String} {json : Json}

/-- Whether a record is written without a field: as an object without a member of its name, or as an
array that ends before its place. -/
inductive Lacks (fields : List Field) (name : String) : Json → Prop
  | object {members : List (Bytes × Json)} {closed : Bool}
      (absent : ∀ member ∈ members, text? member.1 ≠ some name) :
      Lacks fields name (.object members closed)
  | array {items : List Json} {closed : Bool}
      (short : items.length ≤ fields.findIdx (·.name = name)) :
      Lacks fields name (.array items closed)

instance (fields : List Field) (name : String) : ∀ json, Decidable (Lacks fields name json)
  | .object members _ =>
    decidable_of_iff (∀ member ∈ members, text? member.1 ≠ some name)
      ⟨.object, fun | .object absent => absent⟩
  | .array items _ =>
    decidable_of_iff (items.length ≤ fields.findIdx (·.name = name))
      ⟨.array, fun | .array short => short⟩
  | .null | .bool _ | .number _ | .string _ | .broken => isFalse nofun

/-- For a field whose place no item has, items leave what was given before. -/
theorem value?_of_collectItems {items : List Json} {closed : Bool}
    (short : items.length ≤ fields.findIdx (·.name = name))
    (done : collectItems closed given fields items = .ok collected) :
    collected.value? name = given.value? name := by
  fun_induction collectItems closed given fields items with
  | case1 given same =>
    cases done
    rfl
  | case2 | case3 | case4 | case6 | case8 => cases done
  | case5 given field fields item items fits inductionHypothesis =>
    have different : field.name ≠ name := by
      rintro rfl
      simp [List.findIdx_cons] at short
    have shorter : items.length ≤ fields.findIdx (·.name = name) := by
      simpa [List.findIdx_cons, different] using short
    rw [inductionHypothesis shorter done, value?_cons, if_neg different]
  | case7 given field fields same defaulted inductionHypothesis =>
    exact inductionHypothesis (by simp) done

/-- A field that a record is written without is not given. -/
theorem Lacks.value?_eq_none (lacking : Lacks fields name json) (known : IsFieldName fields name)
    (read : asRecord fields json = .ok given) :
    given.value? name = none := by
  cases lacking with
  | object absent =>
    rw [value?_of_collectMembers known (asMembers_eq_ok_iff.mp read).1,
      memberOf_eq_none_iff.mpr absent]
    rfl
  | array short => exact value?_of_collectItems short read

end Lacking

end IssueTracker.Json
