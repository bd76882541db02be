import SourceSurvey.Proofs.Json.Scalars

/-!
# Reading records

An object is read member by member. If each of its members names a field of the record, no two of them
the same, the record is read as soon as every field reads the value of its member, and it is refused as
soon as a field rejects one.
-/

namespace SourceSurvey.Json.Reader

namespace Field

/-- The field reads what is written for a value, wherever a number may end. -/
def Reads (field : Field) (v : Value) : Prop :=
  ∀ rest, EndsNumber rest → Takes field.read (v.chars ++ rest) v rest

/-- The field rejects what is written for a value. -/
def Rejects (field : Field) (v : Value) : Prop :=
  ∀ rest, EndsNumber rest → Refuses field.read (v.chars ++ rest)

end Field

/-! ## Members -/

theorem endsNumber_nil : EndsNumber [] := nofun

theorem endsNumber_cons {c : Char} (h : isDigit c = false ∧ c ≠ '.' ∧ isExponentMark (some c) = false)
    (rest : List Char) : EndsNumber (c :: rest) := by
  intro c' hc'
  cases hc'
  exact h

/-- What is written for the members of an object that are not its first. -/
def laterMembers (members : List (String × Value)) : List Char :=
  members.flatMap fun m ↦ ',' :: quoted m.1 ++ ':' :: m.2.chars

/-- What is written for the members of an object, from the first or from a later one on. -/
def membersText : Bool → List (String × Value) → List Char
  | true, members => memberChars members
  | false, members => laterMembers members

theorem memberChars_cons (m : String × Value) (members : List (String × Value)) :
    memberChars (m :: members) = quoted m.1 ++ ':' :: m.2.chars ++ laterMembers members := by
  induction members generalizing m with
  | nil => simp [memberChars, laterMembers]
  | cons m' members ih =>
    rw [memberChars, ih]
    · simp [laterMembers]
    · simp

section

variable (first : Bool) (m : String × Value) (members : List (String × Value)) (rest : List Char)

theorem takes_nextMember_end : Takes (nextMember first) ('}' :: rest) false ('}' :: rest) :=
  Takes.bind (takes_peekToken rfl) (takes_pure false _)

theorem takes_nextMember :
    Takes (nextMember first) (membersText first (m :: members) ++ rest) true
      (quoted m.1 ++ ':' :: (m.2.chars ++ (laterMembers members ++ rest))) := by
  cases first with
  | true =>
    have htext : membersText true (m :: members) ++ rest =
        quoted m.1 ++ ':' :: (m.2.chars ++ (laterMembers members ++ rest)) := by
      simp [membersText, memberChars_cons]
    rw [htext, quoted_append]
    exact Takes.bind (takes_peekToken rfl) (takes_pure true _)
  | false =>
    have htext : membersText false (m :: members) ++ rest =
        ',' :: (quoted m.1 ++ ':' :: (m.2.chars ++ (laterMembers members ++ rest))) := by
      simp [membersText, laterMembers]
    rw [htext, quoted_append]
    exact Takes.bind (takes_peekToken rfl) (Takes.bind (takes_pass ',' _)
      (Takes.bind (takes_peekToken rfl) (takes_pure true _)))

theorem takes_colon : Takes colon (':' :: rest) () rest :=
  Takes.bind (takes_peekToken rfl) (takes_pass ':' rest)

theorem takes_closeObject : Takes closeObject ('}' :: rest) () rest :=
  Takes.bind (takes_peekToken rfl) (takes_pass '}' rest)

end

section

variable {fields : List Field} {seen : List (String × Value)}

/-- A member that names a field not seen yet is left to that field. -/
theorem membersFrom_cons {field : Field} {m : String × Value}
    (hfield : fields.find? (fun f ↦ f.name == m.1) = some field) (hseen : seen.lookup m.1 = none)
    (fuel : Nat) (first : Bool) (members : List (String × Value)) (rest : List Char) :
    Continues (membersFrom fields (fuel + 1) first seen) (membersText first (m :: members) ++ rest)
      (do membersFrom fields fuel false (seen ++ [(m.1, ← field.read)]))
      (m.2.chars ++ (membersText false members ++ rest)) := by
  refine (takes_nextMember first m members rest).continues ?_
  simp only [if_true]
  refine (takes_key m.1 _).continues ?_
  simp only [hfield, hseen, Option.isSome_none, Bool.false_eq_true, if_false]
  exact (takes_colon _).continues (continues_self _ _)

theorem endsNumber_membersText (members : List (String × Value)) (rest : List Char) :
    EndsNumber (membersText false members ++ '}' :: rest) := by
  cases members with
  | nil => exact endsNumber_cons (by decide) _
  | cons m members => exact endsNumber_cons (by decide) _

theorem lookup_eq_none_of_nodup {m : String × Value} {members : List (String × Value)}
    (h : ((seen ++ m :: members).map Prod.fst).Nodup) : seen.lookup m.1 = none := by
  rw [List.map_append, List.nodup_append] at h
  rw [List.lookup_eq_none_iff]
  intro p hp
  exact bne_iff_ne.2 (h.2.2 p.1 (List.mem_map_of_mem hp) m.1 (by simp)).symm

variable (seen)

/-- Members are read one by one if every field reads the value of its member. -/
theorem takes_membersFrom {fuel : Nat} (first : Bool) {members : List (String × Value)}
    (rest : List Char) (hfuel : members.length < fuel)
    (hnodup : ((seen ++ members).map Prod.fst).Nodup)
    (h : ∀ m ∈ members, ∃ field, fields.find? (fun f ↦ f.name == m.1) = some field ∧
      field.Reads m.2) :
    Takes (membersFrom fields fuel first seen) (membersText first members ++ '}' :: rest)
      (seen ++ members) ('}' :: rest) := by
  obtain ⟨fuel, rfl⟩ : ∃ n, fuel = n + 1 := ⟨fuel - 1, by omega⟩
  induction members generalizing fuel first seen with
  | nil =>
    have htext : membersText first [] = [] := by cases first <;> rfl
    rw [htext, List.append_nil]
    exact Takes.bind (takes_nextMember_end first rest) (takes_pure seen _)
  | cons m members ih =>
    obtain ⟨fuel, rfl⟩ : ∃ n, fuel = n + 1 := ⟨fuel - 1, by simp at hfuel; omega⟩
    obtain ⟨field, hfield, hreads⟩ := h m List.mem_cons_self
    have hlater := ih (seen ++ [m]) false (by simpa using hnodup)
      (fun m' hm' ↦ h m' (List.mem_cons_of_mem m hm')) fuel (by simpa using hfuel)
    rw [List.append_assoc, List.singleton_append] at hlater
    have hstep := membersFrom_cons hfield (lookup_eq_none_of_nodup hnodup) (fuel + 1) first members
      ('}' :: rest)
    exact hstep.takes ((hreads _ (endsNumber_membersText members rest)).bind hlater)

/-- Members are refused if a field rejects the value of its member, and fields read those before it. -/
theorem refuses_membersFrom {fuel : Nat} (first : Bool) {members : List (String × Value)}
    (rest : List Char) (hfuel : members.length < fuel)
    (hnodup : ((seen ++ members).map Prod.fst).Nodup)
    (h : ∀ m ∈ members, ∃ field, fields.find? (fun f ↦ f.name == m.1) = some field ∧
      (field.Reads m.2 ∨ field.Rejects m.2))
    (hbad : ∃ m ∈ members, ∃ field, fields.find? (fun f ↦ f.name == m.1) = some field ∧
      field.Rejects m.2) :
    Refuses (membersFrom fields fuel first seen) (membersText first members ++ '}' :: rest) := by
  obtain ⟨fuel, rfl⟩ : ∃ n, fuel = n + 1 := ⟨fuel - 1, by omega⟩
  induction members generalizing fuel first seen with
  | nil =>
    obtain ⟨m, hm, -⟩ := hbad
    cases hm
  | cons m members ih =>
    obtain ⟨field, hfield, hdecided⟩ := h m List.mem_cons_self
    have hstep := membersFrom_cons hfield (lookup_eq_none_of_nodup hnodup) fuel first members
      ('}' :: rest)
    refine hstep.refuses ?_
    have hend := endsNumber_membersText members rest
    by_cases hrejects : field.Rejects m.2
    · exact (hrejects _ hend).bind
    · refine (hdecided.resolve_right hrejects _ hend).bind_refuses ?_
      obtain ⟨fuel, rfl⟩ : ∃ n, fuel = n + 1 := ⟨fuel - 1, by simp at hfuel; omega⟩
      have hlater : ∃ m ∈ members, ∃ field,
          fields.find? (fun f ↦ f.name == m.1) = some field ∧ field.Rejects m.2 := by
        obtain ⟨m', hm', field', hfield', hbad⟩ := hbad
        rcases List.mem_cons.1 hm' with rfl | hm'
        · cases hfield.symm.trans hfield'
          exact absurd hbad hrejects
        · exact ⟨m', hm', field', hfield', hbad⟩
      exact ih (seen ++ [m]) false (by simpa using hnodup)
        (fun m' hm' ↦ h m' (List.mem_cons_of_mem m hm')) hlater fuel (by simpa using hfuel)

end

/-! ## Records with all their fields -/

/-- An object has a member for each field of a record, in the same order, and fields and members go
together as `P` says. -/
abbrev Matches (P : Field → Value → Prop) (fields : List Field) (members : List (String × Value)) :
    Prop :=
  List.Forall₂ (fun field m ↦ field.name = m.1 ∧ P field m.2) fields members

section

variable {fields : List Field} {members : List (String × Value)} {P : Field → Value → Prop}

theorem Matches.map_eq (h : Matches P fields members) :
    members.map Prod.fst = fields.map (·.name) := by
  induction h with
  | nil => rfl
  | cons hm _ ih => rw [List.map_cons, List.map_cons, ih, hm.1]

/-- The field that is found for a member is the one it goes together with. -/
theorem Matches.exists_find? (h : Matches P fields members) (hnodup : (fields.map (·.name)).Nodup) :
    ∀ m ∈ members, ∃ field, fields.find? (fun f ↦ f.name == m.1) = some field ∧ P field m.2 := by
  induction h with
  | nil => exact nofun
  | @cons field m fields members hm hrest ih =>
    intro m' hm'
    rw [List.map_cons, List.nodup_cons] at hnodup
    rcases List.mem_cons.1 hm' with rfl | hm'
    · exact ⟨field, List.find?_cons_of_pos (by simp [hm.1]), hm.2⟩
    · obtain ⟨field', hfind, hP⟩ := ih hnodup.2 m' hm'
      have hne : field.name ≠ m'.1 := by
        intro heq
        have hname : m'.1 ∈ members.map Prod.fst := List.mem_map_of_mem hm'
        rw [Matches.map_eq hrest, ← heq] at hname
        exact hnodup.1 hname
      exact ⟨field', (List.find?_cons_of_neg (by simpa using hne)).trans hfind, hP⟩

/-- Put in the order of their fields, the members stay as they are. -/
theorem Matches.filterMap_lookup (h : Matches P fields members)
    (hnodup : (fields.map (·.name)).Nodup) :
    fields.filterMap (fun f ↦ (members.lookup f.name).map fun v ↦ (f.name, v)) = members := by
  induction h with
  | nil => rfl
  | @cons field m fields members hm hrest ih =>
    obtain ⟨name, v⟩ := m
    obtain rfl : field.name = name := hm.1
    rw [List.map_cons, List.nodup_cons] at hnodup
    have hothers (f : Field) (hf : f ∈ fields) :
        ((field.name, v) :: members).lookup f.name = members.lookup f.name := by
      have hne : f.name ≠ field.name := fun heq ↦
        hnodup.1 (heq ▸ List.mem_map_of_mem (f := (·.name)) hf)
      rw [List.lookup_cons, beq_false_of_ne hne]
    rw [List.filterMap_cons, List.lookup_cons_self, Option.map_some]
    rw [List.filterMap_congr fun f hf ↦ by rw [hothers f hf], ih hnodup.2]

theorem Matches.find?_missing (h : Matches P fields members) (optional : Bool) :
    fields.find? (fun f ↦ !optional && (members.lookup f.name).isNone) = none := by
  rw [List.find?_eq_none]
  intro f hf hmissing
  rw [Bool.and_eq_true, Option.isNone_iff_eq_none, List.lookup_eq_none_iff] at hmissing
  have hname : f.name ∈ members.map Prod.fst := h.map_eq ▸ List.mem_map_of_mem hf
  obtain ⟨m, hm, hmname⟩ := List.mem_map.1 hname
  exact bne_iff_ne.1 (hmissing.2 m hm) hmname.symm

theorem length_le_length_memberChars (members : List (String × Value)) :
    members.length ≤ (memberChars members).length := by
  have hlater (members : List (String × Value)) : members.length ≤ (laterMembers members).length := by
    induction members with
    | nil => simp
    | cons m members ih =>
      simp only [laterMembers, List.flatMap_cons, List.length_append, List.length_cons] at ih ⊢
      omega
  cases members with
  | nil => simp
  | cons m members =>
    have h := hlater members
    simp only [memberChars_cons, List.length_append, List.length_cons]
    omega

variable (name : String) (optional : Bool) (rest : List Char)

theorem chars_object_append (members : List (String × Value)) :
    (Value.object members).chars ++ rest = '{' :: (membersText true members ++ '}' :: rest) := by
  simp [Value.chars, membersText]

/-- There is fuel for each member of an object. -/
theorem length_lt_remaining (members : List (String × Value)) :
    members.length < (membersText true members ++ '}' :: rest).length + 1 := by
  have h := length_le_length_memberChars members
  simp only [membersText, List.length_append, List.length_cons]
  omega

/-- A record is read if its fields read the values of the members. -/
theorem takes_record (hnodup : (fields.map (·.name)).Nodup)
    (h : Matches Field.Reads fields members) :
    Takes (record name optional fields) ((Value.object members).chars ++ rest) (.object members)
      rest := by
  have hmembers := takes_membersFrom [] true rest (length_lt_remaining rest members)
    (by simpa [h.map_eq] using hnodup) (h.exists_find? hnodup)
  rw [List.nil_append] at hmembers
  rw [chars_object_append]
  refine Takes.bind (takes_valueStart rfl) (Takes.bind (takes_pass '{' _) ?_)
  refine Takes.bind (takes_remaining _) (Takes.bind hmembers ?_)
  simp only [h.find?_missing, h.filterMap_lookup hnodup]
  exact Takes.bind (takes_closeObject rest) (takes_pure _ rest)

/-- A record is refused if a field rejects the value of its member, and the others are clear about
theirs. -/
theorem refuses_record (hnodup : (fields.map (·.name)).Nodup)
    (h : Matches (fun field v ↦ field.Reads v ∨ field.Rejects v) fields members)
    (hbad : ∃ m ∈ members, ∃ field, fields.find? (fun f ↦ f.name == m.1) = some field ∧
      field.Rejects m.2) :
    Refuses (record name optional fields) ((Value.object members).chars ++ rest) := by
  have hmembers := refuses_membersFrom [] true rest (length_lt_remaining rest members)
    (by simpa [h.map_eq] using hnodup) (h.exists_find? hnodup) hbad
  rw [chars_object_append]
  refine Takes.bind_refuses (takes_valueStart rfl) (Takes.bind_refuses (takes_pass '{' _) ?_)
  exact Takes.bind_refuses (takes_remaining _) hmembers.bind

end

end SourceSurvey.Json.Reader
