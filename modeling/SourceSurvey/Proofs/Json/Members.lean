import SourceSurvey.Proofs.Json.Kinds

/-!
# Objects with any members

A record whose fields may be left out is read from an object with any members, in any order. Members that
are no field of the record are passed over. A field is refused if it is given twice, or by a value that
it does not understand.
-/

namespace SourceSurvey.Json.Reader

open Spelling

variable {fields : List Field} {means : Field → Datum → Option Value} {cs lead rest : List Char}

/-- What the members of an object have given, with one more member. A member that is no field adds
nothing; a field adds a value that means something to it, unless it has one. -/
def collect (fields : List Field) (means : Field → Datum → Option Value)
    (given : List (String × Value)) (m : Option String × Datum) : Option (List (String × Value)) :=
  m.1.bind fun name ↦
    match fields.find? fun f ↦ f.name == name with
    | none => some given
    | some field =>
      if (given.lookup name).isSome then none
      else (means field m.2).map fun v ↦ given ++ [(name, v)]

theorem refuses_failBehind {α : Type} (close : Reader Unit) (fault : Fault) (cs : List Char) :
    Refuses (α := α) (failBehind close fault) cs := by
  intro here
  unfold failBehind
  split <;> exact ⟨_, rfl⟩

theorem takes_nextMember_close (first : Bool) (h : Blanks cs ('}' :: rest)) :
    Takes (nextMember first) cs false ('}' :: rest) :=
  (takes_token h rfl).bind (takes_pure false _)

theorem takes_nextMember_name (h : Blanks cs ('"' :: rest)) {first : Bool}
    (hlead : Follows first lead cs) : Takes (nextMember first) lead true ('"' :: rest) := by
  cases first with
  | true =>
    obtain rfl : lead = cs := hlead
    exact (takes_token h rfl).bind (takes_pure true _)
  | false =>
    exact (takes_token hlead rfl).bind
      ((takes_pass ',' cs).bind ((takes_token h rfl).bind (takes_pure true _)))

theorem takes_colon_behind (h : Blanks cs (':' :: rest)) : Takes colon cs () rest :=
  (takes_token h rfl).bind (takes_pass ':' rest)

theorem decides_membersFrom (hmeans : ∀ f ∈ fields, Understands f.read (means f))
    {ms : List (Option String × Datum)} (h : Spells (.members ms) cs ('}' :: rest)) {first : Bool}
    (hlead : Follows first lead cs) (given : List (String × Value)) (fuel : Nat)
    (hfuel : cs.length < fuel) :
    Decides (membersFrom fields fuel first given) lead (ms.foldlM (collect fields means) given)
      ('}' :: rest) := by
  induction ms generalizing cs lead first given fuel with
  | nil => cases h
  | cons m ms ih =>
    obtain ⟨name, d⟩ := m
    obtain ⟨fuel, rfl⟩ : ∃ n, fuel = n + 1 := ⟨fuel - 1, by omega⟩
    obtain ⟨cs₁, rest', hname, helement, hends, hlater⟩ : ∃ cs₁ rest', MemberName cs name cs₁ ∧
        Spells (.element d) cs₁ rest' ∧ EndsNumber rest' ∧ ∀ given cs', Blanks cs' rest' →
          Decides (membersFrom fields fuel false given) cs' (ms.foldlM (collect fields means) given)
            ('}' :: rest) := by
      cases h with
      | lastMember hname h =>
        have hlength := hname.length_lt
        obtain ⟨fuel, rfl⟩ : ∃ n, fuel = n + 1 := ⟨fuel - 1, by omega⟩
        exact ⟨_, _, hname, h, endsNumber_cons (by decide) _, fun given cs' hcs' ↦
          (takes_nextMember_close false hcs').bind (takes_pure given _)⟩
      | nextMember hname h hlater =>
        have hlength := hname.length_lt
        have hlength' := h.length_le
        simp only [List.length_cons] at hlength'
        exact ⟨_, _, hname, h, endsNumber_cons (by decide) _, fun given cs' hcs' ↦
          ih hlater (follows_comma hcs') given fuel (by omega)⟩
    rw [List.foldlM_cons, collect, Option.bind_eq_bind, Option.bind_assoc]
    cases hname with
    | quoted hopen hpieces hcolon =>
      refine (takes_nextMember_name hopen hlead).decides ?_
      have hkey : Decides key _ _ _ := (takes_pass '"' _).decides (decides_string hpieces)
      refine hkey.bind fun name ↦ ?_
      cases hfield : fields.find? fun f ↦ f.name == name with
      | none =>
        obtain ⟨cs', hpass, hblanks⟩ := takes_passOver helement hends
        exact (takes_colon_behind hcolon).decides (hpass.decides (hlater given cs' hblanks))
      | some field =>
        by_cases hgiven : (given.lookup name).isSome = true
        · simp only [hgiven, if_true]
          exact refuses_failBehind _ _ _
        · simp only [hgiven, Bool.false_eq_true, if_false]
          have hread := hmeans field (List.mem_of_find?_eq_some hfield)
          obtain ⟨cs', hvalue, hblanks⟩ := hread.element helement rfl
          refine (takes_colon_behind hcolon).decides ?_
          rw [Option.bind_map]
          exact hvalue.bind fun v ↦ hlater (given ++ [(name, v)]) cs' hblanks

/-- The members of an object that are fields, in the order of the fields. -/
def inOrder (fields : List Field) (given : List (String × Value)) : Value :=
  .object (fields.filterMap fun f ↦ (given.lookup f.name).map fun v ↦ (f.name, v))

/-- A field has the value that is given, whatever the order. -/
theorem get?_inOrder (fields : List Field) (given : List (String × Value)) (name : String) :
    (inOrder fields given).get? name =
      if name ∈ fields.map Field.name then given.lookup name else none := by
  rw [inOrder, Value.get?]
  induction fields with
  | nil => rfl
  | cons f fields ih =>
    rw [List.filterMap_cons, List.map_cons]
    by_cases hname : name = f.name
    · subst hname
      cases hgiven : given.lookup f.name with
      | some v => simp
      | none => simpa [hgiven] using ih
    · cases given.lookup f.name with
      | some v => simpa [List.lookup_cons, hname, beq_false_of_ne hname] using ih
      | none => simpa [hname] using ih

theorem decides_record (hmeans : ∀ f ∈ fields, Understands f.read (means f)) (name : String)
    {ms : List (Option String × Datum)} (h : Spells (.value (.object ms)) cs rest)
    (hlead : lead.dropWhile isBlank = cs) :
    Decides (record name true fields) lead
      ((ms.foldlM (collect fields means) []).map (inOrder fields)) rest := by
  obtain ⟨c, cs', rfl, rfl⟩ := h.exists_opens
  have hmembers : Decides (membersFrom fields (cs'.length + 1) true []) cs'
      (ms.foldlM (collect fields means) []) ('}' :: rest) := by
    cases h with
    | emptyObject h => exact (takes_nextMember_close true h).bind (takes_pure [] _)
    | object h => exact decides_membersFrom hmeans h (follows_nothing cs') [] _ (Nat.lt_succ_self _)
  refine (takes_valueStart hlead).decides ((takes_pass '{' cs').decides ?_)
  refine (takes_remaining cs').decides ?_
  rw [Option.map_eq_bind]
  refine hmembers.bind fun given ↦ ?_
  have hmissing : fields.find? (fun f ↦ !true && (given.lookup f.name).isNone) = none :=
    List.find?_eq_none.2 (by simp)
  simp only [hmissing]
  exact (takes_closeObject rest).bind (takes_pure (inOrder fields given) rest)

end SourceSurvey.Json.Reader
