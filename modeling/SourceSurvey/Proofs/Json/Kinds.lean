import SourceSurvey.Proofs.Json.Passing

/-!
# Reading values of a known kind

A reader for a string, for a list of strings or for a flag takes what is spelled as one, however it is
spelled, and refuses all other values.
-/

namespace SourceSurvey.Json

namespace Datum

def string? : Datum → Option String
  | .string s => s
  | _ => none

def strings? : Datum → Option (List String)
  | .array items => items.mapM string?
  | _ => none

def bool? : Datum → Option Bool
  | .bool b => some b
  | _ => none

theorem string?_eq_some_iff {d : Datum} {s : String} : d.string? = some s ↔ d = .string (some s) := by
  cases d <;> simp [string?]

theorem strings?_eq_some_iff {d : Datum} {ss : List String} :
    d.strings? = some ss ↔ d = .array (ss.map fun s ↦ .string (some s)) := by
  have hitems (items : List Datum) (ss : List String) :
      items.mapM string? = some ss ↔ items = ss.map fun s ↦ .string (some s) := by
    induction items generalizing ss with
    | nil => cases ss <;> simp
    | cons d items ih =>
      cases ss with
      | nil => simp [Option.bind_eq_some_iff]
      | cons s ss => simp [Option.bind_eq_some_iff, string?_eq_some_iff, ih]
  cases d with
  | array items => rw [strings?, hitems, array.injEq]
  | null | bool | number | string | object => simp [strings?]

theorem bool?_eq_some_iff {d : Datum} {b : Bool} : d.bool? = some b ↔ d = .bool b := by
  cases d <;> simp [bool?]

end Datum

namespace Reader

open Spelling

variable {α β : Type}

/-- The reader takes a value off a text and leaves the rest, or there is no value and it refuses the
text. -/
def Decides (r : Reader α) (cs : List Char) (x : Option α) (rest : List Char) : Prop :=
  match x with
  | some a => Takes r cs a rest
  | none => Refuses r cs

section

variable {r : Reader α} {f : α → Reader β} {cs cs' rest : List Char} {a : α}

theorem Takes.decides {x : Option β} (h : Takes r cs a cs') (h' : Decides (f a) cs' x rest) :
    Decides (r >>= f) cs x rest := by
  cases x with
  | some b => exact h.bind h'
  | none => exact h.bind_refuses h'

theorem Decides.bind {x : Option α} {g : α → Option β} (h : Decides r cs x cs')
    (h' : ∀ a, Decides (f a) cs' (g a) rest) : Decides (r >>= f) cs (x.bind g) rest := by
  cases x with
  | some a => exact h.decides (h' a)
  | none => exact Refuses.bind h

theorem Decides.map {x : Option α} (h : Decides r cs x rest) (g : α → β) :
    Decides (g <$> r) cs (x.map g) rest := by
  cases x with
  | some a => exact Takes.map h g
  | none => exact Refuses.map h g

/-- A text that is decided up to the blanks at its end is decided as a whole. -/
theorem toOption_ofText {text : String} {x : Option α} (h : Decides r text.toList x rest)
    (hrest : Blanks rest []) : (r.ofText text).toOption = x := by
  cases x with
  | some a =>
    obtain ⟨there, hwhole⟩ : ∃ there, whole r (Cursor.ofString text) = .ok (a, ⟨[], there⟩) :=
      Takes.bind h ((takes_token_nil hrest).bind (takes_pure a [])) Position.start
    rw [ofText, hwhole]
    rfl
  | none =>
    obtain ⟨e, he⟩ := ofText_of_refuses h
    rw [he]
    rfl

/-- What is refused by all that comes later is refused. -/
theorem refuses_bind (h : ∀ a cs, Refuses (f a) cs) (cs : List Char) : Refuses (r >>= f) cs := by
  intro here
  rw [bind_apply]
  cases hr : r ⟨cs, here⟩ with
  | error e => exact ⟨e, rfl⟩
  | ok p => exact h p.1 p.2.rest p.2.here

theorem refuses_failAhead (fault : Fault) (cs : List Char) : Refuses (α := α) (failAhead fault) cs :=
  fun _ ↦ ⟨_, rfl⟩

/-- A value of another kind is passed before it is refused. -/
theorem refuses_behind (r : Reader β) (fault : β → Fault) (cs : List Char) :
    Refuses (α := α) (do pass; failHere (fault (← r))) cs :=
  refuses_bind (fun _ ↦ refuses_bind fun _ ↦ refuses_failHere _) cs

theorem refuses_wrongKind (expected : String) (cs : List Char) :
    Refuses (α := α) (wrongKind expected) cs := by
  refine refuses_bind (fun c cs ↦ ?_) cs
  split
  · exact refuses_behind _ _ cs
  · exact refuses_behind _ _ cs
  · exact refuses_behind _ _ cs
  · exact refuses_behind _ _ cs
  · exact refuses_behind _ _ cs
  · exact refuses_failHere _ cs
  · exact refuses_failHere _ cs
  · split
    · exact refuses_bind (fun _ ↦ refuses_failHere _) cs
    · exact refuses_failAhead _ cs
  · exact refuses_failAhead _ cs

end

/-! ## Strings -/

section

open Encoding.Utf16

variable {cs cs' rest : List Char} {n m : Nat}

theorem isTrailing_iff (n : Nat) : isTrailing n = true ↔ 0xDC00 ≤ n ∧ n < 0xE000 := by
  simp [isTrailing]

theorem isLeading_iff (n : Nat) : isLeading n = true ↔ 0xD800 ≤ n ∧ n < 0xDC00 := by
  simp [isLeading]

/-- A trailing unit with no leading one in front of it is refused. -/
theorem refuses_codeEscape_trailing (h : Takes hexEscape cs n cs') (hn : isTrailing n = true) :
    Refuses codeEscape cs := by
  refine h.bind_refuses ?_
  rw [if_pos ((isTrailing_iff n).1 hn)]
  exact refuses_failHere _ cs'

theorem takes_codeEscape_whole (h : Takes hexEscape cs n cs') (hn : ¬isTrailing n = true)
    (hn' : ¬isLeading n = true) : Takes codeEscape cs (Char.ofNat n) cs' := by
  rw [isTrailing_iff] at hn
  rw [isLeading_iff] at hn'
  refine h.bind ?_
  rw [if_neg hn, if_neg hn']
  exact takes_pure _ cs'

theorem takes_pairMark (c : Char) (cs : List Char) : Takes (pairMark c) (c :: cs) () cs := by
  refine (takes_peek c cs).bind ?_
  simp only [if_true]
  exact takes_pass c cs

theorem refuses_pairMark {c c' : Char} (h : c' ≠ c) (cs : List Char) :
    Refuses (pairMark c) (c' :: cs) := by
  refine (takes_peek c' cs).bind_refuses ?_
  simp only [h, if_false]
  exact refuses_failAhead _ _

theorem takes_codeEscape_pair (h : Takes hexEscape cs n ('\\' :: 'u' :: cs'))
    (hn : isLeading n = true) (h' : Takes hexEscape cs' m rest) (hm : isTrailing m = true) :
    Takes codeEscape cs (pair n m) rest := by
  refine h.bind ?_
  rw [if_neg (mt (isTrailing_iff n).2 (not_isTrailing_of_isLeading hn)),
    if_pos ((isLeading_iff n).1 hn)]
  refine (takes_pairMark '\\' _).bind ((takes_pairMark 'u' _).bind (h'.bind ?_))
  rw [if_pos ((isTrailing_iff m).1 hm)]
  exact takes_pure _ rest

/-- A leading unit with no trailing one behind it is refused. -/
theorem refuses_codeEscape_leading {ps : List Piece} (h : Takes hexEscape cs n cs')
    (hn : isLeading n = true) (hps : Pieces cs' ps rest)
    (hnone : ∀ m, ps.head? = some (.unit m) → ¬isTrailing m = true) : Refuses codeEscape cs := by
  refine h.bind_refuses ?_
  rw [if_neg (mt (isTrailing_iff n).2 (not_isTrailing_of_isLeading hn)),
    if_pos ((isLeading_iff n).1 hn)]
  cases hps with
  | close => exact (refuses_pairMark (by decide) _).bind
  | char _ hmark => exact (refuses_pairMark hmark _).bind
  | @escape x c cs _ ps hx =>
    have hu : x ≠ 'u' := by
      rintro rfl
      exact absurd (simpleEscape_of_mem hx) nofun
    exact (takes_pairMark '\\' _).bind_refuses (refuses_pairMark hu _).bind
  | unit hx hy hz hw =>
    refine (takes_pairMark '\\' _).bind_refuses ((takes_pairMark 'u' _).bind_refuses ?_)
    refine (takes_hexEscape hx hy hz hw _).bind_refuses ?_
    rw [if_neg fun hm ↦ hnone _ rfl ((isTrailing_iff _).2 hm)]
    exact refuses_failHere _ _

theorem takes_escape_unit {c : Char} (h : Takes codeEscape cs c rest) :
    Takes Reader.escape ('u' :: cs) c rest :=
  (takes_peek 'u' _).bind ((takes_pass 'u' _).bind h)

theorem refuses_escape_unit (h : Refuses codeEscape cs) : Refuses Reader.escape ('u' :: cs) :=
  (takes_peek 'u' _).bind_refuses ((takes_pass 'u' _).bind_refuses h)

/-- A unit is read as a character, together with the other half of its pair, or it is refused. -/
theorem escape_unit_cases {ps : List Piece} (hunit : Takes hexEscape cs n cs')
    (h : Pieces cs' ps rest) :
    (Refuses Reader.escape ('u' :: cs) ∧ joined (.unit n :: ps) = none) ∨
      ∃ c cs'' ps', Takes Reader.escape ('u' :: cs) c cs'' ∧ Pieces cs'' ps' rest ∧
        joined (.unit n :: ps) = (joined ps').map (c :: ·) ∧ cs''.length ≤ cs'.length := by
  by_cases hn : isTrailing n = true
  · exact .inl ⟨refuses_escape_unit (refuses_codeEscape_trailing hunit hn), joined_trailing hn ps⟩
  by_cases hn' : isLeading n = true
  · by_cases hnone : ∀ m, ps.head? = some (.unit m) → ¬isTrailing m = true
    · exact .inl ⟨refuses_escape_unit (refuses_codeEscape_leading hunit hn' h hnone),
        joined_leading hn' hnone⟩
    · push Not at hnone
      obtain ⟨m, hhead, hm⟩ := hnone
      obtain ⟨ps', rfl⟩ := List.head?_eq_some_iff.1 hhead
      cases h with
      | unit hx hy hz hw h =>
        have hpair := takes_codeEscape_pair hunit hn' (takes_hexEscape hx hy hz hw _) hm
        refine .inr ⟨_, _, ps', takes_escape_unit hpair, h, joined_pair hn' hm ps', ?_⟩
        simp only [List.length_cons]
        omega
  · exact .inr ⟨_, _, ps, takes_escape_unit (takes_codeEscape_whole hunit hn hn'), h,
      joined_whole hn hn' ps, le_rfl⟩

/-- A string is read as the characters that its pieces stand for. -/
theorem decides_stringFrom {ps : List Piece} (h : Pieces cs ps rest) (fuel : Nat) (read : List Char)
    (hfuel : cs.length < fuel) :
    Decides (stringFrom fuel read) cs
      ((joined ps).map fun s ↦ String.ofList (read.reverse ++ s)) rest := by
  -- A pair of units is two pieces but one step of the reader, so the induction is on its steps.
  induction fuel generalizing cs ps read with
  | zero => exact absurd hfuel (Nat.not_lt_zero _)
  | succ fuel ih =>
    have hjoined (c : Char) (ps : List Piece) :
        ((joined ps).map (c :: ·)).map (fun s ↦ String.ofList (read.reverse ++ s)) =
          (joined ps).map fun s ↦ String.ofList ((c :: read).reverse ++ s) := by
      simp [Function.comp_def]
    cases h with
    | close =>
      have hread : joined [] = some [] := rfl
      rw [hread, Option.map_some, List.append_nil]
      exact (takes_peek '"' rest).bind ((takes_pass '"' rest).bind (takes_pure _ rest))
    | @char c cs _ ps hquote hmark hcontrol h =>
      have hlater := ih h (c :: read) (by simpa using hfuel)
      rw [joined, hjoined]
      refine (takes_peek c cs).decides ?_
      split
      · contradiction
      · rename_i heq
        exact absurd (Option.some.inj heq) hquote
      · rename_i heq
        exact absurd (Option.some.inj heq) hmark
      · rename_i heq
        cases heq
        rw [if_neg hcontrol.not_gt]
        exact (takes_pass c cs).decides hlater
    | @escape x c cs _ ps hx h =>
      have hlater := ih h (c :: read) (by simp only [List.length_cons] at hfuel; omega)
      rw [joined, hjoined]
      refine (takes_peek '\\' _).decides ((takes_pass '\\' _).decides ?_)
      exact (takes_escape (simpleEscape_of_mem hx) cs).decides hlater
    | @unit x y z w a b c d cs _ ps hx hy hz hw h =>
      refine (takes_peek '\\' _).decides ((takes_pass '\\' _).decides ?_)
      rcases escape_unit_cases (takes_hexEscape hx hy hz hw cs) h with
        ⟨hrefuses, hnone⟩ | ⟨c', cs', ps', htakes, hps', hsome, hlength⟩
      · rw [hnone]
        exact hrefuses.bind
      · have hlater := ih hps' (c' :: read) (by simp only [List.length_cons] at hfuel; omega)
        rw [hsome, hjoined]
        exact htakes.decides hlater

theorem decides_string {ps : List Piece} (h : Pieces cs ps rest) :
    Decides string cs (textOf ps) rest :=
  (takes_remaining cs).decides (decides_stringFrom h _ [] (Nat.lt_succ_self _))

end

/-! ## Readers of one kind -/

/-- The reader takes what is spelled as a value for what it means to it, and refuses a value that means
nothing to it. -/
def Understands (r : Reader α) (means : Datum → Option α) : Prop :=
  ∀ d cs lead rest, Spells (.value d) cs rest → lead.dropWhile isBlank = cs →
    Decides r lead (means d) rest

theorem Understands.map {r : Reader α} {means : Datum → Option α} (h : Understands r means)
    (g : α → β) : Understands (g <$> r) fun d ↦ (means d).map g :=
  fun d cs lead rest hvalue hlead ↦ (h d cs lead rest hvalue hlead).map g

theorem Understands.element {r : Reader α} {means : Datum → Option α} (h : Understands r means)
    {d : Datum} {cs lead rest : List Char} (helement : Spells (.element d) cs rest)
    (hlead : lead.dropWhile isBlank = cs.dropWhile isBlank) :
    ∃ cs', Decides r lead (means d) cs' ∧ Blanks cs' rest := by
  cases helement with
  | element hbefore hvalue hafter =>
    have hdrop := (dropWhile_of_blanks hbefore).trans (dropWhile_of_spells hvalue)
    exact ⟨_, h d _ lead _ hvalue (hlead.trans hdrop), hafter⟩

theorem understands_text : Understands text Datum.string? := by
  intro d cs lead rest h hlead
  obtain ⟨c, cs', rfl, hc⟩ := h.exists_opens
  refine (takes_valueStart hlead).decides ?_
  by_cases hquote : c = '"'
  · subst hquote
    obtain ⟨s, rfl⟩ := eq_string_of_opens hc
    cases h with
    | string h => exact (takes_pass '"' cs').decides (decides_string h)
  · have hnone : d.string? = none := by
      cases d with
      | string => exact absurd hc hquote
      | null | bool | number | array | object => rfl
    rw [if_neg hquote, hnone]
    exact refuses_wrongKind _ _

theorem understands_flag : Understands flag Datum.bool? := by
  intro d cs lead rest h hlead
  obtain ⟨c, cs', rfl, hc⟩ := h.exists_opens
  refine (takes_valueStart hlead).decides ?_
  split
  · obtain rfl := eq_bool_of_opens (b := true) hc
    cases h
    exact (takes_pass 't' _).bind ((takes_literal ['r', 'u', 'e'] rest).bind (takes_pure true rest))
  · obtain rfl := eq_bool_of_opens (b := false) hc
    cases h
    exact (takes_pass 'f' _).bind
      ((takes_literal ['a', 'l', 's', 'e'] rest).bind (takes_pure false rest))
  · rename_i htrue hfalse
    have hnone : d.bool? = none := by
      cases d with
      | bool b =>
        cases b with
        | true => exact absurd hc htrue
        | false => exact absurd hc hfalse
      | null | number | string | array | object => rfl
    rw [hnone]
    exact refuses_wrongKind _ _

/-! ## Lists -/

/-- What is looked for comes first, or there is a comma in front of it. -/
def Follows (first : Bool) (lead cs : List Char) : Prop :=
  if first then lead = cs else Blanks lead (',' :: cs)

section

variable {cs lead rest : List Char}

theorem follows_nothing (cs : List Char) : Follows true cs cs := rfl

theorem follows_comma (h : Blanks lead (',' :: cs)) : Follows false lead cs := h

theorem takes_nextElement_close (first : Bool) (h : Blanks cs (']' :: rest)) :
    Takes (nextElement first) cs false (']' :: rest) :=
  (takes_token h rfl).bind (takes_pure false _)

theorem takes_nextElement {d : Datum} (h : Spells (.element d) cs rest) {first : Bool}
    (hlead : Follows first lead cs) :
    ∃ cs', Takes (nextElement first) lead true cs' ∧
      cs'.dropWhile isBlank = cs.dropWhile isBlank := by
  obtain ⟨c, cs', hc, htoken, hdrop⟩ := takes_token_of_element h rfl
  refine ⟨c :: cs', ?_, hdrop⟩
  cases first with
  | true =>
    obtain rfl : lead = cs := hlead
    refine htoken.bind ?_
    split
    · contradiction
    · rename_i heq
      exact absurd (Option.some.inj heq) hc.ne_close
    · exact takes_pure true _
  | false =>
    refine (takes_token hlead rfl).bind ((takes_pass ',' cs).bind (htoken.bind ?_))
    split
    · contradiction
    · rename_i heq
      exact absurd (Option.some.inj heq) hc.ne_close
    · exact takes_pure true _

theorem decides_textsFrom {ds : List Datum} (h : Spells (.elements ds) cs (']' :: rest))
    {first : Bool} (hlead : Follows first lead cs) (fuel : Nat) (hfuel : cs.length < fuel) :
    Decides (textsFrom fuel first) lead (ds.mapM Datum.string?) (']' :: rest) := by
  induction ds generalizing cs lead first fuel with
  | nil => cases h
  | cons d ds ih =>
    obtain ⟨fuel, rfl⟩ : ∃ n, fuel = n + 1 := ⟨fuel - 1, by omega⟩
    obtain ⟨rest', helement, hlater⟩ : ∃ rest', Spells (.element d) cs rest' ∧
        ∀ cs', Blanks cs' rest' →
          Decides (textsFrom fuel false) cs' (ds.mapM Datum.string?) (']' :: rest) := by
      cases h with
      | lastElement h =>
        have hlength := h.length_le
        obtain ⟨fuel, rfl⟩ : ∃ n, fuel = n + 1 := ⟨fuel - 1, by simp at hlength; omega⟩
        exact ⟨_, h, fun cs' hcs' ↦ (takes_nextElement_close false hcs').bind (takes_pure [] _)⟩
      | nextElement h hlater =>
        have hlength := h.length_le
        refine ⟨_, h, fun cs' hcs' ↦ ih hlater (follows_comma hcs') fuel ?_⟩
        simp only [List.length_cons] at hlength
        omega
    obtain ⟨cs₁, hnext, hdrop⟩ := takes_nextElement helement hlead
    obtain ⟨cs₂, hvalue, hblanks⟩ := understands_text.element helement hdrop
    refine hnext.decides ?_
    rw [List.mapM_cons]
    exact hvalue.bind fun s ↦ (hlater cs₂ hblanks).bind fun ss ↦ takes_pure (s :: ss) _

theorem understands_texts : Understands texts Datum.strings? := by
  intro d cs lead rest h hlead
  obtain ⟨c, cs', rfl, hc⟩ := h.exists_opens
  refine (takes_valueStart hlead).decides ?_
  by_cases hopen : c = '['
  · subst hopen
    obtain ⟨ds, rfl⟩ := eq_array_of_opens hc
    have hitems : Decides (textsFrom (cs'.length + 1) true) cs' (ds.mapM Datum.string?)
        (']' :: rest) := by
      cases h with
      | emptyArray h => exact (takes_nextElement_close true h).bind (takes_pure [] _)
      | array h => exact decides_textsFrom h (follows_nothing cs') _ (Nat.lt_succ_self _)
    have hall : Decides (do let all ← textsFrom (cs'.length + 1) true; closeArray; pure all) cs'
        ((ds.mapM Datum.string?).bind some) rest :=
      hitems.bind fun ss ↦ (takes_closeArray rest).bind (takes_pure ss rest)
    rw [Option.bind_fun_some] at hall
    exact (takes_pass '[' cs').decides ((takes_remaining cs').decides hall)
  · have hnone : d.strings? = none := by
      cases d with
      | array => exact absurd hc hopen
      | null | bool | number | string | object => rfl
    rw [if_neg hopen, hnone]
    exact refuses_wrongKind _ _

end

end Reader

end SourceSurvey.Json
