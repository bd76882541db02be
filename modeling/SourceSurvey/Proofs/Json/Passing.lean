import SourceSurvey.Proofs.Json.Records
import SourceSurvey.Proofs.Json.Spelling

/-!
# Passing over values

Whatever is spelled as a value is passed over, however deep, whatever its strings say and wherever blanks
stand.
-/

namespace SourceSurvey.Json.Reader

open Spelling

variable {cs cs' rest : List Char}

/-! ## Blanks -/

theorem isBlank_iff (c : Char) : isBlank c = true ↔ c ∈ [' ', '\t', '\n', '\r'] := by
  simp only [isBlank, Bool.or_eq_true, decide_eq_true_eq, List.mem_cons, List.not_mem_nil, or_false]
  tauto

theorem dropWhile_of_blanks (h : Blanks cs rest) :
    cs.dropWhile isBlank = rest.dropWhile isBlank := by
  induction h with
  | none => rfl
  | blank hc _ ih => rw [List.dropWhile_cons_of_pos ((isBlank_iff _).2 hc), ih]

theorem takes_token {c : Char} (h : Blanks cs (c :: rest)) (hc : isBlank c = false) :
    Takes peekToken cs (some c) (c :: rest) := by
  apply takes_peekToken
  rw [dropWhile_of_blanks h, List.dropWhile_cons_of_neg (by simp [hc])]

theorem takes_token_nil (h : Blanks cs []) : Takes peekToken cs none [] :=
  Takes.bind (dropWhile_of_blanks h ▸ takes_passBlanks cs) (takes_ahead [])

/-- A number that stands before blanks is over there. -/
theorem endsNumber_of_blanks (h : Blanks cs rest) (hrest : EndsNumber rest) : EndsNumber cs := by
  cases h with
  | none => exact hrest
  | blank hc =>
    simp only [List.mem_cons, List.not_mem_nil, or_false] at hc
    rcases hc with rfl | rfl | rfl | rfl <;> exact endsNumber_cons (by decide) _

/-! ## Numbers -/

theorem isDigit_iff (c : Char) : isDigit c = true ↔ '0' ≤ c ∧ c ≤ '9' := by
  rw [isDigit, Bool.and_eq_true, decide_eq_true_eq, decide_eq_true_eq]

theorem dropWhile_of_digits (h : Digits cs rest) :
    cs.dropWhile isDigit = rest.dropWhile isDigit := by
  induction h with
  | one hc => rw [List.dropWhile_cons_of_pos ((isDigit_iff _).2 hc)]
  | more hc _ ih => rw [List.dropWhile_cons_of_pos ((isDigit_iff _).2 hc), ih]

theorem takes_peekDigit_ahead (cs : List Char) :
    Takes peekDigit cs (cs.head?.any isDigit) cs := fun here ↦ ⟨here, rfl⟩

theorem exists_takes_digits (h : Digits cs rest) (hrest : rest.head?.any isDigit = false) :
    ∃ ds, Takes digits cs ds rest := by
  have hend : rest.dropWhile isDigit = rest := by
    cases rest with
    | nil => rfl
    | cons c rest => exact List.dropWhile_cons_of_neg (by simpa using hrest)
  have hdigits : Takes digits cs (cs.takeWhile isDigit) (cs.dropWhile isDigit) := fun _ ↦ ⟨_, rfl⟩
  exact ⟨_, hend ▸ dropWhile_of_digits h ▸ hdigits⟩

/-- Digits are looked for, found and passed. -/
theorem takes_passDigits (h : Digits cs rest) (hrest : rest.head?.any isDigit = false)
    {r s : Reader Unit} (hlater : Takes r rest () cs') :
    Takes (do if ← peekDigit then do let _ ← digits; r else s) cs () cs' := by
  obtain ⟨c, cs₁, rfl, hc⟩ := h.exists_cons
  obtain ⟨ds, hds⟩ := exists_takes_digits h hrest
  refine (takes_peekDigit_ahead _).bind ?_
  simp only [List.head?_cons, Option.any_some, (isDigit_iff c).2 hc, if_true]
  exact hds.bind hlater

theorem EndsNumber.any_head? (h : EndsNumber rest) : rest.head?.any isDigit = false := by
  cases rest with
  | nil => rfl
  | cons c rest => exact (h c rfl).1

theorem takes_passExponent (mark : Char) (hsign : cs = cs' ∨ cs = '+' :: cs' ∨ cs = '-' :: cs')
    (h : Digits cs' rest) (hrest : EndsNumber rest) :
    Takes passExponent (mark :: cs) () rest := by
  have hdigits := takes_passDigits (s := failAhead .invalidNumber) h hrest.any_head?
    (takes_pure () rest)
  refine (takes_pass mark cs).bind ?_
  rcases hsign with rfl | rfl | rfl
  · obtain ⟨c, cs₁, rfl, hc⟩ := h.exists_cons
    refine (takes_peek c cs₁).bind ?_
    split
    · rename_i hplus
      cases hplus
      exact absurd hc (by decide)
    · rename_i hminus
      cases hminus
      exact absurd hc (by decide)
    · exact hdigits
  · exact (takes_peek '+' cs').bind ((takes_pass '+' cs').bind hdigits)
  · exact (takes_peek '-' cs').bind ((takes_pass '-' cs').bind hdigits)

/-- No digit stands behind the digits before an exponent. -/
theorem any_head?_of_exponent (h : Exponent cs rest) (hrest : EndsNumber rest) :
    cs.head?.any isDigit = false := by
  cases h with
  | none => exact hrest.any_head?
  | digits hmark => rcases hmark with rfl | rfl <;> rfl

theorem any_head?_of_fraction (hfraction : Fraction cs cs') (hexponent : Exponent cs' rest)
    (hrest : EndsNumber rest) : cs.head?.any isDigit = false := by
  cases hfraction with
  | none => exact any_head?_of_exponent hexponent hrest
  | digits => rfl

theorem takes_exponent (h : Exponent cs rest) (hrest : EndsNumber rest) :
    Takes (if isExponentMark cs.head? then passExponent else pure ()) cs () rest := by
  cases h with
  | none =>
    have hmark : isExponentMark cs.head? = false := by
      cases cs with
      | nil => rfl
      | cons c cs => exact (hrest c rfl).2.2
    rw [hmark]
    exact takes_pure () cs
  | digits hmark hsign h =>
    rcases hmark with rfl | rfl
    · exact takes_passExponent 'e' hsign h hrest
    · exact takes_passExponent 'E' hsign h hrest

/-- What comes behind the digits in front of the point. -/
theorem takes_fraction (hfraction : Fraction cs cs') (hexponent : Exponent cs' rest)
    (hrest : EndsNumber rest) :
    Takes (do
      let next ← peek
      if next = some '.' then do
        pass
        if ← peekDigit then let _ ← digits
        else failAhead .invalidNumber
        if isExponentMark (← peek) then passExponent
      else if isExponentMark next then passExponent) cs () rest := by
  have hlater := takes_exponent hexponent hrest
  cases hfraction with
  | none =>
    have hdot : cs.head? ≠ some '.' := by
      cases hexponent with
      | none => exact fun h ↦ (hrest '.' h).2.1 rfl
      | digits hmark => rcases hmark with rfl | rfl <;> simp
    refine (takes_ahead cs).bind ?_
    rw [if_neg hdot]
    exact hlater
  | digits h =>
    refine (takes_peek '.' _).bind ((takes_pass '.' _).bind ?_)
    exact takes_passDigits h (any_head?_of_exponent hexponent hrest) ((takes_ahead cs').bind hlater)

theorem takes_passNumber (h : Magnitude cs rest) (hrest : EndsNumber rest) :
    Takes passNumber cs () rest := by
  cases h with
  | parts hwhole hfraction hexponent =>
    have hdigit := any_head?_of_fraction hfraction hexponent hrest
    have hlater := takes_fraction hfraction hexponent hrest
    cases hwhole with
    | zero =>
      refine (takes_peek '0' _).bind ((takes_pass '0' _).bind ((takes_peekDigit_ahead _).bind ?_))
      rw [hdigit]
      exact hlater
    | digits hzero h =>
      refine (takes_ahead cs).bind ?_
      split
      · contradiction
      · exact takes_passDigits h hdigit hlater

/-! ## Strings -/

theorem hexValue_of_isHexDigit {x : Char} {n : Nat} (h : IsHexDigit x n) : hexValue x = some n := by
  have hupper : ∀ n < 16, hexValue (hexDigit n).toUpper = some n := by decide
  obtain ⟨hn, rfl | rfl⟩ := h
  · exact hexValue_hexDigit n hn
  · exact hupper n hn

theorem takes_hexEscape {x y z w : Char} {a b c d : Nat} (hx : IsHexDigit x a) (hy : IsHexDigit y b)
    (hz : IsHexDigit z c) (hw : IsHexDigit w d) (rest : List Char) :
    Takes hexEscape (x :: y :: z :: w :: rest) (((a * 16 + b) * 16 + c) * 16 + d) rest := by
  intro here
  simp only [hexEscape, hexValue_of_isHexDigit hx, hexValue_of_isHexDigit hy,
    hexValue_of_isHexDigit hz, hexValue_of_isHexDigit hw]
  exact ⟨_, rfl⟩

theorem simpleEscape_of_mem {x c : Char} (h : (x, c) ∈ escapes) : simpleEscape x = some c := by
  have hall : ∀ p ∈ escapes, simpleEscape p.1 = some p.2 := by decide
  exact hall _ h

theorem takes_passEscape {x c : Char} (h : (x, c) ∈ escapes) (rest : List Char) :
    Takes passEscape (x :: rest) () rest := by
  have hx := simpleEscape_of_mem h
  refine (takes_peek x rest).bind ?_
  split
  · contradiction
  · rename_i hu
    cases hu
    cases hx
  · rename_i hx'
    cases hx'
    rw [hx]
    exact takes_pass x rest

/-- The fuel of a string is enough if there is some for each of its characters. -/
theorem takes_passStringFrom {ps : List Piece} (h : Pieces cs ps rest) (fuel : Nat)
    (hfuel : cs.length < fuel) : Takes (passStringFrom fuel) cs () rest := by
  induction h generalizing fuel with
  | close rest =>
    obtain ⟨fuel, rfl⟩ : ∃ n, fuel = n + 1 := ⟨fuel - 1, by omega⟩
    exact (takes_peek '"' rest).bind (takes_pass '"' rest)
  | @char c cs rest ps hquote hmark hcontrol _ ih =>
    obtain ⟨fuel, rfl⟩ : ∃ n, fuel = n + 1 := ⟨fuel - 1, by omega⟩
    refine (takes_peek c cs).bind ?_
    split
    · contradiction
    · rename_i hc
      exact absurd (Option.some.inj hc) hquote
    · rename_i hc
      exact absurd (Option.some.inj hc) hmark
    · rename_i hc
      cases hc
      rw [if_neg hcontrol.not_gt]
      exact (takes_pass c cs).bind (ih fuel (by simpa using hfuel))
  | @escape x c cs rest ps hx _ ih =>
    obtain ⟨fuel, rfl⟩ : ∃ n, fuel = n + 1 := ⟨fuel - 1, by omega⟩
    have hlater := ih fuel (by simp only [List.length_cons] at hfuel; omega)
    refine (takes_peek '\\' _).bind ((takes_pass '\\' _).bind ?_)
    exact (takes_passEscape hx cs).bind hlater
  | @unit x y z w a b c d cs rest ps hx hy hz hw _ ih =>
    obtain ⟨fuel, rfl⟩ : ∃ n, fuel = n + 1 := ⟨fuel - 1, by omega⟩
    have hlater := ih fuel (by simp only [List.length_cons] at hfuel; omega)
    have hescape : Takes passEscape ('u' :: x :: y :: z :: w :: cs) () cs :=
      (takes_peek 'u' _).bind ((takes_pass 'u' _).bind
        ((takes_hexEscape hx hy hz hw cs).bind (takes_pure () cs)))
    exact (takes_peek '\\' _).bind ((takes_pass '\\' _).bind (hescape.bind hlater))

theorem takes_passString {ps : List Piece} (h : Pieces cs ps rest) : Takes passString cs () rest :=
  (takes_remaining cs).bind (takes_passStringFrom h _ (Nat.lt_succ_self _))

/-! ## Values -/

theorem isBlank_of_opens {c : Char} {d : Datum} (h : Opens c d) : isBlank c = false := by
  cases d with
  | null | string | array | object => cases h; rfl
  | bool b => cases h; cases b <;> rfl
  | number =>
    rcases h with rfl | h
    · rfl
    · by_contra hblank
      simp only [Bool.not_eq_false, isBlank_iff, List.mem_cons, List.not_mem_nil, or_false] at hblank
      rcases hblank with rfl | rfl | rfl | rfl <;> exact absurd h (by decide)

theorem dropWhile_of_spells {d : Datum} (h : Spells (.value d) cs rest) : cs.dropWhile isBlank = cs := by
  obtain ⟨c, cs', rfl, hc⟩ := h.exists_opens
  exact List.dropWhile_cons_of_neg (by simp [isBlank_of_opens hc])

/-- What is spelled as an element of an array or a member's value, blanks in front of it aside. -/
theorem takes_token_of_element {d : Datum} {lead : List Char} (h : Spells (.element d) cs rest)
    (hlead : lead.dropWhile isBlank = cs.dropWhile isBlank) :
    ∃ c cs', Opens c d ∧ Takes peekToken lead (some c) (c :: cs') ∧
      (c :: cs').dropWhile isBlank = cs.dropWhile isBlank := by
  cases h with
  | element hbefore hvalue =>
    have hdrop := (dropWhile_of_blanks hbefore).trans (dropWhile_of_spells hvalue)
    obtain ⟨c, cs', rfl, hc⟩ := hvalue.exists_opens
    refine ⟨c, cs', hc, takes_peekToken (hlead.trans hdrop), ?_⟩
    rw [hdrop, dropWhile_of_spells hvalue]

/-- A part is passed over whatever blanks stand in front of it, with two steps for each character. -/
def Passes : Part → List Char → List Char → Prop
  | .value _, cs, rest =>
    EndsNumber rest → ∀ lead fuel, lead.dropWhile isBlank = cs → 2 * cs.length ≤ fuel →
      Takes (passValue (fuel + 1)) lead () rest
  | .element _, cs, rest =>
    EndsNumber rest → ∀ lead fuel, lead.dropWhile isBlank = cs.dropWhile isBlank →
      2 * cs.length ≤ fuel → ∃ cs', Takes (passValue (fuel + 1)) lead () cs' ∧ Blanks cs' rest
  | .elements _, cs, rest =>
    ∀ behind, rest = ']' :: behind → ∀ lead fuel, lead.dropWhile isBlank = cs.dropWhile isBlank →
      2 * cs.length < fuel → Takes (passElements (fuel + 1)) lead () behind
  | .members _, cs, rest =>
    ∀ behind, rest = '}' :: behind → ∀ lead fuel, lead.dropWhile isBlank = cs.dropWhile isBlank →
      2 * cs.length < fuel → Takes (passMembers (fuel + 1)) lead () behind

theorem exists_element_of_elements {ds : List Datum} (h : Spells (.elements ds) cs rest) :
    ∃ d cs', Spells (.element d) cs cs' := by
  cases h with
  | lastElement h => exact ⟨_, _, h⟩
  | nextElement h => exact ⟨_, _, h⟩

theorem exists_name_of_members {ms : List (Option String × Datum)}
    (h : Spells (.members ms) cs rest) : ∃ name cs', MemberName cs name cs' := by
  cases h with
  | lastMember hname => exact ⟨_, _, hname⟩
  | nextMember hname => exact ⟨_, _, hname⟩

theorem dropWhile_of_name {name : Option String} (h : MemberName cs name rest) :
    ∃ cs', cs.dropWhile isBlank = '"' :: cs' := by
  cases h with
  | quoted hopen => exact ⟨_, dropWhile_of_blanks hopen⟩

/-- A name is passed with the colon behind it; its value is left. -/
theorem passMembers_name {name : Option String} {lead : List Char} (h : MemberName cs name rest)
    (hlead : lead.dropWhile isBlank = cs.dropWhile isBlank) (fuel : Nat) :
    Continues (passMembers (fuel + 1)) lead (do
      passValue fuel
      match ← peekToken with
      | none => failAhead .endInObject
      | some ',' => do pass; passMembers fuel
      | some '}' => pass
      | some _ => failAhead .expectedObjectCommaOrEnd) rest := by
  cases h with
  | quoted hopen hname hcolon =>
    refine (takes_peekToken (hlead.trans (dropWhile_of_blanks hopen))).continues ?_
    refine (takes_pass '"' _).continues ((takes_passString hname).continues ?_)
    exact (takes_token hcolon rfl).continues ((takes_pass ':' rest).continues (continues_self _ rest))

theorem takes_passValue_digit {c : Char} {lead : List Char} (hlead : lead.dropWhile isBlank = c :: cs)
    (hc : '0' ≤ c ∧ c ≤ '9') (h : Takes passNumber (c :: cs) () rest) (fuel : Nat) :
    Takes (passValue (fuel + 1)) lead () rest := by
  refine (takes_peekToken hlead).bind ?_
  split
  case h_9 heq =>
    cases heq
    rw [if_pos ((isDigit_iff c).2 hc)]
    exact h
  all_goals
    rename_i heq
    cases heq <;> exact absurd hc (by decide)

theorem passes_of_spells {p : Part} (h : Spells p cs rest) : Passes p cs rest := by
  induction h with
  | null rest =>
    intro _ lead fuel hlead _
    exact (takes_peekToken hlead).bind ((takes_pass 'n' _).bind (takes_literal ['u', 'l', 'l'] rest))
  | true rest =>
    intro _ lead fuel hlead _
    exact (takes_peekToken hlead).bind ((takes_pass 't' _).bind (takes_literal ['r', 'u', 'e'] rest))
  | false rest =>
    intro _ lead fuel hlead _
    exact (takes_peekToken hlead).bind
      ((takes_pass 'f' _).bind (takes_literal ['a', 'l', 's', 'e'] rest))
  | positive h =>
    intro hrest lead fuel hlead _
    obtain ⟨c, cs', rfl, hc⟩ := h.exists_cons
    exact takes_passValue_digit hlead hc (takes_passNumber h hrest) fuel
  | negative h =>
    intro hrest lead fuel hlead _
    exact (takes_peekToken hlead).bind ((takes_pass '-' _).bind (takes_passNumber h hrest))
  | string h =>
    intro _ lead fuel hlead _
    exact (takes_peekToken hlead).bind ((takes_pass '"' _).bind (takes_passString h))
  | @emptyArray cs rest h =>
    intro _ lead fuel hlead _
    refine (takes_peekToken hlead).bind ((takes_pass '[' _).bind ?_)
    exact (takes_token h rfl).bind (takes_pass ']' rest)
  | @array cs rest ds h ih =>
    intro _ lead fuel hlead hfuel
    obtain ⟨fuel, rfl⟩ : ∃ n, fuel = n + 1 := ⟨fuel - 1, by simp at hfuel; omega⟩
    obtain ⟨d, cs', hd⟩ := exists_element_of_elements h
    obtain ⟨c, cs'', hc, htoken, hdrop⟩ := takes_token_of_element hd rfl
    refine (takes_peekToken hlead).bind ((takes_pass '[' _).bind (htoken.bind ?_))
    have hlater := ih rest rfl _ fuel hdrop (by simp only [List.length_cons] at hfuel; omega)
    split
    · contradiction
    · rename_i heq
      exact absurd (Option.some.inj heq) hc.ne_close
    · exact hlater
  | @emptyObject cs rest h =>
    intro _ lead fuel hlead _
    refine (takes_peekToken hlead).bind ((takes_pass '{' _).bind ?_)
    exact (takes_token h rfl).bind (takes_pass '}' rest)
  | @object cs rest ms h ih =>
    intro _ lead fuel hlead hfuel
    obtain ⟨fuel, rfl⟩ : ∃ n, fuel = n + 1 := ⟨fuel - 1, by simp at hfuel; omega⟩
    obtain ⟨name, cs', hname⟩ := exists_name_of_members h
    obtain ⟨cs'', hdrop⟩ := dropWhile_of_name hname
    refine (takes_peekToken hlead).bind ((takes_pass '{' _).bind ((takes_peekToken hdrop).bind ?_))
    exact ih rest rfl _ fuel (by rw [hdrop]; rfl) (by simp only [List.length_cons] at hfuel; omega)
  | @element cs cs₁ cs₂ rest d hbefore hvalue hafter ih =>
    intro hrest lead fuel hlead hfuel
    have hdrop := (dropWhile_of_blanks hbefore).trans (dropWhile_of_spells hvalue)
    have hlength := hbefore.length_le
    exact ⟨cs₂, ih (endsNumber_of_blanks hafter hrest) lead fuel (hlead.trans hdrop) (by omega),
      hafter⟩
  | lastElement h ih =>
    rintro behind rfl lead fuel hlead hfuel
    obtain ⟨fuel, rfl⟩ : ∃ n, fuel = n + 1 := ⟨fuel - 1, by omega⟩
    obtain ⟨cs', hvalue, hblanks⟩ := ih (endsNumber_cons (by decide) _) lead fuel hlead (by omega)
    exact hvalue.bind ((takes_token hblanks rfl).bind (takes_pass ']' behind))
  | @nextElement cs cs' rest d ds h hlater ih ihlater =>
    rintro behind rfl lead fuel hlead hfuel
    obtain ⟨fuel, rfl⟩ : ∃ n, fuel = n + 1 := ⟨fuel - 1, by omega⟩
    obtain ⟨cs₁, hvalue, hblanks⟩ := ih (endsNumber_cons (by decide) _) lead fuel hlead (by omega)
    have hlength := h.length_le
    simp only [List.length_cons] at hlength
    refine hvalue.bind ((takes_token hblanks rfl).bind ((takes_pass ',' cs').bind ?_))
    exact ihlater behind rfl cs' fuel rfl (by omega)
  | lastMember hname h ih =>
    rintro behind rfl lead fuel hlead hfuel
    obtain ⟨fuel, rfl⟩ : ∃ n, fuel = n + 1 := ⟨fuel - 1, by omega⟩
    have hlength := hname.length_lt
    obtain ⟨cs', hvalue, hblanks⟩ := ih (endsNumber_cons (by decide) _) _ fuel rfl (by omega)
    refine (passMembers_name hname hlead _).takes (hvalue.bind ?_)
    exact (takes_token hblanks rfl).bind (takes_pass '}' behind)
  | @nextMember cs cs₁ cs' rest name d ms hname h hlater ih ihlater =>
    rintro behind rfl lead fuel hlead hfuel
    obtain ⟨fuel, rfl⟩ : ∃ n, fuel = n + 1 := ⟨fuel - 1, by omega⟩
    have hlength := hname.length_lt
    have hlength' := h.length_le
    simp only [List.length_cons] at hlength'
    obtain ⟨cs₂, hvalue, hblanks⟩ := ih (endsNumber_cons (by decide) _) _ fuel rfl (by omega)
    refine (passMembers_name hname hlead _).takes (hvalue.bind ?_)
    refine (takes_token hblanks rfl).bind ((takes_pass ',' cs').bind ?_)
    exact ihlater behind rfl cs' fuel rfl (by omega)

/-- A value that nobody asked for is passed over, whatever it is. -/
theorem takes_passOver {d : Datum} (h : Spells (.element d) cs rest) (hrest : EndsNumber rest) :
    ∃ cs', Takes passOver cs () cs' ∧ Blanks cs' rest := by
  obtain ⟨cs', hvalue, hblanks⟩ := passes_of_spells h hrest cs (2 * cs.length + 1) rfl (by omega)
  exact ⟨cs', (takes_remaining cs).bind hvalue, hblanks⟩

end SourceSurvey.Json.Reader
