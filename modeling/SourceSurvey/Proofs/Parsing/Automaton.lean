import Mathlib
import SourceSurvey.Parsing.Automaton

/-!
# What an automaton answers for

Facts about the actions and the next states of a sound automaton: a rule is reduced only in a state that
has that many symbols behind it, a state is one symbol further than the one before it at most, and a
whole text ends only behind states where nothing but a whole text can be. It ends at the end of the text,
and no token leads to where it may end.
-/

namespace SourceSurvey.Parsing

namespace Rules

variable (r : Rules)

theorem mem_enter {c : Contest} {i : Item} {x : Reduction} (h : x ∈ (r.enter c i).reductions) :
    x ∈ c.reductions ∨ x = i.reduction := by
  unfold enter at h
  split at h
  · simpa using h
  · split at h
    · exact Or.inr (by simpa [Contest.none] using h)
    · simpa using h
    · exact Or.inl h

theorem mem_foldl_enter {complete : List Item} {c : Contest} {x : Reduction}
    (h : x ∈ (complete.foldl r.enter c).reductions) :
    x ∈ c.reductions ∨ ∃ i ∈ complete, x = i.reduction := by
  induction complete generalizing c with
  | nil => exact Or.inl h
  | cons i rest ih =>
    rcases ih h with h | ⟨j, hj, rfl⟩
    · rcases r.mem_enter h with h | rfl
      · exact Or.inl h
      · exact Or.inr ⟨i, List.mem_cons_self, rfl⟩
    · exact Or.inr ⟨j, List.mem_cons_of_mem i hj, rfl⟩

/-- What can be done with a token comes from a complete item, or goes on to the state that the token
leads to. -/
theorem mem_settle {core : Core} {complete : List Item} {token : Nat} {target : Option Nat}
    {action : Action} (h : action ∈ r.settle core complete token target) :
    (∃ i ∈ complete, action = r.actionOf i.reduction) ∨
      ∃ t isRepetition, target = some t ∧ action = .shift t isRepetition := by
  have hreduction {x : Reduction} (hx : x ∈ (complete.foldl r.enter .none).reductions) :
      ∃ i ∈ complete, r.actionOf x = r.actionOf i.reduction := by
    rcases r.mem_foldl_enter hx with hx | ⟨i, hi, rfl⟩
    · cases hx
    · exact ⟨i, hi, rfl⟩
  unfold settle at h
  cases target with
  | none =>
    obtain ⟨x, hx, rfl⟩ := List.mem_map.1 h
    exact Or.inl (hreduction hx)
  | some t =>
    have hmixed : (∃ x ∈ (complete.foldl r.enter .none).reductions, r.actionOf x = action) ∨
        ∃ isRepetition, action = .shift t isRepetition := by
      simp only [settleShift] at h
      grind
    rcases hmixed with ⟨x, hx, rfl⟩ | ⟨isRepetition, rfl⟩
    · exact Or.inl (hreduction hx)
    · exact Or.inr ⟨t, isRepetition, rfl, rfl⟩

theorem mem_completeBefore {core : Core} {followers : Array TokenSet} {token : Nat} {i : Item}
    (h : i ∈ r.completeBefore core followers token) :
    ∃ complete tokens, (complete, tokens) ∈ core.complete.zip followers ∧ tokens.testBit token ∧
      i = r.item complete.1 := by
  unfold completeBefore at h
  obtain ⟨⟨complete, tokens⟩, hmem, hsome⟩ := List.mem_filterMap.1 h
  refine ⟨complete, tokens, Array.mem_toList_iff.1 hmem, ?_⟩
  grind

end Rules

namespace Automaton

/-- What is looked at once an automaton is made. -/
theorem isSound_iff {a : Automaton} : a.isSound ↔
    a.symbols.tokenCount < Symbols.errorPiece ∧ (a.state errorState).core = 0 ∧
      ((a.rules.core 0).items = #[] ∧ (a.rules.core 0).complete = #[] ∧
        (a.rules.core 0).wayOf.isEmpty) ∧
      (∀ n < a.states.size, a.isSoundAt n ∧ a.endsTextAt n) ∧
      ∀ entry ∈ a.interposed, a.depth entry.2 ≤ 1 ∧ a.isClean entry.2 = false := by
  simp [isSound, symbols, and_assoc]

theorem isSoundAt_iff {a : Automaton} {n : Nat} : a.isSoundAt n ↔
    (∀ complete ∈ (a.coreOf n).complete,
      (a.rules.item complete.1).reduction.count ≤ a.depth n ∧
        (a.rules.item complete.1).reduction.symbol < Symbols.errorPiece) ∧
      ∀ target ∈ (a.state n).targets, a.mayFollow n target := by
  simp only [isSoundAt, Bool.and_eq_true, Array.all_eq_true_iff_forall_mem, decide_eq_true_eq]

theorem endsTextAt_iff {a : Automaton} {n : Nat} : a.endsTextAt n ↔
    (∀ complete tokens, (complete, tokens) ∈ (a.coreOf n).complete.zip (a.state n).followers →
      a.rules.isWhole (a.rules.item complete.1).reduction →
      tokens ≤ TokenSet.single Symbols.endOfText) ∧
    ∀ symbol w, (a.coreOf n).wayOf[symbol]? = some w → symbol ≤ a.symbols.tokenCount →
      a.isClean ((a.state n).targets.getD w 0) = false := by
  rw [endsTextAt, Bool.and_eq_true, Array.all_eq_true_iff_forall_mem,
    Std.HashMap.all_eq_true_iff_forall_mem_getElem]
  simp only [Bool.or_eq_true, Bool.not_eq_true', decide_eq_true_eq, ← Bool.not_eq_true,
    ← imp_iff_not_or, Prod.forall]
  refine and_congr_right fun _ ↦ ⟨fun h symbol w hw hle ↦ ?_, fun h symbol hmem ↦ ?_⟩
  · obtain ⟨hmem, rfl⟩ := Std.HashMap.getElem?_eq_some_iff.1 hw
    exact (h symbol hmem).resolve_left (Nat.not_lt.2 hle)
  · refine or_iff_not_imp_left.2 fun hle ↦ h symbol _ ?_ (Nat.not_lt.1 hle)
    exact Std.HashMap.getElem?_eq_some_getElem hmem

theorem isSound_idle : idle.isSound := by
  rfl

theorem isSound_guarded (a : Automaton) : a.guarded.isSound := by
  rw [guarded]
  split
  · assumption
  · exact isSound_idle

/-- What an automaton answers for when it lets an action be taken in a state at a token. -/
def Backs (a : Automaton) (n token : Nat) : Action → Prop
  | .shift target _ => a.mayFollow n target ∧ a.isClean target = false
  | .reduce r => r.count ≤ a.depth n ∧ r.symbol < Symbols.errorPiece
  | .accept => a.isClean n ∧ token = Symbols.endOfText
  | .shiftExtra | .recover => True

theorem mayFollow_iff {a : Automaton} {n target : Nat} : a.mayFollow n target ↔
    a.depth target ≤ a.depth n + 1 ∧ (a.isClean target → a.isClean n) := by
  rw [mayFollow, Bool.and_eq_true, decide_eq_true_eq, Bool.or_eq_true, Bool.not_eq_true',
    ← Bool.not_eq_true, ← imp_iff_not_or]

theorem mayFollow_self (a : Automaton) (n : Nat) : a.mayFollow n n :=
  mayFollow_iff.2 ⟨Nat.le_succ _, id⟩

/-- A state past the last one has the core of the error state. -/
theorem coreOf_of_size_le {a : Automaton} {n : Nat} (hn : a.states.size ≤ n) :
    a.coreOf n = a.rules.core 0 ∧ (a.state n).targets = #[] := by
  have hstate : a.state n = default := by
    rw [state, Array.getD_eq_getD_getElem?, Array.getElem?_eq_none hn]
    rfl
  rw [coreOf, hstate]
  exact ⟨rfl, rfl⟩

/-- Where the actions for a token come from. -/
theorem mem_actions {a : Automaton} {n token : Nat} {action : Action}
    (h : action ∈ a.actions n token) :
    (action ∈ a.rules.settle (a.coreOf n)
        (a.rules.completeBefore (a.coreOf n) (a.state n).followers token) token
        ((a.coreOf n).wayOf[token]?.map fun w ↦ (a.state n).targets.getD w 0)) ∨
      (∃ first, a.interposed.lookup token = some first ∧ action = .shift first false) ∨
      action = .shiftExtra ∨ action = .recover := by
  simp only [actions] at h
  grind

section

variable {a : Automaton} (h : a.isSound) {n : Nat}

include h

theorem coreOf_errorState : a.coreOf errorState = a.rules.core 0 := by
  rw [coreOf, (isSound_iff.1 h).2.1]

theorem depth_errorState : a.depth errorState = 0 := by
  rw [depth, coreOf_errorState h, (isSound_iff.1 h).2.2.1.1]
  rfl

theorem isClean_errorState : a.isClean errorState = false := by
  have hstart : errorState ≠ startState := by decide
  rw [isClean, coreOf_errorState h, (isSound_iff.1 h).2.2.1.2.1]
  simp [hstart]

theorem mayFollow_errorState : a.mayFollow n errorState := by
  rw [mayFollow_iff, depth_errorState h, isClean_errorState h]
  simp

theorem isSoundAt_of_isSound (n : Nat) : a.isSoundAt n := by
  by_cases hn : n < a.states.size
  · exact ((isSound_iff.1 h).2.2.2.1 n hn).1
  · obtain ⟨hcore, htargets⟩ := coreOf_of_size_le (Nat.le_of_not_lt hn)
    simp [isSoundAt_iff, hcore, (isSound_iff.1 h).2.2.1.2.1, htargets]

theorem endsTextAt_of_isSound (n : Nat) : a.endsTextAt n := by
  by_cases hn : n < a.states.size
  · exact ((isSound_iff.1 h).2.2.2.1 n hn).2
  · obtain ⟨hcore, -⟩ := coreOf_of_size_le (Nat.le_of_not_lt hn)
    obtain ⟨-, hcomplete, hways⟩ := (isSound_iff.1 h).2.2.1
    refine endsTextAt_iff.2 ⟨fun complete tokens hmem ↦ ?_, fun symbol w hw ↦ ?_⟩
    · have hnone := (Array.of_mem_zip hmem).1
      rw [hcore, hcomplete] at hnone
      exact absurd hnone (Array.not_mem_empty complete)
    · rw [hcore, Std.HashMap.getElem?_of_isEmpty hways] at hw
      cases hw

theorem mayFollow_target (n w : Nat) : a.mayFollow n ((a.state n).targets.getD w 0) := by
  have hsound := isSoundAt_iff.1 (isSoundAt_of_isSound h n)
  rw [Array.getD_eq_getD_getElem?]
  cases htarget : (a.state n).targets[w]? with
  | none => exact mayFollow_errorState h
  | some t => exact hsound.2 t (Array.mem_of_getElem? htarget)

/-- A reduction takes no more than there is, and makes no error; a whole text ends at its end. -/
theorem backs_actionOf {complete : Nat × Nat} {tokens : TokenSet} {token : Nat}
    (hcomplete : (complete, tokens) ∈ (a.coreOf n).complete.zip (a.state n).followers)
    (htoken : tokens.testBit token) :
    a.Backs n token (a.rules.actionOf (a.rules.item complete.1).reduction) := by
  have hmem : complete ∈ (a.coreOf n).complete := (Array.of_mem_zip hcomplete).1
  unfold Rules.actionOf
  by_cases hwhole : a.rules.isWhole (a.rules.item complete.1).reduction
  · rw [if_pos hwhole]
    have hany : ((a.coreOf n).complete.any fun x ↦
        a.rules.isWhole (a.rules.item x.1).reduction) = true :=
      Array.any_eq_true'.2 ⟨complete, hmem, hwhole⟩
    refine ⟨by simp only [isClean, hany, Bool.or_true], ?_⟩
    have hle : tokens ≤ 1 :=
      (endsTextAt_iff.1 (endsTextAt_of_isSound h n)).1 complete tokens hcomplete hwhole
    by_contra hne
    have hlt : tokens < 2 ^ token := hle.trans_lt (Nat.one_lt_two_pow hne)
    rw [Nat.testBit_lt_two_pow hlt] at htoken
    cases htoken
  · rw [if_neg hwhole]
    exact (isSoundAt_iff.1 (isSoundAt_of_isSound h n)).1 complete hmem

theorem backs_of_mem_actions {token : Nat} (htoken : token ≤ a.symbols.tokenCount)
    {action : Action} (haction : action ∈ a.actions n token) : a.Backs n token action := by
  rcases mem_actions haction with hsettled | ⟨first, hfirst, rfl⟩ | rfl | rfl
  · rcases a.rules.mem_settle hsettled with ⟨i, hi, rfl⟩ | ⟨t, isRepetition, htarget, rfl⟩
    · obtain ⟨complete, tokens, hcomplete, hfollows, rfl⟩ := a.rules.mem_completeBefore hi
      exact backs_actionOf h hcomplete hfollows
    · obtain ⟨w, hw, rfl⟩ := Option.map_eq_some_iff.1 htarget
      exact ⟨mayFollow_target h n w,
        (endsTextAt_iff.1 (endsTextAt_of_isSound h n)).2 token w hw htoken⟩
  · obtain ⟨l₁, l₂, hinterposed, -⟩ := List.lookup_eq_some_iff.1 hfirst
    have hmem : (token, first) ∈ a.interposed := by simp [hinterposed]
    obtain ⟨hdepth, hclean⟩ := (isSound_iff.1 h).2.2.2.2 _ hmem
    refine ⟨mayFollow_iff.2 ⟨Nat.le_add_left_of_le hdepth, fun hfirst ↦ ?_⟩, hclean⟩
    exact absurd hfirst (by simp [hclean])
  · trivial
  · trivial

/-- The state behind a symbol. -/
theorem mayFollow_next (symbol : Nat) : a.mayFollow n (a.next n symbol) := by
  unfold next
  split
  · split
    · rename_i htoken _ _ _ hlast
      have hle : symbol ≤ a.symbols.tokenCount := (of_decide_eq_true htoken).le
      exact (backs_of_mem_actions h hle (List.mem_of_getLast? hlast)).1
    · exact mayFollow_self a n
    · exact mayFollow_errorState h
  split
  · exact mayFollow_self a n
  split
  · exact mayFollow_target h n _
  · exact mayFollow_errorState h

end

end Automaton

end SourceSurvey.Parsing
