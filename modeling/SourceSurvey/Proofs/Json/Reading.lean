import Mathlib
import SourceSurvey.Json.Typed

/-!
# Taking values off a text

What a reader does with a text, its places left out: it takes a value and leaves the rest, or it refuses
the text. The steps of a reader are put together by a few laws, so that what a reader takes can be read
off the readers that it is made of.
-/

namespace SourceSurvey.Json.Reader

variable {α β : Type}

/-- The reader takes a value off a text and leaves the rest. -/
def Takes (r : Reader α) (cs : List Char) (a : α) (rest : List Char) : Prop :=
  ∀ here, ∃ there, r ⟨cs, here⟩ = .ok (a, ⟨rest, there⟩)

/-- The reader takes nothing off a text. -/
def Refuses (r : Reader α) (cs : List Char) : Prop :=
  ∀ here, ∃ e, r ⟨cs, here⟩ = .error e

/-- The reader does on a text what another one does on what is left of it. -/
def Continues (r : Reader α) (cs : List Char) (r' : Reader α) (rest : List Char) : Prop :=
  ∀ here, ∃ there, r ⟨cs, here⟩ = r' ⟨rest, there⟩

section

variable {r : Reader α} {f : α → Reader β} {cs cs' rest : List Char} {a : α} {b : β}

theorem bind_apply (c : Cursor) : (r >>= f) c = (r c).bind fun p ↦ f p.1 p.2 := rfl

theorem map_apply (g : α → β) (c : Cursor) :
    (g <$> r) c = (r c).map fun p ↦ (g p.1, p.2) := by
  cases hr : r c <;> simp only [Functor.map, StateT.map, hr] <;> rfl

theorem continues_self (r : Reader α) (cs : List Char) : Continues r cs r cs :=
  fun here ↦ ⟨here, rfl⟩

theorem Continues.takes {r' : Reader α} (h : Continues r cs r' cs') (h' : Takes r' cs' a rest) :
    Takes r cs a rest := by
  intro here
  obtain ⟨there, hr⟩ := h here
  rw [hr]
  exact h' there

theorem Continues.refuses {r' : Reader α} (h : Continues r cs r' cs') (h' : Refuses r' cs') :
    Refuses r cs := by
  intro here
  obtain ⟨there, hr⟩ := h here
  rw [hr]
  exact h' there

theorem Takes.continues {r' : Reader β} (h : Takes r cs a cs') (h' : Continues (f a) cs' r' rest) :
    Continues (r >>= f) cs r' rest := by
  intro here
  obtain ⟨there, hr⟩ := h here
  rw [bind_apply, hr]
  exact h' there

theorem Takes.bind (h : Takes r cs a cs') (h' : Takes (f a) cs' b rest) :
    Takes (r >>= f) cs b rest :=
  (h.continues (continues_self (f a) cs')).takes h'

theorem Takes.bind_refuses (h : Takes r cs a cs') (h' : Refuses (f a) cs') :
    Refuses (r >>= f) cs :=
  (h.continues (continues_self (f a) cs')).refuses h'

theorem Refuses.bind (h : Refuses r cs) : Refuses (r >>= f) cs := by
  intro here
  obtain ⟨e, hr⟩ := h here
  rw [bind_apply, hr]
  exact ⟨e, rfl⟩

theorem Takes.map (h : Takes r cs a rest) (g : α → β) : Takes (g <$> r) cs (g a) rest := by
  intro here
  obtain ⟨there, hr⟩ := h here
  rw [map_apply, hr]
  exact ⟨there, rfl⟩

theorem Refuses.map (h : Refuses r cs) (g : α → β) : Refuses (g <$> r) cs := by
  intro here
  obtain ⟨e, hr⟩ := h here
  rw [map_apply, hr]
  exact ⟨e, rfl⟩

theorem takes_pure (a : α) (cs : List Char) : Takes (pure a) cs a cs := fun here ↦ ⟨here, rfl⟩

theorem refuses_failHere (fault : Fault) (cs : List Char) : Refuses (α := α) (failHere fault) cs :=
  fun _ ↦ ⟨_, rfl⟩

/-! ## Characters -/

theorem takes_peek (c : Char) (cs : List Char) : Takes peek (c :: cs) (some c) (c :: cs) :=
  fun here ↦ ⟨here, rfl⟩

theorem takes_ahead (cs : List Char) : Takes peek cs cs.head? cs := fun here ↦ ⟨here, rfl⟩

theorem takes_pass (c : Char) (cs : List Char) : Takes pass (c :: cs) () cs := fun _ ↦ ⟨_, rfl⟩

theorem takes_remaining (cs : List Char) : Takes remaining cs cs.length cs := fun here ↦ ⟨here, rfl⟩

theorem takes_passBlanks (cs : List Char) : Takes passBlanks cs () (cs.dropWhile isBlank) :=
  fun _ ↦ ⟨_, rfl⟩

/-- Blanks are passed before a token is looked at. -/
theorem takes_peekToken {c : Char} (h : cs.dropWhile isBlank = c :: rest) :
    Takes peekToken cs (some c) (c :: rest) :=
  (h ▸ takes_passBlanks cs).bind (takes_peek c rest)

theorem takes_peekToken_nil : Takes peekToken [] none [] :=
  (takes_passBlanks []).bind (takes_ahead [])

theorem takes_valueStart {c : Char} (h : cs.dropWhile isBlank = c :: rest) :
    Takes valueStart cs c (c :: rest) :=
  (takes_peekToken h).bind (takes_pure c _)

theorem takes_literal (word rest : List Char) : Takes (literal word) (word ++ rest) () rest := by
  induction word with
  | nil => exact takes_pure () rest
  | cons c word ih =>
    refine (takes_peek c (word ++ rest)).bind ?_
    simp only [if_pos]
    exact (takes_pass c _).bind ih

/-! ## Whole texts -/

theorem ofText_of_takes {text : String} (h : Takes r text.toList a []) : r.ofText text = .ok a := by
  obtain ⟨there, hwhole⟩ : ∃ there, whole r (Cursor.ofString text) = .ok (a, ⟨[], there⟩) :=
    h.bind (takes_peekToken_nil.bind (takes_pure a [])) Position.start
  rw [ofText, hwhole]
  rfl

theorem ofText_of_refuses {text : String} (h : Refuses r text.toList) :
    ∃ e, r.ofText text = .error e := by
  obtain ⟨e, hwhole⟩ : ∃ e, whole r (Cursor.ofString text) = .error e := h.bind Position.start
  exact ⟨e, by rw [ofText, hwhole]; rfl⟩

end

end SourceSurvey.Json.Reader
