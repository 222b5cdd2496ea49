import Mathlib.Logic.Basic

/-! # Handles and the slots that keep them

A program opens resources through calls, keeps the handle it is given in a slot,
and closes the resource when it gives the slot up. With any provider no resource
outlives its slot; with one that hands out fresh handles the open resources are
exactly the ones in the slots, and nothing is closed twice.
-/

namespace Handles

variable {ι γ τ : Type*}

/-- How a step changes one slot: it stays, or is given up after its handle was
    closed, and may be filled again. -/
inductive Change (opened closed : τ → Prop) : Option τ → Option τ → Prop where
  | same (kept : Option τ) : Change opened closed kept kept
  | emptied {old : Option τ} (released : ∀ x, old = some x → closed x) : Change opened closed old none
  | filled {old : Option τ} {x : τ} (released : ∀ x, old = some x → closed x) (new : opened x) :
      Change opened closed old (some x)

theorem Change.origin {opened closed : τ → Prop} {old : Option τ} {x : τ}
    (change : Change opened closed old (some x)) : old = some x ∨ opened x := by
  cases change with
  | same => exact .inl rfl
  | filled _ new => exact .inr new

/-- One step: which slots were answered with which handle, and what was closed. -/
structure Step (before after : ι → Option τ) (opened : ι → τ → Prop) (closed : τ → Prop) : Prop where
  change : ∀ i, Change (opened i) closed (before i) (after i)
  /-- What is opened is kept. -/
  kept : ∀ i x, opened i x → after i = some x
  /-- What is closed was in a slot that gave it up, and may have been given it again. -/
  released : ∀ x, closed x → ∃ i, before i = some x ∧ (after i = some x → opened i x)

/-- A provider that gives every handle once. -/
structure Fresh (before : ι → Option τ) (opened : ι → τ → Prop) : Prop where
  new : ∀ i x, opened i x → ∀ j, before j ≠ some x
  single : ∀ i j x, opened i x → opened j x → i = j

/-- What is open for a call is in a slot for it. -/
def Covered (call : ι → γ) (live : γ → τ → Prop) (held : ι → Option τ) : Prop :=
  ∀ c x, live c x → ∃ i, call i = c ∧ held i = some x

/-- What is in a slot is open for its call, and is in no other slot. -/
structure Open (call : ι → γ) (live : γ → τ → Prop) (held : ι → Option τ) : Prop where
  live : ∀ i x, held i = some x → live (call i) x
  single : ∀ i j x, held i = some x → held j = some x → i = j

variable {call : ι → γ} {live live' : γ → τ → Prop} {before after : ι → Option τ} {opened : ι → τ → Prop}
  {closed : τ → Prop}

/-- No resource outlives its slot, whatever handles the provider gives. -/
theorem Covered.step (covered : Covered call live before)
    (change : ∀ i, Change (opened i) closed (before i) (after i))
    (kept : ∀ i x, opened i x → after i = some x)
    (open' : ∀ c x, live' c x → (live c x ∧ ¬ closed x) ∨ ∃ i, call i = c ∧ opened i x) :
    Covered call live' after := by
  intro c x now
  rcases open' c x now with ⟨was, left⟩ | ⟨i, own, new⟩
  · obtain ⟨i, own, held⟩ := covered c x was
    refine ⟨i, own, ?_⟩
    have moved := change i
    generalize after i = slot at moved
    rw [held] at moved
    cases moved with
    | same => rfl
    | emptied released | filled released => exact absurd (released x rfl) left
  · exact ⟨i, own, kept i x new⟩

/-- With fresh handles every slot keeps an open resource of its own. -/
theorem Open.step (opens : Open call live before) (step : Step before after opened closed)
    (fresh : Fresh before opened) (stays : ∀ c x, live c x → ¬ closed x → live' c x)
    (arises : ∀ i x, opened i x → ¬ closed x → live' (call i) x) : Open call live' after := by
  have origin : ∀ i x, after i = some x → before i = some x ∨ opened i x :=
    fun i x held => (held ▸ step.change i).origin
  constructor
  · intro i x held
    rcases origin i x held with was | new
    · refine stays _ _ (opens.live i x was) ?_
      intro ended
      obtain ⟨j, other, again⟩ := step.released x ended
      cases opens.single i j x was other
      exact fresh.new i x (again held) i was
    · refine arises i x new ?_
      intro ended
      obtain ⟨j, other, _⟩ := step.released x ended
      exact fresh.new i x new j other
  · intro i j x held other
    rcases origin i x held with was | new <;> rcases origin j x other with was' | new'
    · exact opens.single i j x was was'
    · exact absurd was (fresh.new j x new' i)
    · exact absurd was' (fresh.new i x new j)
    · exact fresh.single i j x new new'

end Handles
