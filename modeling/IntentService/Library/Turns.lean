import Mathlib.Data.List.Count

/-! # Turns with one resource

A holder opens a resource, keeps its token, and closes it under that token
before it opens the next one. `Turns` follows the token that is held along the
list of events of the holder; what is open and how often a token is closed can
be read off it.
-/

/-- The events lead from one held token to another. -/
inductive Turns {ε τ : Type*} (opens closes : ε → Option τ) : Option τ → List ε → Option τ → Prop where
  | nil (held : Option τ) : Turns opens closes held [] held
  | quiet {held after : Option τ} {e : ε} {rest : List ε} (unopened : opens e = none)
      (unclosed : closes e = none) (later : Turns opens closes held rest after) :
      Turns opens closes held (e :: rest) after
  | opened {token : τ} {after : Option τ} {e : ε} {rest : List ε} (start : opens e = some token)
      (unclosed : closes e = none) (later : Turns opens closes (some token) rest after) :
      Turns opens closes none (e :: rest) after
  | closed {token : τ} {after : Option τ} {e : ε} {rest : List ε} (unopened : opens e = none)
      (stop : closes e = some token) (later : Turns opens closes none rest after) :
      Turns opens closes (some token) (e :: rest) after

namespace Turns

variable {ε τ : Type*} {opens closes : ε → Option τ} {held after : Option τ} {events more : List ε} {e : ε}
  {token : τ}

theorem append {between : Option τ} (first : Turns opens closes held events between)
    (second : Turns opens closes between more after) : Turns opens closes held (events ++ more) after := by
  induction first with
  | nil => exact second
  | quiet unopened unclosed _ ih => exact .quiet unopened unclosed (ih second)
  | opened start unclosed _ ih => exact .opened start unclosed (ih second)
  | closed unopened stop _ ih => exact .closed unopened stop (ih second)

theorem split (turns : Turns opens closes held (events ++ more) after) :
    ∃ between, Turns opens closes held events between ∧ Turns opens closes between more after := by
  induction events generalizing held with
  | nil => exact ⟨held, .nil held, turns⟩
  | cons e rest ih =>
      cases turns with
      | quiet unopened unclosed later =>
          obtain ⟨between, first, second⟩ := ih later
          exact ⟨between, .quiet unopened unclosed first, second⟩
      | opened start unclosed later =>
          obtain ⟨between, first, second⟩ := ih later
          exact ⟨between, .opened start unclosed first, second⟩
      | closed unopened stop later =>
          obtain ⟨between, first, second⟩ := ih later
          exact ⟨between, .closed unopened stop first, second⟩

theorem of_opens (turns : Turns opens closes held (e :: events) after) (start : opens e = some token) :
    held = none ∧ Turns opens closes (some token) events after := by
  cases turns with
  | quiet unopened => cases unopened.symm.trans start
  | closed unopened => cases unopened.symm.trans start
  | opened other unclosed later =>
      cases other.symm.trans start
      exact ⟨rfl, later⟩

section Counting

variable [DecidableEq τ]

/-- How often the token is closed. -/
def closings (closes : ε → Option τ) (token : τ) (events : List ε) : Nat :=
  events.countP (fun e => closes e = some token)

theorem closings_eq_zero (turns : Turns opens closes none events after)
    (unopened : ∀ e ∈ events, opens e = none) : after = none ∧ closings closes token events = 0 := by
  induction events with
  | nil =>
      cases turns
      exact ⟨rfl, rfl⟩
  | cons e rest ih =>
      cases turns with
      | opened start => cases (unopened e List.mem_cons_self).symm.trans start
      | quiet _ unclosed later =>
          obtain ⟨empty, never⟩ := ih later (fun x member => unopened x (List.mem_cons_of_mem _ member))
          refine ⟨empty, ?_⟩
          rw [closings, List.countP_cons_of_neg (by simp [unclosed])]
          exact never

theorem closings_of_held (turns : Turns opens closes (some token) events after)
    (unopened : ∀ e ∈ events, opens e = none) :
    (after = none ∧ closings closes token events = 1) ∨
      (after = some token ∧ closings closes token events = 0) := by
  induction events with
  | nil =>
      cases turns
      exact .inr ⟨rfl, rfl⟩
  | cons e rest ih =>
      have later : ∀ x ∈ rest, opens x = none := fun x member => unopened x (List.mem_cons_of_mem _ member)
      cases turns with
      | quiet _ unclosed turns =>
          rw [closings, List.countP_cons_of_neg (by simp [unclosed])]
          exact ih turns later
      | closed _ stop turns =>
          obtain ⟨empty, never⟩ := closings_eq_zero turns later
          refine .inl ⟨empty, ?_⟩
          rw [closings, List.countP_cons_of_pos (by simp [stop])]
          exact congrArg (· + 1) never

/-- Between two openings with none in between, the first resource is closed exactly once. -/
theorem closings_between {first second : ε} {before mid rest : List ε}
    (turns : Turns opens closes held (before ++ first :: (mid ++ second :: rest)) after)
    (start : opens first = some token) (next : (opens second).isSome = true)
    (unopened : ∀ e ∈ mid, opens e = none) : closings closes token mid = 1 := by
  obtain ⟨_, _, turns⟩ := turns.split
  obtain ⟨_, turns⟩ := turns.of_opens start
  obtain ⟨between, middle, turns⟩ := turns.split
  obtain ⟨other, reopened⟩ := Option.isSome_iff_exists.mp next
  rcases middle.closings_of_held unopened with ⟨_, once⟩ | ⟨kept, _⟩
  · exact once
  · cases kept.symm.trans (turns.of_opens reopened).1

/-- The last resource that is opened is closed exactly once or is still held. -/
theorem closings_last {first : ε} {before rest : List ε}
    (turns : Turns opens closes held (before ++ first :: rest) after) (start : opens first = some token)
    (unopened : ∀ e ∈ rest, opens e = none) :
    (after = none ∧ closings closes token rest = 1) ∨
      (after = some token ∧ closings closes token rest = 0) := by
  obtain ⟨_, _, turns⟩ := turns.split
  exact (turns.of_opens start).2.closings_of_held unopened

end Counting

end Turns
