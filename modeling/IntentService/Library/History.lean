import Mathlib.Data.List.Induction
import Mathlib.Tactic.Tauto

/-! # Histories of a deterministic system

A run is a list of events, oldest first, and a property of a run may look at
the events before the current one. `Historically` and `Once` are the two
past-time operators this needs; both unfold at the last event, which is how
every invariant over runs is proved.
-/

namespace History

variable {σ ε : Type*}

/-- The state a history leads to. -/
def state (step : σ → ε → σ) (init : σ) (history : List ε) : σ := history.foldl step init

@[simp] theorem state_snoc (step : σ → ε → σ) (init : σ) (history : List ε) (e : ε) :
    state step init (history ++ [e]) = step (state step init history) e := by
  simp [state]

/-- Every event meets `P`, judged against the events before it. -/
def Historically (P : List ε → ε → Prop) (history : List ε) : Prop :=
  ∀ pre e post, history = pre ++ e :: post → P pre e

/-- Some event met `R`, judged against the events before it. -/
def Once (R : List ε → ε → Prop) (history : List ε) : Prop :=
  ∃ pre e post, history = pre ++ e :: post ∧ R pre e

/-- Some event met `R`, and none after it met `E`. -/
def Since (R E : List ε → ε → Prop) (history : List ε) : Prop :=
  ∃ pre e post, history = pre ++ e :: post ∧ R pre e ∧
    ∀ mid x rest, post = mid ++ x :: rest → ¬ E (pre ++ e :: mid) x

/-- What events put out after the ones in `pre`, each judged against those before it. -/
def emitted {β : Type*} (out : List ε → ε → List β) : (pre rest : List ε) → List β
  | _, [] => []
  | pre, e :: rest => out pre e ++ emitted out (pre ++ [e]) rest

theorem emitted_append {β : Type*} (out : List ε → ε → List β) (pre rest more : List ε) :
    emitted out pre (rest ++ more) = emitted out pre rest ++ emitted out (pre ++ rest) more := by
  induction rest generalizing pre with
  | nil => simp [emitted]
  | cons e rest ih => simp [emitted, ih]

theorem mem_emitted {β : Type*} {out : List ε → ε → List β} {pre rest : List ε} {x : β}
    (member : x ∈ emitted out pre rest) :
    ∃ before e since, rest = before ++ e :: since ∧ x ∈ out (pre ++ before) e := by
  induction rest generalizing pre with
  | nil => cases member
  | cons e rest ih =>
      rcases List.mem_append.mp member with member | member
      · exact ⟨[], e, rest, rfl, by simpa using member⟩
      · obtain ⟨before, e', since, rfl, member⟩ := ih member
        exact ⟨e :: before, e', since, rfl, by rwa [List.append_cons]⟩

theorem once_iff_mem_emitted {β : Type*} {out : List ε → ε → List β} {history : List ε} {x : β} :
    Once (fun pre e => x ∈ out pre e) history ↔ x ∈ emitted out [] history := by
  constructor
  · rintro ⟨pre, e, post, rfl, member⟩
    rw [emitted_append]
    exact List.mem_append_right _ (List.mem_append_left _ (by simpa using member))
  · intro member
    obtain ⟨pre, e, post, split, member⟩ := mem_emitted member
    exact ⟨pre, e, post, split, by simpa using member⟩

theorem snoc_eq_split {history pre post : List ε} {e x : ε}
    (split : history ++ [e] = pre ++ x :: post) :
    (pre = history ∧ x = e ∧ post = []) ∨
      ∃ rest, post = rest ++ [e] ∧ history = pre ++ x :: rest := by
  rcases List.eq_nil_or_concat post with rfl | ⟨rest, last, rfl⟩
  · obtain ⟨same, last⟩ := List.append_inj' split rfl
    cases last
    exact .inl ⟨same.symm, rfl, rfl⟩
  · rw [List.concat_eq_append] at split ⊢
    have regroup : history ++ [e] = (pre ++ x :: rest) ++ [last] := by
      simpa using split
    obtain ⟨same, last⟩ := List.append_inj' regroup rfl
    cases last
    exact .inr ⟨rest, rfl, same⟩

theorem split_cases {pre post pre' post' : List ε} {e e' : ε}
    (same : pre ++ e :: post = pre' ++ e' :: post') :
    (pre = pre' ∧ e = e' ∧ post = post') ∨
      (∃ mid, pre' = pre ++ e :: mid ∧ post = mid ++ e' :: post') ∨
        ∃ mid, pre = pre' ++ e' :: mid ∧ post' = mid ++ e :: post := by
  rcases List.append_eq_append_iff.mp same with ⟨between, rfl, rest⟩ | ⟨between, rfl, rest⟩
  · cases between with
    | nil =>
        cases rest
        exact .inl ⟨(List.append_nil pre).symm, rfl, rfl⟩
    | cons head mid =>
        cases rest
        exact .inr (.inl ⟨mid, rfl, rfl⟩)
  · cases between with
    | nil =>
        cases rest
        exact .inl ⟨List.append_nil pre', rfl, rfl⟩
    | cons head mid =>
        cases rest
        exact .inr (.inr ⟨mid, rfl, rfl⟩)

variable {P Q R : List ε → ε → Prop} {history : List ε} {e : ε}

@[simp] theorem historically_nil : Historically P [] := by
  intro pre e post split
  simp at split

@[simp] theorem historically_snoc :
    Historically P (history ++ [e]) ↔ Historically P history ∧ P history e := by
  constructor
  · intro h
    refine ⟨fun pre x post split => h pre x (post ++ [e]) ?_, h history e [] rfl⟩
    simp [split]
  · rintro ⟨earlier, last⟩ pre x post split
    rcases snoc_eq_split split with ⟨rfl, rfl, rfl⟩ | ⟨rest, rfl, rfl⟩
    · exact last
    · exact earlier pre x rest rfl

@[simp] theorem once_nil : ¬ Once R ([] : List ε) := by
  rintro ⟨pre, e, post, split, _⟩
  simp at split

@[simp] theorem once_snoc : Once R (history ++ [e]) ↔ Once R history ∨ R history e := by
  constructor
  · rintro ⟨pre, x, post, split, met⟩
    rcases snoc_eq_split split with ⟨rfl, rfl, rfl⟩ | ⟨rest, rfl, rfl⟩
    · exact .inr met
    · exact .inl ⟨pre, x, rest, rfl, met⟩
  · rintro (⟨pre, x, post, rfl, met⟩ | met)
    · exact ⟨pre, x, post ++ [e], by simp, met⟩
    · exact ⟨history, e, [], rfl, met⟩

@[simp] theorem historically_cons :
    Historically P (e :: history) ↔ P [] e ∧ Historically (fun pre => P (e :: pre)) history := by
  constructor
  · intro h
    refine ⟨h [] e history rfl, fun pre x post split => h (e :: pre) x post ?_⟩
    rw [split, List.cons_append]
  · rintro ⟨first, later⟩ pre x post split
    cases pre with
    | nil =>
        cases split
        exact first
    | cons head pre =>
        cases split
        exact later pre x post rfl

@[simp] theorem once_cons :
    Once R (e :: history) ↔ R [] e ∨ Once (fun pre => R (e :: pre)) history := by
  constructor
  · rintro ⟨pre, x, post, split, met⟩
    cases pre with
    | nil =>
        cases split
        exact .inl met
    | cons head pre =>
        cases split
        exact .inr ⟨pre, x, post, rfl, met⟩
  · rintro (met | ⟨pre, x, post, rfl, met⟩)
    · exact ⟨[], e, history, rfl, met⟩
    · exact ⟨e :: pre, x, post, rfl, met⟩

theorem Historically.mono (h : Historically P history) (le : ∀ pre e, P pre e → Q pre e) :
    Historically Q history :=
  fun pre e post split => le pre e (h pre e post split)

@[simp] theorem since_nil {E : List ε → ε → Prop} : ¬ Since R E ([] : List ε) := by
  rintro ⟨pre, e, post, split, _⟩
  simp at split

@[simp] theorem since_snoc {E : List ε → ε → Prop} :
    Since R E (history ++ [e]) ↔ R history e ∨ Since R E history ∧ ¬ E history e := by
  constructor
  · rintro ⟨pre, x, post, split, met, none⟩
    rcases snoc_eq_split split with ⟨rfl, rfl, rfl⟩ | ⟨rest, rfl, rfl⟩
    · exact .inl met
    · refine .inr ⟨⟨pre, x, rest, rfl, met, fun mid y more same => ?_⟩, none rest e [] rfl⟩
      exact none mid y (more ++ [e]) (by simp [same])
  · rintro (met | ⟨⟨pre, x, post, rfl, met, none⟩, last⟩)
    · refine ⟨history, e, [], rfl, met, fun mid y more same => ?_⟩
      simp at same
    · refine ⟨pre, x, post ++ [e], by simp, met, fun mid y more same => ?_⟩
      rcases snoc_eq_split same with ⟨rfl, rfl, rfl⟩ | ⟨rest, rfl, rfl⟩
      · exact last
      · exact none mid y rest rfl

/-- The table rule: what `R` sets and `E` clears holds if it held from the start
    and was never cleared, or was set and not cleared since. -/
theorem since_iff {E : List ε → ε → Prop} (I : List ε → Prop)
    (step : ∀ history e, I (history ++ [e]) ↔ R history e ∨ I history ∧ ¬ E history e) (history : List ε) :
    I history ↔ I [] ∧ Historically (fun pre e => ¬ E pre e) history ∨ Since R E history := by
  induction history using List.reverseRecOn with
  | nil => simp
  | append_singleton rest e ih =>
      rw [step, ih, since_snoc, historically_snoc]
      tauto

theorem Historically.of_append {more : List ε} (h : Historically P (history ++ more)) :
    Historically P history := by
  intro pre e post split
  exact h pre e (post ++ more) (by simp [split])

theorem Historically.upTo {post : List ε} (h : Historically P (history ++ e :: post)) :
    Historically P (history ++ [e]) := by
  rw [List.append_cons] at h
  exact h.of_append

theorem Historically.and (h : Historically P history) (h' : Historically Q history) :
    Historically (fun pre e => P pre e ∧ Q pre e) history :=
  fun pre e post split => ⟨h pre e post split, h' pre e post split⟩

theorem Historically.at {post : List ε} (h : Historically P (history ++ e :: post)) : P history e :=
  h history e post rfl

/-- The invariant rule: what holds at the start and survives every event that
    meets the assumption holds after every history whose events meet it. -/
theorem invariant (I : List ε → Prop) (start : I [])
    (step : ∀ history e, Historically P history → P history e → I history → I (history ++ [e]))
    (assumed : Historically P history) : I history := by
  induction history using List.reverseRecOn with
  | nil => exact start
  | append_singleton rest e ih =>
      obtain ⟨earlier, last⟩ := historically_snoc.mp assumed
      exact step rest e earlier last (ih earlier)

/-- The rule for a run that leaves out events: it stays related to the full one if
    both go on alike at the events it keeps, and the others do not matter. -/
theorem filter_rule {I : List ε → List ε → Prop} {A : ε → Prop} (keep : ε → Bool) (start : I [] [])
    (kept : ∀ pre purged e, A e → keep e = true → I pre purged → I (pre ++ [e]) (purged ++ [e]))
    (skipped : ∀ pre purged e, A e → keep e = false → I pre purged → I (pre ++ [e]) purged)
    (assumed : ∀ e ∈ history, A e) : I history (history.filter keep) := by
  induction history using List.reverseRecOn with
  | nil => exact start
  | append_singleton rest e ih =>
      have earlier := ih (fun x member => assumed x (List.mem_append_left _ member))
      have last := assumed e (List.mem_append_right _ (List.mem_singleton_self e))
      rw [List.filter_append]
      cases keeps : keep e with
      | true => simpa [keeps] using kept rest _ e last keeps earlier
      | false => simpa [keeps] using skipped rest _ e last keeps earlier

theorem historically_congr (same : ∀ pre e, P pre e ↔ Q pre e) :
    Historically P history ↔ Historically Q history :=
  ⟨fun h => h.mono (fun pre e => (same pre e).mp), fun h => h.mono (fun pre e => (same pre e).mpr)⟩

/-- A property judged on each step, and equivalent there to a condition, holds
    throughout a history exactly when the condition does; the equivalence may
    use that the condition held before. -/
theorem historically_iff (same : ∀ pre e, Historically Q pre → (P pre e ↔ Q pre e)) :
    Historically P history ↔ Historically Q history := by
  induction history using List.reverseRecOn with
  | nil => simp
  | append_singleton rest e ih =>
      simp only [historically_snoc, ih]
      constructor
      · rintro ⟨earlier, last⟩
        exact ⟨earlier, (same rest e earlier).mp last⟩
      · rintro ⟨earlier, last⟩
        exact ⟨earlier, (same rest e earlier).mpr last⟩

end History
