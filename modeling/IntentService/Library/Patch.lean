import IntentService.Library.OrderedMap

/-! # Patches of an ordered map

A change of a map that is decided key by key: it gives keys a value that have
none, or drops one. Patches of different owners that share no key can be applied
in any order.
-/

namespace OrderedMap

variable {κ : Type*} [LinearOrder κ] {β : Type*}

/-- The entries of both maps; the first one's where they share a key. -/
def union (m n : OrderedMap κ β) : OrderedMap κ β :=
  m.entries.foldr (fun entry n => n.insert entry.1 entry.2) n

theorem find?_union (m n : OrderedMap κ β) (k : κ) : (m.union n).find? k = (m.find? k).or (n.find? k) := by
  unfold union find?
  induction m.entries with
  | nil => rfl
  | cons head tail ih =>
      rcases head with ⟨j, v⟩
      rw [List.foldr_cons, lookup]
      by_cases own : j = k
      · rw [if_pos own, own]
        exact find?_insert_self _ k v
      · rw [if_neg own, ← ih]
        exact find?_insert_of_ne _ v (Ne.symm own)

theorem union_assoc (m n l : OrderedMap κ β) : (m.union n).union l = m.union (n.union l) := by
  apply OrderedMap.ext
  intro k
  simp only [find?_union, Option.or_assoc]

theorem union_empty (m : OrderedMap κ β) : m.union ∅ = m := by
  apply OrderedMap.ext
  intro k
  simp [find?_union]

end OrderedMap

/-- A change of a map that is decided key by key. -/
inductive Patch (κ : Type*) [LinearOrder κ] (β : Type*) where
  | fill (table : OrderedMap κ β)
  | drop (key : κ)

namespace Patch

variable {κ : Type*} [LinearOrder κ] {β : Type*}

def apply (m : OrderedMap κ β) : Patch κ β → OrderedMap κ β
  | .fill table => m.union table
  | .drop key => m.erase key

/-- What becomes of the value under a key. -/
def act (patch : Patch κ β) (k : κ) (old : Option β) : Option β :=
  match patch with
  | .fill table => old.or (table.find? k)
  | .drop key => if k = key then none else old

/-- The keys that a patch can change. -/
def Touches (k : κ) : Patch κ β → Prop
  | .fill table => table.find? k ≠ none
  | .drop key => k = key

theorem find?_apply (patch : Patch κ β) (m : OrderedMap κ β) (k : κ) :
    (patch.apply m).find? k = patch.act k (m.find? k) := by
  cases patch with
  | fill table => exact OrderedMap.find?_union m table k
  | drop key => exact OrderedMap.find?_erase m key k

theorem act_of_untouched {patch : Patch κ β} {k : κ} (untouched : ¬ patch.Touches k) (old : Option β) :
    patch.act k old = old := by
  cases patch with
  | fill table =>
      have absent : table.find? k = none := not_not.mp untouched
      simp [act, absent]
  | drop key => exact if_neg untouched

/-! ## Many patches -/

section Many

variable {ι : Type*} (patch : ι → Patch κ β)

/-- Apply the patches of a list of items one after the other. -/
def run (items : List ι) (m : OrderedMap κ β) : OrderedMap κ β := items.foldl (fun m i => (patch i).apply m) m

/-- What they make of the value under a key. -/
def actAll (items : List ι) (k : κ) (old : Option β) : Option β :=
  items.foldl (fun old i => (patch i).act k old) old

theorem find?_run (items : List ι) (m : OrderedMap κ β) (k : κ) :
    (run patch items m).find? k = actAll patch items k (m.find? k) := by
  induction items generalizing m with
  | nil => rfl
  | cons i rest ih =>
      rw [run, List.foldl_cons, ← run, ih, find?_apply]
      rfl

variable {patch}

theorem actAll_filter (keep : ι → Bool) {items : List ι} {k : κ}
    (others : ∀ i ∈ items, keep i = false → ¬ (patch i).Touches k) (old : Option β) :
    actAll patch items k old = actAll patch (items.filter keep) k old := by
  induction items generalizing old with
  | nil => rfl
  | cons i rest ih =>
      have later : ∀ old, actAll patch rest k old = actAll patch (rest.filter keep) k old :=
        ih (fun j member => others j (List.mem_cons_of_mem i member))
      cases kept : keep i with
      | true =>
          rw [List.filter_cons_of_pos kept]
          exact later _
      | false =>
          rw [List.filter_cons_of_neg (by simp [kept]), ← later, actAll, List.foldl_cons,
            act_of_untouched (others i List.mem_cons_self kept)]
          rfl

variable {σ : Type*} [DecidableEq σ] {owner : ι → σ}

/-- The same items, those of each owner in the same order. -/
def SameOrder (owner : ι → σ) (first second : List ι) : Prop :=
  ∀ s, first.filter (fun i => decide (owner i = s)) = second.filter (fun i => decide (owner i = s))

theorem SameOrder.mem {first second : List ι} (same : SameOrder owner first second) {i : ι}
    (member : i ∈ second) : i ∈ first := by
  have own : i ∈ second.filter (fun j => decide (owner j = owner i)) := List.mem_filter.mpr ⟨member, by simp⟩
  rw [← same (owner i)] at own
  exact (List.mem_filter.mp own).1

/-- Two items of different owners can change places. -/
theorem SameOrder.swap {i j : ι} (different : owner i ≠ owner j) : SameOrder owner [i, j] [j, i] := by
  intro s
  by_cases own : owner i = s
  · have other : owner j ≠ s := fun same => different (own.trans same.symm)
    simp [own, other]
  · simp [own, List.filter_cons]

/-- When no two owners touch one key, only the order of each owner's patches counts. -/
theorem run_of_sameOrder {first second : List ι} (same : SameOrder owner first second)
    (apart : ∀ i ∈ first, ∀ j ∈ first, ∀ k, (patch i).Touches k → (patch j).Touches k → owner i = owner j)
    (m : OrderedMap κ β) : run patch first m = run patch second m := by
  apply OrderedMap.ext
  intro k
  rw [find?_run, find?_run]
  by_cases touched : ∃ i ∈ first, (patch i).Touches k
  · obtain ⟨i, member, touches⟩ := touched
    have others : ∀ items : List ι, (∀ j ∈ items, j ∈ first) →
        ∀ j ∈ items, decide (owner j = owner i) = false → ¬ (patch j).Touches k := by
      intro items within j listed different touches'
      exact absurd (apart j (within j listed) i member k touches' touches) (by simpa using different)
    rw [actAll_filter _ (others first fun _ listed => listed),
      actAll_filter _ (others second fun _ listed => same.mem listed), same (owner i)]
  · have untouched : ∀ i ∈ first, ¬ (patch i).Touches k := fun i member touches =>
      touched ⟨i, member, touches⟩
    have none : ∀ items : List ι, items.filter (fun _ => false) = [] := fun items => by simp
    rw [actAll_filter (fun _ => false) (fun i member _ => untouched i member),
      actAll_filter (fun _ => false) (fun i member _ => untouched i (same.mem member)), none, none]

end Many

end Patch
