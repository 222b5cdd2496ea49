import Mathlib.Order.Defs.LinearOrder
import Mathlib.Data.List.Perm.Basic
import Mathlib.Data.List.Sort

/-! # Ordered maps

An association list with strictly increasing keys: the container behind an
ordered associative array whose iteration order matters. Sortedness is a field,
so a map with a repeated key cannot be built, and two maps that agree on every
lookup are equal.
-/

/-- A finite map iterated in increasing key order. -/
structure OrderedMap (κ : Type*) [LinearOrder κ] (β : Type*) where
  entries : List (κ × β)
  sorted : entries.Pairwise (fun a b => a.1 < b.1)

namespace OrderedMap

variable {κ : Type*} [LinearOrder κ] {β γ : Type*}

/-! ## The operations on entry lists -/

/-- The value stored under a key. -/
def lookup (k : κ) : List (κ × β) → Option β
  | [] => none
  | (k', v) :: rest => if k' = k then some v else lookup k rest

/-- Assignment through a key: replaces the value there, or puts a new entry in
    its place in the order. -/
def assign (k : κ) (v : β) : List (κ × β) → List (κ × β)
  | [] => [(k, v)]
  | (k', v') :: rest =>
      if k < k' then (k, v) :: (k', v') :: rest
      else if k' = k then (k, v) :: rest
      else (k', v') :: assign k v rest

theorem mem_assign {k : κ} {v : β} {a : κ × β} {l : List (κ × β)}
    (h : a ∈ assign k v l) : a = (k, v) ∨ a ∈ l := by
  induction l with
  | nil => simpa [assign] using h
  | cons head tail ih =>
      rcases head with ⟨k', v'⟩
      simp only [assign] at h
      split at h
      · simpa using h
      · split at h
        · rcases List.mem_cons.mp h with h | h
          · exact .inl h
          · exact .inr (List.mem_cons_of_mem _ h)
        · rcases List.mem_cons.mp h with h | h
          · exact .inr (h ▸ List.mem_cons_self)
          · exact (ih h).imp_right (List.mem_cons_of_mem _)

theorem assign_sorted (k : κ) (v : β) {l : List (κ × β)}
    (h : l.Pairwise (fun a b => a.1 < b.1)) :
    (assign k v l).Pairwise (fun a b => a.1 < b.1) := by
  induction l with
  | nil => simp [assign]
  | cons head tail ih =>
      rcases head with ⟨k', v'⟩
      obtain ⟨below, tailSorted⟩ := List.pairwise_cons.mp h
      simp only [assign]
      split
      next lt =>
        refine List.pairwise_cons.mpr ⟨?_, h⟩
        intro a member
        rcases List.mem_cons.mp member with rfl | member
        · exact lt
        · exact lt_trans lt (below a member)
      next notLt =>
        split
        next same =>
          subst same
          exact List.pairwise_cons.mpr ⟨below, tailSorted⟩
        next different =>
          refine List.pairwise_cons.mpr ⟨?_, ih tailSorted⟩
          intro a member
          rcases mem_assign member with rfl | member
          · exact lt_of_le_of_ne (not_lt.mp notLt) different
          · exact below a member

theorem lookup_assign (k j : κ) (v : β) (l : List (κ × β)) :
    lookup j (assign k v l) = if j = k then some v else lookup j l := by
  induction l with
  | nil => simp [assign, lookup, eq_comm]
  | cons head tail ih =>
      rcases head with ⟨k', v'⟩
      simp only [assign]
      split
      · simp [lookup, eq_comm]
      · split
        next same =>
          subst same
          by_cases h : j = k'
          · simp [lookup, h]
          · simp [lookup, h, Ne.symm h]
        next different =>
          by_cases h : k' = j
          · subst h; simp [lookup, different]
          · simp [lookup, h, ih]

theorem lookup_eq_some {k : κ} {v : β} {l : List (κ × β)}
    (sorted : l.Pairwise (fun a b => a.1 < b.1)) : lookup k l = some v ↔ (k, v) ∈ l := by
  induction l with
  | nil => simp [lookup]
  | cons head tail ih =>
      rcases head with ⟨k', v'⟩
      obtain ⟨below, tailSorted⟩ := List.pairwise_cons.mp sorted
      by_cases same : k' = k
      · subst same
        have absent : ∀ x, (k', x) ∉ tail := fun x member => lt_irrefl k' (below (k', x) member)
        simp [lookup, absent, eq_comm]
      · simp [lookup, same, Ne.symm same, ih tailSorted]

/-! ## The map operations -/

def empty : OrderedMap κ β := ⟨[], .nil⟩

instance : EmptyCollection (OrderedMap κ β) := ⟨empty⟩
instance : Inhabited (OrderedMap κ β) := ⟨empty⟩

def find? (m : OrderedMap κ β) (k : κ) : Option β := lookup k m.entries

def contains (m : OrderedMap κ β) (k : κ) : Bool := (m.find? k).isSome

def insert (m : OrderedMap κ β) (k : κ) (v : β) : OrderedMap κ β :=
  ⟨assign k v m.entries, assign_sorted k v m.sorted⟩

/-- Keep the entries a test accepts: an erase-while-iterating loop. -/
def filter (m : OrderedMap κ β) (p : κ → β → Bool) : OrderedMap κ β :=
  ⟨m.entries.filter (fun a => p a.1 a.2), m.sorted.filter _⟩

def erase (m : OrderedMap κ β) (k : κ) : OrderedMap κ β := m.filter (fun j _ => decide (j ≠ k))

/-- Change every value in place. -/
def mapValues (m : OrderedMap κ β) (f : κ → β → γ) : OrderedMap κ γ :=
  ⟨m.entries.map (fun a => (a.1, f a.1 a.2)), by
    simpa only [List.pairwise_map] using m.sorted⟩

/-- The values in key order. -/
def values (m : OrderedMap κ β) : List β := m.entries.map Prod.snd

theorem find?_eq_some {m : OrderedMap κ β} {k : κ} {v : β} :
    m.find? k = some v ↔ (k, v) ∈ m.entries :=
  lookup_eq_some m.sorted

theorem mem_values {m : OrderedMap κ β} {v : β} :
    v ∈ m.values ↔ ∃ k, m.find? k = some v := by
  simp only [values, List.mem_map, Prod.exists, exists_eq_right, find?_eq_some]

theorem contains_iff {m : OrderedMap κ β} {k : κ} :
    m.contains k = true ↔ ∃ v, m.find? k = some v := by
  simp only [contains, Option.isSome_iff_exists]

theorem contains_eq_false {m : OrderedMap κ β} {k : κ} :
    m.contains k = false ↔ m.find? k = none := by
  simp [contains]

@[simp] theorem find?_empty (k : κ) : (∅ : OrderedMap κ β).find? k = none := rfl

theorem find?_insert (m : OrderedMap κ β) (k j : κ) (v : β) :
    (m.insert k v).find? j = if j = k then some v else m.find? j :=
  lookup_assign k j v m.entries

@[simp] theorem find?_insert_self (m : OrderedMap κ β) (k : κ) (v : β) :
    (m.insert k v).find? k = some v := by
  simp [find?_insert]

theorem find?_insert_of_ne (m : OrderedMap κ β) {k j : κ} (v : β) (ne : j ≠ k) :
    (m.insert k v).find? j = m.find? j := by
  simp [find?_insert, ne]

theorem find?_filter_eq_some {m : OrderedMap κ β} {p : κ → β → Bool} {k : κ} {v : β} :
    (m.filter p).find? k = some v ↔ m.find? k = some v ∧ p k v = true := by
  simp only [find?_eq_some, filter, List.mem_filter]

theorem find?_filter (m : OrderedMap κ β) (p : κ → β → Bool) (k : κ) :
    (m.filter p).find? k = (m.find? k).filter (p k) := by
  apply Option.ext
  intro v
  simp only [find?_filter_eq_some, Option.filter_eq_some_iff]

theorem find?_erase (m : OrderedMap κ β) (k j : κ) :
    (m.erase k).find? j = if j = k then none else m.find? j := by
  rw [erase, find?_filter]
  by_cases same : j = k
  · simp only [same, ne_eq, not_true_eq_false, decide_false, if_true]
    cases m.find? k <;> rfl
  · simp only [same, ne_eq, not_false_eq_true, decide_true, if_false]
    cases m.find? j <;> rfl

@[simp] theorem find?_erase_self (m : OrderedMap κ β) (k : κ) : (m.erase k).find? k = none := by
  simp [find?_erase]

theorem find?_mapValues (m : OrderedMap κ β) (f : κ → β → γ) (k : κ) :
    (m.mapValues f).find? k = (m.find? k).map (f k) := by
  rcases m with ⟨entries, sorted⟩
  simp only [find?, mapValues]
  clear sorted
  induction entries with
  | nil => rfl
  | cons head tail ih =>
      by_cases same : head.1 = k
      · simp [lookup, same]
      · simp [lookup, same, ih]

theorem entries_nodup (m : OrderedMap κ β) : m.entries.Nodup :=
  m.sorted.imp (fun lt same => absurd (same ▸ lt) (lt_irrefl _))

theorem map_values_sorted {m : OrderedMap κ β} {key : β → κ} (own : ∀ k v, m.find? k = some v → key v = k) :
    (m.values.map key).Pairwise (· < ·) := by
  have keys : m.values.map key = m.entries.map Prod.fst := by
    rw [values, List.map_map]
    exact List.map_congr_left (fun a member => own a.1 a.2 (find?_eq_some.mpr member))
  rw [keys]
  exact List.pairwise_map.mpr m.sorted

theorem map_values_nodup {m : OrderedMap κ β} {key : β → κ} (own : ∀ k v, m.find? k = some v → key v = k) :
    (m.values.map key).Nodup :=
  (map_values_sorted own).imp (fun lt => lt.ne)

@[ext] theorem ext {m n : OrderedMap κ β} (h : ∀ k, m.find? k = n.find? k) : m = n := by
  have sameMembers : ∀ a, a ∈ m.entries ↔ a ∈ n.entries := by
    rintro ⟨k, v⟩
    rw [← find?_eq_some, ← find?_eq_some, h k]
  have perm : m.entries.Perm n.entries :=
    (List.perm_ext_iff_of_nodup m.entries_nodup n.entries_nodup).mpr sameMembers
  have same : m.entries = n.entries :=
    perm.eq_of_pairwise (fun _ _ _ _ ab ba => absurd ab (lt_asymm ba)) m.sorted n.sorted
  cases m
  cases n
  cases same
  rfl

theorem filter_eq_self {m : OrderedMap κ β} {p : κ → β → Bool}
    (h : ∀ k v, m.find? k = some v → p k v = true) : m.filter p = m := by
  apply ext
  intro k
  rw [find?_filter]
  cases found : m.find? k with
  | none => rfl
  | some v => simp [h k v found]

theorem erase_eq_self {m : OrderedMap κ β} {k : κ} (h : m.find? k = none) : m.erase k = m := by
  refine filter_eq_self (fun j v found => ?_)
  have ne : j ≠ k := by
    intro same
    rw [same, h] at found
    cases found
  simp [ne]

/-- The first value in key order that a test accepts. -/
theorem find?_values_eq_some {m : OrderedMap κ β} {p : β → Bool} {v : β} :
    m.values.find? p = some v ↔
      ∃ k, m.find? k = some v ∧ p v = true ∧
        ∀ j w, m.find? j = some w → j < k → p w = false := by
  rcases m with ⟨entries, sorted⟩
  simp only [values, find?_eq_some, List.find?_map, Option.map_eq_some_iff, Function.comp_def]
  constructor
  · rintro ⟨⟨k, w⟩, found, rfl⟩
    obtain ⟨accepted, before, after, split, rejected⟩ := List.find?_eq_some_iff_append.mp found
    refine ⟨k, by simp [split], accepted, fun j x member lt => ?_⟩
    rw [split] at member sorted
    rcases List.mem_append.mp member with member | member
    · simpa using rejected _ member
    · have above := (List.pairwise_cons.mp (List.pairwise_append.mp sorted).2.1).1
      rcases List.mem_cons.mp member with same | member
      · cases same
        exact absurd lt (lt_irrefl _)
      · exact absurd lt (lt_asymm (above _ member))
  · rintro ⟨k, member, accepted, rejected⟩
    refine ⟨(k, v), ?_, rfl⟩
    obtain ⟨before, after, split⟩ := List.append_of_mem member
    refine List.find?_eq_some_iff_append.mpr ⟨accepted, before, after, split, ?_⟩
    rintro ⟨j, w⟩ inBefore
    rw [split] at sorted
    have below : j < k := (List.pairwise_append.mp sorted).2.2 _ inBefore _ List.mem_cons_self
    have inEntries : (j, w) ∈ entries := by
      rw [split]
      exact List.mem_append_left _ inBefore
    simp [rejected j w inEntries below]

/-! ## Counting values -/

/-- How many values a test accepts. -/
def count (m : OrderedMap κ β) (p : β → Bool) : Nat := m.values.countP p

/-- A stored entry stands next to those that are left without it. -/
theorem entries_perm {m : OrderedMap κ β} {k : κ} {v : β} (found : m.find? k = some v) :
    m.entries.Perm ((k, v) :: (m.erase k).entries) := by
  have absent : (k, v) ∉ (m.erase k).entries := by
    rw [← find?_eq_some, find?_erase_self]
    exact nofun
  refine (List.perm_ext_iff_of_nodup m.entries_nodup (List.nodup_cons.mpr ⟨absent, entries_nodup _⟩)).mpr ?_
  intro entry
  obtain ⟨j, w⟩ := entry
  rw [List.mem_cons, ← find?_eq_some, ← find?_eq_some, find?_erase]
  by_cases same : j = k
  · subst same
    simp [found, eq_comm]
  · simp [same]

theorem count_erase {m : OrderedMap κ β} {k : κ} {v : β} (found : m.find? k = some v) (p : β → Bool) :
    m.count p = (m.erase k).count p + if p v then 1 else 0 := by
  rw [count, values, ((entries_perm found).map Prod.snd).countP_eq, List.map_cons, List.countP_cons]
  rfl

theorem erase_insert (m : OrderedMap κ β) (k : κ) (v : β) : (m.insert k v).erase k = m.erase k := by
  apply ext
  intro j
  rw [find?_erase, find?_erase, find?_insert]
  by_cases same : j = k <;> simp [same]

theorem count_insert (m : OrderedMap κ β) (k : κ) (v : β) (p : β → Bool) :
    (m.insert k v).count p = (m.erase k).count p + if p v then 1 else 0 := by
  rw [count_erase (find?_insert_self m k v), erase_insert]

theorem count_filter {m : OrderedMap κ β} {q : κ → β → Bool} {p : β → Bool}
    (kept : ∀ k v, m.find? k = some v → p v = true → q k v = true) : (m.filter q).count p = m.count p := by
  simp only [count, values, List.countP_map, filter, List.countP_filter]
  refine List.countP_congr (fun entry member => ?_)
  have accepted := kept entry.1 entry.2 (find?_eq_some.mpr member)
  simpa using accepted

end OrderedMap
