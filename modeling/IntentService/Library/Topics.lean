import Mathlib.Data.List.Basic
import Mathlib.Logic.Function.Basic

/-! # Topics and their subscribers

Publish and subscribe in general: topics are created, joined, published to, and
closed one by one or with their owner. A subscriber that entered one topic once
hears exactly what is published there until the topic ends.
-/

namespace Topics

/-- An open topic: its owner, and the subscribers in the order they joined. -/
structure Topic (ω σ : Type*) where
  owner : ω
  members : List σ

/-- What is done to the topics. -/
inductive Op (κ ω σ μ : Type*) where
  /-- A topic of that name is replaced. -/
  | create (k : κ) (topic : Topic ω σ)
  | join (k : κ) (member : σ)
  | publish (k : κ) (message : μ)
  | close (k : κ)
  /-- The owner leaves, and its topics are closed. -/
  | leave (owner : ω)

variable {κ ω σ μ : Type*} [DecidableEq κ] [DecidableEq ω]

/-- The topics after an operation; one on a topic that is not open does nothing. -/
def apply (topics : κ → Option (Topic ω σ)) : Op κ ω σ μ → κ → Option (Topic ω σ)
  | .create k topic => Function.update topics k (some topic)
  | .join k member =>
      Function.update topics k
        ((topics k).map (fun topic => { topic with members := topic.members ++ [member] }))
  | .publish _ _ => topics
  | .close k => Function.update topics k none
  | .leave owner => fun k => (topics k).filter (fun topic => topic.owner != owner)

/-- What an operation delivers, and to whom. -/
def deliver (topics : κ → Option (Topic ω σ)) : Op κ ω σ μ → List (σ × μ)
  | .publish k message =>
      match topics k with
      | some topic => topic.members.map (·, message)
      | none => []
  | .create _ _ | .join _ _ | .close _ | .leave _ => []

/-- The topics after some operations. -/
def run (topics : κ → Option (Topic ω σ)) (ops : List (Op κ ω σ μ)) : κ → Option (Topic ω σ) :=
  ops.foldl apply topics

/-- What some operations deliver. -/
def deliveries (topics : κ → Option (Topic ω σ)) : List (Op κ ω σ μ) → List (σ × μ)
  | [] => []
  | op :: rest => deliver topics op ++ deliveries (apply topics op) rest

@[simp] theorem run_nil (topics : κ → Option (Topic ω σ)) : run topics ([] : List (Op κ ω σ μ)) = topics :=
  rfl

@[simp] theorem run_cons (topics : κ → Option (Topic ω σ)) (op : Op κ ω σ μ) (rest : List (Op κ ω σ μ)) :
    run topics (op :: rest) = run (apply topics op) rest := rfl

theorem run_append (topics : κ → Option (Topic ω σ)) (ops more : List (Op κ ω σ μ)) :
    run topics (ops ++ more) = run (run topics ops) more := by
  simp [run]

theorem deliveries_append (topics : κ → Option (Topic ω σ)) (ops more : List (Op κ ω σ μ)) :
    deliveries topics (ops ++ more) = deliveries topics ops ++ deliveries (run topics ops) more := by
  induction ops generalizing topics with
  | nil => rfl
  | cons op rest ih => simp only [List.cons_append, deliveries, ih, run_cons, List.append_assoc]

/-! ## One subscriber -/

/-- The operation adds the subscriber to a topic. -/
def Op.Enters (s : σ) : Op κ ω σ μ → Prop
  | .create _ topic => s ∈ topic.members
  | .join _ member => member = s
  | .publish _ _ | .close _ | .leave _ => False

/-- The operation ends the topic `k` of the owner. -/
def Op.ends (k : κ) (owner : ω) : Op κ ω σ μ → Bool
  | .create k' _ | .close k' => k' = k
  | .leave owner' => owner' = owner
  | .join _ _ | .publish _ _ => false

/-- The message that is published to the topic `k`. -/
def Op.message? (k : κ) : Op κ ω σ μ → Option μ
  | .publish k' message => if k' = k then some message else none
  | .create _ _ | .join _ _ | .close _ | .leave _ => none

/-- What is published to the topic `k` until it ends. -/
def heard (k : κ) (owner : ω) (ops : List (Op κ ω σ μ)) : List μ :=
  (ops.takeWhile (fun op => !op.ends k owner)).filterMap (Op.message? k)

@[simp] theorem heard_nil (k : κ) (owner : ω) : heard k owner ([] : List (Op κ ω σ μ)) = [] := rfl

theorem heard_cons (k : κ) (owner : ω) (op : Op κ ω σ μ) (rest : List (Op κ ω σ μ)) :
    heard k owner (op :: rest) =
      if op.ends k owner then [] else (op.message? k).toList ++ heard k owner rest := by
  cases ended : op.ends k owner with
  | true => simp [heard, ended]
  | false => cases published : op.message? k <;> simp [heard, ended, published]

theorem heard_append (k : κ) (owner : ω) (ops more : List (Op κ ω σ μ)) :
    heard k owner (ops ++ more) =
      heard k owner ops ++ if ∀ op ∈ ops, op.ends k owner = false then heard k owner more else [] := by
  induction ops with
  | nil => simp
  | cons op rest ih => cases ended : op.ends k owner <;> simp [heard_cons, ended, ih]

/-- The subscriber is in no topic. -/
def Absent (s : σ) (topics : κ → Option (Topic ω σ)) : Prop :=
  ∀ k topic, topics k = some topic → s ∉ topic.members

/-- The subscriber is in the topic `k` of the owner, once, and in no other. -/
structure Once [DecidableEq σ] (s : σ) (k : κ) (owner : ω) (topics : κ → Option (Topic ω σ)) : Prop where
  here : ∃ members, topics k = some ⟨owner, members⟩ ∧ members.count s = 1
  only : ∀ k' topic, topics k' = some topic → s ∈ topic.members → k' = k

section Steps

variable {s : σ} {topics : κ → Option (Topic ω σ)} {op : Op κ ω σ μ}

omit [DecidableEq κ] [DecidableEq ω] in
theorem Absent.deliver (absent : Absent s topics) {message : μ} : (s, message) ∉ deliver topics op := by
  cases op with
  | publish k published =>
      cases found : topics k with
      | none => simp [Topics.deliver, found]
      | some topic =>
          have outside := absent k topic found
          simp [Topics.deliver, found, outside]
  | create | join | close | leave => exact List.not_mem_nil

theorem Absent.apply (absent : Absent s topics) (outside : ¬ op.Enters s) : Absent s (apply topics op) := by
  intro k topic found
  cases op with
  | create k' created =>
      rw [Topics.apply, Function.update_apply] at found
      split at found
      · cases found
        exact outside
      · exact absent k topic found
  | join k' member =>
      rw [Topics.apply, Function.update_apply] at found
      split at found
      · obtain ⟨joined, stored, rfl⟩ := Option.map_eq_some_iff.mp found
        have other : s ≠ member := fun same => outside same.symm
        simpa [other] using absent k' joined stored
      · exact absent k topic found
  | publish => exact absent k topic found
  | close k' =>
      rw [Topics.apply, Function.update_apply] at found
      split at found
      · cases found
      · exact absent k topic found
  | leave owner => exact absent k topic (Option.filter_eq_some_iff.mp found).1

variable [DecidableEq σ] {k : κ} {owner : ω}

theorem Once.create {members : List σ} (absent : Absent s topics) (single : members.count s = 1) :
    Once s k owner (apply topics (.create k ⟨owner, members⟩ : Op κ ω σ μ)) := by
  refine ⟨⟨members, Function.update_self .., single⟩, fun k' topic found member => ?_⟩
  rw [apply, Function.update_apply] at found
  split at found
  next same => exact same
  next => exact absurd member (absent k' topic found)

theorem Once.join {members : List σ} (absent : Absent s topics) (stored : topics k = some ⟨owner, members⟩) :
    Once s k owner (apply topics (.join k s : Op κ ω σ μ)) := by
  refine ⟨⟨members ++ [s], ?_, ?_⟩, fun k' topic found member => ?_⟩
  · rw [apply, Function.update_self, stored]
    rfl
  · rw [List.count_append, List.count_eq_zero.mpr (absent k _ stored), List.count_singleton_self]
  · rw [apply, Function.update_apply] at found
    split at found
    next same => exact same
    next => exact absurd member (absent k' topic found)

/-- The subscriber stays where it is unless the topic ends. -/
theorem Once.apply (once : Once s k owner topics) (outside : ¬ op.Enters s)
    (stays : op.ends k owner = false) :
    Once s k owner (apply topics op) := by
  obtain ⟨⟨members, here, single⟩, only⟩ := once
  cases op with
  | create k' created =>
      have other : k' ≠ k := of_decide_eq_false stays
      refine ⟨⟨members, (Function.update_of_ne other.symm _ _).trans here, single⟩,
        fun j topic found member => ?_⟩
      rw [Topics.apply, Function.update_apply] at found
      split at found
      · cases found
        exact absurd member outside
      · exact only j topic found member
  | join k' joining =>
      have others : joining ≠ s := outside
      refine ⟨?_, fun j topic found member => ?_⟩
      · by_cases same : k' = k
        · subst same
          refine ⟨members ++ [joining], ?_, ?_⟩
          · rw [Topics.apply, Function.update_self, here]
            rfl
          · rw [List.count_append, single, List.count_singleton, beq_false_of_ne others]
            rfl
        · exact ⟨members, (Function.update_of_ne (Ne.symm same) _ _).trans here, single⟩
      · rw [Topics.apply, Function.update_apply] at found
        split at found
        next same =>
          obtain ⟨joined, stored, rfl⟩ := Option.map_eq_some_iff.mp found
          have before : s ∈ joined.members := by simpa [others.symm] using member
          exact same.trans (only k' joined stored before)
        next => exact only j topic found member
  | publish => exact ⟨⟨members, here, single⟩, only⟩
  | close k' =>
      have other : k' ≠ k := of_decide_eq_false stays
      refine ⟨⟨members, (Function.update_of_ne other.symm _ _).trans here, single⟩,
        fun j topic found member => ?_⟩
      rw [Topics.apply, Function.update_apply] at found
      split at found
      · cases found
      · exact only j topic found member
  | leave left =>
      have other : left ≠ owner := of_decide_eq_false stays
      refine ⟨⟨members, ?_, single⟩, fun j topic found member => ?_⟩
      · simp [Topics.apply, here, other.symm]
      · exact only j topic (Option.filter_eq_some_iff.mp found).1 member

theorem Once.absent (once : Once s k owner topics) (outside : ¬ op.Enters s)
    (ended : op.ends k owner = true) :
    Absent s (Topics.apply topics op) := by
  obtain ⟨⟨members, here, single⟩, only⟩ := once
  intro j topic found member
  cases op with
  | create k' created =>
      cases of_decide_eq_true ended
      rw [Topics.apply, Function.update_apply] at found
      split at found
      · cases found
        exact outside member
      next other => exact other (only j topic found member)
  | close k' =>
      cases of_decide_eq_true ended
      rw [Topics.apply, Function.update_apply] at found
      split at found
      · cases found
      next other => exact other (only j topic found member)
  | leave left =>
      cases of_decide_eq_true ended
      obtain ⟨found, kept⟩ := Option.filter_eq_some_iff.mp found
      cases only j topic found member
      cases here.symm.trans found
      simp at kept
  | join | publish => cases ended

end Steps

theorem absent_run {s : σ} {topics : κ → Option (Topic ω σ)} {ops : List (Op κ ω σ μ)}
    (absent : Absent s topics) (outside : ∀ op ∈ ops, ¬ op.Enters s) : Absent s (run topics ops) := by
  induction ops generalizing topics with
  | nil => exact absent
  | cons op rest ih =>
      have first := absent.apply (outside op List.mem_cons_self)
      exact ih first (fun op member => outside op (List.mem_cons_of_mem _ member))

/-! ## The mailbox of a subscriber -/

variable [DecidableEq σ]

/-- What a log of deliveries brings to one subscriber. -/
def mailbox (s : σ) (log : List (σ × μ)) : List μ :=
  (log.filter (fun entry => entry.1 = s)).map Prod.snd

theorem mailbox_append (s : σ) (log more : List (σ × μ)) :
    mailbox s (log ++ more) = mailbox s log ++ mailbox s more := by
  simp [mailbox]

theorem mailbox_map (s : σ) (members : List σ) (message : μ) :
    mailbox s (members.map (·, message)) = List.replicate (members.count s) message := by
  induction members with
  | nil => rfl
  | cons member rest ih =>
      by_cases own : member = s
      · subst own
        rw [List.count_cons_self, List.replicate_succ, ← ih]
        simp [mailbox]
      · rw [List.count_cons_of_ne own, ← ih]
        simp [mailbox, own]

variable {s : σ} {topics : κ → Option (Topic ω σ)} {ops : List (Op κ ω σ μ)}

theorem mailbox_of_absent (absent : Absent s topics) (outside : ∀ op ∈ ops, ¬ op.Enters s) :
    mailbox s (deliveries topics ops) = [] := by
  induction ops generalizing topics with
  | nil => rfl
  | cons op rest ih =>
      have first : mailbox s (deliver topics op) = [] := by
        rw [mailbox, List.map_eq_nil_iff, List.filter_eq_nil_iff]
        rintro ⟨member, message⟩ delivered own
        cases of_decide_eq_true own
        exact absent.deliver delivered
      have kept := absent.apply (outside op List.mem_cons_self)
      rw [deliveries, mailbox_append, first, ih kept (fun op member =>
        outside op (List.mem_cons_of_mem _ member))]
      rfl

omit [DecidableEq ω] in
theorem Once.mailbox_deliver {k : κ} {owner : ω} (once : Once s k owner topics) (op : Op κ ω σ μ) :
    mailbox s (deliver topics op) = (op.message? k).toList := by
  obtain ⟨⟨members, here, single⟩, only⟩ := once
  cases op with
  | publish k' message =>
      by_cases same : k' = k
      · subst same
        simp only [deliver, here, Op.message?, if_true]
        rw [mailbox_map, single]
        rfl
      · simp only [deliver, Op.message?, if_neg same]
        cases found : topics k' with
        | none => rfl
        | some topic =>
            have outside : s ∉ topic.members := fun member => same (only k' topic found member)
            simp only [mailbox_map, List.count_eq_zero.mpr outside]
            rfl
  | create | join | close | leave => rfl

/-- A subscriber that is in one topic, once, hears exactly what is published
    there until the topic ends, provided it enters no topic again. -/
theorem Once.mailbox_eq_heard {k : κ} {owner : ω} (once : Once s k owner topics)
    (outside : ∀ op ∈ ops, ¬ op.Enters s) :
    mailbox s (deliveries topics ops) = heard k owner ops := by
  induction ops generalizing topics with
  | nil => rfl
  | cons op rest ih =>
      have out := outside op List.mem_cons_self
      have later : ∀ op ∈ rest, ¬ op.Enters s := fun op member => outside op (List.mem_cons_of_mem _ member)
      rw [deliveries, mailbox_append, once.mailbox_deliver]
      cases ended : op.ends k owner with
      | false =>
          rw [ih (once.apply out ended) later, heard_cons, if_neg (by simp [ended])]
      | true =>
          rw [mailbox_of_absent (once.absent out ended) later, heard_cons, if_pos ended]
          cases op with
          | publish => cases ended
          | create | join | close | leave => rfl

end Topics
