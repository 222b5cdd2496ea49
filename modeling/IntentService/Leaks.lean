import IntentService.Departure

/-! # How many watches an owner has

Every accepted `start` opens a watch and stores an intent, but the two end
apart: a watch ends with a notice whose own message has its token, an intent with
a failed launch, with another `start` that takes its id, and with a notice on any
watch of the name.
-/

namespace IntentService.Leaks

open History JValueUtil

/-- The call is a watch of `start` on the name. -/
def isWatch (name : String) (call : LSCall) : Bool :=
  call.callback == .ownerStatus && call.payload.get "serviceName" == .string name

variable (setup : Setup)

/-- The number of open watches on a name. -/
def watches (history : List Event) (name : String) : Nat :=
  (setup.after history).live.countP (fun entry => isWatch name entry.call)

/-- The number of stored intents of an owner. -/
def owned (history : List Event) (owner : String) : Nat :=
  (setup.intents history).count (fun x => x.owner == owner)

/-- A notice that the name left is under way. -/
def Leaving (history : List Event) (name : String) : Prop :=
  ∃ notice ∈ (setup.after history).undelivered, notice.name = name

/-- Nobody whose departure was told to all its watches has more of them than intents. -/
def Backed (history : List Event) : Prop :=
  ∀ owner, ¬ Leaving setup history owner → watches setup history owner ≤ owned setup history owner

/-- A notice that arrives is one under way, on the watch it was sent to. -/
def Announced (history : List Event) (e : Event) : Prop :=
  ∀ notice name, e = .ownerStatus notice → IntentManager.departed notice = some name →
    ⟨notice.responseToken, name⟩ ∈ (setup.after history).undelivered

/-- The owner may lose an intent: its watches end anyway, or are fewer. -/
def Spare (history : List Event) (owner : String) : Prop :=
  Leaving setup history owner ∨ watches setup history owner < owned setup history owner

/-- No event leaves a watch without an intent. -/
structure Orderly (history : List Event) (e : Event) : Prop where
  /-- Nobody is watched anew while a notice about it is under way. -/
  settled : ∀ request bus token x watch, e = .start request bus →
    Started setup.enableSession (setup.service history) request bus token x →
    bus.answer (IntentManager.statusCall x.owner (getSessionId setup.enableSession request)) = some watch →
    ¬ Leaving setup history x.owner
  /-- An intent whose id is taken can be spared, unless the new one has the same
      owner and is not watched. -/
  displaced : ∀ request bus token x y, e = .start request bus →
    Started setup.enableSession (setup.service history) request bus token x →
    (setup.intents history).find? x.intentId = some y →
    Spare setup history y.owner ∨ y.owner = x.owner ∧
      bus.answer (IntentManager.statusCall x.owner (getSessionId setup.enableSession request)) = none
  /-- An intent whose launch failed can be spared. -/
  failed : ∀ reply x, e = .onLaunch reply →
    (setup.intents history).getByToken (toInt reply.responseToken) = some x →
    (getValue bool reply.payload "returnValue" false).2 = false → Spare setup history x.owner
  /-- Who leaves one bus session has no watch in another one that is not told. -/
  left : ∀ name sessionId entry other, e = .disconnect name sessionId → entry ∈ (setup.after history).live →
    entry.call = IntentManager.statusCall name sessionId → other ∈ (setup.after history).live →
    isWatch name other.call = true →
    other.call = IntentManager.statusCall name sessionId ∨
      ⟨other.token, name⟩ ∈ (setup.after history).undelivered
  /-- A notice has the token of its watch for its own message too, unless another
      one to that watch is under way. -/
  own : ∀ notice name, e = .ownerStatus notice → IntentManager.departed notice = some name →
    notice.messageToken = notice.responseToken ∨
      ⟨notice.responseToken, name⟩ ∈ (setup.after history).undelivered.erase ⟨notice.responseToken, name⟩

/-- While a notice about a name is under way each watch on it waits for one, and
    otherwise each has an intent. -/
structure Settled (history : List Event) (owner : String) : Prop where
  told : Leaving setup history owner → ∀ entry ∈ (setup.after history).live, isWatch owner entry.call = true →
    ⟨entry.token, owner⟩ ∈ (setup.after history).undelivered
  backed : ¬ Leaving setup history owner → watches setup history owner ≤ owned setup history owner

variable {setup}

/-! ## Watches after an event -/

theorem isWatch_statusCall {name owner sessionId : String} :
    isWatch owner (IntentManager.statusCall name sessionId) = true ↔ name = owner := by
  have callback : (IntentManager.statusCall name sessionId).callback = .ownerStatus := rfl
  simp [isWatch, Watches.statusCall_serviceName, callback]

theorem countP_applyEffects {effects : List Effect} {owner : String}
    (quiet : ∀ call token, .call call (some token) ∈ effects → isWatch owner call = false)
    (live : List LiveCall) :
    (effects.foldl World.applyEffect live).countP (fun entry => isWatch owner entry.call) ≤
      live.countP (fun entry => isWatch owner entry.call) := by
  induction effects generalizing live with
  | nil => exact le_refl _
  | cons effect rest ih =>
      refine (ih (fun call token member => quiet call token (List.mem_cons_of_mem _ member)) _).trans ?_
      cases effect with
      | call call answer =>
          cases answer with
          | none => exact le_refl _
          | some token =>
              have other := quiet call token List.mem_cons_self
              simp [World.applyEffect, List.countP_append, other]
      | cancel token => exact List.filter_sublist.countP_le
      | respond _ _ | post _ _ => exact le_refl _

theorem countP_receive (live : List LiveCall) (e : Event) (owner : String) :
    (World.receive live e).countP (fun entry => isWatch owner entry.call) ≤
      live.countP (fun entry => isWatch owner entry.call) := by
  cases e with
  | onLaunch reply => exact List.filter_sublist.countP_le
  | _ => exact le_refl _

/-- The event opens no watch on the name. -/
def Quiet (setup : Setup) (history : List Event) (e : Event) (owner : String) : Prop :=
  ∀ call token, .call call (some token) ∈ setup.effects history e → isWatch owner call = false

theorem watches_snoc {history : List Event} {e : Event} {owner : String}
    (quiet : Quiet setup history e owner) :
    watches setup (history ++ [e]) owner ≤ watches setup history owner := by
  rw [watches, Setup.live_snoc]
  exact (countP_applyEffects quiet _).trans (countP_receive _ e owner)

theorem live_of_quiet {history : List Event} {e : Event} {owner : String}
    (quiet : Quiet setup history e owner) {entry : LiveCall}
    (live : entry ∈ (setup.after (history ++ [e])).live) (watch : isWatch owner entry.call = true) :
    entry ∈ (setup.after history).live ∧ .cancel entry.token ∉ setup.effects history e := by
  rw [Setup.live_snoc] at live
  cases mem_applyEffects live with
  | inl old => exact ⟨mem_receive old.1, old.2⟩
  | inr made => exact absurd watch (by simp [quiet _ _ made])

theorem watch_opened {history : List Event} {e : Event} {owner : String} {call : LSCall} {watch : UInt64}
    (made : .call call (some watch) ∈ setup.effects history e) (on : isWatch owner call = true) :
    ∃ request bus token x, e = .start request bus ∧
      Started setup.enableSession (setup.service history) request bus token x ∧ x.owner = owner ∧
      bus.answer (IntentManager.statusCall x.owner (getSessionId setup.enableSession request)) =
        some watch := by
  have callback : call.callback = .ownerStatus := by
    rw [isWatch, Bool.and_eq_true, beq_iff_eq] at on
    exact on.1
  obtain ⟨request, bus, rfl⟩ := (clients_snoc setup history e).start_of_call made (.inr callback)
  have ended := start_outcome setup.enableSession bus (setup.service history) request
  have launch : ∀ {sam : Sam} {intent : Intent} {handler : Handler},
      call ≠ sam.launchCall setup.enableSession intent handler := by
    intro sam intent handler same
    rw [same] at callback
    cases callback
  change .call call (some watch) ∈
    (IntentManager.start setup.enableSession bus (setup.service history) request).2 at made
  generalize (IntentManager.start setup.enableSession bus (setup.service history) request).1 = after at ended
  generalize (IntentManager.start setup.enableSession bus (setup.service history) request).2 = effects
    at ended made
  cases ended with
  | refused target => simp [IntentManager.done] at made
  | rejected target answer => simp [IntentManager.done] at made
  | sentinel target answer code => simp [IntentManager.done, launch] at made
  | started target answer code record =>
      simp only [IntentManager.subscribeStatus, IntentManager.done, List.mem_cons, Effect.call.injEq, launch,
        false_and, false_or, reduceCtorEq, List.not_mem_nil, or_false] at made
      obtain ⟨rfl, accepted⟩ := made
      have start : Started setup.enableSession (setup.service history) request bus _ _ :=
        ⟨target, answer, code, record⟩
      refine ⟨request, bus, _, _, rfl, start, ?_, ?_⟩
      · rw [start.owner_eq]
        exact isWatch_statusCall.mp on
      · rw [start.owner_eq]
        exact accepted.symm

theorem leaving_before {history : List Event} {e : Event} {owner : String}
    (stayed : ∀ sessionId, e ≠ .disconnect owner sessionId) (leaving : Leaving setup (history ++ [e]) owner) :
    Leaving setup history owner := by
  obtain ⟨notice, sent, rfl⟩ := leaving
  cases Departure.notice_older sent with
  | inl before => exact ⟨notice, before, rfl⟩
  | inr left =>
      obtain ⟨sessionId, same⟩ := left
      exact absurd same (stayed sessionId)

theorem told_snoc {history : List Event} {e : Event} {entry : LiveCall} {owner : String}
    (live : entry ∈ (setup.after (history ++ [e])).live)
    (sent : ⟨entry.token, owner⟩ ∈
      World.exchange (setup.after history).live (setup.after history).undelivered e) :
    ⟨entry.token, owner⟩ ∈ (setup.after (history ++ [e])).undelivered := by
  rw [Departure.undelivered_snoc]
  exact List.mem_filter.mpr ⟨sent, List.any_eq_true.mpr ⟨entry, live, by simp⟩⟩

/-! ## One event -/

/-- An event that opens no watch on a name keeps it settled if the notices stay
    with their watches, and enough intents with the owner. -/
theorem Settled.quiet {history : List Event} {e : Event} {owner : String}
    (settled : Settled setup history owner) (quiet : Quiet setup history e owner)
    (older : Leaving setup (history ++ [e]) owner → Leaving setup history owner)
    (kept : ∀ token : UInt64, .cancel token ∉ setup.effects history e →
      ⟨token, owner⟩ ∈ (setup.after history).undelivered →
      ⟨token, owner⟩ ∈ World.exchange (setup.after history).live (setup.after history).undelivered e)
    (enough : ¬ Leaving setup history owner →
      watches setup history owner ≤ owned setup (history ++ [e]) owner) :
    Settled setup (history ++ [e]) owner := by
  have told : Leaving setup history owner → ∀ entry ∈ (setup.after (history ++ [e])).live,
      isWatch owner entry.call = true →
        ⟨entry.token, owner⟩ ∈ (setup.after (history ++ [e])).undelivered := by
    intro leaving entry live watch
    obtain ⟨before, uncancelled⟩ := live_of_quiet quiet live watch
    exact told_snoc live (kept entry.token uncancelled (settled.told leaving entry before watch))
  refine ⟨fun leaving => told (older leaving), fun stays => ?_⟩
  by_cases leaving : Leaving setup history owner
  · -- a watch that is left would wait for a notice
    have none : watches setup (history ++ [e]) owner = 0 := by
      refine List.countP_eq_zero.mpr (fun entry live watch => ?_)
      exact stays ⟨_, told leaving entry live watch, rfl⟩
    omega
  · exact (watches_snoc quiet).trans (enough leaving)

section Start

variable {history : List Event} {request : Message} {bus : Bus} {token : UInt64} {x : Intent}

theorem owned_started (start : Started setup.enableSession (setup.service history) request bus token x)
    (owner : String) :
    owned setup (history ++ [.start request bus]) owner =
      ((setup.intents history).erase x.intentId).count (fun y => y.owner == owner) +
        if x.owner = owner then 1 else 0 := by
  rw [owned, intents_started start, Intents.add, OrderedMap.count_insert]
  simp

theorem owned_le_erase (owner : String) (i : Int) :
    owned setup history owner ≤ ((setup.intents history).erase i).count (fun y => y.owner == owner) + 1 := by
  cases found : (setup.intents history).find? i with
  | none =>
      rw [OrderedMap.erase_eq_self found, ← owned]
      omega
  | some y =>
      have counted := OrderedMap.count_erase found (fun y => y.owner == owner)
      rw [← owned] at counted
      split at counted <;> omega

/-- It costs nothing that the watches need if nobody loses an intent that is not spare. -/
theorem erase_owned_le {owner : String} {i : Int}
    (spare : ∀ y, (setup.intents history).find? i = some y → y.owner = owner →
      watches setup history owner < owned setup history owner)
    (backed : watches setup history owner ≤ owned setup history owner) :
    watches setup history owner ≤ ((setup.intents history).erase i).count (fun y => y.owner == owner) := by
  cases found : (setup.intents history).find? i with
  | none => rwa [OrderedMap.erase_eq_self found]
  | some y =>
      have counted := OrderedMap.count_erase found (fun y => y.owner == owner)
      rw [← owned] at counted
      by_cases own : y.owner = owner
      · have fewer := spare y found own
        simp only [own, beq_self_eq_true, if_true] at counted
        omega
      · simp only [beq_eq_false_iff_ne.mpr own, Bool.false_eq_true, if_false] at counted
        omega

theorem watches_started (start : Started setup.enableSession (setup.service history) request bus token x)
    (owner : String) :
    watches setup (history ++ [.start request bus]) owner ≤ watches setup history owner + 1 := by
  obtain ⟨launch, payload, callback, effects⟩ := effects_started start
  have other : isWatch owner launch = false := by
    rw [isWatch, callback]
    rfl
  rw [watches, watches, Setup.live_snoc, effects, IntentManager.subscribeStatus]
  cases bus.answer (IntentManager.statusCall x.owner (getSessionId setup.enableSession request)) with
  | none => simp [World.applyEffect, World.receive, List.countP_append, other]
  | some watch =>
      simp only [List.foldl, World.applyEffect, World.receive, List.countP_append, List.countP_singleton,
        other, Bool.false_eq_true, if_false, add_zero]
      split <;> omega

theorem Orderly.spare (orderly : Orderly setup history (.start request bus))
    (start : Started setup.enableSession (setup.service history) request bus token x) {owner : String}
    (stays : ¬ Leaving setup history owner) (lost : ¬ (x.owner = owner ∧
      bus.answer (IntentManager.statusCall x.owner (getSessionId setup.enableSession request)) = none))
    {y : Intent} (stored : (setup.intents history).find? x.intentId = some y) (own : y.owner = owner) :
    watches setup history owner < owned setup history owner := by
  cases orderly.displaced _ _ _ _ y rfl start stored with
  | inl spare => exact own ▸ spare.resolve_left (own ▸ stays)
  | inr unwatched => exact absurd ⟨unwatched.1.symm.trans own, unwatched.2⟩ lost

/-- A `start` that opens no watch on the name may take an id, but then stores an intent. -/
theorem settled_unwatched (orderly : Orderly setup history (.start request bus)) {owner : String}
    (quiet : Quiet setup history (.start request bus) owner) (settled : Settled setup history owner) :
    Settled setup (history ++ [.start request bus]) owner := by
  refine settled.quiet quiet (leaving_before (fun _ => nofun)) (fun token _ sent => sent) (fun stays => ?_)
  have backed := settled.backed stays
  have change := change_snoc setup history (.start request bus)
  generalize next : setup.intents (history ++ [.start request bus]) = after at change
  generalize posts _ = posted at change
  cases change with
  | same =>
      rw [owned, next]
      exact backed
  | started start =>
      rename_i token x
      have added := owned_started start owner
      by_cases replaced : x.owner = owner ∧
          bus.answer (IntentManager.statusCall x.owner (getSessionId setup.enableSession request)) = none
      · have lost := @owned_le_erase setup history owner x.intentId
        rw [if_pos replaced.1] at added
        omega
      · have left := erase_owned_le (i := x.intentId)
          (fun y stored own => orderly.spare start stays replaced stored own) backed
        omega

/-- A `start` that opens a watch on the name stores an intent of that owner with it. -/
theorem settled_watched (orderly : Orderly setup history (.start request bus)) {call : LSCall}
    {watch : UInt64} {owner : String}
    (made : .call call (some watch) ∈ setup.effects history (.start request bus))
    (on : isWatch owner call = true) (settled : Settled setup history owner) :
    Settled setup (history ++ [.start request bus]) owner := by
  obtain ⟨_, _, token, x, started, start, rfl, accepted⟩ := watch_opened made on
  cases started
  have stays := orderly.settled _ _ _ _ _ rfl start accepted
  refine ⟨fun leaving => absurd (leaving_before (by simp) leaving) stays, fun _ => ?_⟩
  have left := erase_owned_le (i := x.intentId)
    (fun y stored own => orderly.spare start stays (by simp [accepted]) stored own) (settled.backed stays)
  have added := owned_started start x.owner
  have one := watches_started start x.owner
  rw [if_pos rfl] at added
  omega

theorem settled_start (orderly : Orderly setup history (.start request bus)) {owner : String}
    (settled : Settled setup history owner) : Settled setup (history ++ [.start request bus]) owner := by
  by_cases quiet : Quiet setup history (.start request bus) owner
  · exact settled_unwatched orderly quiet settled
  · simp only [Quiet, not_forall, Bool.not_eq_false, exists_prop] at quiet
    obtain ⟨call, watch, made, on⟩ := quiet
    exact settled_watched orderly made on settled

end Start

section Others

variable {history : List Event} {owner : String}

theorem quiet_of_other {e : Event} (other : ∀ request bus, e ≠ .start request bus) :
    Quiet setup history e owner := by
  intro call watch made
  by_contra on
  obtain ⟨request, bus, _, _, same, _⟩ := watch_opened made (Bool.not_eq_false _ ▸ on)
  exact other request bus same

theorem settled_failed {reply : Message} (orderly : Orderly setup history (.onLaunch reply))
    (settled : Settled setup history owner) : Settled setup (history ++ [.onLaunch reply]) owner := by
  refine settled.quiet (quiet_of_other (fun _ _ => nofun)) (leaving_before (fun _ => nofun))
    (fun token _ sent => sent) (fun stays => ?_)
  have backed := settled.backed stays
  have change := change_snoc setup history (.onLaunch reply)
  generalize next : setup.intents (history ++ [.onLaunch reply]) = after at change
  generalize posts _ = posted at change
  cases change with
  | same =>
      rw [owned, next]
      exact backed
  | failed found failure =>
      rename_i x
      rw [owned, next]
      refine erase_owned_le (fun y stored own => ?_) backed
      obtain ⟨i, kept, _⟩ := Intents.getByToken_mem found
      rw [← (stored_origin setup history kept).1] at kept
      cases kept.symm.trans stored
      exact own ▸ (orderly.failed reply _ rfl found failure).resolve_left (own ▸ stays)

theorem settled_departed {notice : Message} (announced : Announced setup history (.ownerStatus notice))
    (orderly : Orderly setup history (.ownerStatus notice)) (settled : Settled setup history owner) :
    Settled setup (history ++ [.ownerStatus notice]) owner := by
  cases left : IntentManager.departed notice with
  | none =>
      refine settled.quiet (quiet_of_other (fun _ _ => nofun)) (leaving_before (fun _ => nofun))
        (fun token _ sent => ?_) (fun stays => ?_)
      · rwa [World.exchange, left]
      · have same : setup.intents (history ++ [.ownerStatus notice]) = setup.intents history := by
          rw [Setup.intents, Setup.service_snoc, Service.dispatch, IntentManager.onServerStatusChanged, left]
          rfl
        rw [owned, same]
        exact settled.backed stays
  | some name =>
      have sent := announced notice name rfl left
      have effects := effects_of_cancels setup history ⟨notice, name, rfl, left, rfl⟩
      refine settled.quiet (quiet_of_other (fun _ _ => nofun)) (leaving_before (fun _ => nofun))
        (fun token uncancelled told => ?_) (fun stays => ?_)
      · rw [World.exchange, left]
        by_cases same : (⟨token, owner⟩ : Notice) = ⟨notice.responseToken, name⟩
        · cases same
          refine (orderly.own notice _ rfl left).resolve_left ?_
          intro own
          rw [effects, own] at uncancelled
          exact uncancelled List.mem_cons_self
        · exact (List.mem_erase_of_ne same).mpr told
      · have other : owner ≠ name := by
          rintro rfl
          exact stays ⟨_, sent, rfl⟩
        rw [owned, Watches.ownerStatus_snoc left, Intents.removeByOwner, OrderedMap.count_filter]
        · exact settled.backed stays
        · intro i x _ mine
          simpa using fun same => other ((beq_iff_eq.mp mine).symm.trans same)

theorem owned_other {e : Event} (started : ∀ request bus, e ≠ .start request bus)
    (answered : ∀ reply, e ≠ .onLaunch reply) (noticed : ∀ notice, e ≠ .ownerStatus notice) :
    owned setup (history ++ [e]) owner = owned setup history owner := by
  have change := change_snoc setup history e
  unfold owned
  generalize setup.intents (history ++ [e]) = after at change ⊢
  generalize posts _ = posted at change
  cases change with
  | same => rfl
  | answered => rfl
  | joined named stored subscription =>
      have counted := OrderedMap.count_erase stored (fun y => y.owner == owner)
      rw [OrderedMap.count_insert]
      exact counted.symm
  | started => exact absurd rfl (started _ _)
  | failed => exact absurd rfl (answered _)
  | departed => exact absurd rfl (noticed _)

theorem exchange_disconnect {name sessionId : String} {notice : Notice}
    (sent : notice ∈ (setup.after history).undelivered) :
    notice ∈ World.exchange (setup.after history).live (setup.after history).undelivered
      (.disconnect name sessionId) :=
  List.mem_append_left _ sent

theorem told_left {sessionId : String} (orderly : Orderly setup history (.disconnect owner sessionId))
    {entry other : LiveCall} (live : entry ∈ (setup.after history).live)
    (watch : entry.call = IntentManager.statusCall owner sessionId)
    (now : other ∈ (setup.after (history ++ [.disconnect owner sessionId])).live)
    (on : isWatch owner other.call = true) :
    ⟨other.token, owner⟩ ∈ (setup.after (history ++ [.disconnect owner sessionId])).undelivered := by
  have before := (live_of_quiet (quiet_of_other (by simp)) now on).1
  refine told_snoc now ?_
  cases orderly.left owner sessionId entry other rfl live watch before on with
  | inl same =>
      refine List.mem_append_right _ (List.mem_map.mpr ⟨other, ?_, rfl⟩)
      exact List.mem_filter.mpr ⟨before, by simpa using same⟩
  | inr sent => exact exchange_disconnect sent

theorem settled_left {name sessionId : String} (orderly : Orderly setup history (.disconnect name sessionId))
    (settled : Settled setup history owner) :
    Settled setup (history ++ [.disconnect name sessionId]) owner := by
  by_cases leaves : owner = name ∧ ∃ entry ∈ (setup.after history).live,
      entry.call = IntentManager.statusCall name sessionId
  · obtain ⟨rfl, entry, live, watch⟩ := leaves
    have stillLive : entry ∈ (setup.after (history ++ [.disconnect owner sessionId])).live := by
      rw [Setup.live_snoc]
      exact live
    have leaving := told_left orderly live watch stillLive (by rw [watch]; exact isWatch_statusCall.mpr rfl)
    refine ⟨fun _ other now on => told_left orderly live watch now on, fun stays => ?_⟩
    exact absurd ⟨_, leaving, rfl⟩ stays
  · refine settled.quiet (quiet_of_other (fun _ _ => nofun)) ?_ (fun _ _ sent => exchange_disconnect sent) ?_
    · intro leaving
      obtain ⟨notice, sent, rfl⟩ := leaving
      rw [Departure.undelivered_snoc] at sent
      cases List.mem_append.mp (List.mem_filter.mp sent).1 with
      | inl before => exact ⟨notice, before, rfl⟩
      | inr new =>
          obtain ⟨entry, mem, rfl⟩ := List.mem_map.mp new
          obtain ⟨live, watch⟩ := List.mem_filter.mp mem
          exact absurd ⟨rfl, entry, live, by simpa using watch⟩ leaves
    · intro stays
      rw [owned_other (by simp) (by simp) (by simp)]
      exact settled.backed stays

end Others

theorem settled_step {history : List Event} {e : Event} (announced : Announced setup history e)
    (orderly : Orderly setup history e) {owner : String} (settled : Settled setup history owner) :
    Settled setup (history ++ [e]) owner := by
  cases e with
  | start request bus => exact settled_start orderly settled
  | onLaunch reply => exact settled_failed orderly settled
  | ownerStatus notice => exact settled_departed announced orderly settled
  | disconnect name sessionId => exact settled_left orderly settled
  | query | sendResult | subscribeResult | accountStatus | samStatus | onGetSessions | onListApps =>
      refine settled.quiet (quiet_of_other (fun _ _ => nofun)) (leaving_before (fun _ => nofun))
        (fun token _ sent => sent) (fun stays => ?_)
      rw [owned_other (by simp) (by simp) (by simp)]
      exact settled.backed stays

/-! ## Runs -/

variable (setup)

theorem settled_nil (owner : String) : Settled setup [] owner := by
  have none : watches setup [] owner = 0 := by
    refine List.countP_eq_zero.mpr (fun entry live watch => ?_)
    obtain ⟨call, answer, initial, other⟩ := Watches.initialEffects_eq setup
    have made := mem_applyEffects_nil live
    change _ ∈ Watches.initialEffects setup at made
    rw [initial] at made
    cases List.mem_singleton.mp made
    rw [isWatch, Bool.and_eq_true, beq_iff_eq] at watch
    exact other (.inr watch.1)
  refine ⟨fun leaving => ?_, fun _ => by omega⟩
  obtain ⟨_, sent, _⟩ := leaving
  cases sent

/-- Along a run that is orderly throughout, no watch is left without an intent. -/
theorem orderly_backed (history : List Event) (announced : Historically (Announced setup) history)
    (orderly : Historically (Orderly setup) history) :
    ∀ pre post, history = pre ++ post → Backed setup pre := by
  intro pre post split
  subst split
  have settled : ∀ owner, Settled setup pre owner :=
    invariant (fun pre => ∀ owner, Settled setup pre owner) (settled_nil setup)
      (fun _ _ _ last held owner => settled_step last.1 last.2 (held owner))
      (announced.of_append.and orderly.of_append)
  exact fun owner => (settled owner).backed

theorem orderly_of_other {history : List Event} {e : Event} (started : ∀ request bus, e ≠ .start request bus)
    (answered : ∀ reply, e ≠ .onLaunch reply) (left : ∀ name sessionId, e ≠ .disconnect name sessionId)
    (noticed : ∀ notice, e ≠ .ownerStatus notice) : Orderly setup history e where
  settled request bus _ _ _ same := absurd same (started request bus)
  displaced request bus _ _ _ same := absurd same (started request bus)
  failed reply _ same := absurd same (answered reply)
  left name sessionId _ _ same := absurd same (left name sessionId)
  own notice _ same := absurd same (noticed notice)

variable {setup}

theorem orderly_start {history : List Event} {request : Message} {bus : Bus}
    (quiet : (setup.after history).undelivered = []) (empty : setup.intents history = ∅) :
    Orderly setup history (.start request bus) where
  settled _ _ _ _ _ _ _ _ := by simp [Leaving, quiet]
  displaced _ _ _ _ _ _ _ stored := by simp [empty] at stored
  failed _ _ same := nomatch same
  left _ _ _ _ same := nomatch same
  own _ _ same := nomatch same

theorem orderly_disconnect {history : List Event} {name sessionId : String}
    (watches : ∀ other ∈ (setup.after history).live, isWatch name other.call = true →
      other.call = IntentManager.statusCall name sessionId) :
    Orderly setup history (.disconnect name sessionId) where
  settled _ _ _ _ _ same := nomatch same
  displaced _ _ _ _ _ same := nomatch same
  failed _ _ same := nomatch same
  left _ _ _ other same _ _ live on := by
    cases same
    exact .inl (watches other live on)
  own _ _ same := nomatch same

theorem orderly_notice {history : List Event} {notice : Message}
    (own : notice.messageToken = notice.responseToken) : Orderly setup history (.ownerStatus notice) where
  settled _ _ _ _ _ same := nomatch same
  displaced _ _ _ _ _ same := nomatch same
  failed _ _ same := nomatch same
  left _ _ _ _ same := nomatch same
  own _ _ same _ := by
    cases same
    exact .inl own

/-- A client starts an intent and leaves: the notice comes on watch 20. -/
def clientLeaves (messageToken : UInt64) : List Event :=
  [Sample.up, Sample.listed, Sample.start 1 "client" 10 20 Sample.first_tokens, .disconnect "client" "",
    .ownerStatus (Notice.message ⟨20, "client"⟩ messageToken)]

theorem clientLeaves_announced (messageToken : UInt64) :
    Historically (Announced Sample.host) (clientLeaves messageToken) := by
  simp only [clientLeaves, historically_cons, historically_nil, and_true]
  refine ⟨by simp [Announced, Sample.up], by simp [Announced, Sample.listed],
    by simp [Announced, Sample.start], by simp [Announced], ?_⟩
  rintro notice name ⟨⟩ ⟨⟩
  exact (by decide : ⟨20, "client"⟩ ∈ (Sample.host.after [Sample.up, Sample.listed,
    Sample.start 1 "client" 10 20 Sample.first_tokens, .disconnect "client" ""]).undelivered)

theorem clientLeaves_backed : Backed Sample.host (clientLeaves 20) := by
  refine orderly_backed Sample.host (clientLeaves 20) (clientLeaves_announced 20) ?_ (clientLeaves 20) []
    (List.append_nil _).symm
  have told : ∀ other ∈ (Sample.host.after [Sample.up, Sample.listed,
      Sample.start 1 "client" 10 20 Sample.first_tokens]).live,
      isWatch "client" other.call = true → other.call = IntentManager.statusCall "client" "" := by
    decide
  have own : Orderly Sample.host (clientLeaves 20).dropLast
      (.ownerStatus (Notice.message ⟨20, "client"⟩ 20)) :=
    orderly_notice rfl
  simp only [clientLeaves, historically_cons, historically_nil, and_true]
  exact ⟨orderly_of_other _ (by simp [Sample.up]) (by simp [Sample.up]) (by simp [Sample.up])
    (by simp [Sample.up]),
    orderly_of_other _ (by simp [Sample.listed]) (by simp [Sample.listed]) (by simp [Sample.listed])
      (by simp [Sample.listed]),
    orderly_start rfl rfl, orderly_disconnect told, own⟩

-- with another token the notice leaves the watch open, and its intent is gone
example : (Sample.host.after (clientLeaves 77)).undelivered = [] ∧
    owned Sample.host (clientLeaves 77) "client" = 0 ∧
      watches Sample.host (clientLeaves 77) "client" = 1 := by
  decide

/-- The launch of an intent fails, and the watch on its owner stays. -/
theorem failed_launch_leaks :
    let run := [Sample.up, Sample.listed, Sample.start 1 "client" 10 20 Sample.first_tokens,
      .onLaunch { payload := .object [("returnValue", .bool false)], responseToken := 10 }]
    Historically (Announced Sample.host) run ∧ ¬ ∀ pre post, run = pre ++ post → Backed Sample.host pre := by
  constructor
  · simp only [historically_cons, historically_nil, and_true]
    exact ⟨by simp [Announced, Sample.up], by simp [Announced, Sample.listed],
      by simp [Announced, Sample.start], by simp [Announced]⟩
  · intro backed
    refine absurd (backed _ [] (List.append_nil _).symm "client" ?_) (by decide)
    intro leaving
    obtain ⟨_, sent, _⟩ := leaving
    cases sent

end IntentService.Leaks
