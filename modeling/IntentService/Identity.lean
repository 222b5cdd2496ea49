import IntentService.Origin

/-! # The identity of intents

An intent keeps its id to itself as long as every accepted `start` chooses an
id that is free. Nothing in `Intents::add` checks that: the payload may name the
id of a stored intent, and the counter may arrive at one.
-/

namespace IntentService.Identity

open History JValueUtil

/-- What a stored intent leaves the store for: its launch failed, or its owner left. -/
def RemovalCause (x : Intent) : Event → Prop
  | .onLaunch reply =>
      (getValue bool reply.payload "returnValue" false).2 = false ∧ x.token = toInt reply.responseToken
  | .ownerStatus notice => IntentManager.departed notice = some x.owner
  | _ => False

variable (setup : Setup)

/-- The event removes the intent that is this object. -/
def Removes (object : Nat) (history : List Event) (e : Event) : Prop :=
  ∃ i x, (setup.intents history).find? i = some x ∧ x.object = object ∧ RemovalCause x e ∧
    (setup.intents (history ++ [e])).find? i = none

/-- The event is a `start` that is answered with success and the id. -/
def HandsOut (i : Int) (history : List Event) (e : Event) : Prop :=
  ∃ request bus payload, e = .start request bus ∧ .respond request.id payload ∈ setup.effects history e ∧
    payload.get "returnValue" = .bool true ∧ payload.get "intentId" = .number i

/-- One event leaves the intents their identity. -/
structure KeepsIntents (history : List Event) (e : Event) : Prop where
  /-- The id of a new intent was not in use. -/
  fresh : ∀ request bus token x, e = .start request bus →
    Started setup.enableSession (setup.service history) request bus token x →
      (setup.intents history).find? x.intentId = none
  /-- A stored intent stays, with its subscribers, or leaves for one of the two causes. -/
  kept : ∀ i x, (setup.intents history).find? i = some x →
    (∃ y, (setup.intents (history ++ [e])).find? i = some y ∧ Grown x y) ∨
      (setup.intents (history ++ [e])).find? i = none ∧ RemovalCause x e
  /-- No reply hands out the id of an earlier intent that was not removed. -/
  distinct : ∀ before request bus since i, history = before ++ .start request bus :: since →
    HandsOut setup i before (.start request bus) →
      Historically (fun mid => (¬ Removes setup (setup.service before).objects
        (before ++ .start request bus :: mid) ·)) since →
        ¬ HandsOut setup i history e

/-- A `start` that gets as far as the store chooses an id that is no key of it. -/
def IdFree (history : List Event) (e : Event) : Prop :=
  ∀ request bus session intent handler token, e = .start request bus →
    IntentManager.startTarget setup.enableSession (setup.service history) request =
      .ok (session, intent, handler) →
    bus.answer (session.sam.launchCall setup.enableSession intent handler) = some token →
    toInt token ≠ -1 →
    (setup.intents history).find?
      (chosenId (setup.service history).counter (request.payload.get "intent")) = none

/-! ## The id a reply hands out -/

theorem handsOut_start {history : List Event} {request : Message} {bus : Bus} {i : Int} :
    HandsOut setup i history (.start request bus) ↔
      ∃ token x, Started setup.enableSession (setup.service history) request bus token x ∧
        x.intentId = i := by
  constructor
  · rintro ⟨_, _, payload, ⟨⟩, reply, success, handed⟩
    rcases (start_outcome setup.enableSession bus (setup.service history) request).reply reply with
      ⟨errorText, refused, _⟩ | ⟨token, x, intent, start, key, replied⟩
    · rw [done_empty_get refused (by decide)] at handed
      cases handed
    · rw [replied, JValue.get_put (startedReply_isObject _ _ _), if_neg (by decide),
        startedReply_intentId, key] at handed
      exact ⟨token, x, start, by exact_mod_cast JValue.number.inj handed⟩
  · rintro ⟨token, x, start, rfl⟩
    obtain ⟨call, intent, _, key, same⟩ := start.start_eq
    refine ⟨request, bus, (IntentManager.startedReply request
      (IntentManager.requestSession setup.enableSession request) intent).put "returnValue" (.bool true),
      rfl, ?_, ?_, ?_⟩
    · rw [Setup.effects, Service.dispatch, same]
      simp
    · rw [JValue.get_put (startedReply_isObject _ _ _), if_pos rfl]
    · rw [JValue.get_put (startedReply_isObject _ _ _), if_neg (by decide), startedReply_intentId, key]

/-! ## While the chosen ids are free -/

variable {setup}

theorem IdFree.of_started {history : List Event} {request : Message} {bus : Bus} {token : UInt64}
    {x : Intent} (free : IdFree setup history (.start request bus))
    (start : Started setup.enableSession (setup.service history) request bus token x) :
    (setup.intents history).find? x.intentId = none := by
  rw [start.intentId_eq]
  obtain ⟨target, answer, code, _⟩ := start
  exact free request bus _ _ _ _ rfl target answer code

theorem kept_of_idFree {history : List Event} {e : Event} (free : IdFree setup history e) {i : Int}
    {x : Intent} (stored : (setup.intents history).find? i = some x) :
    (∃ y, (setup.intents (history ++ [e])).find? i = some y ∧ Grown x y) ∨
      (setup.intents (history ++ [e])).find? i = none ∧ RemovalCause x e := by
  generalize next : setup.intents (history ++ [e]) = after
  have change := change_snoc setup history e
  rw [next] at change
  generalize posts (setup.effects history e) = posted at change
  cases change with
  | same => exact .inl ⟨x, stored, .refl x⟩
  | started start =>
      refine .inl ⟨x, ?_, .refl x⟩
      rw [Intents.add, OrderedMap.find?_insert_of_ne _ _ ?_]
      · exact stored
      · rintro rfl
        cases stored.symm.trans (free.of_started start)
  | joined named found subscription =>
      rw [OrderedMap.find?_insert]
      split
      next key =>
        subst key
        cases stored.symm.trans found
        exact .inl ⟨_, rfl, .addSubscriber _ _⟩
      next => exact .inl ⟨x, stored, .refl x⟩
  | answered => exact .inl ⟨x, stored, .refl x⟩
  | failed found failure =>
      obtain ⟨j, kept, token⟩ := Intents.getByToken_mem found
      have key := (stored_origin setup history kept).1
      rw [OrderedMap.find?_erase]
      split
      next same =>
        rw [same, key] at stored
        cases stored.symm.trans kept
        exact .inr ⟨rfl, failure, token⟩
      next => exact .inl ⟨x, stored, .refl x⟩
  | departed left =>
      rename_i notice name
      by_cases own : x.owner = name
      · subst own
        exact .inr ⟨Intents.removeByOwner_owner stored, left⟩
      · exact .inl ⟨x, (Intents.find?_removeByOwner _ _ _ _).mpr ⟨stored, own⟩, .refl x⟩

theorem stored_of_not_removed {before : List Event} {request : Message} {bus : Bus} {token : UInt64}
    {x : Intent} (start : Started setup.enableSession (setup.service before) request bus token x)
    (since : List Event) (free : Historically (IdFree setup) (before ++ .start request bus :: since))
    (kept : Historically (fun mid => (¬ Removes setup (setup.service before).objects
      (before ++ .start request bus :: mid) ·)) since) :
    ∃ y, (setup.intents (before ++ .start request bus :: since)).find? x.intentId = some y ∧ Grown x y := by
  induction since using List.reverseRecOn with
  | nil =>
      exact ⟨x, stored_started start, .refl x⟩
  | append_singleton since e ih =>
      have regroup : before ++ .start request bus :: (since ++ [e]) =
          (before ++ .start request bus :: since) ++ [e] := by simp
      rw [regroup] at free ⊢
      obtain ⟨freeBefore, freeLast⟩ := historically_snoc.mp free
      obtain ⟨keptBefore, keptLast⟩ := historically_snoc.mp kept
      obtain ⟨y, stored, grown⟩ := ih freeBefore keptBefore
      rcases kept_of_idFree freeLast stored with ⟨z, still, more⟩ | ⟨gone, cause⟩
      · exact ⟨z, still, grown.trans more⟩
      · exact absurd ⟨_, y, stored, grown.object_eq.trans start.object_eq, cause, gone⟩ keptLast

theorem keepsIntents_of_idFree {history : List Event} {e : Event}
    (earlier : Historically (IdFree setup) history) (free : IdFree setup history e) :
    KeepsIntents setup history e where
  fresh := by
    rintro request bus token x rfl start
    exact free.of_started start
  kept := fun i x stored => kept_of_idFree free stored
  distinct := by
    rintro before request bus since i rfl handed kept ⟨request', bus', payload, rfl, reply⟩
    obtain ⟨token, x, start, rfl⟩ := (handsOut_start setup).mp handed
    obtain ⟨token', x', start', key⟩ := (handsOut_start setup).mp ⟨request', bus', payload, rfl, reply⟩
    obtain ⟨y, stored, _⟩ := stored_of_not_removed start since earlier kept
    have unused := free.of_started start'
    rw [key] at unused
    cases unused.symm.trans stored

theorem idFree_of_keepsIntents {history : List Event} {e : Event} (keeps : KeepsIntents setup history e) :
    IdFree setup history e := by
  rintro request bus session intent handler token rfl target answer code
  have start : Started setup.enableSession (setup.service history) request bus token _ :=
    ⟨target, answer, code, rfl⟩
  rw [← start.intentId_eq]
  exact keeps.fresh request bus token _ rfl start

variable (setup)

/-- Intents keep their identity along exactly the runs in which every accepted
    `start` chooses an id that is no key of the store. -/
theorem intents_keep_identity_iff (history : List Event) :
    Historically (KeepsIntents setup) history ↔ Historically (IdFree setup) history :=
  historically_iff (fun _ _ earlier => ⟨idFree_of_keepsIntents, keepsIntents_of_idFree earlier⟩)

/-- The second client names the id of the first intent and takes its place. -/
theorem named_id_displaces_intent :
    ¬ Historically (KeepsIntents Sample.host)
      [Sample.up, Sample.listed,
        .start (Sample.starting 1 "first" "viewer" [("intentId", .number 5)])
          (Sample.bus 10 20 Sample.first_tokens),
        .start (Sample.starting 2 "second" "viewer" [("intentId", .number 5)])
          (Sample.bus 11 21 Sample.second_tokens)] := by
  intro keeps
  have last := keeps [_, _, _] _ [] rfl
  have absent := last.fresh _ _ 11 _ rfl ⟨rfl, rfl, by decide, rfl⟩
  exact absurd (congrArg Option.isSome absent) (by decide)

/-! ## Clients that leave the choice to the service -/

theorem nextId_wrapInt (n : Int) : Intent.nextId (wrapInt n) = wrapInt (n + 1) := by
  simp only [Intent.nextId, wrapInt, Int.bmod_add_bmod]

theorem wrapInt_injective {m n : Nat} (small : m < n) (below : n < 2 ^ 32) :
    wrapInt (m + 1) ≠ wrapInt (n + 1) := by
  intro same
  have residue := congrArg (· % ((2 ^ 32 : Nat) : Int)) same
  simp only [wrapInt, Int.bmod_emod] at residue
  omega

theorem counter_eq (history : List Event) :
    (setup.service history).counter = wrapInt (setup.service history).objects := by
  induction history using List.reverseRecOn with
  | nil =>
      have zero : (setup.service []).counter = 0 := rfl
      simp [zero, objects_eq_countP, wrapInt]
  | append_singleton history e ih =>
      obtain ⟨objects, counter⟩ := dispatch_built setup.enableSession (setup.service history) e
      rw [Setup.service_snoc, objects, counter, ih]
      split
      · rw [nextId_wrapInt, Int.natCast_succ]
      · rfl

/-- No `start` of the run names an id. -/
def Unnamed (history : List Event) : Prop :=
  ∀ request bus, .start request bus ∈ history →
    ((request.payload.get "intent").get "intentId").isNumber = false

/-- The id that the service chooses counts the intents that were built. -/
theorem chosenId_of_unnamed {history : List Event} (unnamed : Unnamed history) {request : Message} (bus : Bus)
    (member : .start request bus ∈ history) (pre : List Event) :
    chosenId (setup.service pre).counter (request.payload.get "intent") =
      wrapInt (pre.countP Event.builds + 1 : Nat) := by
  rw [chosenId, unnamed request bus member, if_neg Bool.false_ne_true, counter_eq, nextId_wrapInt,
    objects_eq_countP, Int.natCast_succ]

theorem number_ne {pre since post : List Event} {request : Message} {bus : Bus} {e : Event}
    (few : (pre ++ .start request bus :: since ++ e :: post).countP Event.builds ≤ 2 ^ 32)
    (builds : e.builds = true) :
    wrapInt (pre.countP Event.builds + 1 : Nat) ≠
      wrapInt ((pre ++ .start request bus :: since).countP Event.builds + 1 : Nat) := by
  rw [List.countP_append, List.countP_cons_of_pos builds] at few
  have more : pre.countP Event.builds < (pre ++ .start request bus :: since).countP Event.builds := by
    rw [List.countP_append, List.countP_cons_of_pos rfl]
    omega
  push_cast
  exact wrapInt_injective more (by omega)

/-- As long as no payload names an id, and no more than `2 ^ 32` intents were
    built, every chosen id is free. -/
theorem idFree_of_unnamed {history : List Event} (unnamed : Unnamed history)
    (few : history.countP Event.builds ≤ 2 ^ 32) : Historically (IdFree setup) history := by
  rintro pre e post rfl request bus session intent handler token rfl - - -
  rw [Option.eq_none_iff_forall_ne_some, chosenId_of_unnamed setup unnamed bus (by simp)]
  intro y stored
  obtain ⟨key, ⟨before, request', bus', since, token', x, rfl, start, grown⟩⟩ :=
    stored_origin setup pre stored
  rw [grown.intentId_eq, start.intentId_eq, chosenId_of_unnamed setup unnamed bus' (by simp)] at key
  exact number_ne few rfl key

/-- Clients that leave the choice to the service: the id a reply hands out is the
    number of the request, it was never handed out before, and every stored
    intent keeps its identity. -/
theorem unnamed_ids_unique (history : List Event) (unnamed : Unnamed history)
    (few : history.countP Event.builds ≤ 2 ^ 32) :
    Historically (fun pre e => KeepsIntents setup pre e ∧
      ∀ i, HandsOut setup i pre e →
        i = wrapInt (pre.countP Event.builds + 1 : Nat) ∧ ¬ Once (HandsOut setup i) pre) history := by
  have free := idFree_of_unnamed setup unnamed few
  rintro pre e post rfl
  refine ⟨keepsIntents_of_idFree free.of_append free.at, ?_⟩
  have number : ∀ before request bus i, .start request bus ∈ pre ++ e :: post →
      HandsOut setup i before (.start request bus) → i = wrapInt (before.countP Event.builds + 1 : Nat) := by
    intro before request bus i member handed
    obtain ⟨token, x, start, rfl⟩ := (handsOut_start setup).mp handed
    rw [start.intentId_eq, chosenId_of_unnamed setup unnamed bus member]
  intro i handed
  obtain ⟨request, bus, _, rfl, _⟩ := id handed
  have own := number pre request bus i (by simp) handed
  refine ⟨own, ?_⟩
  rintro ⟨before, earlier, since, rfl, handed'⟩
  obtain ⟨request', bus', _, rfl, _⟩ := id handed'
  have other := number before request' bus' i (by simp) handed'
  exact number_ne few rfl (other.symm.trans own)

/-- Two clients start the viewer of the host. -/
def twoStarts : List Event :=
  [Sample.up, Sample.listed, Sample.start 1 "first" 10 20 Sample.first_tokens,
    Sample.start 2 "second" 11 21 Sample.second_tokens]

theorem twoStarts_ids_unique :
    Historically (fun pre e => KeepsIntents Sample.host pre e ∧
      ∀ i, HandsOut Sample.host i pre e →
        i = wrapInt (pre.countP Event.builds + 1 : Nat) ∧ ¬ Once (HandsOut Sample.host i) pre) twoStarts := by
  refine unnamed_ids_unique Sample.host twoStarts (fun request bus member => ?_) (by decide)
  simp only [twoStarts, Sample.up, Sample.listed, Sample.start, List.mem_cons, List.not_mem_nil, or_false,
    reduceCtorEq, false_or, Event.start.injEq] at member
  rcases member with ⟨rfl, _⟩ | ⟨rfl, _⟩ <;> rfl

end IntentService.Identity
