import IntentService.Origin
import IntentService.Sessions

/-! # Who is told what

Launch replies find their intent by token and remove it by id; results find
theirs by id. Both reach exactly the subscribers of one intent, because a stored
intent is kept under its own id, tokens of accepted launches differ as `int`s,
and a request joins one object only.
-/

namespace IntentService.Delivery

open History JValueUtil

variable (setup : Setup)

/-! ## Launch tokens -/

/-- The event makes a launch call that the bus accepts with the token. -/
def Launches (token : UInt64) (history : List Event) (e : Event) : Prop :=
  ∃ call, .call call (some token) ∈ setup.effects history e ∧ call.callback = .onLaunch

/-- What the bus does for launch calls: the tokens of accepted calls differ as
    `int`s, and a reply carries an object and the token of such a call. -/
structure LaunchBus (history : List Event) (e : Event) : Prop where
  distinct : ∀ token other, Launches setup token history e → Once (Launches setup other) history →
    toInt token ≠ toInt other
  answers : ∀ reply, e = .onLaunch reply →
    reply.payload.isObject = true ∧ Once (Launches setup reply.responseToken) history

variable {setup}

theorem launches_iff {token : UInt64} {history : List Event} {e : Event} :
    Launches setup token history e ↔
      ∃ request bus session intent handler, e = .start request bus ∧
        IntentManager.startTarget setup.enableSession (setup.service history) request =
          .ok (session, intent, handler) ∧
        bus.answer (session.sam.launchCall setup.enableSession intent handler) = some token := by
  constructor
  · rintro ⟨call, launch⟩
    obtain ⟨request, bus, session, intent, handler, rfl, target, rfl, answer⟩ :=
      (launch_iff setup).mp launch
    exact ⟨request, bus, session, intent, handler, rfl, target, answer.symm⟩
  · rintro ⟨request, bus, session, intent, handler, rfl, target, answer⟩
    exact ⟨_, (launch_iff setup).mpr ⟨request, bus, session, intent, handler, rfl, target, rfl, answer.symm⟩⟩

theorem launches_unique {token other : UInt64} {history : List Event} {e : Event}
    (first : Launches setup token history e) (second : Launches setup other history e) : token = other := by
  obtain ⟨request, bus, session, intent, handler, rfl, target, answer⟩ := launches_iff.mp first
  obtain ⟨_, _, _, _, _, same, target', answer'⟩ := launches_iff.mp second
  cases same
  cases target.symm.trans target'
  exact Option.some.inj (answer.symm.trans answer')

theorem launches_of_started {history : List Event} {request : Message} {bus : Bus} {token : UInt64}
    {x : Intent} (start : Started setup.enableSession (setup.service history) request bus token x) :
    Launches setup token history (.start request bus) := by
  obtain ⟨target, answer, _, _⟩ := start
  exact launches_iff.mpr ⟨request, bus, _, _, _, rfl, target, answer⟩

theorem launchBus_of_quiet {history : List Event} {e : Event}
    (noStart : ∀ request bus, e ≠ .start request bus)
    (noReply : ∀ reply, e ≠ .onLaunch reply) : LaunchBus setup history e where
  distinct := by
    intro token other launch _
    obtain ⟨request, bus, _, _, _, start, _⟩ := launches_iff.mp launch
    exact absurd start (noStart request bus)
  answers := fun reply same => absurd same (noReply reply)

/-- A token, read as an `int`, says which event launched with it. -/
theorem launch_position {history before since before' since' : List Event} {e e' : Event}
    {token other : UInt64} (accepted : Historically (LaunchBus setup) history)
    (split : history = before ++ e :: since) (launch : Launches setup token before e)
    (split' : history = before' ++ e' :: since') (launch' : Launches setup other before' e')
    (same : toInt token = toInt other) : before = before' ∧ e = e' ∧ token = other := by
  rcases split_cases (split.symm.trans split') with ⟨rfl, rfl, _⟩ | ⟨mid, rfl, rfl⟩ | ⟨mid, rfl, rfl⟩
  · exact ⟨rfl, rfl, launches_unique launch launch'⟩
  · have once : Once (Launches setup token) (before ++ e :: mid) := ⟨before, e, mid, rfl, launch⟩
    exact absurd same.symm ((accepted _ _ _ split').distinct other token launch' once)
  · have once : Once (Launches setup other) (before' ++ e' :: mid) := ⟨before', e', mid, rfl, launch'⟩
    exact absurd same ((accepted _ _ _ split).distinct token other launch once)

/-- A stored intent carries the token of a launch exactly if that `start` built it. -/
theorem token_eq_iff {history before since : List Event} {request : Message} {bus : Bus} {token : UInt64}
    (accepted : Historically (LaunchBus setup) history)
    (split : history = before ++ .start request bus :: since)
    (launch : Launches setup token before (.start request bus)) {i : Int} {x : Intent}
    (stored : (setup.intents history).find? i = some x) :
    x.token = toInt token ↔ x.object = (setup.service before).objects := by
  obtain ⟨_, ⟨origin⟩⟩ := stored_origin setup history stored
  have own := launches_of_started origin.start
  rw [origin.token_eq, origin.object_eq]
  constructor
  · intro same
    rw [(launch_position accepted origin.split own split launch same).1]
  · intro same
    obtain ⟨position, asked, by_, _⟩ := start_eq_of_object setup (origin.split.symm.trans split) same
    rw [← position, ← asked, ← by_] at launch
    rw [launches_unique own launch]

/-! ## Launch replies -/

variable (setup)

/-- A launch reply does what it should to the intent that is this object. -/
structure Hit (history : List Event) (reply : Message) (object : Nat) : Prop where
  /-- A success changes nothing and is posted to nobody. -/
  success : (getValue bool reply.payload "returnValue" false).2 = true →
    setup.intents (history ++ [.onLaunch reply]) = setup.intents history ∧
      posts (setup.effects history (.onLaunch reply)) = []
  /-- A failure removes the intent and is posted to its subscribers. -/
  failure : (getValue bool reply.payload "returnValue" false).2 = false →
    ∀ i x, (setup.intents history).find? i = some x → x.object = object →
      (∀ j, (setup.intents (history ++ [.onLaunch reply])).find? j =
        if j = i then none else (setup.intents history).find? j) ∧
      posts (setup.effects history (.onLaunch reply)) = [⟨x.subscribers, Sam.launchFailure reply x⟩] ∧
      (Sam.launchFailure reply x).get "intentId" = .number i
  /-- Unless the intent is no longer stored. -/
  late : (getValue bool reply.payload "returnValue" false).2 = false → ¬ Holds setup history object →
    setup.intents (history ++ [.onLaunch reply]) = setup.intents history ∧
      posts (setup.effects history (.onLaunch reply)) = []

/-- Every launch reply hits the intent whose `start` made the call. -/
def RepliesHit (history : List Event) (e : Event) : Prop :=
  ∀ reply before request bus since, e = .onLaunch reply →
    history = before ++ .start request bus :: since →
    Launches setup reply.responseToken before (.start request bus) →
    Hit setup history reply (setup.service before).objects

variable {setup}

theorem launchFailure_intentId {reply : Message} (object : reply.payload.isObject = true) (x : Intent) :
    (Sam.launchFailure reply x).get "intentId" = .number x.intentId := by
  unfold Sam.launchFailure
  rw [JValue.get_put (by simpa using object), if_neg (by decide), JValue.get_put (by simpa using object),
    if_pos rfl]

theorem onLaunch_snoc (setup : Setup) (history : List Event) (reply : Message) :
    setup.intents (history ++ [.onLaunch reply]) = (Sam.onLaunch (setup.intents history) reply).1 ∧
      setup.effects history (.onLaunch reply) = (Sam.onLaunch (setup.intents history) reply).2 := by
  rw [Setup.intents, Setup.service_snoc]
  exact ⟨rfl, rfl⟩

theorem hit_of_launch {history : List Event} {reply : Message}
    (accepted : Historically (LaunchBus setup) history) (object : reply.payload.isObject = true)
    {before since : List Event} {request : Message} {bus : Bus}
    (split : history = before ++ .start request bus :: since)
    (launch : Launches setup reply.responseToken before (.start request bus)) :
    Hit setup history reply (setup.service before).objects := by
  obtain ⟨after, effects⟩ := onLaunch_snoc setup history reply
  have own : ∀ {i x}, (setup.intents history).find? i = some x →
      (x.token = toInt reply.responseToken ↔ x.object = (setup.service before).objects) :=
    fun stored => token_eq_iff accepted split launch stored
  constructor
  · intro success
    rw [after, effects, Sam.onLaunch]
    cases (setup.intents history).getByToken (toInt reply.responseToken) with
    | none => exact ⟨rfl, rfl⟩
    | some x => simp [success]
  · intro failure i x stored mine
    cases found : (setup.intents history).getByToken (toInt reply.responseToken) with
    | none => exact absurd ((own stored).mpr mine) (Intents.getByToken_eq_none.mp found i x stored)
    | some y =>
        obtain ⟨j, storedY, token⟩ := Intents.getByToken_mem found
        obtain ⟨rfl, rfl⟩ := stored_eq_of_object setup history storedY stored
          (((own storedY).mp token).trans mine.symm)
        have key := (stored_origin setup history stored).1
        have handled : Sam.onLaunch (setup.intents history) reply =
            ((setup.intents history).erase j, [.post y.subscribers (Sam.launchFailure reply y)]) := by
          simp [Sam.onLaunch, found, failure, Intents.removeById_eq_erase, key]
        rw [after, effects, handled]
        exact ⟨OrderedMap.find?_erase _ j, rfl, key ▸ launchFailure_intentId object y⟩
  · intro failure late
    have absent : (setup.intents history).getByToken (toInt reply.responseToken) = none :=
      Intents.getByToken_eq_none.mpr
        (fun i x stored token => late ⟨i, x, stored, (own stored).mp token⟩)
    rw [after, effects, Sam.onLaunch, absent]
    exact ⟨rfl, rfl⟩

variable (setup)

/-- Launch replies hit the right intent along every run on such a bus. -/
theorem launch_replies_hit (history : List Event) (accepted : Historically (LaunchBus setup) history) :
    Historically (RepliesHit setup) history := by
  rintro pre e post rfl reply before request bus since rfl split launch
  exact hit_of_launch accepted.of_append (accepted.at.answers reply rfl).1 split launch

/-- Two clients follow an intent, a result is sent to it, and its launch fails after all. -/
def sampleRun : List Event :=
  [Sample.up, Sample.listed,
    .start (Sample.starting 1 "client" "viewer" []) (Sample.bus 10 20 Sample.first_tokens),
    .subscribeResult { id := 2, payload := .object [("intentId", .number 1)], isSubscription := true },
    .sendResult { id := 3, payload := .object [("intentId", .number 1), ("result", .string "done")] },
    .onLaunch { payload := .object [("returnValue", .bool false)], responseToken := 10 }]

theorem sampleRun_launchBus : Historically (LaunchBus Sample.host) sampleRun := by
  have quiet : ∀ {history : List Event} {e : Event}, (∀ request bus, e ≠ .start request bus) →
      (∀ reply, e ≠ .onLaunch reply) → LaunchBus Sample.host history e := launchBus_of_quiet
  simp only [sampleRun, historically_cons, historically_nil, and_true]
  refine ⟨quiet (by simp [Sample.up]) (by simp [Sample.up]), quiet (by simp [Sample.listed])
    (by simp [Sample.listed]), ⟨?_, by simp⟩, quiet (by simp) (by simp),
    quiet (by simp) (by simp), ⟨?_, ?_⟩⟩
  · intro token other _ once
    simp [launches_iff, Sample.up, Sample.listed] at once
  · intro token other launch
    simp [launches_iff] at launch
  · rintro reply ⟨⟩
    exact ⟨rfl, [_, _], _, [_, _], rfl, launches_iff.mpr ⟨_, _, _, _, _, rfl, rfl, rfl⟩⟩

theorem sampleRun_replies_hit : Historically (RepliesHit Sample.host) sampleRun :=
  launch_replies_hit Sample.host sampleRun sampleRun_launchBus

/-! ## Joining an intent -/

/-- The request `r` is answered as a subscriber of the intent `i`. -/
def Answered (r : Nat) (i : Int) (history : List Event) (e : Event) : Prop :=
  ∃ request payload, ((∃ bus, e = .start request bus) ∨ e = .subscribeResult request) ∧ request.id = r ∧
    .respond r payload ∈ setup.effects history e ∧ payload.get "subscribed" = .bool true ∧
    payload.get "intentId" = .number i

/-- The event adds the request `r` to the subscribers of the intent `i`, which is `x` from then on. -/
inductive Join (history : List Event) : Event → (r : Nat) → (i : Int) → (x : Intent) → Prop where
  | started {request : Message} {bus : Bus} {token : UInt64} {x : Intent}
      (start : Started setup.enableSession (setup.service history) request bus token x)
      (subscription : request.isSubscription = true) :
      Join history (.start request bus) request.id x.intentId x
  | joined {request : Message} {i : Int} {x : Intent}
      (named : getValue int request.payload "intentId" (-1) = (true, i))
      (stored : (setup.intents history).find? i = some x) (subscription : request.isSubscription = true) :
      Join history (.subscribeResult request) request.id i (x.addSubscriber request.id)

variable {setup}

theorem subscribe_join {self after : Service} {request : Message} {effects : List Effect}
    (ended : SubscribeOutcome self request after effects) {payload : JValue} {i : Int}
    (reply : .respond request.id payload ∈ effects) (subscribed : payload.get "subscribed" = .bool true)
    (handed : payload.get "intentId" = .number i) :
    getValue int request.payload "intentId" (-1) = (true, i) ∧ request.isSubscription = true ∧
      ∃ x, self.intents.find? i = some x := by
  cases ended with
  | refused failed =>
      rw [IntentManager.subscribeResultDone, failed] at reply
      cases List.mem_singleton.mp reply
      cases subscribed
  | @joined j x named stored subscription =>
      cases List.mem_singleton.mp reply
      have same : j = i := by exact_mod_cast JValue.number.inj handed
      exact ⟨same ▸ named, subscription, x, same ▸ stored⟩

theorem join_of_answered {history : List Event} {e : Event} {r : Nat} {i : Int}
    (answered : Answered setup r i history e) : ∃ x, Join setup history e r i x := by
  obtain ⟨request, payload, ⟨bus, rfl⟩ | rfl, rfl, reply, subscribed, handed⟩ := answered
  · rcases (start_outcome setup.enableSession bus (setup.service history) request).reply reply with
      ⟨errorText, refused, _⟩ | ⟨token, x, intent, start, key, rfl⟩
    · rw [done_empty_get refused (by decide)] at subscribed
      cases subscribed
    · rw [JValue.get_put (startedReply_isObject _ _ _), if_neg (by decide)] at subscribed handed
      rw [startedReply_intentId, key] at handed
      rw [startedReply_subscribed] at subscribed
      have same : x.intentId = i := by exact_mod_cast JValue.number.inj handed
      subst same
      refine ⟨x, .started start ?_⟩
      by_contra unsubscribed
      simp [unsubscribed] at subscribed
  · obtain ⟨named, subscription, x, stored⟩ :=
      subscribe_join (subscribe_outcome (setup.service history) request) reply subscribed handed
    exact ⟨_, .joined named stored subscription⟩

namespace Join

theorem request_eq {history : List Event} {e : Event} {r : Nat} {i : Int} {x : Intent}
    (join : Join setup history e r i x) : ∃ request, e.request? = some request ∧ request.id = r := by
  cases join with
  | started => exact ⟨_, rfl, rfl⟩
  | joined => exact ⟨_, rfl, rfl⟩

theorem unique {history : List Event} {e : Event} {r r' : Nat} {i i' : Int} {x x' : Intent}
    (join : Join setup history e r i x) (other : Join setup history e r' i' x') : i = i' ∧ x = x' := by
  cases join with
  | started start =>
      cases other with
      | started start' =>
          obtain ⟨_, rfl⟩ := start.unique start'
          exact ⟨rfl, rfl⟩
  | joined named stored =>
      cases other with
      | joined named' stored' =>
          cases named.symm.trans named'
          cases stored.symm.trans stored'
          exact ⟨rfl, rfl⟩

theorem stored {history : List Event} {e : Event} {r : Nat} {i : Int} {x : Intent}
    (join : Join setup history e r i x) : (setup.intents (history ++ [e])).find? i = some x := by
  cases join with
  | started start => exact stored_started start
  | @joined request i x named stored subscription =>
      have added : (IntentManager.subscribeResult (setup.service history) request).1.intents =
          (setup.intents history).insert i (x.addSubscriber request.id) := by
        have kept : (setup.service history).intents.getById i = some x := stored
        simp only [IntentManager.subscribeResult, named, kept, subscription]
        rfl
      rw [Setup.intents, Setup.service_snoc, Service.dispatch, added]
      exact OrderedMap.find?_insert_self _ _ _

end Join

theorem subscriber_joined (history : List Event) {i : Int} {y : Intent}
    (found : (setup.intents history).find? i = some y) {r : Nat} (subscriber : r ∈ y.subscribers) :
    ∃ before e since x, history = before ++ e :: since ∧ Join setup before e r i x ∧
      x.object = y.object := by
  induction history using List.reverseRecOn generalizing i y with
  | nil => simp at found
  | append_singleton history e ih =>
      have earlier : ∀ {x : Intent}, (setup.intents history).find? i = some x → r ∈ x.subscribers →
          x.object = y.object →
          ∃ before e' since x, history ++ [e] = before ++ e' :: since ∧ Join setup before e' r i x ∧
            x.object = y.object := by
        intro x stored member same
        obtain ⟨before, e', since, z, rfl, join, object⟩ := ih stored member
        exact ⟨before, e', since ++ [e], z, by simp, join, object.trans same⟩
      rcases (change_snoc setup history e).stored found with
        before | ⟨request, x, rfl, named, stored, subscription, rfl⟩ | ⟨request, bus, token, rfl, key, start⟩
      · exact earlier before subscriber rfl
      · rcases List.mem_append.mp subscriber with member | member
        · exact earlier stored member rfl
        · cases List.mem_singleton.mp member
          exact ⟨history, _, [], _, rfl, .joined named stored subscription, rfl⟩
      · rw [start.subscribers_eq] at subscriber
        split at subscriber
        next subscription =>
          cases List.mem_singleton.mp subscriber
          subst key
          exact ⟨history, _, [], y, rfl, .started start subscription, rfl⟩
        next => cases subscriber

/-! ## Posts -/

variable (setup)

/-- Such a bus, and every request is a message of its own. -/
structure MessageBus (history : List Event) (e : Event) : Prop extends LaunchBus setup history e where
  fresh : ∀ request, e.request? = some request →
    ¬ Once (fun _ earlier => ∃ other, earlier.request? = some other ∧ other.id = request.id) history

/-- A `sendResult` that names the id. -/
def SentTo (i : Int) (e : Event) : Prop :=
  ∃ request, e = .sendResult request ∧ getValue int request.payload "intentId" (-1) = (true, i)

/-- The launch of the `start` that created the intent failed. -/
def LaunchFailed (history : List Event) (x : Intent) (e : Event) : Prop :=
  ∃ (reply : Message) (origin : Origin setup history x), e = .onLaunch reply ∧
    (getValue bool reply.payload "returnValue" false).2 = false ∧ reply.responseToken = origin.token

/-- A post reaches a subscriber of the intent `i` only while the intent it
    joined is stored, carries that id, and is a result sent to that id or the
    notice that the launch of that very intent failed. -/
def Routed (history : List Event) (e : Event) : Prop :=
  ∀ post ∈ posts (setup.effects history e), ∀ r ∈ post.subscribers, ∀ i before joining since,
    history = before ++ joining :: since → Answered setup r i before joining →
    ∃ x, (setup.intents (before ++ [joining])).find? i = some x ∧ Holds setup history x.object ∧
      post.payload.get "intentId" = .number i ∧
      (SentTo i e ∨ LaunchFailed setup (before ++ [joining]) x e)

variable {setup}

theorem resultPost_intentId (request : Message) (i : Int) (result : String) :
    (IntentManager.resultPost request i result).get "intentId" = .number i := by
  unfold IntentManager.resultPost
  split <;>
  rw [JValue.get_put (by rfl), if_neg (by decide), JValue.get_put (by rfl), if_pos rfl]

theorem join_position {history before since before' since' : List Event} {e e' : Event} {r : Nat} {i i' : Int}
    {x x' : Intent} (bus : Historically (MessageBus setup) history)
    (split : history = before ++ e :: since) (join : Join setup before e r i x)
    (split' : history = before' ++ e' :: since') (join' : Join setup before' e' r i' x') :
    before = before' ∧ e = e' := by
  obtain ⟨request, asked, id⟩ := join.request_eq
  obtain ⟨request', asked', id'⟩ := join'.request_eq
  rcases split_cases (split.symm.trans split') with ⟨rfl, rfl, _⟩ | ⟨mid, rfl, rfl⟩ | ⟨mid, rfl, rfl⟩
  · exact ⟨rfl, rfl⟩
  · exact absurd ⟨before, e, mid, rfl, request, asked, id.trans id'.symm⟩
      ((bus _ _ _ split').fresh request' asked')
  · exact absurd ⟨before', e', mid, rfl, request', asked', id'.trans id.symm⟩
      ((bus _ _ _ split).fresh request asked)

/-- A subscriber of a stored intent that was answered with the id `i` joined this
    intent, and it is kept under `i`. -/
theorem joined_stored {history before since : List Event} {joining : Event} {r : Nat} {i j : Int} {y : Intent}
    (bus : Historically (MessageBus setup) history) (stored : (setup.intents history).find? j = some y)
    (subscriber : r ∈ y.subscribers) (split : history = before ++ joining :: since)
    (answered : Answered setup r i before joining) :
    j = i ∧ ∃ x, (setup.intents (before ++ [joining])).find? i = some x ∧ x.object = y.object := by
  obtain ⟨x, join⟩ := join_of_answered answered
  obtain ⟨before', e, since', z, split', join', object⟩ := subscriber_joined history stored subscriber
  obtain ⟨rfl, rfl⟩ := join_position bus split join split' join'
  obtain ⟨rfl, rfl⟩ := join.unique join'
  exact ⟨rfl, x, join.stored, object⟩

theorem routed_of_bus {history : List Event} {e : Event} (bus : Historically (MessageBus setup) history)
    (last : MessageBus setup history e) : Routed setup history e := by
  intro post member r subscriber i before joining since split answered
  have accepted : Historically (LaunchBus setup) history := bus.mono (fun _ _ met => met.toLaunchBus)
  have change := change_snoc setup history e
  generalize setup.intents (history ++ [e]) = after at change
  generalize posts (setup.effects history e) = posted at change member
  cases change with
  | same | started | joined | departed => cases member
  | @answered request j y result named stored text =>
      cases List.mem_singleton.mp member
      obtain ⟨rfl, x, joined, object⟩ := joined_stored bus stored subscriber split answered
      exact ⟨x, joined, ⟨j, y, stored, object.symm⟩, resultPost_intentId request j result,
        .inl ⟨request, rfl, named⟩⟩
  | @failed reply y found failure =>
      cases List.mem_singleton.mp member
      obtain ⟨j, stored, token⟩ := Intents.getByToken_mem found
      obtain ⟨rfl, x, joined, object⟩ := joined_stored bus stored subscriber split answered
      obtain ⟨key, ⟨present⟩⟩ := stored_origin setup history stored
      obtain ⟨_, ⟨origin⟩⟩ := stored_origin setup (before ++ [joining]) joined
      -- the start of the joined intent is the one whose call the reply answers
      obtain ⟨payload, before', e', since', split', launch⟩ := last.answers reply rfl
      have seen : history = (before ++ [joining]) ++ since := by rw [split]; simp
      obtain ⟨_, _, same, _⟩ := (origin.later (.refl x) since seen).stored_eq present object
      have answers : toInt reply.responseToken = toInt origin.token := by
        rw [← token, present.token_eq, ← same]
        rfl
      have own := (origin.later (.refl x) since seen).split
      obtain ⟨_, _, tokens⟩ :=
        launch_position accepted split' launch own (launches_of_started origin.start) answers
      exact ⟨x, joined, ⟨_, y, stored, object.symm⟩, key ▸ launchFailure_intentId payload y,
        .inr ⟨reply, origin, rfl, failure, tokens⟩⟩

variable (setup)

/-- Along every run on such a bus no post reaches a subscriber of another intent. -/
theorem posts_routed (history : List Event) (bus : Historically (MessageBus setup) history) :
    Historically (Routed setup) history := by
  rintro pre e post rfl
  exact routed_of_bus bus.of_append bus.at

theorem sampleRun_posts_routed : Historically (Routed Sample.host) sampleRun := by
  refine posts_routed Sample.host sampleRun ?_
  have accepted := sampleRun_launchBus
  simp only [sampleRun, historically_cons, historically_nil, and_true] at accepted ⊢
  obtain ⟨first, second, third, fourth, fifth, sixth⟩ := accepted
  refine ⟨⟨first, ?_⟩, ⟨second, ?_⟩, ⟨third, ?_⟩, ⟨fourth, ?_⟩, ⟨fifth, ?_⟩, ⟨sixth, ?_⟩⟩
  all_goals simp [Event.request?, Sample.up, Sample.listed, Sample.starting]

end IntentService.Delivery
