import IntentService.Delivery
import IntentService.Library.Topics

/-! # The intent store as topics

Started intents are topics of the bus: their id is the name, their owner the
requester, and who asks for the result subscribes. Every run of the service is a
run of the topics, so that a request that was answered as a subscriber gets
exactly the posts about its intent until the intent leaves the store: none is
lost, repeated or reordered.
-/

namespace IntentService.Broker

open History JValueUtil Delivery

/-- The intents as topics. -/
def topics (intents : Intents) : Int → Option (Topics.Topic String Nat) :=
  fun i => (intents.find? i).map (fun x => ⟨x.owner, x.subscribers⟩)

abbrev Op := Topics.Op Int String Nat JValue

/-- What an event does to the topics. -/
def ops (enableSession : Bool) (self : Service) : Event → List Op
  | .start request bus =>
      match IntentManager.startTarget enableSession self request with
      | .error _ => []
      | .ok (session, intent, handler) =>
          let (code, intent, _) := session.sam.launch enableSession bus intent handler
          if code = -1 then []
          else
            [.create intent.intentId ⟨getName request, if request.isSubscription then [request.id] else []⟩]
  | .sendResult request =>
      match getValue int request.payload "intentId" (-1), getValue string request.payload "result" "" with
      | (true, i), (true, result) => [.publish i (IntentManager.resultPost request i result)]
      | _, _ => []
  | .subscribeResult request =>
      match getValue int request.payload "intentId" (-1) with
      | (true, i) => if request.isSubscription then [.join i request.id] else []
      | (false, _) => []
  | .onLaunch reply =>
      match self.intents.getByToken (toInt reply.responseToken) with
      | none => []
      | some x =>
          if (getValue bool reply.payload "returnValue" false).2 then []
          else [.publish x.intentId (Sam.launchFailure reply x), .close x.intentId]
  | .ownerStatus notice =>
      match IntentManager.departed notice with
      | none => []
      | some name => [.leave name]
  | .query _ | .accountStatus _ _ | .samStatus _ _ _ | .onGetSessions _ _ | .onListApps _
  | .disconnect _ _ => []

/-- Every way an event acts on the topics, on the intent store and on the subscribers. -/
inductive Change (enableSession : Bool) (self : Service) :
    Event → List Op → Intents → List Post → Prop where
  | idle (e : Event) : Change enableSession self e [] self.intents []
  | started {request : Message} {bus : Bus} {token : UInt64} {x : Intent}
      (start : Started enableSession self request bus token x) :
      Change enableSession self (.start request bus) [.create x.intentId ⟨x.owner, x.subscribers⟩]
        (self.intents.add x) []
  | joined {request : Message} {i : Int} {x : Intent} (stored : self.intents.find? i = some x) :
      Change enableSession self (.subscribeResult request) [.join i request.id]
        (self.intents.insert i (x.addSubscriber request.id)) []
  | missed {request : Message} {i : Int} (absent : self.intents.find? i = none) :
      Change enableSession self (.subscribeResult request) [.join i request.id] self.intents []
  | answered {request : Message} {i : Int} {x : Intent} {result : String}
      (stored : self.intents.find? i = some x) :
      Change enableSession self (.sendResult request) [.publish i (IntentManager.resultPost request i result)]
        self.intents [⟨x.subscribers, IntentManager.resultPost request i result⟩]
  | unheard {request : Message} {i : Int} {result : String} (absent : self.intents.find? i = none) :
      Change enableSession self (.sendResult request) [.publish i (IntentManager.resultPost request i result)]
        self.intents []
  | failed {reply : Message} {i : Int} {x : Intent} (stored : self.intents.find? i = some x) :
      Change enableSession self (.onLaunch reply)
        [.publish x.intentId (Sam.launchFailure reply x), .close x.intentId]
        (self.intents.erase x.intentId) [⟨x.subscribers, Sam.launchFailure reply x⟩]
  | departed {notice : Message} (name : String) :
      Change enableSession self (.ownerStatus notice) [.leave name] (self.intents.removeByOwner name) []

section Changes

variable {enableSession : Bool} {self : Service}

theorem start_topics {bus : Bus} {request : Message} {after : Service} {effects : List Effect}
    (ended : StartOutcome enableSession bus self request after effects) :
    Change enableSession self (.start request bus) (ops enableSession self (.start request bus))
      after.intents (posts effects) := by
  cases ended with
  | refused target =>
      simp only [ops, target]
      exact .idle _
  | rejected target answer =>
      simp only [ops, target, Sam.launch, answer, if_true]
      exact .idle _
  | sentinel target answer code =>
      simp only [ops, target, Sam.launch, answer, code, if_true]
      exact .idle _
  | @started session intent handler token x target answer code record =>
      have start : Started enableSession self request bus token x := ⟨target, answer, code, record⟩
      have created : ops enableSession self (.start request bus) =
          [.create x.intentId ⟨x.owner, x.subscribers⟩] := by
        rw [start.owner_eq, start.subscribers_eq, record, startedIntent_intentId]
        simp only [ops, target, Sam.launch, answer, code, if_false]
      rw [created]
      exact .started start

theorem sendResult_topics (request : Message) :
    Change enableSession self (.sendResult request) (ops enableSession self (.sendResult request))
      self.intents (posts (IntentManager.sendResult self request).2) := by
  unfold IntentManager.sendResult
  simp only [ops]
  rcases getValue int request.payload "intentId" (-1) with ⟨_ | _, i⟩
  · exact .idle _
  · rcases getValue string request.payload "result" "" with ⟨_ | _, result⟩
    · dsimp only
      cases self.intents.getById i <;> exact .idle _
    · dsimp only
      cases stored : self.intents.getById i with
      | none => exact .unheard stored
      | some x => exact .answered stored

theorem subscribeResult_topics (request : Message) :
    Change enableSession self (.subscribeResult request) (ops enableSession self (.subscribeResult request))
      (IntentManager.subscribeResult self request).1.intents
      (posts (IntentManager.subscribeResult self request).2) := by
  unfold IntentManager.subscribeResult
  simp only [ops]
  rcases getValue int request.payload "intentId" (-1) with ⟨_ | _, i⟩
  · exact .idle _
  · dsimp only
    cases request.isSubscription with
    | false => cases self.intents.getById i <;> exact .idle _
    | true =>
        cases stored : self.intents.getById i with
        | none => exact .missed stored
        | some x => exact .joined stored

theorem onLaunch_topics (reply : Message) :
    Change enableSession self (.onLaunch reply) (ops enableSession self (.onLaunch reply))
      (Sam.onLaunch self.intents reply).1 (posts (Sam.onLaunch self.intents reply).2) := by
  unfold Sam.onLaunch
  simp only [ops]
  cases found : self.intents.getByToken (toInt reply.responseToken) with
  | none => exact .idle _
  | some x =>
      obtain ⟨i, stored, _⟩ := Intents.getByToken_mem found
      cases (getValue bool reply.payload "returnValue" false).2 with
      | true => exact .idle _
      | false =>
          simp only [Bool.not_false, if_true, Bool.false_eq_true, if_false, Intents.removeById_eq_erase]
          exact .failed stored

theorem ownerStatus_topics (notice : Message) :
    Change enableSession self (.ownerStatus notice) (ops enableSession self (.ownerStatus notice))
      (IntentManager.onServerStatusChanged self notice).1.intents
      (posts (IntentManager.onServerStatusChanged self notice).2) := by
  unfold IntentManager.onServerStatusChanged
  simp only [ops]
  cases IntentManager.departed notice with
  | none => exact .idle _
  | some name => exact .departed name

theorem dispatch_topics (e : Event) :
    Change enableSession self e (ops enableSession self e) (self.dispatch enableSession e).1.intents
      (posts (self.dispatch enableSession e).2) := by
  cases e with
  | query request =>
      obtain ⟨state, payload, effects⟩ := query_eq enableSession self request
      rw [Service.dispatch, state, effects]
      exact .idle _
  | start request bus => exact start_topics (start_outcome enableSession bus self request)
  | sendResult request =>
      rw [Service.dispatch, send_state]
      exact sendResult_topics request
  | subscribeResult request => exact subscribeResult_topics request
  | onLaunch reply => exact onLaunch_topics reply
  | ownerStatus notice => exact ownerStatus_topics notice
  | accountStatus notice bus =>
      simp only [Service.dispatch, (account_outcome bus self.account self.handlers notice).posts_eq]
      exact .idle _
  | samStatus sessionId notice bus =>
      simp only [Service.dispatch]
      cases self.account.sessions.find? sessionId with
      | none => exact .idle _
      | some session =>
          simp only [(sam_outcome enableSession bus session.sam self.handlers notice).posts_eq]
          exact .idle _
  | onGetSessions reply bus =>
      simp only [Service.dispatch, (sync_outcome bus self.account self.handlers reply).posts_eq]
      exact .idle _
  | onListApps reply => exact .idle _
  | disconnect name sessionId => exact .idle _

end Changes

/-! ## The topics follow the intents -/

section Topics

variable (intents : Intents) (i : Int)

theorem topics_insert (x : Intent) :
    topics (intents.insert i x) = Function.update (topics intents) i (some ⟨x.owner, x.subscribers⟩) := by
  funext j
  rw [topics, OrderedMap.find?_insert, Function.update_apply]
  split <;> rfl

theorem topics_erase : topics (intents.erase i) = Function.update (topics intents) i none := by
  funext j
  rw [topics, OrderedMap.find?_erase, Function.update_apply]
  split <;> rfl

theorem topics_removeByOwner (name : String) :
    topics (intents.removeByOwner name) =
      fun j => (topics intents j).filter (fun topic => topic.owner != name) := by
  funext j
  rw [topics, topics, Intents.removeByOwner, OrderedMap.find?_filter]
  cases intents.find? j with
  | none => rfl
  | some x => by_cases own : x.owner = name <;> simp [Option.filter, own]

end Topics

theorem topics_of_stored {intents : Intents} {i : Int} {x : Intent} (stored : intents.find? i = some x) :
    topics intents i = some ⟨x.owner, x.subscribers⟩ := congrArg (Option.map _) stored

theorem topics_of_absent {intents : Intents} {i : Int} (absent : intents.find? i = none) :
    topics intents i = none := congrArg (Option.map _) absent

/-- What a post brings to each subscriber. -/
def sent (posted : List Post) : List (Nat × JValue) :=
  posted.flatMap (fun post => post.subscribers.map (·, post.payload))

/-- Every intent is kept under its id. -/
def Keyed (intents : Intents) : Prop := ∀ i x, intents.find? i = some x → x.intentId = i

theorem Change.refines {enableSession : Bool} {self : Service} {e : Event} {done : List Op} {after : Intents}
    {posted : List Post} (change : Change enableSession self e done after posted)
    (keyed : Keyed self.intents) :
    topics after = Topics.run (topics self.intents) done ∧
      sent posted = Topics.deliveries (topics self.intents) done := by
  cases change with
  | idle => exact ⟨rfl, rfl⟩
  | started start => exact ⟨topics_insert _ _ _, rfl⟩
  | joined stored =>
      refine ⟨?_, rfl⟩
      rw [topics_insert, Topics.run_cons, Topics.apply, topics_of_stored stored]
      rfl
  | missed absent =>
      refine ⟨?_, rfl⟩
      simp [Topics.apply, topics_of_absent absent]
  | answered stored => exact ⟨rfl, by simp [Topics.deliveries, Topics.deliver, topics_of_stored stored, sent]⟩
  | unheard absent => exact ⟨rfl, by simp [Topics.deliveries, Topics.deliver, topics_of_absent absent, sent]⟩
  | @failed reply i x stored =>
      cases keyed i x stored
      exact ⟨topics_erase _ _, by simp [Topics.deliveries, Topics.deliver, topics_of_stored stored, sent]⟩
  | departed name => exact ⟨topics_removeByOwner _ _, rfl⟩

/-! ## Along a run -/

variable (setup : Setup)

/-- What the events after `pre` do to the topics. -/
def runOps (pre rest : List Event) : List Op :=
  emitted (fun before e => ops setup.enableSession (setup.service before) e) pre rest

/-- What the events after `pre` bring to whom. -/
def log (pre rest : List Event) : List (Nat × JValue) :=
  emitted (fun before e => sent (posts (setup.effects before e))) pre rest

theorem change_event (history : List Event) (e : Event) :
    Change setup.enableSession (setup.service history) e (ops setup.enableSession (setup.service history) e)
      (setup.intents (history ++ [e])) (posts (setup.effects history e)) := by
  rw [Setup.intents, Setup.service_snoc]
  exact dispatch_topics e

theorem keyed (history : List Event) : Keyed (setup.intents history) :=
  fun _ _ stored => (stored_origin setup history stored).1

theorem run_refines (pre rest : List Event) :
    topics (setup.intents (pre ++ rest)) = Topics.run (topics (setup.intents pre)) (runOps setup pre rest) ∧
      log setup pre rest = Topics.deliveries (topics (setup.intents pre)) (runOps setup pre rest) := by
  induction rest generalizing pre with
  | nil => exact ⟨by simp [runOps, emitted], rfl⟩
  | cons e rest ih =>
      obtain ⟨stored, brought⟩ := (change_event setup pre e).refines (keyed setup pre)
      obtain ⟨later, more⟩ := ih (pre ++ [e])
      rw [stored] at later more
      constructor
      · rw [List.append_cons, later, runOps, runOps, emitted, Topics.run_append]
        rfl
      · rw [log, emitted, brought]
        exact (congrArg _ more).trans (Topics.deliveries_append _ _ _).symm

/-- Every run of the service is a run of the topics: the store keeps exactly the
    topics that are open, and the posts are exactly what is delivered. -/
theorem intents_are_topics (history : List Event) :
    topics (setup.intents history) = Topics.run (fun _ => none) (runOps setup [] history) ∧
      log setup [] history = Topics.deliveries (fun _ => none) (runOps setup [] history) :=
  run_refines setup [] history

/-! ## The mailbox of a request -/

/-- Every request is a message of its own, and a launch is answered with an object. -/
structure Numbered (history : List Event) (e : Event) : Prop where
  fresh : ∀ request, e.request? = some request →
    ¬ Once (fun _ earlier => ∃ other, earlier.request? = some other ∧ other.id = request.id) history
  object : ∀ reply, e = .onLaunch reply → reply.payload.isObject = true

/-- The payloads an event posts about an intent. -/
def about (i : Int) (posted : List Post) : List JValue :=
  (posted.map Post.payload).filter (fun payload => payload.get "intentId" = .number i)

/-- The event leaves the intent under the id in the store. -/
def keeps (i : Int) (history : List Event) (e : Event) : Bool :=
  ((setup.intents (history ++ [e])).find? i).map Intent.object =
    ((setup.intents history).find? i).map Intent.object

/-- What is posted about the intent under `i`, until it leaves the store. -/
def followed (i : Int) : (pre rest : List Event) → List JValue
  | _, [] => []
  | pre, e :: rest =>
      about i (posts (setup.effects pre e)) ++
        if keeps setup i pre e then followed i (pre ++ [e]) rest else []

section Events

variable {setup}

theorem enters_of_ops {enableSession : Bool} {self : Service} {e : Event} {done : List Op} {after : Intents}
    {posted : List Post} (change : Change enableSession self e done after posted) {op : Op} {r : Nat}
    (member : op ∈ done) (enters : op.Enters r) : ∃ request, e.request? = some request ∧ request.id = r := by
  cases change with
  | idle => cases member
  | started start =>
      cases List.mem_singleton.mp member
      rw [Topics.Op.Enters, start.subscribers_eq] at enters
      split at enters
      · exact ⟨_, rfl, (List.mem_singleton.mp enters).symm⟩
      · cases enters
  | joined | missed =>
      cases List.mem_singleton.mp member
      exact ⟨_, rfl, enters⟩
  | answered | unheard | departed =>
      cases List.mem_singleton.mp member
      cases enters
  | failed =>
      rcases List.mem_cons.mp member with rfl | member
      · cases enters
      · cases List.mem_singleton.mp member
        cases enters

/-- What an event posts about a stored intent is what its operations publish
    there, and it keeps the intent exactly if they do not end the topic. -/
theorem Change.follows {enableSession : Bool} {self : Service} {e : Event} {done : List Op} {after : Intents}
    {posted : List Post} (change : Change enableSession self e done after posted) (keyed : Keyed self.intents)
    (object : ∀ reply, e = .onLaunch reply → reply.payload.isObject = true)
    (built : ∀ i x, self.intents.find? i = some x → x.object < self.objects)
    {i : Int} {x : Intent} (stored : self.intents.find? i = some x) :
    about i posted = Topics.heard i x.owner done ∧
      ((after.find? i).map Intent.object = (self.intents.find? i).map Intent.object ↔
        ∀ op ∈ done, op.ends i x.owner = false) := by
  have silent : about i [] = [] := rfl
  cases change with
  | idle => simp [silent]
  | @started request bus token y start =>
      refine ⟨by simp [silent, Topics.heard_cons, Topics.Op.message?], ?_⟩
      rw [Intents.add, OrderedMap.find?_insert]
      obtain rfl | other := eq_or_ne i y.intentId
      · have newer : y.object ≠ x.object := by
          rw [start.object_eq]
          exact (built _ x stored).ne'
        simp [stored, newer, Topics.Op.ends]
      · simp [other, other.symm, Topics.Op.ends]
  | @joined request j y found =>
      refine ⟨by simp [silent, Topics.heard_cons, Topics.Op.message?], ?_⟩
      rw [OrderedMap.find?_insert]
      obtain rfl | other := eq_or_ne i j
      · cases stored.symm.trans found
        simp [stored, Topics.Op.ends, Intent.addSubscriber]
      · simp [other, Topics.Op.ends]
  | missed => simp [silent, Topics.heard_cons, Topics.Op.message?, Topics.Op.ends]
  | @answered request j y result found =>
      refine ⟨?_, by simp [Topics.Op.ends]⟩
      obtain rfl | other := eq_or_ne j i
      · simp [about, resultPost_intentId, Topics.heard_cons, Topics.Op.message?, Topics.Op.ends]
      · simp [about, resultPost_intentId, other, Topics.heard_cons, Topics.Op.message?, Topics.Op.ends]
  | @unheard request j result absent =>
      refine ⟨?_, by simp [Topics.Op.ends]⟩
      have other : j ≠ i := by
        rintro rfl
        cases absent.symm.trans stored
      simp [silent, other, Topics.heard_cons, Topics.Op.message?, Topics.Op.ends]
  | @failed reply j y found =>
      cases keyed j y found
      have id := launchFailure_intentId (object reply rfl) y
      rw [OrderedMap.find?_erase]
      obtain rfl | other := eq_or_ne y.intentId i
      · simp [about, id, stored, Topics.heard_cons, Topics.Op.message?, Topics.Op.ends]
      · simp [about, id, other, other.symm, stored, Topics.heard_cons, Topics.Op.message?, Topics.Op.ends]
  | @departed notice name =>
      refine ⟨by simp [silent, Topics.heard_cons, Topics.Op.message?], ?_⟩
      rw [Intents.removeByOwner, OrderedMap.find?_filter, stored]
      by_cases own : name = x.owner
      · simp [Option.filter, own, Topics.Op.ends]
      · simp [Option.filter, own, Ne.symm own, Topics.Op.ends]

theorem built_of_stored (setup : Setup) (history : List Event) (i : Int) (x : Intent)
    (stored : (setup.intents history).find? i = some x) : x.object < (setup.service history).objects := by
  obtain ⟨_, ⟨origin⟩⟩ := stored_origin setup history stored
  have later := objects_lt_of_start setup origin.before origin.request origin.bus origin.since
  rwa [← origin.object_eq, ← origin.split] at later

theorem owner_of_keeps {history : List Event} {e : Event} {i : Int} {x : Intent}
    (stored : (setup.intents history).find? i = some x) (kept : keeps setup i history e = true) :
    ∃ y, (setup.intents (history ++ [e])).find? i = some y ∧ y.owner = x.owner := by
  have same := of_decide_eq_true kept
  rw [stored, Option.map_some, Option.map_eq_some_iff] at same
  obtain ⟨y, found, object⟩ := same
  refine ⟨y, found, ?_⟩
  rcases (change_snoc setup history e).grown found with
    ⟨z, before, grown⟩ | ⟨request, bus, token, _, _, start⟩
  · cases stored.symm.trans before
    exact grown.owner_eq
  · have older := built_of_stored setup history i x stored
    rw [← object, start.object_eq] at older
    exact absurd older (lt_irrefl _)

/-- What is posted about a stored intent is what the run publishes in its topic. -/
theorem followed_eq_heard {pre rest : List Event} {i : Int} {x : Intent}
    (numbered : Historically (Numbered) (pre ++ rest)) (stored : (setup.intents pre).find? i = some x) :
    followed setup i pre rest = Topics.heard i x.owner (runOps setup pre rest) := by
  induction rest generalizing pre x with
  | nil => rfl
  | cons e rest ih =>
      have object := (numbered pre e rest rfl).object
      obtain ⟨posted, kept⟩ := (change_event setup pre e).follows (keyed setup pre) object
        (built_of_stored setup pre) stored
      rw [List.append_cons] at numbered
      rw [followed, runOps, emitted, Topics.heard_append, posted]
      congr 1
      by_cases keep : keeps setup i pre e = true
      · obtain ⟨y, found, owner⟩ := owner_of_keeps stored keep
        rw [if_pos keep, if_pos (kept.mp (of_decide_eq_true keep)), ih numbered found, owner]
        rfl
      · rw [if_neg keep, if_neg (fun stays => keep (decide_eq_true (kept.mpr stays)))]

end Events

variable {setup}

theorem asked_of_runOps {pre rest : List Event} {op : Op} {r : Nat} (member : op ∈ runOps setup pre rest)
    (enters : op.Enters r) :
    ∃ before e since request, rest = before ++ e :: since ∧ e.request? = some request ∧ request.id = r := by
  obtain ⟨before, e, since, rfl, own⟩ := mem_emitted member
  obtain ⟨request, asked, id⟩ := enters_of_ops (change_event setup (pre ++ before) e) own enters
  exact ⟨before, e, since, request, rfl, asked, id⟩

/-- A request that joins a topic is not posted to by the same event. -/
theorem Change.silent {enableSession : Bool} {self : Service} {e : Event} {done : List Op} {after : Intents}
    {posted : List Post} (change : Change enableSession self e done after posted)
    (asked : (∃ request bus, e = .start request bus) ∨ ∃ request, e = .subscribeResult request) :
    posted = [] := by
  cases change with
  | idle | started | joined | missed | unheard | departed => rfl
  | answered | failed => simp at asked

theorem Join.silent {before : List Event} {joining : Event} {r : Nat} {i : Int} {x : Intent}
    (join : Join setup before joining r i x) : posts (setup.effects before joining) = [] := by
  refine (change_event setup before joining).silent ?_
  cases join with
  | started => exact .inl ⟨_, _, rfl⟩
  | joined => exact .inr ⟨_, rfl⟩

theorem once_of_join {before : List Event} {joining : Event} {r : Nat} {i : Int} {x : Intent}
    (absent : Topics.Absent r (topics (setup.intents before))) (join : Join setup before joining r i x) :
    Topics.Once r i x.owner (topics (setup.intents (before ++ [joining]))) := by
  cases join with
  | @started request bus token x start subscription =>
      have single : x.subscribers.count request.id = 1 := by
        rw [start.subscribers_eq, if_pos subscription, List.count_singleton_self]
      have entered : Topics.Once request.id x.intentId x.owner
          (Topics.apply (topics (setup.intents before)) (.create x.intentId ⟨x.owner, x.subscribers⟩ : Op)) :=
        .create absent single
      rwa [intents_started start, Intents.add, topics_insert]
  | @joined request i x named stored subscription =>
      have joined : ops setup.enableSession (setup.service before) (.subscribeResult request) =
          [.join i request.id] := by simp [ops, named, subscription]
      have entered : Topics.Once request.id i x.owner
          (Topics.apply (topics (setup.intents before)) (.join i request.id : Op)) :=
        .join absent (topics_of_stored stored)
      rwa [((change_event setup before _).refines (keyed setup before)).1, joined]

theorem mailbox_of_join {before since : List Event} {joining : Event} {r : Nat} {i : Int} {x : Intent}
    (numbered : Historically Numbered (before ++ joining :: since)) (join : Join setup before joining r i x) :
    Topics.mailbox r (log setup [] (before ++ joining :: since)) =
      followed setup i (before ++ [joining]) since := by
  obtain ⟨request, asked, rfl⟩ := join.request_eq
  have fresh := (numbered before joining since rfl).fresh request asked
  have earlier : ∀ op ∈ runOps setup [] before, ¬ op.Enters request.id := by
    intro op member enters
    obtain ⟨pre, e, post, other, rfl, sent, id⟩ := asked_of_runOps member enters
    exact fresh ⟨pre, e, post, rfl, other, sent, id⟩
  have later : ∀ op ∈ runOps setup (before ++ [joining]) since, ¬ op.Enters request.id := by
    intro op member enters
    obtain ⟨pre, e, post, other, rfl, sent, id⟩ := asked_of_runOps member enters
    refine (numbered (before ++ joining :: pre) e post (by simp)).fresh other sent ?_
    exact ⟨before, joining, pre, rfl, request, asked, id.symm⟩
  -- nothing before it joins, nothing while it joins, then what its topic publishes
  have nowhere : Topics.Absent request.id (fun _ => none : Int → Option (Topics.Topic String Nat)) := by
    intro k topic found
    cases found
  obtain ⟨stored, logged⟩ := run_refines setup [] before
  have absent : Topics.Absent request.id (topics (setup.intents before)) := by
    rw [List.nil_append] at stored
    rw [stored]
    exact Topics.absent_run nowhere earlier
  have first : Topics.mailbox request.id (log setup [] before) = [] := by
    rw [logged]
    exact Topics.mailbox_of_absent nowhere earlier
  have rest : Topics.mailbox request.id (log setup (before ++ [joining]) since) =
      followed setup i (before ++ [joining]) since := by
    rw [(run_refines setup (before ++ [joining]) since).2,
      (once_of_join absent join).mailbox_eq_heard later]
    refine (followed_eq_heard ?_ join.stored).symm
    simpa using numbered
  have split : log setup [] (before ++ joining :: since) =
      log setup [] before ++ log setup (before ++ [joining]) since := by
    simp only [log, emitted_append, emitted, List.nil_append, Join.silent join]
    rfl
  rw [split, Topics.mailbox_append, first, rest, List.nil_append]

/-- A request that is answered as a subscriber of an intent gets exactly what is
    posted about the intent afterwards, in order and once, until the intent
    leaves the store, and nothing else. -/
theorem mailbox_exact (before since : List Event) (joining : Event) {r : Nat} {i : Int}
    (numbered : Historically Numbered (before ++ joining :: since))
    (answered : Answered setup r i before joining) :
    Topics.mailbox r (log setup [] (before ++ joining :: since)) =
      followed setup i (before ++ [joining]) since := by
  obtain ⟨x, join⟩ := join_of_answered answered
  exact mailbox_of_join numbered join

theorem sampleRun_numbered : Historically Numbered sampleRun := by
  simp only [sampleRun, historically_cons, historically_nil, and_true]
  refine ⟨⟨?_, ?_⟩, ⟨?_, ?_⟩, ⟨?_, ?_⟩, ⟨?_, ?_⟩, ⟨?_, ?_⟩, ⟨?_, ?_⟩⟩
  all_goals simp [Event.request?, Sample.up, Sample.listed, Sample.starting, JValue.isObject]

/-- What the second client is told when it joins. -/
def joinedReply : JValue :=
  ((JValue.emptyObject.put "subscribed" (.bool true)).put "returnValue" (.bool true)).put
    "intentId" (.number 1)

/-- The second client hears of the result and of the failure. -/
theorem sampleRun_mailbox :
    Topics.mailbox 2 (log Sample.host [] sampleRun) =
        followed Sample.host 1 (sampleRun.take 4) (sampleRun.drop 4) ∧
      (followed Sample.host 1 (sampleRun.take 4) (sampleRun.drop 4)).length = 2 := by
  refine ⟨mailbox_exact (sampleRun.take 3) (sampleRun.drop 4) _ sampleRun_numbered ?_, by decide⟩
  exact ⟨_, joinedReply, .inr rfl, rfl, by decide, by decide, by decide⟩

end IntentService.Broker
