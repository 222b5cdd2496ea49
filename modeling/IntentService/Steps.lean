import IntentService.Clients

/-! # What one event can do

The inversion lemmas of the model: every way a `start` can end, every change of
the intent store with the event behind it, and every post. The invariants over
runs are proved from these and never unfold a handler again.
-/

namespace IntentService

open JValueUtil

/-! ## Replies -/

/-- What a `Done:` part puts into a reply: the verdict, and the error text if there is one. -/
theorem done_get {request : Message} {responsePayload : JValue} {errorText : String} {id : Nat}
    {payload : JValue} (reply : .respond id payload = IntentManager.done request responsePayload errorText)
    (object : responsePayload.isObject = true) (key : String) :
    payload.get key =
      if key = "returnValue" then .bool errorText.isEmpty
      else if key = "errorText" ∧ errorText.isEmpty = false then .string errorText
      else responsePayload.get key := by
  unfold IntentManager.done at reply
  cases reply
  cases empty : errorText.isEmpty with
  | true => simp [JValue.get_put object]
  | false =>
      have verdict : (responsePayload.put "returnValue" (.bool false)).isObject = true := by
        rwa [JValue.isObject_put]
      rw [if_neg (by simp), JValue.get_put verdict, JValue.get_put object]
      by_cases own : key = "errorText"
      · simp [own]
      · simp [own]

theorem done_empty_get {request : Message} {errorText : String} {id : Nat} {payload : JValue}
    (reply : .respond id payload = IntentManager.done request .emptyObject errorText) {key : String}
    (other : key ≠ "returnValue" ∧ key ≠ "errorText") : payload.get key = .invalid := by
  rw [done_get reply rfl, if_neg other.1, if_neg (fun own => other.2 own.1)]
  rfl

theorem done_error_returnValue {request : Message} {errorText : String} {id : Nat} {payload : JValue}
    (reply : .respond id payload = IntentManager.done request .emptyObject errorText)
    (error : errorText ≠ "") :
    payload.get "returnValue" = .bool false := by
  rw [done_get reply rfl, if_pos rfl]
  simpa using error

theorem respond_mem_call {id : Nat} {payload : JValue} {call : LSCall} {answer : Option UInt64}
    {effects : List Effect} :
    .respond id payload ∈ .call call answer :: effects ↔ .respond id payload ∈ effects := by
  simp

theorem respond_mem_post {id : Nat} {payload result : JValue} {subscribers : List Nat}
    {effects : List Effect} :
    .respond id payload ∈ .post subscribers result :: effects ↔ .respond id payload ∈ effects := by
  simp

theorem done_success (request : Message) (responsePayload : JValue) :
    IntentManager.done request responsePayload "" =
      .respond request.id (responsePayload.put "returnValue" (.bool true)) := rfl

section StartedReply

variable (request : Message) (sessionId : String) (intent : Intent)

theorem startedReply_isObject :
    (IntentManager.startedReply request sessionId intent).isObject = true := by
  unfold IntentManager.startedReply
  split <;> split <;> rfl

theorem startedReply_intentId :
    (IntentManager.startedReply request sessionId intent).get "intentId" = .number intent.intentId := by
  unfold IntentManager.startedReply
  split <;> split <;> rfl

theorem startedReply_subscribed :
    (IntentManager.startedReply request sessionId intent).get "subscribed" =
      if request.isSubscription then .bool true else .invalid := by
  unfold IntentManager.startedReply
  split <;> split <;> rfl

theorem startedReply_errorText :
    (IntentManager.startedReply request sessionId intent).get "errorText" = .invalid := by
  unfold IntentManager.startedReply
  split <;> split <;> rfl

end StartedReply

/-! ## The ends of the other requests -/

theorem query_eq (enableSession : Bool) (self : Service) (request : Message) :
    (IntentManager.query enableSession self request).1 = self.built ∧
      ∃ payload, (IntentManager.query enableSession self request).2 = [.respond request.id payload] := by
  simp only [IntentManager.query, IntentManager.done]
  split
  · exact ⟨rfl, _, rfl⟩
  · split
    · split
      · exact ⟨rfl, _, rfl⟩
      · exact ⟨rfl, _, rfl⟩
    · exact ⟨rfl, _, rfl⟩

/-- The two ways a `sendResult` ends. -/
inductive SendOutcome (self : Service) (request : Message) : List Effect → Prop where
  | refused {i : Int} {errorText : String} (failed : errorText.isEmpty = false) :
      SendOutcome self request [IntentManager.sendResultDone request i errorText]
  | answered {i : Int} {x : Intent} {result : String}
      (named : getValue int request.payload "intentId" (-1) = (true, i))
      (stored : self.intents.find? i = some x)
      (text : getValue string request.payload "result" "" = (true, result)) :
      SendOutcome self request [.post x.subscribers (IntentManager.resultPost request i result),
        IntentManager.sendResultDone request i ""]

theorem send_state (self : Service) (request : Message) :
    (IntentManager.sendResult self request).1 = self := by
  unfold IntentManager.sendResult
  repeat' split
  all_goals rfl

theorem send_outcome (self : Service) (request : Message) :
    SendOutcome self request (IntentManager.sendResult self request).2 := by
  unfold IntentManager.sendResult
  rcases named : getValue int request.payload "intentId" (-1) with ⟨_ | _, i⟩
  · exact .refused rfl
  · cases stored : self.intents.getById i with
    | none =>
        simp only [stored]
        exact .refused rfl
    | some x =>
        rcases text : getValue string request.payload "result" "" with ⟨_ | _, result⟩
        · simp only [stored]
          exact .refused rfl
        · simp only [stored]
          exact .answered named stored text

/-- The two ways a `subscribeResult` ends. -/
inductive SubscribeOutcome (self : Service) (request : Message) : Service → List Effect → Prop where
  | refused {i : Int} {errorText : String} (failed : errorText.isEmpty = false) :
      SubscribeOutcome self request self [IntentManager.subscribeResultDone request i errorText]
  | joined {i : Int} {x : Intent}
      (named : getValue int request.payload "intentId" (-1) = (true, i))
      (stored : self.intents.find? i = some x) (subscription : request.isSubscription = true) :
      SubscribeOutcome self request
        { self with intents := self.intents.insert i (x.addSubscriber request.id) }
        [IntentManager.subscribeResultDone request i ""]

theorem subscribe_outcome (self : Service) (request : Message) :
    SubscribeOutcome self request (IntentManager.subscribeResult self request).1
      (IntentManager.subscribeResult self request).2 := by
  unfold IntentManager.subscribeResult
  rcases named : getValue int request.payload "intentId" (-1) with ⟨_ | _, i⟩
  · exact .refused rfl
  · cases stored : self.intents.getById i with
    | none =>
        simp only [stored]
        exact .refused rfl
    | some x =>
        cases subscription : request.isSubscription with
        | false =>
            simp only [stored]
            exact .refused rfl
        | true =>
            simp only [stored]
            exact .joined named stored subscription

/-! ## The ends of a `start` -/

/-- The four ways a `start` ends. -/
inductive StartOutcome (enableSession : Bool) (bus : Bus) (self : Service) (request : Message) :
    Service → List Effect → Prop where
  /-- A check before the launch failed. -/
  | refused {errorText : String}
      (target : IntentManager.startTarget enableSession self request = .error errorText) :
      StartOutcome enableSession bus self request self.built
        [IntentManager.done request .emptyObject errorText]
  /-- The bus rejected the launch call. -/
  | rejected {session : Session} {intent : Intent} {handler : Handler}
      (target : IntentManager.startTarget enableSession self request = .ok (session, intent, handler))
      (answer : bus.answer (session.sam.launchCall enableSession intent handler) = none) :
      StartOutcome enableSession bus self request self.built
        [.call (session.sam.launchCall enableSession intent handler) none,
          IntentManager.done request .emptyObject "Failed to start intent"]
  /-- The bus accepted it with a token that reads as `-1`. -/
  | sentinel {session : Session} {intent : Intent} {handler : Handler} {token : UInt64}
      (target : IntentManager.startTarget enableSession self request = .ok (session, intent, handler))
      (answer : bus.answer (session.sam.launchCall enableSession intent handler) = some token)
      (code : toInt token = -1) :
      StartOutcome enableSession bus self request self.built
        [.call (session.sam.launchCall enableSession intent handler) (some token),
          IntentManager.done request .emptyObject "Failed to start intent"]
  /-- The intent was launched and stored. -/
  | started {session : Session} {intent : Intent} {handler : Handler} {token : UInt64} {stored : Intent}
      (target : IntentManager.startTarget enableSession self request = .ok (session, intent, handler))
      (answer : bus.answer (session.sam.launchCall enableSession intent handler) = some token)
      (code : toInt token ≠ -1)
      (record : stored = IntentManager.startedIntent request
        (IntentManager.requestSession enableSession request) (intent.setToken (toInt token))) :
      StartOutcome enableSession bus self request
        { self.built with intents := self.intents.add stored }
        [.call (session.sam.launchCall enableSession intent handler) (some token),
          IntentManager.subscribeStatus bus (getName request) (getSessionId enableSession request),
          IntentManager.done request (IntentManager.startedReply request
            (IntentManager.requestSession enableSession request) (intent.setToken (toInt token))) ""]

section StartedIntent

variable (request : Message) (sessionId : String) (intent : Intent)

theorem startedIntent_owner :
    (IntentManager.startedIntent request sessionId intent).owner = getName request := by
  unfold IntentManager.startedIntent
  split <;> rfl

theorem startedIntent_intentId :
    (IntentManager.startedIntent request sessionId intent).intentId = intent.intentId := by
  unfold IntentManager.startedIntent
  split <;> rfl

theorem startedIntent_object :
    (IntentManager.startedIntent request sessionId intent).object = intent.object := by
  unfold IntentManager.startedIntent
  split <;> rfl

theorem startedIntent_token :
    (IntentManager.startedIntent request sessionId intent).token = intent.token := by
  unfold IntentManager.startedIntent
  split <;> rfl

theorem startedIntent_subscribers :
    (IntentManager.startedIntent request sessionId intent).subscribers =
      if request.isSubscription then intent.subscribers ++ [request.id] else intent.subscribers := by
  unfold IntentManager.startedIntent
  split <;> rfl

end StartedIntent

theorem start_outcome (enableSession : Bool) (bus : Bus) (self : Service) (request : Message) :
    StartOutcome enableSession bus self request
      (IntentManager.start enableSession bus self request).1
      (IntentManager.start enableSession bus self request).2 := by
  unfold IntentManager.start
  cases target : IntentManager.startTarget enableSession self request with
  | error errorText => exact .refused target
  | ok found =>
      obtain ⟨session, intent, handler⟩ := found
      cases answer : bus.answer (session.sam.launchCall enableSession intent handler) with
      | none =>
          simp only [Sam.launch, answer, if_true, List.cons_append, List.nil_append]
          exact .rejected target answer
      | some token =>
          by_cases code : toInt token = -1
          · simp only [Sam.launch, answer, code, if_true, List.cons_append, List.nil_append]
            exact .sentinel target answer code
          · simp only [Sam.launch, answer, code, if_false, startedIntent_owner, List.cons_append,
              List.nil_append]
            exact .started target answer code rfl

/-- The calls of a `start` whose launch comes first, with no launch behind it. -/
theorem launch_iff_of_first {enableSession : Bool} {bus : Bus} {self : Service} {request : Message}
    {session : Session} {intent : Intent} {handler : Handler} {answered : Option UInt64} {rest : List Effect}
    (target : IntentManager.startTarget enableSession self request = .ok (session, intent, handler))
    (chosen : bus.answer (session.sam.launchCall enableSession intent handler) = answered)
    (quiet : ∀ call answer, .call call answer ∈ rest → call.callback ≠ .onLaunch) {call : LSCall}
    {answer : Option UInt64} :
    (.call call answer ∈ .call (session.sam.launchCall enableSession intent handler) answered :: rest ∧
        call.callback = .onLaunch) ↔
      ∃ session intent handler,
        IntentManager.startTarget enableSession self request = .ok (session, intent, handler) ∧
          call = session.sam.launchCall enableSession intent handler ∧ answer = bus.answer call := by
  constructor
  · rintro ⟨member, launch⟩
    cases List.mem_cons.mp member with
    | inl same =>
        cases same
        exact ⟨session, intent, handler, target, rfl, chosen.symm⟩
    | inr member => exact absurd launch (quiet _ _ member)
  · rintro ⟨_, _, _, other, rfl, rfl⟩
    cases target.symm.trans other
    exact ⟨chosen ▸ List.mem_cons_self, rfl⟩

theorem StartOutcome.launch_iff {enableSession : Bool} {bus : Bus} {self after : Service}
    {request : Message} {effects : List Effect}
    (ended : StartOutcome enableSession bus self request after effects) {call : LSCall}
    {answer : Option UInt64} :
    (.call call answer ∈ effects ∧ call.callback = .onLaunch) ↔
      ∃ session intent handler,
        IntentManager.startTarget enableSession self request = .ok (session, intent, handler) ∧
          call = session.sam.launchCall enableSession intent handler ∧ answer = bus.answer call := by
  cases ended with
  | refused target =>
      constructor
      · rintro ⟨member, _⟩
        cases List.mem_singleton.mp member
      · rintro ⟨_, _, _, other, _⟩
        cases target.symm.trans other
  | rejected target answered => exact launch_iff_of_first target answered (by simp [IntentManager.done])
  | sentinel target answered code => exact launch_iff_of_first target answered (by simp [IntentManager.done])
  | started target answered code record =>
      refine launch_iff_of_first target answered ?_
      simp [IntentManager.done, IntentManager.subscribeStatus, IntentManager.statusCall]

theorem startTarget_eq_ok {enableSession : Bool} {self : Service} {request : Message} {session : Session}
    {intent : Intent} {handler : Handler} :
    IntentManager.startTarget enableSession self request = .ok (session, intent, handler) ↔
      self.account.getSession (IntentManager.requestSession enableSession request) = some session ∧
        self.freshIntent.fromJson (request.payload.get "intent") = (true, intent) ∧
        intent.isValid = true ∧ self.handlers.getHandler intent = some handler := by
  constructor
  · intro target
    unfold IntentManager.startTarget at target
    cases found : self.account.getSession (IntentManager.requestSession enableSession request) with
    | none => simp [found] at target
    | some _ =>
        rcases parse : self.freshIntent.fromJson (request.payload.get "intent") with ⟨parsed, _⟩
        simp only [found, parse] at target
        split at target
        · cases target
        next valid =>
          simp only [Bool.or_eq_true, Bool.not_eq_true', not_or, Bool.not_eq_false] at valid
          split at target
          · cases target
          next matched =>
            cases target
            exact ⟨rfl, by rw [valid.1], valid.2, matched⟩
  · rintro ⟨found, parsed, valid, matched⟩
    simp [IntentManager.startTarget, found, parsed, valid, matched]

theorem startTarget_errorText {enableSession : Bool} {self : Service} {request : Message} {errorText : String}
    (target : IntentManager.startTarget enableSession self request = .error errorText) :
    errorText ∈ ["Cannot find session", "Invalid parameter", "Cannot find handler"] := by
  unfold IntentManager.startTarget at target
  rcases self.freshIntent.fromJson (request.payload.get "intent") with ⟨parsed, intent⟩
  dsimp only at target
  split at target
  · cases target
    simp
  · split at target
    · cases target
      simp
    · split at target
      · cases target
        simp
      · cases target

/-! ## Started intents -/

/-- A `start` whose launch call the bus accepted with `token`, and the intent it stored. -/
inductive Started (enableSession : Bool) (self : Service) (request : Message) (bus : Bus) :
    UInt64 → Intent → Prop where
  | intro {session : Session} {intent : Intent} {handler : Handler} {token : UInt64} {stored : Intent}
      (target : IntentManager.startTarget enableSession self request = .ok (session, intent, handler))
      (answer : bus.answer (session.sam.launchCall enableSession intent handler) = some token)
      (code : toInt token ≠ -1)
      (record : stored = IntentManager.startedIntent request
        (IntentManager.requestSession enableSession request) (intent.setToken (toInt token))) :
      Started enableSession self request bus token stored

/-- The id a started intent gets: the number the payload names, as far as it is
    an `int`, or the next value of the counter. -/
def chosenId (counter : Int) (intent : JValue) : Int :=
  if (intent.get "intentId").isNumber then ((intent.get "intentId").asInt).getD 0
  else Intent.nextId counter

theorem fromJson_intentId {self intent : Intent} {json : JValue}
    (parsed : self.fromJson json = (true, intent)) :
    intent.intentId =
      if (json.get "intentId").isNumber then ((json.get "intentId").asInt).getD 0 else self.intentId := by
  have id := Intent.fromJson_intentId self json
  rw [parsed, getValue_snd] at id
  rw [id, JValue.get]
  cases json.member? "intentId" <;> rfl

namespace Started

variable {enableSession : Bool} {self : Service} {request : Message} {bus : Bus} {token : UInt64}
  {x : Intent}

theorem object_eq (start : Started enableSession self request bus token x) : x.object = self.objects := by
  obtain ⟨target, _, _, rfl⟩ := start
  have object := Intent.fromJson_object self.freshIntent (request.payload.get "intent")
  rw [(startTarget_eq_ok.mp target).2.1] at object
  rw [startedIntent_object, Intent.setToken_object]
  exact object

theorem intentId_eq (start : Started enableSession self request bus token x) :
    x.intentId = chosenId self.counter (request.payload.get "intent") := by
  obtain ⟨target, _, _, rfl⟩ := start
  rw [startedIntent_intentId, Intent.setToken_intentId]
  exact fromJson_intentId (startTarget_eq_ok.mp target).2.1

theorem owner_eq (start : Started enableSession self request bus token x) : x.owner = getName request := by
  obtain ⟨_, _, _, rfl⟩ := start
  exact startedIntent_owner _ _ _

theorem token_eq (start : Started enableSession self request bus token x) : x.token = toInt token := by
  obtain ⟨_, _, _, rfl⟩ := start
  rw [startedIntent_token, Intent.setToken_token]

theorem subscribers_eq (start : Started enableSession self request bus token x) :
    x.subscribers = if request.isSubscription then [request.id] else [] := by
  obtain ⟨target, _, _, rfl⟩ := start
  have empty := Intent.fromJson_subscribers self.freshIntent (request.payload.get "intent")
  rw [(startTarget_eq_ok.mp target).2.1] at empty
  rw [startedIntent_subscribers, Intent.setToken_subscribers, empty]
  rfl

theorem start_eq (start : Started enableSession self request bus token x) :
    ∃ call intent, call.callback = .onLaunch ∧ intent.intentId = x.intentId ∧
      IntentManager.start enableSession bus self request =
        ({ self.built with intents := self.intents.add x },
          [.call call (some token),
            IntentManager.subscribeStatus bus (getName request) (getSessionId enableSession request),
            .respond request.id
              ((IntentManager.startedReply request
                (IntentManager.requestSession enableSession request) intent).put
                "returnValue" (.bool true))]) := by
  obtain ⟨target, answer, code, rfl⟩ := start
  rename_i session intent handler
  refine ⟨session.sam.launchCall enableSession intent handler, intent.setToken (toInt token), rfl,
    (startedIntent_intentId _ _ _).symm, ?_⟩
  simp only [IntentManager.start, target, Sam.launch, answer, code, if_false, startedIntent_owner,
    List.cons_append, List.nil_append, done_success]

theorem intents_eq (start : Started enableSession self request bus token x) :
    (IntentManager.start enableSession bus self request).1.intents = self.intents.add x := by
  obtain ⟨_, _, _, _, same⟩ := start.start_eq
  rw [same]

/-- The request decides what is stored. -/
theorem unique {token' : UInt64} {y : Intent} (start : Started enableSession self request bus token x)
    (other : Started enableSession self request bus token' y) : token = token' ∧ x = y := by
  obtain ⟨target, answer, _, rfl⟩ := start
  obtain ⟨target', answer', _, rfl⟩ := other
  cases target.symm.trans target'
  cases answer.symm.trans answer'
  exact ⟨rfl, rfl⟩

end Started

theorem StartOutcome.reply {enableSession : Bool} {bus : Bus} {self after : Service} {request : Message}
    {effects : List Effect} (ended : StartOutcome enableSession bus self request after effects)
    {id : Nat} {payload : JValue} (reply : .respond id payload ∈ effects) :
    (∃ errorText, .respond id payload = IntentManager.done request .emptyObject errorText ∧
      payload.get "returnValue" = .bool false) ∨
      ∃ token x intent, Started enableSession self request bus token x ∧ intent.intentId = x.intentId ∧
        payload = (IntentManager.startedReply request
          (IntentManager.requestSession enableSession request) intent).put "returnValue" (.bool true) := by
  cases ended with
  | refused target =>
      have refused := List.mem_singleton.mp reply
      refine .inl ⟨_, refused, done_error_returnValue refused ?_⟩
      have text := startTarget_errorText target
      rintro rfl
      exact absurd text (by decide)
  | rejected target answer =>
      have refused := List.mem_singleton.mp (respond_mem_call.mp reply)
      exact .inl ⟨_, refused, done_error_returnValue refused (by decide)⟩
  | sentinel target answer code =>
      have refused := List.mem_singleton.mp (respond_mem_call.mp reply)
      exact .inl ⟨_, refused, done_error_returnValue refused (by decide)⟩
  | started target answer code record =>
      have last := respond_mem_call.mp (respond_mem_call.mp reply)
      rw [List.mem_singleton, done_success] at last
      cases last
      refine .inr ⟨_, _, _, ⟨target, answer, code, record⟩, ?_, rfl⟩
      rw [record]
      exact (startedIntent_intentId _ _ _).symm

/-! ## Changes of the store -/

/-- Every change of the intent store and every post, with the event behind it. -/
inductive IntentsChange (enableSession : Bool) (self : Service) :
    Event → Intents → List Post → Prop where
  | same (e : Event) : IntentsChange enableSession self e self.intents []
  | started {request : Message} {bus : Bus} {token : UInt64} {stored : Intent}
      (start : Started enableSession self request bus token stored) :
      IntentsChange enableSession self (.start request bus) (self.intents.add stored) []
  | joined {request : Message} {i : Int} {x : Intent}
      (named : getValue int request.payload "intentId" (-1) = (true, i))
      (stored : self.intents.find? i = some x) (subscription : request.isSubscription = true) :
      IntentsChange enableSession self (.subscribeResult request)
        (self.intents.insert i (x.addSubscriber request.id)) []
  | answered {request : Message} {i : Int} {x : Intent} {result : String}
      (named : getValue int request.payload "intentId" (-1) = (true, i))
      (stored : self.intents.find? i = some x)
      (text : getValue string request.payload "result" "" = (true, result)) :
      IntentsChange enableSession self (.sendResult request) self.intents
        [⟨x.subscribers, IntentManager.resultPost request i result⟩]
  | failed {reply : Message} {x : Intent}
      (found : self.intents.getByToken (toInt reply.responseToken) = some x)
      (failure : (getValue bool reply.payload "returnValue" false).2 = false) :
      IntentsChange enableSession self (.onLaunch reply) (self.intents.erase x.intentId)
        [⟨x.subscribers, Sam.launchFailure reply x⟩]
  | departed {notice : Message} {name : String} (left : IntentManager.departed notice = some name) :
      IntentsChange enableSession self (.ownerStatus notice) (self.intents.removeByOwner name) []

section Posts

variable (call : LSCall) (answer : Option UInt64) (token : UInt64) (effects more : List Effect)

@[simp] theorem posts_nil : posts [] = [] := rfl
@[simp] theorem posts_call : posts (.call call answer :: effects) = posts effects := rfl
@[simp] theorem posts_append : posts (effects ++ more) = posts effects ++ posts more := by
  simp [posts]
@[simp] theorem posts_cancelOpen : posts (cancelOpen token) = [] := by
  unfold cancelOpen; split <;> rfl

end Posts

/-- The clients of the bus post nothing. -/
theorem posts_destroyAll (sessions : List Session) (handlers : Handlers) :
    posts (Session.destroyAll sessions handlers).2 = [] := by
  induction sessions generalizing handlers with
  | nil => rfl
  | cons session rest ih => simp [Session.destroyAll, destroy_eq, ih]

theorem posts_updateSessions (bus : Bus) (items : List JValue) (sessionId : String)
    (sessions : OrderedMap String Session) :
    posts (Account.updateSessions bus items sessionId sessions).2 = [] := by
  rw [posts, List.filterMap_eq_nil_iff]
  intro effect member
  obtain ⟨s, _, _, rfl⟩ := (mem_updateSessions bus items sessionId sessions effect).mp member
  rfl

theorem AccountOutcome.posts_eq {bus : Bus} {self account : Account} {handlers left : Handlers}
    {notice : Message} {effects : List Effect}
    (ended : AccountOutcome bus self handlers notice account left effects) : posts effects = [] := by
  cases ended with
  | ignored => rfl
  | up => simp only [posts_append, posts_cancelOpen, posts_destroyAll, posts_call, posts_nil, List.append_nil]
  | down => simp only [posts_append, posts_cancelOpen, posts_destroyAll, List.append_nil]

theorem SamOutcome.posts_eq {enableSession : Bool} {bus : Bus} {self sam : Sam} {handlers left : Handlers}
    {notice : Message} {effects : List Effect}
    (ended : SamOutcome enableSession bus self handlers notice sam left effects) : posts effects = [] := by
  cases ended with
  | ignored | subscribed | stayed => rfl
  | down => exact posts_cancelOpen _

theorem SyncOutcome.posts_eq {bus : Bus} {self account : Account} {handlers left : Handlers}
    {reply : Message} {effects : List Effect}
    (ended : SyncOutcome bus self handlers reply account left effects) : posts effects = [] := by
  cases ended with
  | ignored => rfl
  | synced => simp only [posts_append, posts_updateSessions, posts_destroyAll, List.append_nil]

theorem StartOutcome.change {enableSession : Bool} {bus : Bus} {self after : Service} {request : Message}
    {effects : List Effect} (ended : StartOutcome enableSession bus self request after effects) :
    IntentsChange enableSession self (.start request bus) after.intents (posts effects) := by
  cases ended with
  | refused | rejected | sentinel => exact .same _
  | started target answer code record => exact .started ⟨target, answer, code, record⟩

theorem SendOutcome.change {enableSession : Bool} {self : Service} {request : Message}
    {effects : List Effect} (ended : SendOutcome self request effects) :
    IntentsChange enableSession self (.sendResult request) self.intents (posts effects) := by
  cases ended with
  | refused => exact .same _
  | answered named stored text => exact .answered named stored text

theorem SubscribeOutcome.change {enableSession : Bool} {self after : Service} {request : Message}
    {effects : List Effect} (ended : SubscribeOutcome self request after effects) :
    IntentsChange enableSession self (.subscribeResult request) after.intents (posts effects) := by
  cases ended with
  | refused => exact .same _
  | joined named stored subscription => exact .joined named stored subscription

theorem dispatch_intents (enableSession : Bool) (self : Service) (e : Event) :
    IntentsChange enableSession self e (self.dispatch enableSession e).1.intents
      (posts (self.dispatch enableSession e).2) := by
  cases e with
  | query request =>
      obtain ⟨state, payload, effects⟩ := query_eq enableSession self request
      rw [Service.dispatch, state, effects]
      exact .same _
  | start request bus => exact (start_outcome enableSession bus self request).change
  | sendResult request =>
      rw [Service.dispatch, send_state]
      exact (send_outcome self request).change
  | subscribeResult request => exact (subscribe_outcome self request).change
  | onLaunch reply =>
      simp only [Service.dispatch, Sam.onLaunch]
      cases found : self.intents.getByToken (toInt reply.responseToken) with
      | none => exact .same _
      | some x =>
          cases failure : (getValue bool reply.payload "returnValue" false).2 with
          | true => exact .same _
          | false =>
              simp only [Bool.not_false, if_true, Intents.removeById_eq_erase]
              exact .failed found failure
  | ownerStatus notice =>
      rw [Service.dispatch, IntentManager.onServerStatusChanged]
      cases left : IntentManager.departed notice with
      | none => exact .same _
      | some name => exact .departed left
  | accountStatus notice bus =>
      simp only [Service.dispatch, (account_outcome bus self.account self.handlers notice).posts_eq]
      exact .same _
  | samStatus sessionId notice bus =>
      simp only [Service.dispatch]
      cases self.account.sessions.find? sessionId with
      | none => exact .same _
      | some session =>
          simp only [(sam_outcome enableSession bus session.sam self.handlers notice).posts_eq]
          exact .same _
  | onGetSessions reply bus =>
      simp only [Service.dispatch, (sync_outcome bus self.account self.handlers reply).posts_eq]
      exact .same _
  | onListApps reply => exact .same _
  | disconnect name sessionId => exact .same _

end IntentService
