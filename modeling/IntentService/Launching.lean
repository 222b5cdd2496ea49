import IntentService.Encoding
import IntentService.Identity
import IntentService.Sessions

/-! # What a launch tells the application

`SAM::launch` writes the intent before `start` has completed it. Everything it
writes is what is stored in the end, except the owner, which nobody has set yet.
-/

namespace IntentService.Launching

open History Encoding

/-- A launch call gives the name of an application, and in `params` what is
    stored of an intent. -/
structure Describes (call : LSCall) (app : String) (x : Intent) : Prop where
  app : call.payload.get "id" = .string app
  owner : (call.payload.get "params").get "from" = .string x.owner
  intentId : (call.payload.get "params").get "intentId" = .number x.intentId
  name : (call.payload.get "params").member? "name" = textMember x.name
  action : (call.payload.get "params").member? "action" = textMember x.action
  mimeType : (call.payload.get "params").member? "mimeType" = textMember x.mimeType
  uri : (call.payload.get "params").member? "uri" = if x.uri.empty then none else some (.string x.uri.uri)
  extra : (call.payload.get "params").member? "extra" =
    if x.extra.objectSize ≠ 0 then some x.extra else none

variable (setup : Setup)

/-- A `start` that is answered with success launches the handler it chose with
    the intent that is stored afterwards under the id of the reply, and the owner
    of that intent is the sender of the request. -/
def LaunchAgrees (history : List Event) (e : Event) : Prop :=
  ∀ request bus payload, e = .start request bus → .respond request.id payload ∈ setup.effects history e →
    payload.get "returnValue" = .bool true →
    ∃ session intent handler x,
      IntentManager.startTarget setup.enableSession (setup.service history) request =
          .ok (session, intent, handler) ∧
        (setup.intents (history ++ [e])).find? x.intentId = some x ∧
        payload.get "intentId" = .number x.intentId ∧ x.owner = getName request ∧
        (∃ call answer, .call call answer ∈ setup.effects history e ∧ call.callback = .onLaunch) ∧
        ∀ call answer, .call call answer ∈ setup.effects history e → call.callback = .onLaunch →
          Describes call handler.name x

/-- A `start` that gets as far as the store comes from a sender without a name. -/
def Nameless (history : List Event) (e : Event) : Prop :=
  ∀ request bus session intent handler token, e = .start request bus →
    IntentManager.startTarget setup.enableSession (setup.service history) request =
      .ok (session, intent, handler) →
    bus.answer (session.sam.launchCall setup.enableSession intent handler) = some token →
    toInt token ≠ -1 → getName request = ""

/-! ## The message -/

section Params

variable {enableSession : Bool} {sam : Sam} {intent : Intent} {handler : Handler}

theorem launchCall_params :
    (sam.launchCall enableSession intent handler).payload.get "params" =
      ((intent.toJson .emptyObject).put "from" (.string intent.owner)).put
        "intentId" (.number intent.intentId) := by
  rw [Sam.launchCall, JValue.get_put (by rfl), if_neg (by decide), JValue.get_put (by rfl), if_pos rfl]

theorem launchCall_member {key : String} {value : Option JValue} (member : (key, value) ∈ members intent)
    (other : key ≠ "from" ∧ key ≠ "intentId") :
    ((sam.launchCall enableSession intent handler).payload.get "params").member? key = value := by
  rw [launchCall_params, JValue.member?_put (by simpa using isObject_toJson intent), if_neg other.2,
    JValue.member?_put (isObject_toJson intent), if_neg other.1, member?_toJson member]

theorem members_startedIntent (request : Message) (sessionId : String) (token : Int) :
    members (IntentManager.startedIntent request sessionId (intent.setToken token)) = members intent := by
  unfold IntentManager.startedIntent
  split <;> rfl

/-- Nobody has set the owner of an intent that was only read from JSON. -/
theorem launchCall_sender (unowned : intent.owner = "") :
    ((sam.launchCall enableSession intent handler).payload.get "params").get "from" = .string "" := by
  rw [launchCall_params, JValue.get_put (by simpa using isObject_toJson intent), if_neg (by decide),
    JValue.get_put (isObject_toJson intent), if_pos rfl, unowned]

theorem launchCall_describes {request : Message} (nameless : getName request = "") (sessionId : String)
    (token : Int) (unowned : intent.owner = "") :
    Describes (sam.launchCall enableSession intent handler) handler.name
      (IntentManager.startedIntent request sessionId (intent.setToken token)) := by
  refine
    { app := ?_, owner := ?_, intentId := ?_, name := ?_, action := ?_, mimeType := ?_, uri := ?_,
      extra := ?_ }
  · rw [Sam.launchCall, JValue.get_put (by rfl), if_pos rfl]
  · rw [launchCall_sender unowned, startedIntent_owner, nameless]
  · rw [launchCall_params, JValue.get_put (by simpa using isObject_toJson intent), if_pos rfl,
      startedIntent_intentId, Intent.setToken_intentId]
  all_goals
    refine launchCall_member ?_ (by decide)
    rw [← members_startedIntent request sessionId token]
    simp [members]

end Params

/-! ## Runs -/

variable {setup}

theorem owner_of_target {self : Service} {enableSession : Bool} {request : Message} {session : Session}
    {intent : Intent} {handler : Handler}
    (target : IntentManager.startTarget enableSession self request = .ok (session, intent, handler)) :
    intent.owner = "" :=
  (Decoded.of_parsed (startTarget_eq_ok.mp target).2.1).owner

section OneStart

variable {history : List Event} {request : Message} {bus : Bus} {session : Session} {intent : Intent}
  {handler : Handler}

theorem launch_of_target
    (target : IntentManager.startTarget setup.enableSession (setup.service history) request =
      .ok (session, intent, handler)) :
    .call (session.sam.launchCall setup.enableSession intent handler)
        (bus.answer (session.sam.launchCall setup.enableSession intent handler)) ∈
      setup.effects history (.start request bus) ∧
      (session.sam.launchCall setup.enableSession intent handler).callback = .onLaunch :=
  (launch_iff setup).mpr ⟨request, bus, session, intent, handler, rfl, target, rfl, rfl⟩

/-- The application is told of no owner, so the one that is stored has no name. -/
theorem sender_of_agrees (agrees : LaunchAgrees setup history (.start request bus)) {token : UInt64}
    (target : IntentManager.startTarget setup.enableSession (setup.service history) request =
      .ok (session, intent, handler))
    (answer : bus.answer (session.sam.launchCall setup.enableSession intent handler) = some token)
    (code : toInt token ≠ -1) : getName request = "" := by
  have start : Started setup.enableSession (setup.service history) request bus token _ :=
    ⟨target, answer, code, rfl⟩
  obtain ⟨_, _, payload, same, reply, success, _⟩ :=
    (Identity.handsOut_start setup).mpr ⟨token, _, start, rfl⟩
  cases same
  obtain ⟨_, _, _, x, _, _, _, owner, _, describes⟩ := agrees request bus payload rfl reply success
  obtain ⟨launched, callback⟩ := launch_of_target target
  have sender := (describes _ _ launched callback).owner
  rw [launchCall_sender (owner_of_target target), owner] at sender
  exact (JValue.string.inj sender).symm

theorem launchAgrees_of_nameless (nameless : Nameless setup history (.start request bus)) :
    LaunchAgrees setup history (.start request bus) := by
  intro request bus payload same reply success
  cases same
  cases (start_outcome setup.enableSession bus (setup.service history) request).reply reply with
  | inl refused =>
      obtain ⟨_, _, failed⟩ := refused
      cases failed.symm.trans success
  | inr accepted =>
      obtain ⟨token, x, replied, start, key, rfl⟩ := accepted
      obtain ⟨target, answer, code, rfl⟩ := id start
      rename_i session intent handler
      have anonymous := nameless request bus session intent handler token rfl target answer code
      refine ⟨session, intent, handler, _, target, ?_, ?_, start.owner_eq,
        ⟨_, _, launch_of_target target⟩, ?_⟩
      · rw [Setup.intents, Setup.service_snoc, Service.dispatch, start.intents_eq, Intents.add,
          OrderedMap.find?_insert_self]
      · rw [JValue.get_put (startedReply_isObject _ _ _), if_neg (by decide), startedReply_intentId, key]
      · -- there is one launch call only
        intro call given member callback
        obtain ⟨_, _, _, _, _, same, target', rfl, rfl⟩ := (launch_iff setup).mp ⟨member, callback⟩
        cases same
        cases target.symm.trans target'
        exact launchCall_describes anonymous _ _ (owner_of_target target)

end OneStart

theorem agrees_iff_nameless (history : List Event) (e : Event) :
    LaunchAgrees setup history e ↔ Nameless setup history e := by
  constructor
  · intro agrees request bus session intent handler token same target answer code
    subst same
    exact sender_of_agrees agrees target answer code
  · intro nameless request bus payload same
    subst same
    exact launchAgrees_of_nameless nameless request bus payload rfl

variable (setup)

/-- What is launched agrees with what is stored along exactly the runs in which
    no sender with a name starts an intent. -/
theorem launch_agrees_iff (history : List Event) :
    Historically (LaunchAgrees setup) history ↔ Historically (Nameless setup) history :=
  historically_congr agrees_iff_nameless

/-- The client is not named to the application it starts. -/
theorem owner_not_told :
    ¬ Historically (LaunchAgrees Sample.host)
      [Sample.up, Sample.listed, Sample.start 1 "client" 10 20 Sample.first_tokens] := by
  intro agrees
  have nameless := (agrees_iff_nameless _ _).mp (agrees [Sample.up, Sample.listed] _ [] rfl)
  exact absurd (nameless _ _ _ _ _ 10 rfl rfl rfl (by decide)) (by decide)

end IntentService.Launching
