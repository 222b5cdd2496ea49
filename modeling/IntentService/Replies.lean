import IntentService.Sessions

/-! # One reply to each request

Every request is answered once, when it is handled, with a verdict; nobody else
is ever answered.
-/

namespace IntentService.Replies

open History JValueUtil

/-- The replies among the effects of an event. -/
def replies (effects : List Effect) : List (Nat × JValue) :=
  effects.filterMap fun
    | .respond request payload => some (request, payload)
    | .call _ _ | .cancel _ | .post _ _ => none

/-- A reply says that the request succeeded, or that it failed and why. -/
def Verdict (payload : JValue) : Prop :=
  (payload.get "returnValue" = .bool true ∧ payload.get "errorText" = .invalid) ∨
    payload.get "returnValue" = .bool false ∧ ∃ text, text ≠ "" ∧ payload.get "errorText" = .string text

/-- The last effect is the one reply, and it goes to the request. -/
def AnswersLast (request : Message) (effects : List Effect) : Prop :=
  ∃ before payload, effects = before ++ [.respond request.id payload] ∧ replies before = [] ∧ Verdict payload

/-! ## The `Done:` parts -/

theorem done_verdict (request : Message) {responsePayload : JValue} (errorText : String)
    (object : responsePayload.isObject = true) (silent : responsePayload.get "errorText" = .invalid) :
    ∃ payload, IntentManager.done request responsePayload errorText = .respond request.id payload ∧
      Verdict payload := by
  obtain ⟨payload, reply⟩ :
      ∃ payload, IntentManager.done request responsePayload errorText = .respond request.id payload :=
        ⟨_, rfl⟩
  have shown := done_get reply.symm object
  refine ⟨payload, reply, ?_⟩
  by_cases empty : errorText = ""
  · subst empty
    exact .inl ⟨shown "returnValue", (shown "errorText").trans silent⟩
  · have failed : errorText.isEmpty = false := by simpa using empty
    rw [failed] at shown
    exact .inr ⟨shown "returnValue", errorText, empty, shown "errorText"⟩

theorem sendResultDone_verdict (request : Message) (i : Int) (errorText : String) :
    ∃ payload, IntentManager.sendResultDone request i errorText = .respond request.id payload ∧
      Verdict payload := by
  unfold IntentManager.sendResultDone
  by_cases empty : errorText = ""
  · subst empty
    exact ⟨_, rfl, .inl ⟨rfl, rfl⟩⟩
  · rw [if_neg (fun none => empty (String.isEmpty_iff.mp none))]
    exact ⟨_, rfl, .inr ⟨rfl, errorText, empty, rfl⟩⟩

theorem subscribeResultDone_verdict (request : Message) (i : Int) (errorText : String) :
    ∃ payload, IntentManager.subscribeResultDone request i errorText = .respond request.id payload ∧
      Verdict payload := by
  unfold IntentManager.subscribeResultDone
  by_cases empty : errorText = ""
  · subst empty
    exact ⟨_, rfl, .inl ⟨rfl, rfl⟩⟩
  · rw [if_neg (fun none => empty (String.isEmpty_iff.mp none))]
    exact ⟨_, rfl, .inr ⟨rfl, errorText, empty, rfl⟩⟩

/-! ## The requests -/

theorem AnswersLast.of_last {request : Message} (before : List Effect) {last : Effect}
    (silent : replies before = []) (reply : ∃ payload, last = .respond request.id payload ∧ Verdict payload) :
    AnswersLast request (before ++ [last]) := by
  obtain ⟨payload, rfl, verdict⟩ := reply
  exact ⟨before, payload, rfl, silent, verdict⟩

theorem query_answers (enableSession : Bool) (self : Service) (request : Message) :
    AnswersLast request (IntentManager.query enableSession self request).2 := by
  have last : ∀ {effect : Effect}, (∃ payload, effect = .respond request.id payload ∧ Verdict payload) →
      AnswersLast request [effect] := fun reply => .of_last [] rfl reply
  unfold IntentManager.query
  dsimp only
  split
  · exact last (done_verdict request _ rfl rfl)
  · split
    · split
      · exact last (done_verdict request _ rfl rfl)
      · exact last (done_verdict request _ rfl rfl)
    · exact last (done_verdict request _ rfl rfl)

theorem start_answers {enableSession : Bool} {bus : Bus} {self after : Service} {request : Message}
    {effects : List Effect} (ended : StartOutcome enableSession bus self request after effects) :
    AnswersLast request effects := by
  cases ended with
  | refused => exact .of_last [] rfl (done_verdict request _ rfl rfl)
  | rejected | sentinel => exact .of_last [_] rfl (done_verdict request _ rfl rfl)
  | started =>
      exact .of_last [_, _] rfl
        (done_verdict request _ (startedReply_isObject _ _ _) (startedReply_errorText _ _ _))

theorem send_answers {self : Service} {request : Message} {effects : List Effect}
    (ended : SendOutcome self request effects) : AnswersLast request effects := by
  cases ended with
  | refused => exact .of_last [] rfl (sendResultDone_verdict _ _ _)
  | answered => exact .of_last [_] rfl (sendResultDone_verdict _ _ _)

theorem subscribe_answers {self after : Service} {request : Message} {effects : List Effect}
    (ended : SubscribeOutcome self request after effects) : AnswersLast request effects := by
  cases ended with
  | refused | joined => exact .of_last [] rfl (subscribeResultDone_verdict _ _ _)

/-! ## The other events -/

theorem replies_eq_nil {effects : List Effect} (silent : ∀ id payload, .respond id payload ∉ effects) :
    replies effects = [] := by
  rw [replies, List.filterMap_eq_nil_iff]
  intro effect member
  cases effect with
  | respond id payload => exact absurd member (silent id payload)
  | call | cancel | post => rfl

theorem respond_not_mem_cancelOpen {id : Nat} {payload : JValue} {token : UInt64} :
    .respond id payload ∉ cancelOpen token := by
  simp [mem_cancelOpen]

theorem respond_not_mem_destroyAll {id : Nat} {payload : JValue} {sessions : List Session}
    {handlers : Handlers} :
    .respond id payload ∉ (Session.destroyAll sessions handlers).2 := by
  simp [mem_destroyAll, mem_cancelOpen]

theorem respond_not_mem_updateSessions {id : Nat} {payload : JValue} {bus : Bus} {items : List JValue}
    {sessionId : String} {sessions : OrderedMap String Session} :
    .respond id payload ∉ (Account.updateSessions bus items sessionId sessions).2 := by
  simp [mem_updateSessions]

theorem account_silent {bus : Bus} {self account : Account} {handlers left : Handlers} {notice : Message}
    {effects : List Effect} (ended : AccountOutcome bus self handlers notice account left effects) :
    replies effects = [] := by
  refine replies_eq_nil (fun id payload => ?_)
  cases ended <;> simp [respond_not_mem_cancelOpen, respond_not_mem_destroyAll]

theorem sam_silent {enableSession : Bool} {bus : Bus} {self sam : Sam} {handlers left : Handlers}
    {notice : Message} {effects : List Effect}
    (ended : SamOutcome enableSession bus self handlers notice sam left effects) : replies effects = [] := by
  refine replies_eq_nil (fun id payload => ?_)
  cases ended <;> simp [respond_not_mem_cancelOpen]

theorem sync_silent {bus : Bus} {self account : Account} {handlers left : Handlers} {reply : Message}
    {effects : List Effect} (ended : SyncOutcome bus self handlers reply account left effects) :
    replies effects = [] := by
  refine replies_eq_nil (fun id payload => ?_)
  cases ended <;> simp [respond_not_mem_updateSessions, respond_not_mem_destroyAll]

theorem replies_of_other (enableSession : Bool) (self : Service) {e : Event} (other : e.request? = none) :
    replies (self.dispatch enableSession e).2 = [] := by
  cases e with
  | onLaunch reply =>
      simp only [Service.dispatch, Sam.onLaunch]
      repeat' split
      all_goals rfl
  | ownerStatus notice =>
      simp only [Service.dispatch, IntentManager.onServerStatusChanged]
      split <;> rfl
  | accountStatus notice bus => exact account_silent (account_outcome bus self.account self.handlers notice)
  | samStatus sessionId notice bus =>
      simp only [Service.dispatch]
      cases self.account.sessions.find? sessionId with
      | none => rfl
      | some session => exact sam_silent (sam_outcome enableSession bus session.sam self.handlers notice)
  | onGetSessions reply bus => exact sync_silent (sync_outcome bus self.account self.handlers reply)
  | onListApps reply => rfl
  | disconnect name sessionId => rfl
  | query | start | sendResult | subscribeResult => cases other

theorem answers_of_request (enableSession : Bool) (self : Service) {e : Event} {request : Message}
    (asked : e.request? = some request) : AnswersLast request (self.dispatch enableSession e).2 := by
  cases e with
  | query =>
      cases asked
      exact query_answers enableSession self request
  | start other bus =>
      cases asked
      exact start_answers (start_outcome enableSession bus self request)
  | sendResult =>
      cases asked
      exact send_answers (send_outcome self request)
  | subscribeResult =>
      cases asked
      exact subscribe_answers (subscribe_outcome self request)
  | onLaunch | ownerStatus | accountStatus | samStatus | onGetSessions | onListApps | disconnect =>
      cases asked

/-! ## Along a run -/

variable (setup : Setup)

/-- All replies of a run. -/
def answers (pre rest : List Event) : List (Nat × JValue) :=
  emitted (fun before e => replies (setup.effects before e)) pre rest

/-- The requests of a run. -/
def requests (history : List Event) : List Message := history.filterMap Event.request?

theorem replies_step (history : List Event) (e : Event) :
    (replies (setup.effects history e)).map Prod.fst = (requests [e]).map Message.id ∧
      ∀ reply ∈ replies (setup.effects history e), Verdict reply.2 := by
  cases asked : e.request? with
  | none =>
      have silent : replies (setup.effects history e) = [] := replies_of_other _ _ asked
      simp [silent, requests, asked]
  | some request =>
      obtain ⟨before, payload, effects, silent, verdict⟩ :=
        answers_of_request setup.enableSession (setup.service history) asked
      have single : replies (setup.effects history e) = [(request.id, payload)] := by
        rw [Setup.effects, effects, replies, List.filterMap_append, ← replies, silent]
        rfl
      simp [single, requests, asked, verdict]

/-- The replies of every run are the requests of the run: each is answered once
    and in turn, with a verdict, and there are no other replies. -/
theorem answered_in_turn (history : List Event) :
    (answers setup [] history).map Prod.fst = (requests history).map Message.id ∧
      ∀ reply ∈ answers setup [] history, Verdict reply.2 := by
  induction history using List.reverseRecOn with
  | nil => simp [answers, emitted, requests]
  | append_singleton history e ih =>
      obtain ⟨earlier, verdicts⟩ := ih
      obtain ⟨last, verdict⟩ := replies_step setup history e
      have split : answers setup [] (history ++ [e]) =
          answers setup [] history ++ replies (setup.effects history e) := by
        simp [answers, emitted_append, emitted]
      have asked : requests (history ++ [e]) = requests history ++ requests [e] := List.filterMap_append
      rw [split, asked, List.map_append, List.map_append, earlier, last]
      refine ⟨rfl, fun reply member => ?_⟩
      exact (List.mem_append.mp member).elim (verdicts reply) (verdict reply)

end IntentService.Replies
