import IntentService.Steps

/-! # Sessions along a run

Every change of the account and of the handler store with the event behind it,
and the shape of `Account::m_sessions`: a session and its `SAM` know the id they
are kept under.
-/

namespace IntentService

/-! ## One event -/

/-- The calls `start` makes. -/
def Callback.ofStart (callback : Callback) : Prop := callback = .onLaunch ∨ callback = .ownerStatus

/-- A notice that a service left arrives whose own message has the token: the
    handler cancels that one, whatever watch the notice came on. -/
def Event.Cancels (e : Event) (token : UInt64) : Prop :=
  ∃ notice name, e = .ownerStatus notice ∧ IntentManager.departed notice = some name ∧
    notice.messageToken = token

/-- Every change of the account and of the handlers. -/
inductive ClientsChange (enableSession : Bool) (self : Service) :
    Event → Account → Handlers → List Effect → Prop where
  | other {e : Event} {effects : List Effect}
      (calls : ∀ call answer, .call call answer ∈ effects →
        call.callback.ofStart ∧ ∃ request bus, e = .start request bus)
      (cancels : ∀ token, .cancel token ∈ effects → e.Cancels token) :
      ClientsChange enableSession self e self.account self.handlers effects
  | account {notice : Message} {bus : Bus} {account : Account} {handlers : Handlers} {effects : List Effect}
      (ended : AccountOutcome bus self.account self.handlers notice account handlers effects) :
      ClientsChange enableSession self (.accountStatus notice bus) account handlers effects
  | sam {sessionId : String} {notice : Message} {bus : Bus} {session : Session} {sam : Sam}
      {handlers : Handlers} {effects : List Effect}
      (known : self.account.sessions.find? sessionId = some session)
      (ended : SamOutcome enableSession bus session.sam self.handlers notice sam handlers effects) :
      ClientsChange enableSession self (.samStatus sessionId notice bus)
        { self.account with sessions := self.account.sessions.insert sessionId { session with sam := sam } }
        handlers effects
  | sync {reply : Message} {bus : Bus} {account : Account} {handlers : Handlers} {effects : List Effect}
      (ended : SyncOutcome bus self.account self.handlers reply account handlers effects) :
      ClientsChange enableSession self (.onGetSessions reply bus) account handlers effects
  | apps (reply : Message) :
      ClientsChange enableSession self (.onListApps reply) self.account
        (Sam.onListApps enableSession self.database self.handlers reply) []

theorem StartOutcome.clients {enableSession : Bool} {bus : Bus} {self after : Service} {request : Message}
    {effects : List Effect} (ended : StartOutcome enableSession bus self request after effects) :
    ClientsChange enableSession self (.start request bus) after.account after.handlers effects := by
  cases ended with
  | refused => exact .other (by simp [IntentManager.done]) (by simp [IntentManager.done])
  | rejected | sentinel =>
      refine .other ?_ (by simp [IntentManager.done])
      intro call answer member
      simp only [IntentManager.done, List.mem_cons, Effect.call.injEq, reduceCtorEq, List.not_mem_nil,
        or_false] at member
      exact ⟨.inl (by rw [member.1]; rfl), request, bus, rfl⟩
  | started =>
      refine .other ?_ (by simp [IntentManager.done, IntentManager.subscribeStatus])
      intro call answer member
      simp only [IntentManager.done, IntentManager.subscribeStatus, List.mem_cons, Effect.call.injEq,
        reduceCtorEq, List.not_mem_nil, or_false] at member
      refine ⟨?_, request, bus, rfl⟩
      rcases member with ⟨rfl, _⟩ | ⟨rfl, _⟩
      · exact .inl rfl
      · exact .inr rfl

theorem SendOutcome.clients {enableSession : Bool} {self : Service} {request : Message}
    {effects : List Effect} (ended : SendOutcome self request effects) :
    ClientsChange enableSession self (.sendResult request) self.account self.handlers effects := by
  cases ended <;>
  exact .other (by simp [IntentManager.sendResultDone]) (by simp [IntentManager.sendResultDone])

theorem SubscribeOutcome.clients {enableSession : Bool} {self after : Service} {request : Message}
    {effects : List Effect} (ended : SubscribeOutcome self request after effects) :
    ClientsChange enableSession self (.subscribeResult request) after.account after.handlers effects := by
  cases ended <;>
  exact .other (by simp [IntentManager.subscribeResultDone]) (by simp [IntentManager.subscribeResultDone])

theorem dispatch_clients (enableSession : Bool) (self : Service) (e : Event) :
    ClientsChange enableSession self e (self.dispatch enableSession e).1.account
      (self.dispatch enableSession e).1.handlers (self.dispatch enableSession e).2 := by
  cases e with
  | query request =>
      obtain ⟨state, payload, effects⟩ := query_eq enableSession self request
      rw [Service.dispatch, state, effects]
      exact .other (by simp) (by simp)
  | start request bus => exact (start_outcome enableSession bus self request).clients
  | sendResult request =>
      rw [Service.dispatch, send_state]
      exact (send_outcome self request).clients
  | subscribeResult request => exact (subscribe_outcome self request).clients
  | onLaunch reply =>
      simp only [Service.dispatch, Sam.onLaunch]
      repeat' split
      all_goals exact .other (by simp) (by simp)
  | ownerStatus notice =>
      simp only [Service.dispatch, IntentManager.onServerStatusChanged]
      cases left : IntentManager.departed notice with
      | none => exact .other (by simp) (by simp)
      | some name => exact .other (by simp) (by simp [Event.Cancels, left])
  | accountStatus notice bus => exact .account (account_outcome bus self.account self.handlers notice)
  | samStatus sessionId notice bus =>
      simp only [Service.dispatch]
      cases known : self.account.sessions.find? sessionId with
      | none => exact .other (by simp) (by simp)
      | some session => exact .sam known (sam_outcome enableSession bus session.sam self.handlers notice)
  | onGetSessions reply bus => exact .sync (sync_outcome bus self.account self.handlers reply)
  | onListApps reply => exact .apps reply
  | disconnect name sessionId => exact .other (by simp [Service.dispatch]) (by simp [Service.dispatch])

/-! ## Who calls what -/

theorem call_not_mem_cancelOpen {call : LSCall} {answer : Option UInt64} {token : UInt64} :
    .call call answer ∉ cancelOpen token := by
  simp [mem_cancelOpen]

theorem call_not_mem_destroyAll {call : LSCall} {answer : Option UInt64} {sessions : List Session}
    {handlers : Handlers} : .call call answer ∉ (Session.destroyAll sessions handlers).2 := by
  simp [mem_destroyAll, mem_cancelOpen]

theorem AccountOutcome.call_eq {bus : Bus} {self account : Account} {handlers left : Handlers}
    {notice : Message} {effects : List Effect}
    (ended : AccountOutcome bus self handlers notice account left effects) {call : LSCall}
    {answer : Option UInt64} (member : .call call answer ∈ effects) :
    call = Account.getSessionsCall ∧ answer = bus.answer call := by
  cases ended with
  | ignored => cases member
  | up =>
      rcases List.mem_append.mp member with member | member
      · simp [call_not_mem_cancelOpen, call_not_mem_destroyAll] at member
      · cases List.mem_singleton.mp member
        exact ⟨rfl, rfl⟩
  | down => simp [call_not_mem_cancelOpen, call_not_mem_destroyAll] at member

theorem SamOutcome.call_eq {enableSession : Bool} {bus : Bus} {self sam : Sam} {handlers left : Handlers}
    {notice : Message} {effects : List Effect}
    (ended : SamOutcome enableSession bus self handlers notice sam left effects) {call : LSCall}
    {answer : Option UInt64} (member : .call call answer ∈ effects) :
    call = self.listAppsCall enableSession ∧ answer = bus.answer call := by
  cases ended with
  | ignored | stayed => cases member
  | subscribed =>
      cases List.mem_singleton.mp member
      exact ⟨rfl, rfl⟩
  | down => exact absurd member call_not_mem_cancelOpen

theorem SyncOutcome.call_eq {bus : Bus} {self account : Account} {handlers left : Handlers}
    {reply : Message} {effects : List Effect}
    (ended : SyncOutcome bus self handlers reply account left effects) {call : LSCall}
    {answer : Option UInt64} (member : .call call answer ∈ effects) :
    ∃ s, call = sessionCall s ∧ answer = bus.answer call := by
  cases ended with
  | ignored => cases member
  | synced =>
      rcases List.mem_append.mp member with member | member
      · obtain ⟨s, _, _, same⟩ := (mem_updateSessions _ _ _ _ _).mp member
        cases same
        exact ⟨s, rfl, rfl⟩
      · exact absurd member call_not_mem_destroyAll

theorem getSessionsCall_not_ofStart : ¬ Account.getSessionsCall.callback.ofStart := by
  simp [Callback.ofStart, Account.getSessionsCall]

theorem listAppsCall_not_ofStart (enableSession : Bool) (self : Sam) :
    ¬ (self.listAppsCall enableSession).callback.ofStart := by
  simp [Callback.ofStart, Sam.listAppsCall]

theorem sessionCall_not_ofStart (s : String) : ¬ (sessionCall s).callback.ofStart := by
  simp [Callback.ofStart, sessionCall, clientStatusCall]

theorem ClientsChange.start_of_call {enableSession : Bool} {self : Service} {e : Event}
    {account : Account} {handlers : Handlers} {effects : List Effect}
    (change : ClientsChange enableSession self e account handlers effects) {call : LSCall}
    {answer : Option UInt64} (member : .call call answer ∈ effects) (own : call.callback.ofStart) :
    ∃ request bus, e = .start request bus := by
  cases change with
  | other calls => exact (calls call answer member).2
  | apps => cases member
  | account ended =>
      rw [(ended.call_eq member).1] at own
      exact absurd own getSessionsCall_not_ofStart
  | sam known ended =>
      rw [(ended.call_eq member).1] at own
      exact absurd own (listAppsCall_not_ofStart _ _)
  | sync ended =>
      obtain ⟨s, rfl, _⟩ := ended.call_eq member
      exact absurd own (sessionCall_not_ofStart s)

/-! ## Tokens the clients hold -/

/-- The clients keep the token of an open call. -/
def Account.Holds (self : Account) (token : UInt64) : Prop :=
  token ≠ 0 ∧ (token = self.getSessions ∨
    ∃ s session, self.sessions.find? s = some session ∧
      (token = session.sam.statusCall ∨ token = session.sam.listApps))

theorem storeToken_eq {answer : Option UInt64} {token : UInt64} (stored : token = storeToken answer 0)
    (nonzero : token ≠ 0) : answer = some token := by
  cases answer with
  | none => exact absurd stored nonzero
  | some given => rw [stored]; rfl

/-- The clients make a call that is answered with the token. -/
def Opens (effects : List Effect) (token : UInt64) : Prop :=
  ∃ call, .call call (some token) ∈ effects ∧ ¬ call.callback.ofStart

theorem Opens.of_stored {effects : List Effect} {call : LSCall} {answer : Option UInt64} {token : UInt64}
    (stored : token = storeToken answer 0) (nonzero : token ≠ 0) (made : .call call answer ∈ effects)
    (other : ¬ call.callback.ofStart) : Opens effects token := by
  rw [storeToken_eq stored nonzero] at made
  exact ⟨call, made, other⟩

theorem AccountOutcome.holds {bus : Bus} {self account : Account} {handlers left : Handlers}
    {notice : Message} {effects : List Effect}
    (ended : AccountOutcome bus self handlers notice account left effects) {token : UInt64}
    (holds : account.Holds token) : self.Holds token ∨ Opens effects token := by
  obtain ⟨nonzero, held⟩ := id holds
  cases ended with
  | ignored => exact .inl holds
  | up =>
      rcases held with held | ⟨s, session, found, _⟩
      · exact .inr (.of_stored held nonzero (by simp) getSessionsCall_not_ofStart)
      · simp at found
  | down =>
      rcases held with held | ⟨s, session, found, _⟩
      · exact absurd held nonzero
      · simp at found

theorem SamOutcome.holds {enableSession : Bool} {bus : Bus} {self sam : Sam} {handlers left : Handlers}
    {notice : Message} {effects : List Effect}
    (ended : SamOutcome enableSession bus self handlers notice sam left effects) {token : UInt64}
    (nonzero : token ≠ 0) (held : token = sam.statusCall ∨ token = sam.listApps) :
    (token = self.statusCall ∨ token = self.listApps) ∨ Opens effects token := by
  cases ended with
  | ignored | stayed => exact .inl held
  | subscribed =>
      rcases held with held | held
      · exact .inl (.inl held)
      · exact .inr (.of_stored held nonzero List.mem_cons_self (listAppsCall_not_ofStart _ _))
  | down =>
      rcases held with held | held
      · exact .inl (.inl held)
      · exact absurd held nonzero

theorem SyncOutcome.holds {bus : Bus} {self account : Account} {handlers left : Handlers}
    {reply : Message} {effects : List Effect}
    (ended : SyncOutcome bus self handlers reply account left effects) {token : UInt64}
    (holds : account.Holds token) : self.Holds token ∨ Opens effects token := by
  obtain ⟨nonzero, held⟩ := id holds
  cases ended with
  | ignored => exact .inl holds
  | synced =>
      rcases held with held | ⟨s, session, found, held⟩
      · exact .inl ⟨nonzero, .inl held⟩
      · rw [keptSessions_find?] at found
        split at found
        next named =>
          cases found
          cases known : self.sessions.find? s with
          | some old =>
              rw [known] at held
              exact .inl ⟨nonzero, .inr ⟨s, old, known, held⟩⟩
          | none =>
              -- a session that is made new has its status call only
              rw [known, Option.getD_none, new_eq] at held
              rcases held with held | held
              · refine .inr (.of_stored held nonzero (List.mem_append_left _ ?_) (sessionCall_not_ofStart s))
                refine (mem_updateSessions _ _ _ _ _).mpr ⟨s, named, ?_, rfl⟩
                rw [marked, OrderedMap.find?_mapValues, known]
                rfl
              · exact absurd held nonzero
        next => cases found

theorem ClientsChange.holds {enableSession : Bool} {self : Service} {e : Event} {account : Account}
    {handlers : Handlers} {effects : List Effect}
    (change : ClientsChange enableSession self e account handlers effects) {token : UInt64}
    (holds : account.Holds token) : self.account.Holds token ∨ Opens effects token := by
  cases change with
  | other | apps => exact .inl holds
  | account ended => exact ended.holds holds
  | sync ended => exact ended.holds holds
  | @sam sessionId notice bus session sam _ _ known ended =>
      obtain ⟨nonzero, held⟩ := holds
      rcases held with held | ⟨s, other, found, held⟩
      · exact .inl ⟨nonzero, .inl held⟩
      · rw [OrderedMap.find?_insert] at found
        split at found
        next same =>
          cases found
          rcases ended.holds nonzero held with before | opened
          · exact .inl ⟨nonzero, .inr ⟨sessionId, session, known, before⟩⟩
          · exact .inr opened
        next => exact .inl ⟨nonzero, .inr ⟨s, other, found, held⟩⟩

theorem Account.holds_of_cancelOpen {self : Account} {s : String} {session : Session} {token : UInt64}
    (known : self.sessions.find? s = some session)
    (cancel : .cancel token ∈ cancelOpen session.sam.statusCall ∨
      .cancel token ∈ cancelOpen session.sam.listApps) :
    self.Holds token := by
  simp only [mem_cancelOpen, Effect.cancel.injEq] at cancel
  rcases cancel with ⟨nonzero, rfl⟩ | ⟨nonzero, rfl⟩
  · exact ⟨nonzero, .inr ⟨s, session, known, .inl rfl⟩⟩
  · exact ⟨nonzero, .inr ⟨s, session, known, .inr rfl⟩⟩

theorem Account.holds_of_swept {self : Account} {handlers : Handlers} {token : UInt64}
    (cancel : .cancel token ∈
      cancelOpen self.getSessions ++ (Session.destroyAll self.sessions.values handlers).2) :
    self.Holds token := by
  rcases List.mem_append.mp cancel with cancel | cancel
  · obtain ⟨nonzero, same⟩ := mem_cancelOpen.mp cancel
    cases same
    exact ⟨nonzero, .inl rfl⟩
  · obtain ⟨session, listed, cancelled⟩ := mem_destroyAll.mp cancel
    obtain ⟨s, known⟩ := OrderedMap.mem_values.mp listed
    exact holds_of_cancelOpen known cancelled

theorem AccountOutcome.cancels {bus : Bus} {self account : Account} {handlers left : Handlers}
    {notice : Message} {effects : List Effect}
    (ended : AccountOutcome bus self handlers notice account left effects) {token : UInt64}
    (cancel : .cancel token ∈ effects) : self.Holds token := by
  cases ended with
  | ignored => cases cancel
  | up =>
      rcases List.mem_append.mp cancel with cancel | cancel
      · exact Account.holds_of_swept cancel
      · cases List.mem_singleton.mp cancel
  | down => exact Account.holds_of_swept cancel

theorem SyncOutcome.cancels {bus : Bus} {self account : Account} {handlers left : Handlers}
    {reply : Message} {effects : List Effect}
    (ended : SyncOutcome bus self handlers reply account left effects) {token : UInt64}
    (cancel : .cancel token ∈ effects) : self.Holds token := by
  cases ended with
  | ignored => cases cancel
  | synced =>
      rcases List.mem_append.mp cancel with cancel | cancel
      · obtain ⟨_, _, _, same⟩ := (mem_updateSessions _ _ _ _ _).mp cancel
        cases same
      · obtain ⟨session, listed, cancelled⟩ := mem_destroyAll.mp cancel
        obtain ⟨s, old, _, known, rfl⟩ := (mem_droppedSessions _ _ _ _).mp listed
        exact Account.holds_of_cancelOpen known cancelled

/-- The clients cancel what they hold; a notice cancels the token of its own message. -/
theorem ClientsChange.cancels {enableSession : Bool} {self : Service} {e : Event} {account : Account}
    {handlers : Handlers} {effects : List Effect}
    (change : ClientsChange enableSession self e account handlers effects) {token : UInt64}
    (cancel : .cancel token ∈ effects) : self.account.Holds token ∨ e.Cancels token := by
  cases change with
  | other _ cancels => exact .inr (cancels token cancel)
  | apps => cases cancel
  | account ended => exact .inl (ended.cancels cancel)
  | sync ended => exact .inl (ended.cancels cancel)
  | sam known ended =>
      left
      cases ended with
      | ignored | stayed => cases cancel
      | subscribed => cases List.mem_singleton.mp cancel
      | down => exact Account.holds_of_cancelOpen known (.inr cancel)

/-! ## The shape of the sessions -/

/-- A session and its `SAM` carry the id the session is kept under. -/
def SessionsKeyed (sessions : OrderedMap String Session) : Prop :=
  ∀ s session, sessions.find? s = some session → session.sessionId = s ∧ session.sam.sessionId = s

theorem sessionsKeyed_empty : SessionsKeyed ∅ := by
  intro s session found
  simp at found

theorem SamOutcome.sessionId_eq {enableSession : Bool} {bus : Bus} {self sam : Sam}
    {handlers left : Handlers} {notice : Message} {effects : List Effect}
    (ended : SamOutcome enableSession bus self handlers notice sam left effects) :
    sam.sessionId = self.sessionId := by
  cases ended <;> rfl

theorem SessionsKeyed.insert {sessions : OrderedMap String Session} (keyed : SessionsKeyed sessions)
    {s : String} {session : Session} (own : session.sessionId = s ∧ session.sam.sessionId = s) :
    SessionsKeyed (sessions.insert s session) := by
  intro t other found
  rw [OrderedMap.find?_insert] at found
  split at found
  next same =>
    cases found
    exact same ▸ own
  next => exact keyed t other found

theorem SessionsKeyed.kept {sessions : OrderedMap String Session} (keyed : SessionsKeyed sessions)
    (bus : Bus) (items : List JValue) : SessionsKeyed (keptSessions bus sessions items) := by
  intro s session found
  rw [keptSessions_find?] at found
  split at found
  · cases found
    cases known : sessions.find? s with
    | none => exact ⟨rfl, rfl⟩
    | some old => exact keyed s old known
  · cases found

theorem ClientsChange.sessionsKeyed {enableSession : Bool} {self : Service} {e : Event}
    {account : Account} {handlers : Handlers} {effects : List Effect}
    (change : ClientsChange enableSession self e account handlers effects)
    (keyed : SessionsKeyed self.account.sessions) : SessionsKeyed account.sessions := by
  cases change with
  | other | apps => exact keyed
  | account ended =>
      cases ended with
      | ignored => exact keyed
      | up | down => exact sessionsKeyed_empty
  | sam known ended =>
      obtain ⟨own, sam⟩ := keyed _ _ known
      exact keyed.insert ⟨own, ended.sessionId_eq.trans sam⟩
  | sync ended =>
      cases ended with
      | ignored => exact keyed
      | synced => exact keyed.kept _ _

variable (setup : Setup)

theorem clients_snoc (history : List Event) (e : Event) :
    ClientsChange setup.enableSession (setup.service history) e (setup.service (history ++ [e])).account
      (setup.service (history ++ [e])).handlers (setup.effects history e) := by
  rw [Setup.service_snoc]
  exact dispatch_clients setup.enableSession (setup.service history) e

theorem effects_of_cancels (history : List Event) {e : Event} {token : UInt64} (cancels : e.Cancels token) :
    setup.effects history e = [.cancel token] := by
  obtain ⟨notice, name, rfl, left, rfl⟩ := cancels
  rw [Setup.effects, Service.dispatch, IntentManager.onServerStatusChanged, left]

/-- Every launch call belongs to a `start` that passed its checks. -/
theorem launch_iff {history : List Event} {e : Event} {call : LSCall} {answer : Option UInt64} :
    (.call call answer ∈ setup.effects history e ∧ call.callback = .onLaunch) ↔
      ∃ request bus session intent handler, e = .start request bus ∧
        IntentManager.startTarget setup.enableSession (setup.service history) request =
          .ok (session, intent, handler) ∧
        call = session.sam.launchCall setup.enableSession intent handler ∧ answer = bus.answer call := by
  constructor
  · rintro ⟨member, launch⟩
    obtain ⟨request, bus, rfl⟩ := (clients_snoc setup history e).start_of_call member (.inl launch)
    obtain ⟨session, intent, handler, found⟩ :=
      (start_outcome setup.enableSession bus (setup.service history) request).launch_iff.mp
        ⟨member, launch⟩
    exact ⟨request, bus, session, intent, handler, rfl, found⟩
  · rintro ⟨request, bus, session, intent, handler, rfl, found⟩
    exact (start_outcome setup.enableSession bus (setup.service history) request).launch_iff.mpr
      ⟨session, intent, handler, found⟩

theorem sessionsKeyed (history : List Event) :
    SessionsKeyed (setup.service history).account.sessions := by
  induction history using List.reverseRecOn with
  | nil =>
      rcases setup with ⟨_ | _, bus, database⟩
      · exact sessionsKeyed_empty.insert ⟨rfl, rfl⟩
      · exact sessionsKeyed_empty
  | append_singleton history e ih => exact (clients_snoc setup history e).sessionsKeyed ih

end IntentService
