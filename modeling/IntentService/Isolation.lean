import IntentService.Presence

/-! # What clients cannot reach

The sessions, the handlers and the calls made for them depend on what the
account service and the session managers say, and on nothing a client asks for:
a run and the same run without its requests keep the same ones.
-/

namespace IntentService.Isolation

open History

/-- The part of the process that the bus clients work on. -/
structure Same (one other : Service) : Prop where
  account : one.account = other.account
  handlers : one.handlers = other.handlers
  database : one.database = other.database

theorem Same.trans {one other third : Service} (first : Same one other) (second : Same other third) :
    Same one third :=
  ⟨first.account.trans second.account, first.handlers.trans second.handlers,
    first.database.trans second.database⟩

theorem Same.symm {one other : Service} (same : Same one other) : Same other one :=
  ⟨same.account.symm, same.handlers.symm, same.database.symm⟩

theorem StartOutcome.database_eq {enableSession : Bool} {bus : Bus} {self after : Service} {request : Message}
    {effects : List Effect} (ended : StartOutcome enableSession bus self request after effects) :
    after.database = self.database := by
  cases ended <;> rfl

theorem dispatch_database (enableSession : Bool) (self : Service) (e : Event) :
    (self.dispatch enableSession e).1.database = self.database := by
  cases e with
  | query request =>
      rw [Service.dispatch, (query_eq enableSession self request).1]
      rfl
  | start request bus => exact StartOutcome.database_eq (start_outcome enableSession bus self request)
  | sendResult request => rw [Service.dispatch, send_state]
  | subscribeResult request =>
      simp only [Service.dispatch, IntentManager.subscribeResult]
      repeat' split
      all_goals rfl
  | ownerStatus notice =>
      simp only [Service.dispatch, IntentManager.onServerStatusChanged]
      split <;> rfl
  | samStatus sessionId notice bus =>
      simp only [Service.dispatch]
      split <;> rfl
  | onLaunch | accountStatus | onGetSessions | onListApps | disconnect => rfl

theorem same_of_other (enableSession : Bool) (self : Service) {e : Event} (other : e.ofClients = false) :
    Same (self.dispatch enableSession e).1 self := by
  obtain ⟨account, handlers⟩ := dispatch_of_other enableSession self other
  exact ⟨account, handlers, dispatch_database enableSession self e⟩

/-- What the bus clients do is decided by their part of the process. -/
theorem same_of_clients (enableSession : Bool) {self other : Service} (same : Same self other) {e : Event}
    (clients : e.ofClients = true) :
    Same (self.dispatch enableSession e).1 (other.dispatch enableSession e).1 ∧
      (self.dispatch enableSession e).2 = (other.dispatch enableSession e).2 := by
  obtain ⟨account, handlers, database⟩ := same
  cases e with
  | accountStatus notice bus =>
      rw [Service.dispatch, Service.dispatch, account, handlers]
      exact ⟨⟨rfl, rfl, database⟩, rfl⟩
  | samStatus sessionId notice bus =>
      simp only [Service.dispatch, account, handlers]
      cases other.account.sessions.find? sessionId with
      | none => exact ⟨⟨account, handlers, database⟩, rfl⟩
      | some session => exact ⟨⟨rfl, rfl, database⟩, rfl⟩
  | onGetSessions reply bus =>
      rw [Service.dispatch, Service.dispatch, account, handlers]
      exact ⟨⟨rfl, rfl, database⟩, rfl⟩
  | onListApps reply =>
      rw [Service.dispatch, Service.dispatch, handlers, database]
      exact ⟨⟨account, rfl, rfl⟩, rfl⟩
  | query | start | sendResult | subscribeResult | onLaunch | ownerStatus | disconnect => cases clients

/-! ## Along a run -/

variable (setup : Setup)

/-- The events of a run that reach the bus clients. -/
def clientEvents (history : List Event) : List Event := history.filter Event.ofClients

/-- What the process sends out for the bus clients. -/
def clientEffects (pre rest : List Event) : List Effect :=
  emitted (fun before e => if e.ofClients then setup.effects before e else []) pre rest

theorem clientEffects_snoc (pre rest : List Event) (e : Event) :
    clientEffects setup pre (rest ++ [e]) =
      clientEffects setup pre rest ++ if e.ofClients then setup.effects (pre ++ rest) e else [] := by
  simp [clientEffects, emitted_append, emitted]

theorem same_run {first second : List Event} (same : Same (setup.service first) (setup.service second))
    (rest : List Event) :
    Same (setup.service (first ++ rest)) (setup.service (second ++ rest)) ∧
      clientEffects setup first rest = clientEffects setup second rest := by
  induction rest using List.reverseRecOn with
  | nil => exact ⟨by simpa using same, rfl⟩
  | append_singleton rest e ih =>
      obtain ⟨before, sent⟩ := ih
      simp only [← List.append_assoc, Setup.service_snoc, clientEffects_snoc, sent]
      cases clients : e.ofClients with
      | false =>
          have left := same_of_other setup.enableSession (setup.service (first ++ rest)) clients
          have right := same_of_other setup.enableSession (setup.service (second ++ rest)) clients
          exact ⟨(left.trans before).trans right.symm, rfl⟩
      | true =>
          obtain ⟨after, effects⟩ := same_of_clients setup.enableSession before clients
          exact ⟨after, congrArg _ effects⟩

/-- A run and the same run without requests, launch replies and notices of
    owners keep the same sessions and handlers, and send out the same for them. -/
theorem clients_isolated (history : List Event) :
    Same (setup.service history) (setup.service (clientEvents history)) ∧
      clientEffects setup [] history = clientEffects setup [] (clientEvents history) := by
  refine filter_rule (I := fun pre purged => Same (setup.service pre) (setup.service purged) ∧
    clientEffects setup [] pre = clientEffects setup [] purged) (A := fun _ => True) Event.ofClients
    ⟨⟨rfl, rfl, rfl⟩, rfl⟩ ?_ ?_ (fun _ _ => trivial)
  · rintro pre purged e - clients ⟨same, sent⟩
    obtain ⟨after, effects⟩ := same_of_clients setup.enableSession same clients
    rw [clientEffects_snoc, clientEffects_snoc, Setup.service_snoc, Setup.service_snoc, sent]
    refine ⟨after, ?_⟩
    simp only [clients, if_true]
    exact congrArg _ effects
  · rintro pre purged e - other ⟨same, sent⟩
    rw [clientEffects_snoc, Setup.service_snoc]
    refine ⟨(same_of_other setup.enableSession _ other).trans same, ?_⟩
    simp [other, sent]

end IntentService.Isolation
