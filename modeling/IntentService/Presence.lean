import IntentService.Sync

/-! # Which sessions are there

The session manager as a table over the past: a session is kept exactly since it
was listed and neither left out of a later list nor swept away by the account
service, and its session manager counts as connected exactly since it was
reported up. The state of `Account` says this and nothing else about the run.
-/

namespace IntentService

theorem StartOutcome.clients_eq {enableSession : Bool} {bus : Bus} {self after : Service} {request : Message}
    {effects : List Effect} (ended : StartOutcome enableSession bus self request after effects) :
    after.account = self.account ∧ after.handlers = self.handlers := by
  cases ended <;> exact ⟨rfl, rfl⟩

theorem SubscribeOutcome.clients_eq {self after : Service} {request : Message} {effects : List Effect}
    (ended : SubscribeOutcome self request after effects) :
    after.account = self.account ∧ after.handlers = self.handlers := by
  cases ended <;> exact ⟨rfl, rfl⟩

/-- The events that reach the account and the session managers. -/
def Event.ofClients : Event → Bool
  | .accountStatus _ _ | .samStatus _ _ _ | .onGetSessions _ _ | .onListApps _ => true
  | .query _ | .start _ _ | .sendResult _ | .subscribeResult _ | .onLaunch _ | .ownerStatus _
  | .disconnect _ _ => false

theorem dispatch_of_other (enableSession : Bool) (self : Service) {e : Event} (other : e.ofClients = false) :
    (self.dispatch enableSession e).1.account = self.account ∧
      (self.dispatch enableSession e).1.handlers = self.handlers := by
  cases e with
  | query request =>
      rw [Service.dispatch, (query_eq enableSession self request).1]
      exact ⟨rfl, rfl⟩
  | start request bus => exact (start_outcome enableSession bus self request).clients_eq
  | sendResult request =>
      rw [Service.dispatch, send_state]
      exact ⟨rfl, rfl⟩
  | subscribeResult request => exact (subscribe_outcome self request).clients_eq
  | onLaunch reply => exact ⟨rfl, rfl⟩
  | ownerStatus notice =>
      simp only [Service.dispatch, IntentManager.onServerStatusChanged]
      split <;> exact ⟨rfl, rfl⟩
  | disconnect name sessionId => exact ⟨rfl, rfl⟩
  | accountStatus | samStatus | onGetSessions | onListApps => cases other

namespace Presence

open History Sync

/-! ## Events -/

/-- A list of the account service names the session. -/
def Listed (s : String) (e : Event) : Prop :=
  ∃ reply bus items, e = .onGetSessions reply bus ∧ Lists reply items ∧ Names items s

/-- The account service comes up or goes down, or a list of it leaves the session out. -/
def Ended (s : String) (e : Event) : Prop :=
  (∃ notice bus connected, e = .accountStatus notice bus ∧ clientStatus "" notice = some connected) ∨
    ∃ reply bus items, e = .onGetSessions reply bus ∧ Lists reply items ∧ ¬ Names items s

/-- The session manager of the session is reported up, or down. -/
def Reported (s : String) (connected : Bool) (e : Event) : Prop :=
  ∃ notice bus, e = .samStatus s notice bus ∧ clientStatus s notice = some connected

/-- Whether a session is kept, and whether its session manager is connected. -/
def view (self : Account) (s : String) : Option Bool :=
  (self.sessions.find? s).map (fun session => session.sam.isConnected)

theorem lists_unique {reply : Message} {items other : List JValue} (lists : Lists reply items)
    (again : Lists reply other) : items = other := by
  cases lists.sessions.symm.trans again.sessions
  rfl

theorem Listed.not_ended {s : String} {e : Event} (listed : Listed s e) : ¬ Ended s e := by
  obtain ⟨reply, bus, items, rfl, lists, named⟩ := listed
  rintro (⟨_, _, _, other, _⟩ | ⟨_, _, _, same, again, unnamed⟩)
  · cases other
  · cases same
    exact unnamed (lists_unique lists again ▸ named)

theorem Reported.not_ended {s : String} {connected : Bool} {e : Event} (reported : Reported s connected e) :
    ¬ Ended s e := by
  obtain ⟨notice, bus, rfl, _⟩ := reported
  simp [Ended]

theorem Reported.unique {s : String} {connected other : Bool} {e : Event} (reported : Reported s connected e)
    (again : Reported s other e) : connected = other := by
  obtain ⟨notice, bus, rfl, status⟩ := reported
  obtain ⟨_, _, same, status'⟩ := again
  cases same
  exact Option.some.inj (status.symm.trans status')

/-! ## One event -/

/-- What an event does to one session. -/
inductive Change (s : String) (e : Event) : Option Bool → Option Bool → Prop where
  | same {before : Option Bool} (stays : ¬ Ended s e) (unlisted : before = none → ¬ Listed s e)
      (silent : ∀ connected, before ≠ none → ¬ Reported s connected e) : Change s e before before
  | created (listed : Listed s e) : Change s e none (some false)
  | reported {old connected : Bool} (reported : Reported s connected e) :
    Change s e (some old) (some connected)
  | ended {before : Option Bool} (ended : Ended s e) : Change s e before none

theorem Change.idle {s : String} {e : Event} (before : Option Bool) (stays : ¬ Ended s e)
    (unlisted : ¬ Listed s e) (silent : ∀ connected, ¬ Reported s connected e) : Change s e before before :=
  .same stays (fun _ => unlisted) (fun connected _ => silent connected)

theorem change_of_account (s : String) {bus : Bus} {self account : Account} {handlers left : Handlers}
    {notice : Message} {effects : List Effect}
    (ended : AccountOutcome bus self handlers notice account left effects) :
    Change s (.accountStatus notice bus) (view self s) (view account s) := by
  cases ended with
  | ignored status => exact .idle _ (by simp [Ended, status]) (by simp [Listed]) (by simp [Reported])
  | up status | down status => exact .ended (.inl ⟨notice, bus, _, rfl, status⟩)

theorem change_of_sync (s : String) (bus : Bus) (self : Account) (handlers : Handlers) (reply : Message) :
    Change s (.onGetSessions reply bus) (view self s) (view (self.onGetSessions bus handlers reply).1 s) := by
  by_cases lists : ∃ items, Lists reply items
  · obtain ⟨items, lists⟩ := lists
    rw [onGetSessions_listed lists, view, view, keptSessions_find?]
    by_cases named : Names items s
    · have listed : Listed s (.onGetSessions reply bus) := ⟨reply, bus, items, rfl, lists, named⟩
      rw [if_pos (mem_namedSessions.mpr named)]
      cases self.sessions.find? s with
      | none => exact .created listed
      | some old => exact .same listed.not_ended (by simp) (by simp [Reported])
    · rw [if_neg (fun listed => named (mem_namedSessions.mp listed))]
      exact .ended (.inr ⟨reply, bus, items, rfl, lists, named⟩)
  · have unlisted : ∀ items, ¬ Lists reply items := fun items listed => lists ⟨items, listed⟩
    rw [onGetSessions_unlisted unlisted]
    exact .idle _ (by simp [Ended, unlisted]) (by simp [Listed, unlisted]) (by simp [Reported])

theorem change_of_sam (s t : String) {enableSession : Bool} {bus : Bus} {self : Account} {session : Session}
    {sam : Sam} {handlers left : Handlers} {notice : Message} {effects : List Effect}
    (known : self.sessions.find? t = some session) (own : session.sam.sessionId = t)
    (ended : SamOutcome enableSession bus session.sam handlers notice sam left effects) :
    Change s (.samStatus t notice bus) (view self s)
      (view { self with sessions := self.sessions.insert t { session with sam := sam } } s) := by
  by_cases same : s = t
  · subst same
    rw [view, view, OrderedMap.find?_insert_self, known]
    cases ended with
    | ignored status =>
        rw [own] at status
        exact .idle _ (by simp [Ended]) (by simp [Listed]) (by simp [Reported, status])
    | subscribed status | stayed status | down status =>
        rw [own] at status
        exact .reported ⟨notice, bus, rfl, status⟩
  · rw [view, view, OrderedMap.find?_insert_of_ne _ _ same]
    exact .idle _ (by simp [Ended]) (by simp [Listed]) (by simp [Reported, Ne.symm same])

theorem view_change (s : String) (enableSession : Bool) (self : Service) (e : Event)
    (keyed : SessionsKeyed self.account.sessions) :
    Change s e (view self.account s) (view (self.dispatch enableSession e).1.account s) := by
  cases e with
  | accountStatus notice bus =>
      exact change_of_account s (account_outcome bus self.account self.handlers notice)
  | onGetSessions reply bus => exact change_of_sync s bus self.account self.handlers reply
  | samStatus t notice bus =>
      simp only [Service.dispatch]
      cases known : self.account.sessions.find? t with
      | none =>
          refine .same (by simp [Ended]) (by simp [Listed]) ?_
          rintro connected present ⟨_, _, same, _⟩
          cases same
          exact present (congrArg (Option.map _) known)
      | some session =>
          exact change_of_sam s t known (keyed _ _ known).2
            (sam_outcome enableSession bus session.sam self.handlers notice)
  | onListApps reply => exact .idle _ (by simp [Ended]) (by simp [Listed]) (by simp [Reported])
  | query | start | sendResult | subscribeResult | onLaunch | ownerStatus | disconnect =>
      rw [(dispatch_of_other enableSession self rfl).1]
      exact .idle _ (by simp [Ended]) (by simp [Listed]) (by simp [Reported])

/-! ## Along a run -/

theorem known_of_change {s : String} {e : Event} {before after : Option Bool}
    (change : Change s e before after) :
    after ≠ none ↔ Listed s e ∨ before ≠ none ∧ ¬ Ended s e := by
  cases change with
  | same stays unlisted => simpa [stays] using fun listed absent => unlisted absent listed
  | created listed => simp [listed]
  | reported reported => simp [reported.not_ended]
  | ended ended =>
      have unlisted : ¬ Listed s e := fun listed => listed.not_ended ended
      simp [unlisted, ended]

theorem connected_of_change {s : String} {e : Event} {before after : Option Bool}
    (change : Change s e before after) :
    after = some true ↔ (before ≠ none ∧ Reported s true e) ∨
      before = some true ∧ ¬ (Ended s e ∨ Reported s false e) := by
  cases change with
  | same stays _ silent =>
      constructor
      · rintro rfl
        exact .inr ⟨rfl, not_or.mpr ⟨stays, silent false (by simp)⟩⟩
      · rintro (⟨known, up⟩ | ⟨up, _⟩)
        · exact absurd up (silent true known)
        · exact up
  | created listed => simp
  | @reported old connected reported =>
      cases connected with
      | true =>
          have up : ¬ Reported s false e := fun down => by cases reported.unique down
          simp [reported]
      | false =>
          have down : ¬ Reported s true e := fun up => by cases reported.unique up
          simp [reported, down]
  | ended ended =>
      have silent : ¬ Reported s true e := fun up => up.not_ended ended
      simp [silent, ended]

variable (setup : Setup)

/-- The session was listed and has not ended since; the one session of a build
    without sessions is there from the start. -/
def Present (s : String) (history : List Event) : Prop :=
  (setup.enableSession = false ∧ s = "") ∧ Historically (fun _ e => ¬ Ended s e) history ∨
    Since (fun _ e => Listed s e) (fun _ e => Ended s e) history

theorem view_snoc (s : String) (history : List Event) (e : Event) :
    Change s e (view (setup.service history).account s)
        (view (setup.service (history ++ [e])).account s) := by
  rw [Setup.service_snoc]
  exact view_change s setup.enableSession (setup.service history) e (sessionsKeyed setup history)

theorem view_nil (s : String) :
    view (setup.service []).account s =
      if setup.enableSession = false ∧ s = "" then some false else none := by
  rcases setup with ⟨_ | _, bus, database⟩
  · change ((((∅ : OrderedMap String Session).insert "" (Session.new bus "").1).find? s).map _) = _
    rw [OrderedMap.find?_insert]
    by_cases own : s = "" <;> simp [own, new_eq]
  · rfl

theorem known_iff (s : String) (history : List Event) :
    view (setup.service history).account s ≠ none ↔ Present setup s history := by
  have table := since_iff (fun history => view (setup.service history).account s ≠ none)
    (fun history e => known_of_change (view_snoc setup s history e)) history
  rw [table, view_nil, Present]
  simp

/-- The sessions that are kept, and those among them whose session manager
    counts as connected, are exactly the ones the past events say. -/
theorem sessions_since (s : String) (history : List Event) :
    ((setup.service history).account.sessions.contains s = true ↔ Present setup s history) ∧
      ((∃ session, (setup.service history).account.sessions.find? s = some session ∧
          session.sam.isConnected = true) ↔
        Since (fun pre e => Present setup s pre ∧ Reported s true e)
          (fun _ e => Ended s e ∨ Reported s false e) history) := by
  constructor
  · rw [← known_iff, OrderedMap.contains, view]
    cases (setup.service history).account.sessions.find? s <;> simp
  · have table := since_iff (fun history => view (setup.service history).account s = some true)
      (fun pre e => (connected_of_change (view_snoc setup s pre e)).trans
        (or_congr_left (and_congr_left (fun _ => known_iff setup s pre)))) history
    have down : view (setup.service []).account s ≠ some true := by
      rw [view_nil]
      split <;> simp
    rw [or_iff_right (fun initially => down initially.1)] at table
    simpa [view] using table

end Presence

end IntentService
