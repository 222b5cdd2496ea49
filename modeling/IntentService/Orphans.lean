import IntentService.Sessions

/-! # Handlers without a session

The handlers of a session are removed when the session disappears or its `SAM`
goes down. Both removals go by the session id of the client object, while a
`listApps` reply registers under the id `getSessionId` makes of its own: the two
differ for a session that is called `host`.
-/

namespace IntentService.Orphans

open History JValueUtil

/-! ## Open `listApps` calls -/

/-- A `SAM` with an open `listApps` call is connected. -/
def ListeningConnected (sessions : OrderedMap String Session) : Prop :=
  ∀ s session, sessions.find? s = some session → session.sam.listApps ≠ 0 → session.sam.isConnected = true

/-- The session an open `listApps` call is addressed to holds its token. -/
def Held (sessions : OrderedMap String Session) (entry : LiveCall) : Prop :=
  entry.token ≠ 0 ∧ ∃ s session, entry.call.sessionId = some s ∧ sessions.find? s = some session ∧
    session.sam.listApps = entry.token

def CallsHeld (sessions : OrderedMap String Session) (live : List LiveCall) : Prop :=
  ∀ entry ∈ live, entry.call.callback = .onListApps → Held sessions entry

theorem listeningConnected_step {self : Service} {e : Event} {account : Account} {handlers : Handlers}
    {effects : List Effect} (change : ClientsChange true self e account handlers effects)
    (connected : ListeningConnected self.account.sessions) : ListeningConnected account.sessions := by
  intro s session found opened
  cases change with
  | other | apps => exact connected s session found opened
  | account ended =>
      cases ended with
      | ignored => exact connected s session found opened
      | up | down => simp at found
  | sam known ended =>
      rw [OrderedMap.find?_insert] at found
      split at found
      · cases found
        cases ended with
        | ignored => exact connected _ _ known opened
        | subscribed | stayed => rfl
        | down => exact absurd rfl opened
      · exact connected s session found opened
  | sync ended =>
      cases ended with
      | ignored => exact connected s session found opened
      | synced =>
          rw [keptSessions_find?] at found
          split at found
          · cases found
            cases known : self.account.sessions.find? s with
            | none =>
                rw [known] at opened
                exact absurd rfl opened
            | some old =>
                rw [known] at opened
                exact connected s old known opened
          · cases found

theorem Held.swept {sessions : OrderedMap String Session} {entry : LiveCall} (held : Held sessions entry)
    (handlers : Handlers) : .cancel entry.token ∈ (Session.destroyAll sessions.values handlers).2 := by
  obtain ⟨nonzero, s, session, _, known, token⟩ := held
  refine mem_destroyAll.mpr ⟨session, OrderedMap.mem_values.mpr ⟨s, known⟩, .inr ?_⟩
  exact mem_cancelOpen.mpr ⟨token ▸ nonzero, by rw [token]⟩

theorem held_of_account {bus : Bus} {self account : Account} {handlers left : Handlers} {notice : Message}
    {effects : List Effect} (ended : AccountOutcome bus self handlers notice account left effects)
    {entry : LiveCall} (held : Held self.sessions entry) (kept : .cancel entry.token ∉ effects) :
    Held account.sessions entry := by
  have swept := held.swept handlers
  cases ended with
  | ignored => exact held
  | up | down => exact absurd (by simp [swept]) kept

theorem held_of_sync {bus : Bus} {self account : Account} {handlers left : Handlers} {reply : Message}
    {effects : List Effect} (ended : SyncOutcome bus self handlers reply account left effects)
    {entry : LiveCall} (held : Held self.sessions entry) (kept : .cancel entry.token ∉ effects) :
    Held account.sessions entry := by
  cases ended with
  | ignored => exact held
  | @synced items =>
      obtain ⟨nonzero, s, session, addressed, known, token⟩ := held
      refine ⟨nonzero, s, { session with isRunning := true }, addressed, ?_, token⟩
      rw [keptSessions_find?, known]
      by_cases named : s ∈ namedSessions items
      · rw [if_pos named]
        rfl
      · -- a session that is not listed any more is destroyed, and its call cancelled
        have dropped : { session with isRunning := false } ∈
            (droppedSessions bus self.sessions items).values :=
          (mem_droppedSessions _ _ _ _).mpr ⟨s, session, named, known, rfl⟩
        refine absurd (List.mem_append_right _ (mem_destroyAll.mpr ⟨_, dropped, .inr ?_⟩)) kept
        exact mem_cancelOpen.mpr ⟨token ▸ nonzero, by rw [token]⟩

theorem listApps_of_sam {enableSession : Bool} {bus : Bus} {self sam : Sam} {handlers left : Handlers}
    {notice : Message} {effects : List Effect}
    (ended : SamOutcome enableSession bus self handlers notice sam left effects) {token : UInt64}
    (nonzero : token ≠ 0) (held : self.listApps = token) (kept : .cancel token ∉ effects) :
    sam.listApps = token := by
  cases ended with
  | ignored | stayed => exact held
  | subscribed _ closed => exact absurd (held.symm.trans closed) nonzero
  | down => exact absurd (mem_cancelOpen.mpr ⟨held ▸ nonzero, by rw [held]⟩) kept

theorem listApps_of_samCall {enableSession : Bool} {bus : Bus} {self sam : Sam} {handlers left : Handlers}
    {notice : Message} {effects : List Effect}
    (ended : SamOutcome enableSession bus self handlers notice sam left effects) {call : LSCall}
    {token : UInt64} (made : .call call (some token) ∈ effects) : sam.listApps = token := by
  cases ended with
  | ignored | stayed => cases made
  | down => exact absurd made call_not_mem_cancelOpen
  | subscribed =>
      obtain ⟨_, answer⟩ := Effect.call.inj (List.mem_singleton.mp made)
      rw [← answer]
      rfl

theorem callsHeld_step {self : Service} {e : Event} {account : Account} {handlers : Handlers}
    {effects : List Effect} {before : List LiveCall}
    (change : ClientsChange true self e account handlers effects)
    (keyed : SessionsKeyed self.account.sessions) (held : CallsHeld self.account.sessions before) :
    CallsHeld account.sessions (effects.foldl World.applyEffect before) := by
  intro entry live own
  cases mem_applyEffects live with
  | inl survived =>
      obtain ⟨stayed, kept⟩ := survived
      have before := held entry stayed own
      cases change with
      | other | apps => exact before
      | account ended => exact held_of_account ended before kept
      | sync ended => exact held_of_sync ended before kept
      | @sam sessionId notice bus session sam _ _ known ended =>
          obtain ⟨nonzero, s, other, addressed, found, token⟩ := before
          by_cases same : s = sessionId
          · subst same
            cases known.symm.trans found
            exact ⟨nonzero, s, _, addressed, OrderedMap.find?_insert_self _ _ _,
              listApps_of_sam ended nonzero token kept⟩
          · exact ⟨nonzero, s, other, addressed, by rw [OrderedMap.find?_insert_of_ne _ _ same, found], token⟩
  | inr made =>
      cases change with
      | other calls =>
          rcases (calls _ _ made).1 with other | other <;> cases own.symm.trans other
      | apps => cases made
      | account ended =>
          rw [(ended.call_eq made).1] at own
          cases own
      | sync ended =>
          obtain ⟨s, same, _⟩ := ended.call_eq made
          rw [same] at own
          cases own
      | @sam sessionId notice bus session sam _ _ known ended =>
          obtain ⟨call, answer⟩ := ended.call_eq made
          refine ⟨bus.nonzero answer.symm, sessionId, _, ?_, OrderedMap.find?_insert_self _ _ _,
            listApps_of_samCall ended made⟩
          rw [call, ← (keyed sessionId session known).2]
          rfl

/-! ## Handlers -/

/-- Every handler belongs to a session that is there and whose `SAM` is connected. -/
def Owned (account : Account) (handlers : Handlers) : Prop :=
  ∀ key handler, handlers.find? key = some handler → ∃ session,
    account.sessions.find? handler.sessionId = some session ∧ session.sam.isConnected = true

variable (bus : Bus) (database : JValue)

/-- A `listApps` reply answers an open call and carries the session id the call
    was addressed to. -/
def AppsBus (history : List Event) (e : Event) : Prop :=
  ∀ reply, e = .onListApps reply → ∃ entry ∈ ((Setup.withSessions bus database).after history).live,
    entry.token = reply.responseToken ∧ entry.call.callback = .onListApps ∧
      reply.sessionId = entry.call.sessionId

/-- What a reply registers it registers for the session that it came from. -/
def RegistersOwn (history : List Event) (e : Event) : Prop :=
  ∀ reply s key handler, e = .onListApps reply → reply.sessionId = some s →
    ((Setup.withSessions bus database).service history).handlers.find? key = none →
    ((Setup.withSessions bus database).service (history ++ [e])).handlers.find? key = some handler →
    handler.sessionId = s

/-- Every handler is owned after the event, and what a reply registers stands under
    the session it came from, so that it goes when that session does. -/
structure NoOrphan (history : List Event) (e : Event) : Prop where
  owned : Owned ((Setup.withSessions bus database).service (history ++ [e])).account
    ((Setup.withSessions bus database).service (history ++ [e])).handlers
  registers : RegistersOwn bus database history e

/-- A reply from a session called `host` announces only applications without an
    id or with one the host has registered. -/
def HostSilent (history : List Event) (e : Event) : Prop :=
  ∀ reply, e = .onListApps reply → reply.sessionId = some "host" → ∀ id ∈ announced reply,
    id = "" ∨ ((Setup.withSessions bus database).service history).handlers.contains
      (Handler.convertKey "" id) = true

theorem owned_of_account {bus : Bus} {self account : Account} {handlers left : Handlers} {notice : Message}
    {effects : List Effect} (ended : AccountOutcome bus self handlers notice account left effects)
    (keyed : SessionsKeyed self.sessions) (owned : Owned self handlers) : Owned account left := by
  cases ended with
  | ignored => exact owned
  | up | down =>
      intro key handler found
      obtain ⟨before, survived⟩ := (destroyAll_handlers _ _ _ _).mp found
      obtain ⟨session, known, _⟩ := owned key handler before
      have own := (keyed _ _ known).1
      exact absurd own.symm (survived session (OrderedMap.mem_values.mpr ⟨_, known⟩))

theorem owned_of_sync {bus : Bus} {self account : Account} {handlers left : Handlers} {reply : Message}
    {effects : List Effect} (ended : SyncOutcome bus self handlers reply account left effects)
    (keyed : SessionsKeyed self.sessions) (owned : Owned self handlers) : Owned account left := by
  cases ended with
  | ignored => exact owned
  | @synced items =>
      intro key handler found
      obtain ⟨before, survived⟩ := (destroyAll_handlers _ _ _ _).mp found
      obtain ⟨session, known, connected⟩ := owned key handler before
      refine ⟨{ session with isRunning := true }, ?_, connected⟩
      rw [keptSessions_find?, known]
      by_cases named : handler.sessionId ∈ namedSessions items
      · rw [if_pos named]
        rfl
      · refine absurd (keyed _ _ known).1.symm (survived { session with isRunning := false } ?_)
        exact (mem_droppedSessions _ _ _ _).mpr ⟨_, session, named, known, rfl⟩

theorem handler_of_sam {enableSession : Bool} {bus : Bus} {self sam : Sam} {handlers left : Handlers}
    {notice : Message} {effects : List Effect}
    (ended : SamOutcome enableSession bus self handlers notice sam left effects) {key : String}
    {handler : Handler} (found : left.find? key = some handler) :
    handlers.find? key = some handler ∧
      (handler.sessionId = self.sessionId → self.isConnected = true → sam.isConnected = true) := by
  cases ended with
  | ignored => exact ⟨found, fun _ connected => connected⟩
  | subscribed | stayed => exact ⟨found, fun _ _ => rfl⟩
  | down =>
      obtain ⟨before, different⟩ := (find?_removeBySessionId _ _ _ _).mp found
      exact ⟨before, fun same => absurd same different⟩

theorem owned_step {self : Service} {e : Event} {account : Account} {handlers : Handlers}
    {effects : List Effect} (change : ClientsChange true self e account handlers effects)
    (keyed : SessionsKeyed self.account.sessions) (owned : Owned self.account self.handlers)
    (added : ∀ reply, e = .onListApps reply → ∀ key handler, handlers.find? key = some handler →
      self.handlers.find? key = none →
      ∃ session, self.account.sessions.find? handler.sessionId = some session ∧
        session.sam.isConnected = true) :
    Owned account handlers := by
  cases change with
  | other => exact owned
  | account ended => exact owned_of_account ended keyed owned
  | sync ended => exact owned_of_sync ended keyed owned
  | apps reply =>
      intro key handler found
      rcases (apps_outcome true self.database self.handlers reply).new found with before | ⟨absent, _⟩
      · exact owned key handler before
      · exact added reply rfl key handler found absent
  | @sam sessionId notice bus session sam _ _ known ended =>
      intro key handler found
      obtain ⟨before, kept⟩ := handler_of_sam ended found
      obtain ⟨other, listed, connected⟩ := owned key handler before
      by_cases same : handler.sessionId = sessionId
      · rw [same, known] at listed
        cases listed
        refine ⟨{ session with sam := sam }, by rw [same]; exact OrderedMap.find?_insert_self _ _ _, ?_⟩
        exact kept (same.trans (keyed _ _ known).2.symm) connected
      · exact ⟨other, by rw [OrderedMap.find?_insert_of_ne _ _ same, listed], connected⟩

/-! ## Along a run -/

/-- What the sessions and the open calls look like along any run. -/
theorem sessions_invariant (history : List Event) :
    ListeningConnected ((Setup.withSessions bus database).service history).account.sessions ∧
      CallsHeld ((Setup.withSessions bus database).service history).account.sessions
        ((Setup.withSessions bus database).after history).live := by
  induction history using List.reverseRecOn with
  | nil =>
      refine ⟨fun s session found => (by cases found), fun entry live own => ?_⟩
      have made := mem_applyEffects_nil live
      rw [(Effect.call.inj (List.mem_singleton.mp made)).1] at own
      cases own
  | append_singleton history e ih =>
      have change := clients_snoc (Setup.withSessions bus database) history e
      refine ⟨listeningConnected_step change ih.1, ?_⟩
      rw [Setup.live_snoc]
      refine callsHeld_step change (sessionsKeyed _ history) ?_
      exact fun entry live own => ih.2 entry (mem_receive live) own

theorem listApps_snoc (history : List Event) (reply : Message) :
    AppsOutcome reply (getSessionId true reply)
      ((Setup.withSessions bus database).service history).handlers
      ((Setup.withSessions bus database).service (history ++ [.onListApps reply])).handlers := by
  rw [Setup.service_snoc]
  exact apps_outcome true _ _ reply

variable {bus database}

theorem answering_session {history : List Event} {reply : Message}
    (answered : AppsBus bus database history (.onListApps reply)) :
    ∃ s session, reply.sessionId = some s ∧
      ((Setup.withSessions bus database).service history).account.sessions.find? s = some session ∧
      session.sam.isConnected = true := by
  obtain ⟨entry, live, _, own, same⟩ := answered reply rfl
  obtain ⟨connected, held⟩ := sessions_invariant bus database history
  obtain ⟨nonzero, s, session, addressed, known, token⟩ := held entry live own
  exact ⟨s, session, same.trans addressed, known, connected s session known (token ▸ nonzero)⟩

theorem getSessionId_eq {reply : Message} {s : String} (addressed : reply.sessionId = some s)
    (other : s ≠ "host") : getSessionId true reply = s := by
  simp [getSessionId, addressed, other]

theorem getSessionId_host {reply : Message} (addressed : reply.sessionId = some "host") :
    getSessionId true reply = "" := by
  simp [getSessionId, addressed]

theorem registersOwn_of_silent {history : List Event} {e : Event}
    (silent : HostSilent bus database history e) : RegistersOwn bus database history e := by
  rintro reply s key handler rfl addressed absent found
  rcases (listApps_snoc bus database history reply).new found with
    before | ⟨_, session, id, listed, nonempty, rfl⟩
  · cases absent.symm.trans before
  · by_cases host : s = "host"
    · subst host
      rw [getSessionId_host addressed] at absent
      rcases silent reply rfl addressed id listed with empty | stored
      · exact absurd empty nonempty
      · rw [OrderedMap.contains_iff] at stored
        obtain ⟨other, stored⟩ := stored
        cases absent.symm.trans stored
    · rw [session, getSessionId_eq addressed host]

theorem silent_of_registersOwn {history : List Event} {e : Event}
    (own : RegistersOwn bus database history e) : HostSilent bus database history e := by
  rintro reply rfl addressed id listed
  by_cases empty : id = ""
  · exact .inl empty
  · refine .inr ?_
    obtain ⟨handler, found⟩ := (listApps_snoc bus database history reply).all listed empty
    rw [getSessionId_host addressed] at found
    rcases (listApps_snoc bus database history reply).new found with before | ⟨absent, session, _⟩
    · exact OrderedMap.contains_iff.mpr ⟨handler, before⟩
    · have host := own reply "host" _ handler rfl addressed absent found
      rw [getSessionId_host addressed] at session
      exact absurd (session.symm.trans host) (by decide)

/-- As long as no session called `host` registers anything, every handler belongs to
    a session that is there and connected. -/
theorem owned_of_silent {history : List Event} (answered : Historically (AppsBus bus database) history)
    (silent : Historically (HostSilent bus database) history) :
    Owned ((Setup.withSessions bus database).service history).account
      ((Setup.withSessions bus database).service history).handlers := by
  refine invariant (fun history => Owned ((Setup.withSessions bus database).service history).account
    ((Setup.withSessions bus database).service history).handlers) ?_ ?_ (answered.and silent)
  · intro key handler found
    cases found
  · intro history e _ last owned
    refine owned_step (clients_snoc (Setup.withSessions bus database) history e) (sessionsKeyed _ history)
      owned ?_
    rintro reply rfl key handler found absent
    obtain ⟨s, session, addressed, known, connected⟩ := answering_session last.1
    have own := registersOwn_of_silent last.2 reply s key handler rfl addressed absent found
    exact ⟨session, own ▸ known, connected⟩

variable (bus database)

/-- On such a bus no handler is orphaned along exactly the runs in which no
    session called `host` registers an application. -/
theorem no_orphans_iff (history : List Event) (answered : Historically (AppsBus bus database) history) :
    Historically (NoOrphan bus database) history ↔ Historically (HostSilent bus database) history := by
  constructor
  · exact fun none => none.mono (fun _ _ met => silent_of_registersOwn met.registers)
  · rintro silent pre e post rfl
    exact ⟨owned_of_silent answered.upTo silent.upTo, registersOwn_of_silent silent.at⟩

theorem twoSessions_no_orphans :
    Historically (NoOrphan (Sample.bus 10 20 Sample.first_tokens) .emptyObject) Sample.twoSessions := by
  refine (no_orphans_iff _ _ Sample.twoSessions ?_).mpr ?_
  · simp only [Sample.twoSessions, historically_cons, historically_nil, and_true]
    refine ⟨by simp [AppsBus], by simp [AppsBus], by simp [AppsBus], ?_, by simp [AppsBus], ?_⟩
    · rintro reply ⟨⟩
      exact ⟨_, List.mem_of_getElem? (i := 4) rfl, rfl, rfl, rfl⟩
    · rintro reply ⟨⟩
      exact ⟨_, List.mem_of_getElem? (i := 5) rfl, rfl, rfl, rfl⟩
  · simp only [Sample.twoSessions, historically_cons, historically_nil, and_true]
    refine ⟨?_, ?_, ?_, ?_, ?_, ?_⟩ <;>
    · rintro reply same addressed
      cases same <;> exact absurd addressed (by decide)

/-- Session `host` disappears, and the application it registered is still there. -/
theorem host_session_leaves_orphan :
    let run := [.accountStatus (Sample.status true "") (Sample.bus 10 20 Sample.first_tokens),
      .onGetSessions (Sample.sessionList ["host"]) (Sample.bus 10 20 Sample.first_tokens),
      .samStatus "host" (Sample.status true "host") (Sample.bus 10 20 Sample.first_tokens),
      .onListApps (Sample.apps "viewer" (some "host")),
      .onGetSessions (Sample.sessionList []) (Sample.bus 10 20 Sample.first_tokens)]
    Historically (AppsBus (Sample.bus 10 20 Sample.first_tokens) .emptyObject) run ∧
      ¬ Historically (NoOrphan (Sample.bus 10 20 Sample.first_tokens) .emptyObject) run := by
  constructor
  · simp only [historically_cons, historically_nil, and_true]
    refine ⟨by simp [AppsBus], by simp [AppsBus], by simp [AppsBus], ?_, by simp [AppsBus]⟩
    rintro reply ⟨⟩
    exact ⟨_, List.mem_of_getElem? (i := 3) rfl, rfl, rfl, rfl⟩
  · intro none
    obtain ⟨session, found, _⟩ := (none [_, _, _, _] _ [] rfl).owned "host_viewer" _ rfl
    cases found

end IntentService.Orphans
