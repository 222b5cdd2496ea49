import IntentService.Ownership
import IntentService.Presence

/-! # The two builds

On a bus that only answers calls that are open, a build without sessions never
has another session than the host, and a build with sessions has them only while
the account service is connected and its list is subscribed to.
-/

namespace IntentService.Builds

open History Ownership

variable (setup : Setup)

/-- The process has a call open for the callback. -/
def Awaits (history : List Event) (callback : Callback) : Prop :=
  ∃ entry ∈ (setup.after history).live, entry.call.callback = callback

/-- A reply to a client comes on a call that is open. -/
structure Delivers (history : List Event) (e : Event) : Prop where
  account : ∀ notice bus, e = .accountStatus notice bus → Awaits setup history (.clientStatus .account)
  sam : ∀ s notice bus, e = .samStatus s notice bus → Awaits setup history (.clientStatus (.sam s))
  sessions : ∀ reply bus, e = .onGetSessions reply bus → Awaits setup history .onGetSessions
  apps : ∀ reply, e = .onListApps reply → Awaits setup history .onListApps

variable {setup}

theorem keptBy_of_awaits {history : List Event} {callback : Callback} (awaits : Awaits setup history callback)
    (own : ¬ callback.ofStart) : ∃ call token, token ≠ 0 ∧ call.callback = callback ∧
      KeptBy (setup.service history).account call token := by
  obtain ⟨entry, live, rfl⟩ := awaits
  exact ⟨entry.call, entry.token, (kept_of_live setup live own).1, rfl, (kept_of_live setup live own).2⟩

theorem statusCall_of_awaits {history : List Event} (awaits : Awaits setup history (.clientStatus .account)) :
    (setup.service history).account.statusCall ≠ 0 := by
  obtain ⟨call, token, nonzero, callback, kept⟩ := keptBy_of_awaits awaits (by simp [Callback.ofStart])
  rw [KeptBy, callback] at kept
  exact fun closed => nonzero (kept.symm.trans closed)

theorem getSessions_of_awaits {history : List Event} (awaits : Awaits setup history .onGetSessions) :
    (setup.service history).account.getSessions ≠ 0 := by
  obtain ⟨call, token, nonzero, callback, kept⟩ := keptBy_of_awaits awaits (by simp [Callback.ofStart])
  rw [KeptBy, callback] at kept
  exact fun closed => nonzero (kept.symm.trans closed)

theorem listApps_of_awaits {history : List Event} (awaits : Awaits setup history .onListApps) :
    ∃ s session, (setup.service history).account.sessions.find? s = some session ∧
        session.sam.listApps ≠ 0 := by
  obtain ⟨call, token, nonzero, callback, kept⟩ := keptBy_of_awaits awaits (by simp [Callback.ofStart])
  rw [KeptBy, callback] at kept
  obtain ⟨s, session, known, held⟩ := kept
  exact ⟨s, session, known, held ▸ nonzero⟩

/-! ## Without sessions -/

/-- The one session is the host, and what is registered is registered for it
    while its session manager is connected. -/
structure HostOnly (account : Account) (handlers : Handlers) : Prop where
  closed : account.statusCall = 0 ∧ account.getSessions = 0
  host : ∃ session, account.sessions.find? "" = some session
  only : ∀ s session, account.sessions.find? s = some session → s = ""
  listening : ∀ session, account.sessions.find? "" = some session → session.sam.listApps ≠ 0 →
    session.sam.isConnected = true
  registered : ∀ key h, handlers.find? key = some h → h.sessionId = "" ∧
    ∃ session, account.sessions.find? "" = some session ∧ session.sam.isConnected = true

theorem hostOnly_sam {bus : Bus} {self : Account} {session : Session} {sam : Sam} {handlers left : Handlers}
    {notice : Message} {effects : List Effect} (host : HostOnly self handlers)
    (known : self.sessions.find? "" = some session) (own : session.sam.sessionId = "")
    (ended : SamOutcome false bus session.sam handlers notice sam left effects) :
    HostOnly { self with sessions := self.sessions.insert "" { session with sam := sam } } left := by
  have stored := OrderedMap.find?_insert_self self.sessions "" { session with sam := sam }
  refine ⟨host.closed, ⟨_, stored⟩, fun s other found => ?_, fun other found opened => ?_,
    fun key h found => ?_⟩
  · rw [OrderedMap.find?_insert] at found
    split at found
    next same => exact same
    next => exact host.only s other found
  · cases stored.symm.trans found
    cases ended with
    | ignored => exact host.listening session known opened
    | subscribed | stayed => rfl
    | down => exact absurd rfl opened
  · cases ended with
    | ignored =>
        obtain ⟨id, other, same, connected⟩ := host.registered key h found
        cases known.symm.trans same
        exact ⟨id, _, stored, connected⟩
    | subscribed | stayed => exact ⟨(host.registered key h found).1, _, stored, rfl⟩
    | down =>
        obtain ⟨before, different⟩ := (find?_removeBySessionId _ _ _ _).mp found
        exact absurd ((host.registered key h before).1.trans own.symm) different

theorem hostOnly_step {self : Service} {e : Event} {account : Account} {handlers : Handlers}
    {effects : List Effect} (change : ClientsChange false self e account handlers effects)
    (keyed : SessionsKeyed self.account.sessions) (host : HostOnly self.account self.handlers)
    (noAccount : ∀ notice bus, e ≠ .accountStatus notice bus)
    (noSync : ∀ reply bus, e ≠ .onGetSessions reply bus)
    (answered : ∀ reply, e = .onListApps reply →
      ∃ s session, self.account.sessions.find? s = some session ∧ session.sam.listApps ≠ 0) :
    HostOnly account handlers := by
  cases change with
  | other => exact host
  | account => exact absurd rfl (noAccount _ _)
  | sync => exact absurd rfl (noSync _ _)
  | sam known ended =>
      cases host.only _ _ known
      exact hostOnly_sam host known (keyed _ _ known).2 ended
  | apps reply =>
      refine { host with registered := fun key h found => ?_ }
      rcases (apps_outcome false self.database self.handlers reply).new found with before | ⟨_, session, _⟩
      · exact host.registered key h before
      · obtain ⟨s, manager, known, opened⟩ := answered reply rfl
        cases host.only s manager known
        exact ⟨session, manager, known, host.listening manager known opened⟩

theorem hostOnly_initial (bus : Bus) (database : JValue) :
    HostOnly ((⟨false, bus, database⟩ : Setup).service []).account
      ((⟨false, bus, database⟩ : Setup).service []).handlers := by
  have stored : ((⟨false, bus, database⟩ : Setup).service []).account.sessions.find? "" =
      some (Session.new bus "").1 := OrderedMap.find?_insert_self _ _ _
  refine ⟨⟨rfl, rfl⟩, ⟨_, stored⟩, fun s session found => ?_, fun session found opened => ?_,
    fun key h found => ?_⟩
  · change ((∅ : OrderedMap String Session).insert "" (Session.new bus "").1).find? s = some session at found
    rw [OrderedMap.find?_insert] at found
    split at found
    next same => exact same
    next => cases found
  · cases stored.symm.trans found
    exact absurd rfl opened
  · cases found

/-- A build without sessions has the host and nothing else. -/
theorem host_only (bus : Bus) (database : JValue) (history : List Event)
    (delivered : Historically (Delivers ⟨false, bus, database⟩) history) :
    HostOnly ((⟨false, bus, database⟩ : Setup).service history).account
      ((⟨false, bus, database⟩ : Setup).service history).handlers := by
  refine invariant (fun history => HostOnly ((⟨false, bus, database⟩ : Setup).service history).account
    ((⟨false, bus, database⟩ : Setup).service history).handlers) (hostOnly_initial bus database) ?_ delivered
  · intro history e _ last host
    refine hostOnly_step (clients_snoc ⟨false, bus, database⟩ history e)
      (sessionsKeyed _ history) host ?_ ?_ ?_
    · rintro notice bus rfl
      exact statusCall_of_awaits (last.account notice bus rfl) host.closed.1
    · rintro reply bus rfl
      exact getSessions_of_awaits (last.sessions reply bus rfl) host.closed.2
    · rintro reply rfl
      exact listApps_of_awaits (last.apps reply rfl)

theorem sample_host_only :
    HostOnly (Sample.host.service [Sample.up, Sample.listed]).account
      (Sample.host.service [Sample.up, Sample.listed]).handlers := by
  refine host_only _ _ [Sample.up, Sample.listed] ?_
  simp only [historically_cons, historically_nil, and_true]
  refine ⟨⟨by simp [Sample.up], ?_, by simp [Sample.up], by simp [Sample.up]⟩,
    ⟨by simp [Sample.listed], by simp [Sample.listed], by simp [Sample.listed], ?_⟩⟩
  · rintro s notice bus same
    cases same
    exact ⟨_, List.mem_of_getElem? (i := 0) rfl, rfl⟩
  · rintro reply -
    exact ⟨_, List.mem_of_getElem? (i := 1) rfl, rfl⟩

/-! ## With sessions -/

end IntentService.Builds
