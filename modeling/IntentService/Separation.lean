import IntentService.Filters

/-! # What sessions do to each other

All sessions keep their handlers in one store. As long as no names of two of them
make one key, what a session has is decided by the account service and by what is
said of the session itself: the rest of the run can be left out.
-/

namespace IntentService.Separation

open History Registry Listing Merging Presence Applications Filters

/-- The event is about all sessions, or about this one. -/
def concerns (enableSession : Bool) (s : String) : Event → Bool
  | .accountStatus _ _ | .onGetSessions _ _ => true
  | .samStatus t _ _ => t == s
  | .onListApps reply => getSessionId enableSession reply == s
  | .query _ | .start _ _ | .sendResult _ | .subscribeResult _ | .onLaunch _ | .ownerStatus _
  | .disconnect _ _ => false

/-- Two processes have the same of a session: its object, with the calls that it
    has open, and its handlers. -/
structure Alike (s : String) (one other : Service) : Prop where
  session : one.account.sessions.find? s = other.account.sessions.find? s
  handlers : ∀ h : Handler, h.sessionId = s → (h ∈ one.handlers.values ↔ h ∈ other.handlers.values)

/-! ## The object of a session -/

variable {enableSession : Bool} {s : String}

theorem sam_onStatus (bus : Bus) (sam : Sam) (handlers left : Handlers) (notice : Message) :
    (sam.onStatus enableSession bus handlers notice).1 = (sam.onStatus enableSession bus left notice).1 := by
  unfold Sam.onStatus Sam.onServerStatusChanged
  repeat' split
  all_goals rfl

theorem find?_samStatus (self : Service) (t : String) (notice : Message) (bus : Bus) :
    (self.dispatch enableSession (.samStatus t notice bus)).1.account.sessions.find? s =
      if s = t then (self.account.sessions.find? t).map (fun session =>
        { session with sam := (session.sam.onStatus enableSession bus ∅ notice).1 })
      else self.account.sessions.find? s := by
  simp only [Service.dispatch]
  cases known : self.account.sessions.find? t with
  | none =>
      by_cases own : s = t
      · simp [own, known]
      · simp [own]
  | some session =>
      dsimp only
      rw [OrderedMap.find?_insert, sam_onStatus bus session.sam self.handlers ∅ notice]
      rfl

theorem session_step {one other : Service}
    (same : one.account.sessions.find? s = other.account.sessions.find? s) (e : Event) :
    (one.dispatch enableSession e).1.account.sessions.find? s =
      (other.dispatch enableSession e).1.account.sessions.find? s := by
  cases e with
  | accountStatus notice bus =>
      simp only [Service.dispatch, Account.onStatus, Account.onServerStatusChanged]
      cases clientStatus "" notice with
      | none => exact same
      | some connected => cases connected <;> rfl
  | onGetSessions reply bus =>
      simp only [Service.dispatch]
      by_cases lists : ∃ items, Sync.Lists reply items
      · obtain ⟨items, lists⟩ := lists
        rw [Sync.onGetSessions_listed lists, Sync.onGetSessions_listed lists]
        simp only [keptSessions_find?, same]
      · have unlisted : ∀ items, ¬ Sync.Lists reply items := fun items listed => lists ⟨items, listed⟩
        rw [Sync.onGetSessions_unlisted unlisted, Sync.onGetSessions_unlisted unlisted]
        exact same
  | samStatus t notice bus =>
      rw [find?_samStatus, find?_samStatus]
      split
      next own => rw [← own, same]
      next => exact same
  | onListApps reply => exact same
  | query | start | sendResult | subscribeResult | onLaunch | ownerStatus | disconnect =>
      rw [(dispatch_of_other enableSession one rfl).1, (dispatch_of_other enableSession other rfl).1]
      exact same

theorem session_kept (self : Service) {e : Event} (apart : concerns enableSession s e = false) :
    (self.dispatch enableSession e).1.account.sessions.find? s = self.account.sessions.find? s := by
  cases e with
  | accountStatus | onGetSessions => cases apart
  | samStatus t notice bus =>
      have other : s ≠ t := fun own => by simp [concerns, own] at apart
      rw [find?_samStatus, if_neg other]
  | onListApps reply => rfl
  | query | start | sendResult | subscribeResult | onLaunch | ownerStatus | disconnect =>
      rw [(dispatch_of_other enableSession self rfl).1]

/-! ## Its handlers -/

/-- All handlers are of the sessions. -/
def Within (sessions : Set String) (handlers : Handlers) : Prop :=
  ∀ h : Handler, handlers.find? h.getKey = some h → h.sessionId ∈ sessions

variable {sessions : Set String}

theorem within_step {self : Service} {e : Event} (own : SessionsKeyed self.account.sessions)
    (within : Within sessions self.handlers)
    (listed : ∀ reply, e = .onListApps reply → getSessionId enableSession reply ∈ sessions) :
    Within sessions (self.dispatch enableSession e).1.handlers := by
  intro h stored
  rcases (stored_step enableSession self e own h).mp stored with ⟨reply, same, _, makes⟩ | ⟨old, _⟩
  · rw [makes.sessionId_eq]
    exact listed reply same
  · exact within h old

theorem free_of_alike (apart : Apart sessions) {handlers left : Handlers} (keyed : Keyed left)
    (within : Within sessions left)
    (alike : ∀ h : Handler, h.sessionId = s → left.find? h.getKey = some h → handlers.find? h.getKey = some h)
    {h : Handler} (own : h.sessionId = s) (member : s ∈ sessions) (free : handlers.find? h.getKey = none) :
    left.find? h.getKey = none := by
  cases taken : left.find? h.getKey with
  | none => rfl
  | some x =>
      have key : x.getKey = h.getKey := (keyed _ _ taken).1
      rw [← key] at taken free
      have same : x.sessionId = s := by
        by_contra different
        refine apart _ (within x taken) s member different x.name h.name ((convertKey_eq_iff _ _ _ _).mp ?_)
        rw [← own]
        exact key
      cases free.symm.trans (alike x same taken)

theorem handlers_kept (apart : Apart sessions) (member : s ∈ sessions) {self : Service} {e : Event}
    (keyed : SessionsKeyed self.account.sessions)
    (listed : ∀ reply, e = .onListApps reply → getSessionId enableSession reply ∈ sessions)
    (skipped : concerns enableSession s e = false) {h : Handler} (own : h.sessionId = s) :
    (self.dispatch enableSession e).1.handlers.find? h.getKey = some h ↔
      self.handlers.find? h.getKey = some h := by
  have other : ∀ reply, e = .onListApps reply → getSessionId enableSession reply ≠ s := by
    rintro reply rfl same
    simp [concerns, same] at skipped
  have unmade : ¬ Made enableSession self h e := by
    rintro ⟨reply, same, _, makes⟩
    exact other reply same (makes.sessionId_eq.symm.trans own)
  have stays : ¬ Unregistered enableSession h.sessionId h.name e := by
    rintro ⟨reply, same, id, _, key⟩
    refine apart _ (listed reply same) s member (other reply same) id h.name
      ((convertKey_eq_iff _ _ _ _).mp ?_)
    rw [key, own]
  have present : ¬ Gone self.account h.sessionId e := by
    rintro ⟨_, gone⟩
    cases e with
    | accountStatus | onGetSessions => cases skipped
    | samStatus t notice bus =>
        have different : t ≠ s := by simpa [concerns] using skipped
        simp [Ended, Reported, own, different] at gone
    | onListApps | query | start | sendResult | subscribeResult | onLaunch | ownerStatus | disconnect =>
        simp [Ended, Reported] at gone
  rw [stored_step enableSession self e keyed]
  simp [unmade, stays, present]

/-! ## Along a run -/

variable (setup : Setup)

/-- The processes after a run and after another one have the same of the session,
    and neither has handlers of sessions from elsewhere. -/
structure Related (sessions : Set String) (s : String) (history other : List Event) : Prop where
  session : (setup.service history).account.sessions.find? s = (setup.service other).account.sessions.find? s
  handlers : ∀ h : Handler, h.sessionId = s →
    ((setup.service history).handlers.find? h.getKey = some h ↔
      (setup.service other).handlers.find? h.getKey = some h)
  within : Within sessions (setup.service history).handlers
  within_other : Within sessions (setup.service other).handlers

variable {setup}

theorem Related.alike {history other : List Event} (related : Related setup sessions s history other) :
    Alike s (setup.service history) (setup.service other) where
  session := related.session
  handlers := by
    intro h own
    rw [mem_values_iff (handlersKeyed setup history), mem_values_iff (handlersKeyed setup other)]
    exact related.handlers h own

theorem Related.kept {history other : List Event} {e : Event} (apart : Apart sessions) (member : s ∈ sessions)
    (related : Related setup sessions s history other)
    (listed : ∀ reply, e = .onListApps reply → getSessionId setup.enableSession reply ∈ sessions) :
    Related setup sessions s (history ++ [e]) (other ++ [e]) := by
  have keyed := sessionsKeyed setup
  constructor
  case session =>
    rw [Setup.service_snoc, Setup.service_snoc]
    exact session_step related.session e
  case handlers =>
    intro h own
    have free : (setup.service history).handlers.find? h.getKey = none ↔
        (setup.service other).handlers.find? h.getKey = none :=
      ⟨free_of_alike apart (handlersKeyed setup other) related.within_other
          (fun x same => (related.handlers x same).mpr) own member,
        free_of_alike apart (handlersKeyed setup history) related.within
          (fun x same => (related.handlers x same).mp) own member⟩
    rw [Setup.service_snoc, Setup.service_snoc, stored_step _ _ e (keyed history),
      stored_step _ _ e (keyed other)]
    simp only [Made, Gone, OrderedMap.contains, service_database, free, own, related.session,
      related.handlers h own]
  case within =>
    rw [Setup.service_snoc]
    exact within_step (keyed history) related.within listed
  case within_other =>
    rw [Setup.service_snoc]
    exact within_step (keyed other) related.within_other listed

theorem Related.skipped {history other : List Event} {e : Event} (apart : Apart sessions)
    (member : s ∈ sessions) (related : Related setup sessions s history other)
    (listed : ∀ reply, e = .onListApps reply → getSessionId setup.enableSession reply ∈ sessions)
    (skipped : concerns setup.enableSession s e = false) :
    Related setup sessions s (history ++ [e]) other := by
  have keyed := sessionsKeyed setup history
  constructor
  case session => rw [Setup.service_snoc, session_kept _ skipped, related.session]
  case handlers =>
    intro h own
    rw [Setup.service_snoc, handlers_kept apart member keyed listed skipped own, related.handlers h own]
  case within =>
    rw [Setup.service_snoc]
    exact within_step keyed related.within listed
  case within_other => exact related.within_other

/-- Where no names make one key, the rest of the run does not matter to a session. -/
theorem alike_of_apart (apart : Apart sessions) (member : s ∈ sessions) {history : List Event}
    (listed : ∀ reply, .onListApps reply ∈ history → getSessionId setup.enableSession reply ∈ sessions) :
    Alike s (setup.service history) (setup.service (history.filter (concerns setup.enableSession s))) := by
  have nothing : Within sessions (setup.service []).handlers := by
    intro h stored
    cases stored
  refine (filter_rule (I := Related setup sessions s)
    (A := fun e => ∀ reply, e = .onListApps reply → getSessionId setup.enableSession reply ∈ sessions) _
    ⟨rfl, fun _ _ => Iff.rfl, nothing, nothing⟩ ?_ ?_ ?_).alike
  · exact fun _ _ _ listed _ related => related.kept apart member listed
  · exact fun _ _ _ listed skipped related => related.skipped apart member listed skipped
  · rintro e occurs reply rfl
    exact listed reply occurs

theorem not_alike_of_lineUp {setup : Setup} (build : setup.enableSession = true) {s t name other : String}
    (sNamed : s ≠ "host") (tNamed : t ≠ "host") (different : s ≠ t) (meets : LineUp s name t other) :
    ∃ history : List Event,
      (∀ reply, .onListApps reply ∈ history → getSessionId true reply = s ∨ getSessionId true reply = t) ∧
        ¬ Alike s (setup.service history) (setup.service (history.filter (concerns true s))) := by
  have key := LineUp.longer meets "x"
  have nonempty : ∀ name : String, name ++ "x" ≠ "" := fun name => by simp
  let a := addedReply (some t) (bareApp (other ++ "x"))
  let b := addedReply (some s) (bareApp (name ++ "x"))
  refine ⟨[a, b].map .onListApps, ?_, fun alike => ?_⟩
  · intro reply occurs
    simp only [List.map_cons, List.map_nil, List.mem_cons, List.not_mem_nil, or_false, Event.onListApps.injEq]
      at occurs
    rcases occurs with rfl | rfl
    · exact .inr (getSessionId_added tNamed _)
    · exact .inl (getSessionId_added sNamed _)
  · have purged : ([a, b].map Event.onListApps).filter (concerns true s) = [b].map Event.onListApps := by
      simp [a, b, concerns, getSessionId_added tNamed, getSessionId_added sNamed, Ne.symm different]
    have stores : ∀ replies : List Message, (setup.service (replies.map .onListApps)).handlers =
        register true (setup.service []).database replies ∅ := by
      intro replies
      rw [← List.nil_append (replies.map Event.onListApps), service_replies, build]
      rfl
    obtain ⟨h, stored, own⟩ := single_added (setup.service []).database sNamed (nonempty name)
    rw [← stores [b]] at stored
    rw [purged] at alike
    have kept := (alike.handlers h own).mpr (OrderedMap.mem_values.mpr ⟨_, stored⟩)
    rw [mem_values_iff (handlersKeyed setup _), (handlersKeyed setup _ _ _ stored).1, stores, key] at kept
    have first := congrArg (Option.map Handler.sessionId) kept
    rw [first_added _ tNamed sNamed (nonempty other)] at first
    exact different (own.symm.trans (Option.some.inj first).symm)

/-- In every run, all that a session has is decided by what is said of the session and by
    the account service, exactly if no names of two of the sessions make one key. -/
theorem sessions_separate_iff {setup : Setup} (build : setup.enableSession = true) {sessions : Set String}
    (named : "host" ∉ sessions) :
    (∀ s ∈ sessions, ∀ history : List Event,
        (∀ reply, .onListApps reply ∈ history → getSessionId true reply ∈ sessions) →
        Alike s (setup.service history) (setup.service (history.filter (concerns true s)))) ↔
      Apart sessions := by
  constructor
  · intro separate s sMem t tMem different name other meets
    have sNamed : s ≠ "host" := fun host => named (host ▸ sMem)
    have tNamed : t ≠ "host" := fun host => named (host ▸ tMem)
    obtain ⟨history, listed, changed⟩ := not_alike_of_lineUp build sNamed tNamed different meets
    refine changed (separate s sMem history (fun reply occurs => ?_))
    cases listed reply occurs with
    | inl own => rwa [own]
    | inr other => rwa [other]
  · intro apart s member history listed
    rw [← build] at listed ⊢
    exact alike_of_apart apart member listed

/-- The host has the same whether or not session `a` is heard of. -/
theorem host_separate :
    let setup := Setup.withSessions (Sample.bus 10 20 Sample.first_tokens) .emptyObject
    let history := [.onListApps (Sample.apps "viewer" none), .onListApps (Sample.apps "viewer" (some "a"))]
    Alike "" (setup.service history) (setup.service (history.filter (concerns true ""))) := by
  refine (sessions_separate_iff rfl (by simp)).mpr host_apart "" (by simp) _ ?_
  intro reply occurs
  simp only [List.mem_cons, List.not_mem_nil, or_false, Event.onListApps.injEq] at occurs
  rcases occurs with rfl | rfl <;> decide

end IntentService.Separation
