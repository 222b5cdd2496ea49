import IntentService.Choice
import IntentService.Merging
import IntentService.Presence

/-! # Which applications are there

The handlers as a table over the past: an application is registered for a session
exactly since a list of the session named it, while nothing else stood under its
key, and neither was it taken off a list since, nor did its session manager go
down or its session end. A query shows one entry for each such application.
-/

namespace IntentService.Applications

open History Registry Merging Presence Sync Encoding IntentManager JValueUtil

/-! ## Handlers under their own key -/

theorem keyed_of_stored {before after : Handlers} (keyed : Keyed before)
    (stored : ∀ key h, after.find? key = some h → before.find? key = some h) : Keyed after :=
  fun key h found => keyed key h (stored key h found)

theorem keyed_add {handlers : Handlers} (keyed : Keyed handlers) (handler : Handler) :
    Keyed (handlers.add handler).2 := by
  intro key h found
  rw [find?_add] at found
  split at found
  next added =>
    cases found
    exact ⟨added.1.symm, added.2.1⟩
  next => exact keyed key h found

theorem keyed_addApps (database : JValue) (sessionId : String) (apps : List JValue) (id : String)
    (intentFilters : JValue) {handlers : Handlers} (keyed : Keyed handlers) :
    Keyed (Sam.addApps database sessionId apps id intentFilters handlers) := by
  induction apps generalizing id intentFilters handlers with
  | nil => exact keyed
  | cons app rest ih =>
      rw [Sam.addApps]
      split
      · exact ih _ _ keyed
      · exact ih _ _ (keyed_add keyed _)

theorem keyed_onListApps (enableSession : Bool) (database : JValue) {handlers : Handlers}
    (keyed : Keyed handlers)
    (reply : Message) : Keyed (Sam.onListApps enableSession database handlers reply) := by
  unfold Sam.onListApps
  dsimp only
  repeat' split
  all_goals first
    | exact keyed
    | exact keyed_add keyed _
    | exact keyed_addApps _ _ _ _ _ keyed
    | exact keyed.apply (.remove _ _)

/-- A handler of the application is stored. -/
def Holds (handlers : Handlers) (s name : String) : Prop :=
  ∃ h ∈ handlers.values, h.sessionId = s ∧ h.name = name

/-- No other application is stored whose key is the same. -/
def Free (handlers : Handlers) (s name : String) : Prop :=
  ∀ t other, Holds handlers t other → LineUp s name t other → t = s ∧ other = name

theorem holds_iff {handlers : Handlers} (keyed : Keyed handlers) {s name : String} :
    Holds handlers s name ↔
      ∃ h, handlers.find? (Handler.convertKey s name) = some h ∧ h.sessionId = s ∧ h.name = name := by
  constructor
  · rintro ⟨h, listed, rfl, rfl⟩
    obtain ⟨key, found⟩ := OrderedMap.mem_values.mp listed
    have own : h.getKey = key := (keyed key h found).1
    exact ⟨h, by rwa [← own] at found, rfl, rfl⟩
  · rintro ⟨h, found, own⟩
    exact ⟨h, OrderedMap.mem_values.mpr ⟨_, found⟩, own⟩

theorem free_iff {handlers : Handlers} (keyed : Keyed handlers) {s name : String} :
    Free handlers s name ↔
      ∀ h, handlers.find? (Handler.convertKey s name) = some h → h.sessionId = s ∧ h.name = name := by
  constructor
  · intro free h found
    refine free h.sessionId h.name ⟨h, OrderedMap.mem_values.mpr ⟨_, found⟩, rfl, rfl⟩ ?_
    exact (convertKey_eq_iff _ _ _ _).mp (keyed _ h found).1.symm
  · intro alone t other held meets
    obtain ⟨h, found, rfl, rfl⟩ := (holds_iff keyed).mp held
    rw [← (convertKey_eq_iff _ _ _ _).mpr meets] at found
    exact alone h found

/-! ## One reply -/

theorem announced_of_removal {reply : Message} {id : String} (removed : removal reply = some id) :
    announced reply = [] := by
  unfold removal at removed
  unfold announced
  split
  next => rfl
  next succeeded =>
    rw [if_neg succeeded] at removed
    rcases kind : getValue string reply.payload "change" "" with ⟨_ | _, change⟩
    · simp [kind] at removed
    · rcases app : getValue₂ string reply.payload "app" "id" "" with ⟨_ | _, given⟩
      · simp [kind, app] at removed
      · by_cases added : change = "added"
        · simp [kind, app, added] at removed
        · simp [added]

/-- The table that a reply fills in holds exactly what the reply announces. -/
theorem holds_table (enableSession : Bool) (database : JValue) (reply : Message)
    (s name : String) :
    Holds (Sam.onListApps enableSession database ∅ reply) s name ↔
      getSessionId enableSession reply = s ∧ name ∈ announced reply ∧ name ≠ "" := by
  have table := keyed_onListApps enableSession database keyed_empty reply
  rw [holds_iff table]
  have ended := apps_outcome enableSession database ∅ reply
  -- what is in the table has the session of the reply and a name that is announced
  have origin : ∀ key h, (Sam.onListApps enableSession database ∅ reply).find? key = some h →
      h.sessionId = getSessionId enableSession reply ∧ h.name ∈ announced reply ∧ h.name ≠ "" := by
    intro key h found
    rcases ended.new found with old | ⟨_, session, id, listed, nonempty, rfl⟩
    · simp at old
    · have own := (table _ h found).1
      rw [Handler.getKey, session] at own
      cases Listing.convertKey_injective own
      exact ⟨session, listed, nonempty⟩
  constructor
  · rintro ⟨h, found, rfl, rfl⟩
    obtain ⟨session, listed, nonempty⟩ := origin _ h found
    exact ⟨session.symm, listed, nonempty⟩
  · rintro ⟨rfl, listed, nonempty⟩
    obtain ⟨h, found⟩ := ended.all listed nonempty
    obtain ⟨session, _, _⟩ := origin _ h found
    have own := (table _ h found).1
    rw [Handler.getKey, session] at own
    exact ⟨h, found, session, Listing.convertKey_injective own⟩

/-- The reply takes what stands under the key off the list. -/
def Removes (enableSession : Bool) (reply : Message) (key : String) : Prop :=
  ∃ id, removal reply = some id ∧ Handler.convertKey (getSessionId enableSession reply) id = key

theorem holds_onListApps (enableSession : Bool) (database : JValue) {handlers : Handlers}
    (keyed : Keyed handlers) (reply : Message) (s name : String) :
    Holds (Sam.onListApps enableSession database handlers reply) s name ↔
      (getSessionId enableSession reply = s ∧ name ∈ announced reply ∧ name ≠ "" ∧ Free handlers s name) ∨
        Holds handlers s name ∧ ¬ Removes enableSession reply (Handler.convertKey s name) := by
  rw [holds_iff (keyed_onListApps enableSession database keyed reply), holds_iff keyed, free_iff keyed,
    onListApps_eq_apply]
  unfold patch Removes
  cases removed : removal reply with
  | some id =>
      have unlisted : name ∉ announced reply := by simp [announced_of_removal removed]
      simp only [Patch.apply, OrderedMap.find?_erase, Option.some.injEq, exists_eq_left', unlisted, false_and,
        and_false, false_or]
      by_cases own : Handler.convertKey s name = Handler.convertKey (getSessionId enableSession reply) id
      · simp [own]
      · simp [own, Ne.symm own]
  | none =>
      have table := holds_table enableSession database reply s name
      rw [holds_iff (keyed_onListApps enableSession database keyed_empty reply)] at table
      simp only [Patch.apply, OrderedMap.find?_union]
      cases stored : handlers.find? (Handler.convertKey s name) with
      | none => simp [table]
      | some h => simp

/-! ## One event -/

/-- The session manager of a session that is there goes down, or the session ends. -/
def Gone (self : Account) (s : String) (e : Event) : Prop :=
  self.sessions.contains s = true ∧ (Ended s e ∨ Reported s false e)

/-- A reply names the application, and nothing else stands under its key. -/
def Registered (enableSession : Bool) (self : Service) (s name : String) (e : Event) : Prop :=
  ∃ reply, e = .onListApps reply ∧ getSessionId enableSession reply = s ∧ name ∈ announced reply ∧ name ≠ "" ∧
    Free self.handlers s name

/-- A reply takes what stands under the key of the application off the list. -/
def Unregistered (enableSession : Bool) (s name : String) (e : Event) : Prop :=
  ∃ reply, e = .onListApps reply ∧ Removes enableSession reply (Handler.convertKey s name)

theorem holds_of_left {before after : Handlers} (gone : String → Prop)
    (left : ∀ key h, after.find? key = some h ↔ before.find? key = some h ∧ ¬ gone h.sessionId)
    (s name : String) :
    Holds after s name ↔ Holds before s name ∧ ¬ gone s := by
  simp only [Holds, OrderedMap.mem_values, left]
  constructor
  · rintro ⟨h, ⟨key, found, stays⟩, rfl, rfl⟩
    exact ⟨⟨h, ⟨key, found⟩, rfl, rfl⟩, stays⟩
  · rintro ⟨⟨h, ⟨key, found⟩, rfl, rfl⟩, stays⟩
    exact ⟨h, ⟨key, found, stays⟩, rfl, rfl⟩

theorem apart_from_all {self : Account} (keyed : SessionsKeyed self.sessions) (s : String) :
    (∀ session ∈ self.sessions.values, s ≠ session.sessionId) ↔ ¬ self.sessions.contains s = true := by
  rw [OrderedMap.contains_iff]
  constructor
  · rintro apart ⟨session, found⟩
    exact apart session (OrderedMap.mem_values.mpr ⟨s, found⟩) (keyed s session found).1.symm
  · rintro absent session listed rfl
    obtain ⟨t, found⟩ := OrderedMap.mem_values.mp listed
    rw [(keyed t session found).1] at absent
    exact absent ⟨session, found⟩

theorem apart_from_dropped {self : Account} (keyed : SessionsKeyed self.sessions) (items : List JValue)
    (s : String) :
    (∀ session, Dropped self items session → s ≠ session.sessionId) ↔
      ¬ (self.sessions.contains s = true ∧ ¬ Names items s) := by
  rw [OrderedMap.contains_iff]
  constructor
  · rintro apart ⟨⟨session, found⟩, unnamed⟩
    exact apart session ⟨s, found, unnamed⟩ (keyed s session found).1.symm
  · rintro stays session ⟨t, found, unnamed⟩ rfl
    rw [(keyed t session found).1] at stays
    exact stays ⟨⟨session, found⟩, unnamed⟩

theorem left_of_account {bus : Bus} {self account : Account} {handlers left : Handlers} {notice : Message}
    {effects : List Effect} (ended : AccountOutcome bus self handlers notice account left effects)
    (keyed : SessionsKeyed self.sessions) (key : String) (h : Handler) :
    left.find? key = some h ↔
      handlers.find? key = some h ∧ ¬ Gone self h.sessionId (.accountStatus notice bus) := by
  have silent : ∀ s, ¬ Reported s false (.accountStatus notice bus) := by simp [Reported]
  cases ended with
  | ignored status => simp [Gone, Ended, status, silent]
  | up status | down status =>
      have finished : ∀ s, Ended s (.accountStatus notice bus) := fun s => .inl ⟨notice, bus, _, rfl, status⟩
      rw [destroyAll_handlers, apart_from_all keyed]
      simp [Gone, finished]

theorem left_of_sync (bus : Bus) (self : Account) (handlers : Handlers) (reply : Message)
    (keyed : SessionsKeyed self.sessions) (key : String) (h : Handler) :
    (self.onGetSessions bus handlers reply).2.1.find? key = some h ↔
      handlers.find? key = some h ∧ ¬ Gone self h.sessionId (.onGetSessions reply bus) := by
  have silent : ∀ s, ¬ Reported s false (.onGetSessions reply bus) := by simp [Reported]
  by_cases lists : ∃ items, Lists reply items
  · obtain ⟨items, lists⟩ := lists
    have ended : ∀ s, Ended s (.onGetSessions reply bus) ↔ ¬ Names items s := by
      intro s
      constructor
      · rintro (⟨_, _, _, other, _⟩ | ⟨_, _, _, same, again, unnamed⟩)
        · cases other
        · cases same
          rwa [lists_unique lists again]
      · exact fun unnamed => .inr ⟨reply, bus, items, rfl, lists, unnamed⟩
    rw [onGetSessions_listed lists, swept_find?, apart_from_dropped keyed]
    simp [Gone, ended, silent]
  · have unlisted : ∀ items, ¬ Lists reply items := fun items listed => lists ⟨items, listed⟩
    rw [onGetSessions_unlisted unlisted]
    simp [Gone, Ended, unlisted, silent]

theorem left_of_sam {enableSession : Bool} {bus : Bus} {self : Account} {t : String} {session : Session}
    {sam : Sam} {handlers left : Handlers} {notice : Message} {effects : List Effect}
    (known : self.sessions.find? t = some session) (own : session.sam.sessionId = t)
    (ended : SamOutcome enableSession bus session.sam handlers notice sam left effects) (key : String)
    (h : Handler) :
    left.find? key = some h ↔
      handlers.find? key = some h ∧ ¬ Gone self h.sessionId (.samStatus t notice bus) := by
  have stays : ∀ s, ¬ Ended s (.samStatus t notice bus) := by simp [Ended]
  have present : self.sessions.contains t = true := OrderedMap.contains_iff.mpr ⟨session, known⟩
  have gone : ∀ s, Gone self s (.samStatus t notice bus) ↔ s = t ∧ clientStatus s notice = some false := by
    intro s
    simp only [Gone, stays, false_or, Reported]
    constructor
    · rintro ⟨_, _, _, same, status⟩
      cases same
      exact ⟨rfl, status⟩
    · rintro ⟨rfl, status⟩
      exact ⟨present, notice, bus, rfl, status⟩
  rw [gone]
  cases ended with
  | ignored status | subscribed status | stayed status =>
      rw [own] at status
      refine (and_iff_left ?_).symm
      rintro ⟨rfl, down⟩
      cases status.symm.trans down
  | down status =>
      rw [own] at status
      rw [own, find?_removeBySessionId]
      refine and_congr_right (fun _ => not_congr ?_)
      constructor
      · rintro rfl
        exact ⟨rfl, status⟩
      · exact fun both => both.1

theorem left_of_event (enableSession : Bool) (self : Service) {e : Event}
    (unlisted : ∀ reply, e ≠ .onListApps reply) (keyed : SessionsKeyed self.account.sessions) (key : String)
    (h : Handler) :
    (self.dispatch enableSession e).1.handlers.find? key = some h ↔
      self.handlers.find? key = some h ∧ ¬ Gone self.account h.sessionId e := by
  cases e with
  | accountStatus notice bus =>
      exact left_of_account (account_outcome bus self.account self.handlers notice) keyed key h
  | onGetSessions reply bus => exact left_of_sync bus self.account self.handlers reply keyed key h
  | samStatus t notice bus =>
      simp only [Service.dispatch]
      cases known : self.account.sessions.find? t with
      | none =>
          have absent : self.account.sessions.contains t = false := OrderedMap.contains_eq_false.mpr known
          refine (and_iff_left ?_).symm
          rintro ⟨present, ended | ⟨_, _, same, _⟩⟩
          · simp [Ended] at ended
          · cases same
            rw [absent] at present
            cases present
      | some session =>
          exact left_of_sam known (keyed t session known).2
            (sam_outcome enableSession bus session.sam self.handlers notice) key h
  | onListApps reply => exact absurd rfl (unlisted reply)
  | query | start | sendResult | subscribeResult | onLaunch | ownerStatus | disconnect =>
      rw [(dispatch_of_other enableSession self rfl).2]
      simp [Gone, Ended, Reported]

theorem holds_step (enableSession : Bool) (self : Service) (e : Event) (keyed : Keyed self.handlers)
    (own : SessionsKeyed self.account.sessions) (s name : String) :
    Holds (self.dispatch enableSession e).1.handlers s name ↔
      Registered enableSession self s name e ∨
        Holds self.handlers s name ∧ ¬ (Unregistered enableSession s name e ∨ Gone self.account s e) := by
  by_cases lists : ∃ reply, e = .onListApps reply
  · obtain ⟨reply, rfl⟩ := lists
    have gone : ¬ Gone self.account s (.onListApps reply) := by simp [Gone, Ended, Reported]
    refine (holds_onListApps enableSession self.database keyed reply s name).trans ?_
    simp [Registered, Unregistered, gone]
  · have unlisted : ∀ reply, e ≠ .onListApps reply := fun reply same => lists ⟨reply, same⟩
    rw [holds_of_left (fun t => Gone self.account t e) (left_of_event enableSession self unlisted own)]
    simp [Registered, Unregistered, unlisted]

theorem keyed_step (enableSession : Bool) (self : Service) (e : Event) (keyed : Keyed self.handlers)
    (own : SessionsKeyed self.account.sessions) : Keyed (self.dispatch enableSession e).1.handlers := by
  by_cases lists : ∃ reply, e = .onListApps reply
  · obtain ⟨reply, rfl⟩ := lists
    exact keyed_onListApps enableSession self.database keyed reply
  · have unlisted : ∀ reply, e ≠ .onListApps reply := fun reply same => lists ⟨reply, same⟩
    exact keyed_of_stored keyed (fun key h found =>
      ((left_of_event enableSession self unlisted own key h).mp found).1)

/-! ## Along a run -/

variable (setup : Setup)

theorem handlersKeyed (history : List Event) : Keyed (setup.service history).handlers := by
  induction history using List.reverseRecOn with
  | nil => exact keyed_empty
  | append_singleton history e ih =>
      rw [Setup.service_snoc]
      exact keyed_step setup.enableSession _ e ih (sessionsKeyed setup history)

/-- The application leaves the list, or its session is there and goes. -/
def Cleared (s name : String) (pre : List Event) (e : Event) : Prop :=
  Unregistered setup.enableSession s name e ∨ Present setup s pre ∧ (Ended s e ∨ Reported s false e)

/-- The application was named, and has not been cleared since. -/
def RegisteredSince (s name : String) (history : List Event) : Prop :=
  Since (fun pre e => Registered setup.enableSession (setup.service pre) s name e)
    (Cleared setup s name) history

theorem present_iff (s : String) (history : List Event) :
    (setup.service history).account.sessions.contains s = true ↔ Present setup s history := by
  rw [← known_iff, OrderedMap.contains, Presence.view]
  cases (setup.service history).account.sessions.find? s <;> simp

theorem gone_iff (s : String) (history : List Event) (e : Event) :
    Gone (setup.service history).account s e ↔ Present setup s history ∧
        (Ended s e ∨ Reported s false e) := by
  rw [Gone, present_iff]

theorem holds_snoc (s name : String) (history : List Event) (e : Event) :
    Holds (setup.service (history ++ [e])).handlers s name ↔
      Registered setup.enableSession (setup.service history) s name e ∨
        Holds (setup.service history).handlers s name ∧ ¬ Cleared setup s name history e := by
  rw [Setup.service_snoc, Cleared, ← gone_iff]
  exact holds_step setup.enableSession _ e (handlersKeyed setup history) (sessionsKeyed setup history) s name

theorem holds_since (s name : String) (history : List Event) :
    Holds (setup.service history).handlers s name ↔ RegisteredSince setup s name history := by
  have table := since_iff (fun history => Holds (setup.service history).handlers s name)
    (holds_snoc setup s name) history
  have initially : ¬ Holds (setup.service []).handlers s name := by
    rintro ⟨h, listed, _⟩
    cases listed
  rwa [or_iff_right (fun start => initially start.1)] at table

/-! ## What `query` shows -/

/-- The session and the name that an entry of a reply shows. -/
def entryOf (entry : JValue) : String × String :=
  ((entry.get "sessionId").asString, (entry.get "name").asString)

theorem entryOf_toJson (handler : Handler) :
    entryOf (handler.toJson .emptyObject) = (handler.sessionId, handler.name) := by
  unfold Handler.toJson entryOf
  cases empty : handler.sessionId.isEmpty with
  | true =>
      rw [String.isEmpty_iff.mp empty]
      rfl
  | false => rfl

theorem shown_nodup {handlers : Handlers} (keyed : Keyed handlers) (keep : Handler → Bool) :
    ((handlers.shown keep).map entryOf).Nodup := by
  have pairs : (handlers.shown keep).map entryOf =
      (handlers.values.filter keep).map (fun h => (h.sessionId, h.name)) := by
    simp [Handlers.shown, Function.comp_def, entryOf_toJson]
  have keys := OrderedMap.map_values_nodup (fun key h found => (keyed key h found).1)
  have kept : ((handlers.values.filter keep).map Handler.getKey).Nodup :=
    keys.sublist (List.filter_sublist.map Handler.getKey)
  rw [pairs]
  refine List.Nodup.of_map (fun pair => Handler.convertKey pair.1 pair.2) ?_
  rw [List.map_map]
  exact kept

theorem mem_shown {handlers : Handlers} {keep : Handler → Bool} {s name : String} :
    (s, name) ∈ (handlers.shown keep).map entryOf ↔
      ∃ h ∈ handlers.values, keep h = true ∧ h.sessionId = s ∧ h.name = name := by
  simp [Handlers.shown, entryOf_toJson, and_assoc]

theorem isMatched_named {self : Service} {json : JValue} {intent : Intent}
    (parsed : self.freshIntent.fromJson json = (true, intent)) (hasName : intent.hasName = true)
    (h : Handler) :
    h.isMatched intent = (h.name == intent.name) := by
  simp [Handler.isMatched, Intent.hasSessionId, (Decoded.of_parsed parsed).sessionId, hasName]

/-- The applications a query asks for: without an intent all of the session, with
    one that has a name those of the name. -/
inductive Asks (self : Service) (request : Message) (sessionId : String) :
    (String → String → Prop) → Prop where
  | all (usable : request.payload.isNull = false) (plain : request.payload.hasKey "intent" = false) :
      Asks self request sessionId (fun s _ => sessionId = "" ∨ s = sessionId)
  | named {intent : Intent} (asks : request.payload.hasKey "intent" = true)
      (parsed : self.freshIntent.fromJson (request.payload.get "intent") = (true, intent))
      (hasName : intent.hasName = true) :
      Asks self request sessionId (fun s name => (sessionId = "" ∨ s = sessionId) ∧ name = intent.name)

/-- A query for applications is answered with the handlers that pass the test of the query. -/
theorem query_shown {enableSession : Bool} {self : Service} {request : Message}
    {wanted : String → String → Prop}
    (asks : Asks self request (requestSession enableSession request) wanted) :
    ∃ keep, (query enableSession self request).2 =
        [done request (JValue.emptyObject.put "handlers" (.array (self.handlers.shown keep))) ""] ∧
      ∀ h : Handler, keep h = true ↔ wanted h.sessionId h.name := by
  cases asks with
  | all usable plain =>
      refine ⟨fun h => (requestSession enableSession request).isEmpty ||
        requestSession enableSession request == h.sessionId, ?_, fun h => ?_⟩
      · simp [query, usable, plain, Handlers.toJson_eq, Service.built]
      · simp [eq_comm (a := h.sessionId)]
  | @named intent asks parsed hasName =>
      have valid : intent.isValid = true := if_pos hasName
      refine ⟨fun h => h.isMatched (intent.setSessionId (requestSession enableSession request)),
        Choice.query_handlers asks parsed valid, fun h => ?_⟩
      dsimp only
      rw [Choice.isMatched_setSessionId (Decoded.of_parsed parsed).sessionId, isMatched_named parsed hasName]
      simp

/-- A query lists, once each, exactly the applications it asks for that are registered. -/
theorem query_lists_registered {request : Message} {history : List Event} {wanted : String → String → Prop}
    (asks : Asks (setup.service history) request (requestSession setup.enableSession request) wanted) :
    ∃ listed, setup.effects history (.query request) =
        [done request (JValue.emptyObject.put "handlers" (.array listed)) ""] ∧
      (listed.map entryOf).Nodup ∧
      ∀ s name, (s, name) ∈ listed.map entryOf ↔ wanted s name ∧ RegisteredSince setup s name history := by
  obtain ⟨keep, answer, test⟩ := query_shown asks
  refine ⟨_, answer, shown_nodup (handlersKeyed setup history) keep, fun s name => ?_⟩
  rw [mem_shown, ← holds_since]
  constructor
  · rintro ⟨h, stored, kept, rfl, rfl⟩
    exact ⟨(test h).mp kept, h, stored, rfl, rfl⟩
  · rintro ⟨asked, h, stored, rfl, rfl⟩
    exact ⟨h, stored, (test h).mpr asked, rfl, rfl⟩

/-- Both sessions list the viewer. -/
def viewers : Setup := .withSessions (Sample.bus 10 20 Sample.first_tokens) .emptyObject

/-- A client of session `a` asks what is there. -/
def asking : Message := { payload := .emptyObject, sessionId := some "a" }

theorem twoSessions_listed :
    ∃ listed, viewers.effects Sample.twoSessions (.query asking) =
        [done asking (JValue.emptyObject.put "handlers" (.array listed)) ""] ∧
      (listed.map entryOf).Nodup ∧
      ∀ s name, (s, name) ∈ listed.map entryOf ↔
        ("a" = "" ∨ s = "a") ∧ RegisteredSince viewers s name Sample.twoSessions :=
  query_lists_registered _ (.all rfl rfl)

/-! ## What `start` launches -/

section Start

variable {setup} {history : List Event} {request : Message} {bus : Bus} {intent : Intent}
  (parsed : (setup.service history).freshIntent.fromJson (request.payload.get "intent") = (true, intent))
  (hasName : intent.hasName = true)
include parsed hasName

theorem target_by_name :
    (∃ session handler, startTarget setup.enableSession (setup.service history) request =
        .ok (session, intent, handler)) ↔
      (setup.service history).account.sessions.contains (requestSession setup.enableSession request) = true ∧
        ∃ s, Holds (setup.service history).handlers s intent.name := by
  have valid : intent.isValid = true := if_pos hasName
  rw [OrderedMap.contains_iff]
  constructor
  · rintro ⟨session, handler, target⟩
    obtain ⟨found, parsed', _, picked⟩ := startTarget_eq_ok.mp target
    cases parsed.symm.trans parsed'
    have matched := List.find?_some picked
    rw [isMatched_named parsed hasName, beq_iff_eq] at matched
    exact ⟨⟨session, found⟩, handler.sessionId, handler, List.mem_of_find?_eq_some picked, rfl, matched⟩
  · rintro ⟨⟨session, found⟩, s, h, stored, _, named⟩
    have some : ((setup.service history).handlers.getHandler intent).isSome = true := by
      refine List.find?_isSome.mpr ⟨h, stored, ?_⟩
      rw [isMatched_named parsed hasName, named, beq_self_eq_true]
    obtain ⟨handler, picked⟩ := Option.isSome_iff_exists.mp some
    exact ⟨session, handler, startTarget_eq_ok.mpr ⟨found, parsed, valid, picked⟩⟩

/-- A `start` by name launches exactly if its session is there and an application
    of the name is registered, for whatever session; it launches that name, in the
    session of the request. -/
theorem start_by_name :
    ((∃ call answer, .call call answer ∈ setup.effects history (.start request bus) ∧
      call.callback = .onLaunch) ↔
        Present setup (requestSession setup.enableSession request) history ∧
          ∃ s, RegisteredSince setup s intent.name history) ∧
      ∀ call answer, .call call answer ∈ setup.effects history (.start request bus) →
        call.callback = .onLaunch →
        call.payload.get "id" = .string intent.name ∧
          call.sessionId =
            if setup.enableSession then some (requestSession setup.enableSession request) else none := by
  constructor
  · simp only [← holds_since, ← present_iff, ← target_by_name parsed hasName, launch_iff]
    constructor
    · rintro ⟨_, _, _, _, session, _, handler, same, target, _⟩
      cases same
      obtain ⟨_, parsed', _⟩ := startTarget_eq_ok.mp target
      cases parsed.symm.trans parsed'
      exact ⟨session, handler, target⟩
    · rintro ⟨session, handler, target⟩
      exact ⟨_, _, request, bus, session, intent, handler, rfl, target, rfl, rfl⟩
  · intro call answer sent launch
    obtain ⟨_, _, session, intent', handler, same, target, rfl, _⟩ := (launch_iff setup).mp ⟨sent, launch⟩
    cases same
    obtain ⟨found, parsed', _, picked⟩ := startTarget_eq_ok.mp target
    cases parsed.symm.trans parsed'
    have matched := List.find?_some picked
    rw [isMatched_named parsed hasName, beq_iff_eq] at matched
    have own := (sessionsKeyed setup history _ _ found).2
    refine ⟨?_, ?_⟩
    · rw [Sam.launchCall, JValue.get_put (by rfl), if_pos rfl, matched]
    · rw [← own]
      rfl

end Start

/-- A client of session `a` starts the viewer. -/
def starting : Message := { Sample.starting 1 "client" "viewer" [] with sessionId := some "a" }

def viewerIntent : Intent :=
  ((viewers.service Sample.twoSessions).freshIntent.fromJson (starting.payload.get "intent")).2

theorem viewer_started :
    ((∃ call answer, .call call answer ∈ viewers.effects Sample.twoSessions
            (.start starting (Sample.bus 10 20 Sample.first_tokens)) ∧ call.callback = .onLaunch) ↔
        Present viewers (requestSession viewers.enableSession starting) Sample.twoSessions ∧
          ∃ s, RegisteredSince viewers s viewerIntent.name Sample.twoSessions) ∧
      ∀ call answer, .call call answer ∈ viewers.effects Sample.twoSessions
          (.start starting (Sample.bus 10 20 Sample.first_tokens)) → call.callback = .onLaunch →
        call.payload.get "id" = .string viewerIntent.name ∧
          call.sessionId =
            if viewers.enableSession then some (requestSession viewers.enableSession starting) else none :=
  start_by_name rfl rfl

end IntentService.Applications
