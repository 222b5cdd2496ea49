import IntentService.World

/-! # What the clients of the bus do

One lemma for each operation of `SAM`, `Session` and `Account`: the new state
read off every session, the handlers that are left, and the effects. Then the
open calls after a list of effects.
-/

namespace IntentService

open JValueUtil

/-! ## `SAM` -/

/-- The ways a status notification to a `SAM` ends. -/
inductive SamOutcome (enableSession : Bool) (bus : Bus) (self : Sam) (handlers : Handlers)
    (notice : Message) : Sam → Handlers → List Effect → Prop where
  | ignored (status : clientStatus self.sessionId notice = none) :
      SamOutcome enableSession bus self handlers notice self handlers []
  | subscribed (status : clientStatus self.sessionId notice = some true) (closed : self.listApps = 0) :
      SamOutcome enableSession bus self handlers notice
        { self with
          isConnected := true
          listApps := storeToken (bus.answer (self.listAppsCall enableSession)) 0 }
        handlers
        [.call (self.listAppsCall enableSession) (bus.answer (self.listAppsCall enableSession))]
  | stayed (status : clientStatus self.sessionId notice = some true) (opened : self.listApps ≠ 0) :
      SamOutcome enableSession bus self handlers notice { self with isConnected := true } handlers []
  | down (status : clientStatus self.sessionId notice = some false) :
      SamOutcome enableSession bus self handlers notice
        { self with isConnected := false, listApps := 0 }
        (handlers.removeBySessionId self.sessionId) (cancelOpen self.listApps)

theorem sam_outcome (enableSession : Bool) (bus : Bus) (self : Sam) (handlers : Handlers)
    (notice : Message) :
    SamOutcome enableSession bus self handlers notice
      (self.onStatus enableSession bus handlers notice).1
      (self.onStatus enableSession bus handlers notice).2.1
      (self.onStatus enableSession bus handlers notice).2.2 := by
  unfold Sam.onStatus
  cases status : clientStatus self.sessionId notice with
  | none => exact .ignored status
  | some connected =>
      simp only [Sam.onServerStatusChanged]
      cases connected with
      | false => exact .down status
      | true =>
          by_cases closed : self.listApps = 0
          · rw [if_pos rfl, if_pos closed]
            have opened : SamOutcome enableSession bus self handlers notice _ handlers _ :=
              .subscribed status closed
            rw [← closed] at opened
            exact opened
          · rw [if_pos rfl, if_neg closed]
            exact .stayed status closed

/-- A string lookup fails or succeeds whatever the variable held before. -/
theorem getString_eq (json : JValue) (key value : String) :
    getValue string json key value =
      if (getValue string json key "").1 then getValue string json key "" else (false, value) := by
  rw [getValue_eq, getValue_eq]
  cases json.member? key with
  | none => rfl
  | some found => cases text : found.isString <;> simp [Output.fetch, JValueUtil.string, text]

/-- The ids of the entries of an app list. -/
def appIds (apps : List JValue) : List String :=
  apps.filterMap fun app =>
    match getValue string app "id" "" with
    | (true, id) => some id
    | (false, _) => none

/-- The applications a `listApps` reply announces. -/
def announced (reply : Message) : List String :=
  if reply.isHubError || !(getValue bool reply.payload "returnValue" false).2 then []
  else
    match getValue string reply.payload "change" "", getValue₂ string reply.payload "app" "id" "" with
    | (true, change), (true, id) => if change = "added" then [id] else []
    | (true, _), (false, _) => []
    | (false, _), _ =>
        match getValue jvalue reply.payload "apps" .null with
        | (true, apps) => if apps.isArray then appIds apps.items else []
        | (false, _) => []

theorem find?_add (self : Handlers) (handler : Handler) (key : String) :
    (self.add handler).2.find? key =
      if key = handler.getKey ∧ handler.hasName = true ∧ self.find? key = none then some handler
      else self.find? key := by
  unfold Handlers.add
  cases named : handler.hasName with
  | false => simp
  | true =>
      cases present : self.hasHandler handler.getKey with
      | true =>
          obtain ⟨other, found⟩ := OrderedMap.contains_iff.mp present
          by_cases own : key = handler.getKey
          · simp [own, found]
          · simp [own]
      | false =>
          have absent : self.find? handler.getKey = none := OrderedMap.contains_eq_false.mp present
          by_cases own : key = handler.getKey
          · simp [own, absent]
          · simp [own, OrderedMap.find?_insert]

/-- What registering one application does to the handlers: `ids` are the ids that
    are announced in the session. -/
structure Registers (sessionId : String) (ids : List String) (before after : Handlers) : Prop where
  kept : ∀ key h, before.find? key = some h → after.find? key = some h
  new : ∀ key h, after.find? key = some h → before.find? key = some h ∨
    before.find? key = none ∧ h.sessionId = sessionId ∧
      ∃ id ∈ ids, id ≠ "" ∧ key = Handler.convertKey sessionId id
  all : ∀ id ∈ ids, id ≠ "" → ∃ h, after.find? (Handler.convertKey sessionId id) = some h

theorem Registers.nil (sessionId : String) (handlers : Handlers) :
    Registers sessionId [] handlers handlers :=
  ⟨fun _ _ found => found, fun _ _ found => .inl found, by simp⟩

theorem appHandler_fields (id sessionId : String) (intentFilters : JValue) :
    (Sam.appHandler id sessionId intentFilters).getKey = Handler.convertKey sessionId id ∧
      (Sam.appHandler id sessionId intentFilters).sessionId = sessionId ∧
      ((Sam.appHandler id sessionId intentFilters).hasName = true ↔ id ≠ "") := by
  simp only [Sam.appHandler, Handler.setIntentFilters]
  split <;> simp [Handler.getKey, Handler.hasName]

theorem Registers.single (sessionId id : String) (intentFilters : JValue) (handlers : Handlers) :
    Registers sessionId [id] handlers (handlers.add (Sam.appHandler id sessionId intentFilters)).2 := by
  obtain ⟨key, session, named⟩ := appHandler_fields id sessionId intentFilters
  generalize Sam.appHandler id sessionId intentFilters = handler at *
  refine ⟨fun k h found => ?_, fun k h found => ?_, fun i member nonempty => ?_⟩
  · rw [find?_add, if_neg (fun added => by simp [found] at added)]
    exact found
  · rw [find?_add] at found
    split at found
    next added =>
      cases found
      exact .inr ⟨added.2.2, session, id, List.mem_singleton_self id, named.mp added.2.1, added.1.trans key⟩
    next => exact .inl found
  · cases List.mem_singleton.mp member
    rw [← key, find?_add]
    cases present : handlers.find? handler.getKey with
    | none => exact ⟨handler, by simp [named.mpr nonempty]⟩
    | some h => exact ⟨h, by simp⟩

theorem Registers.append {sessionId : String} {ids more : List String} {before between after : Handlers}
    (first : Registers sessionId ids before between) (second : Registers sessionId more between after) :
    Registers sessionId (ids ++ more) before after := by
  refine ⟨fun k h found => second.kept k h (first.kept k h found), fun k h found => ?_,
    fun id member nonempty => ?_⟩
  · rcases second.new k h found with found | ⟨absent, session, id, listed, nonempty, key⟩
    · rcases first.new k h found with found | ⟨absent, session, id, listed, nonempty, key⟩
      · exact .inl found
      · exact .inr ⟨absent, session, id, List.mem_append_left _ listed, nonempty, key⟩
    · refine .inr ⟨?_, session, id, List.mem_append_right _ listed, nonempty, key⟩
      rw [Option.eq_none_iff_forall_ne_some]
      intro other stored
      cases absent.symm.trans (first.kept k other stored)
  · rcases List.mem_append.mp member with member | member
    · obtain ⟨h, found⟩ := first.all id member nonempty
      exact ⟨h, second.kept _ h found⟩
    · exact second.all id member nonempty

theorem addApps_registers (database : JValue) (sessionId : String) (apps : List JValue) (id : String)
    (intentFilters : JValue) (handlers : Handlers) :
    Registers sessionId (appIds apps) handlers
      (Sam.addApps database sessionId apps id intentFilters handlers) := by
  induction apps generalizing id intentFilters handlers with
  | nil => exact .nil sessionId handlers
  | cons app rest ih =>
      rcases named : getValue string app "id" "" with ⟨_ | _, given⟩
      · have skipped : appIds (app :: rest) = appIds rest := by simp [appIds, named]
        rw [skipped, Sam.addApps, getString_eq, named]
        exact ih id intentFilters handlers
      · have listed : appIds (app :: rest) = [given] ++ appIds rest := by simp [appIds, named]
        rw [listed, Sam.addApps, getString_eq, named]
        exact (Registers.single sessionId given _ handlers).append (ih given _ _)

/-- The ways a `listApps` reply ends: it registers what it announces, or
    announces nothing and removes one application. -/
inductive AppsOutcome (reply : Message) (sessionId : String) (handlers : Handlers) : Handlers → Prop where
  | registered {after : Handlers} (registers : Registers sessionId (announced reply) handlers after) :
      AppsOutcome reply sessionId handlers after
  | removed (key : String) (nothing : announced reply = []) :
      AppsOutcome reply sessionId handlers (handlers.remove key)

theorem AppsOutcome.new {reply : Message} {sessionId : String} {handlers after : Handlers}
    (ended : AppsOutcome reply sessionId handlers after) {key : String} {h : Handler}
    (found : after.find? key = some h) :
    handlers.find? key = some h ∨ handlers.find? key = none ∧ h.sessionId = sessionId ∧
      ∃ id ∈ announced reply, id ≠ "" ∧ key = Handler.convertKey sessionId id := by
  cases ended with
  | registered registers => exact registers.new key h found
  | removed => exact .inl (OrderedMap.find?_filter_eq_some.mp found).1

theorem AppsOutcome.all {reply : Message} {sessionId : String} {handlers after : Handlers}
    (ended : AppsOutcome reply sessionId handlers after) {id : String} (listed : id ∈ announced reply)
    (nonempty : id ≠ "") : ∃ h, after.find? (Handler.convertKey sessionId id) = some h := by
  cases ended with
  | registered registers => exact registers.all id listed nonempty
  | removed _ nothing =>
      rw [nothing] at listed
      cases listed

theorem apps_outcome (enableSession : Bool) (database : JValue) (handlers : Handlers) (reply : Message) :
    AppsOutcome reply (getSessionId enableSession reply) handlers
      (Sam.onListApps enableSession database handlers reply) := by
  have none : announced reply = [] →
      AppsOutcome reply (getSessionId enableSession reply) handlers handlers :=
    fun nothing => .registered (nothing ▸ .nil _ _)
  unfold Sam.onListApps
  dsimp only
  split
  next failed =>
    refine none ?_
    rw [announced, if_pos failed]
  next succeeded =>
    rcases kind : getValue string reply.payload "change" "" with ⟨_ | _, change⟩
    · rcases list : getValue jvalue reply.payload "apps" .null with ⟨_ | _, apps⟩
      · refine none ?_
        rw [announced, if_neg succeeded]
        simp only [kind, list]
      · dsimp only
        split
        next array =>
          have all : announced reply = appIds apps.items := by
            rw [announced, if_neg succeeded]
            simp only [kind, list, array, if_true]
          exact .registered (all ▸ addApps_registers _ _ _ _ _ _)
        next other =>
          refine none ?_
          rw [announced, if_neg succeeded]
          simp [kind, list, other]
    · rcases app : getValue₂ string reply.payload "app" "id" "" with ⟨_ | _, id⟩
      · refine none ?_
        rw [announced, if_neg succeeded]
        simp only [kind, app]
      · dsimp only
        split
        next added =>
          have single : announced reply = [id] := by
            rw [announced, if_neg succeeded]
            simp only [kind, app, added, if_true]
          exact .registered (single ▸ .single _ _ _ _)
        next other =>
          have nothing : announced reply = [] := by
            rw [announced, if_neg succeeded]
            simp only [kind, app, other, if_false]
          split
          · exact .removed _ nothing
          · exact none nothing

/-! ## `Session` -/

theorem mem_cancelOpen {token : UInt64} {effect : Effect} :
    effect ∈ cancelOpen token ↔ token ≠ 0 ∧ effect = .cancel token := by
  unfold cancelOpen
  split <;> simp_all

theorem destroy_eq (self : Session) (handlers : Handlers) :
    self.destroy handlers = (handlers.removeBySessionId self.sessionId,
      cancelOpen self.sam.statusCall ++ cancelOpen self.sam.listApps) := rfl

theorem find?_removeBySessionId (self : Handlers) (sessionId : String) (key : String) (h : Handler) :
    (self.removeBySessionId sessionId).find? key = some h ↔
      self.find? key = some h ∧ h.sessionId ≠ sessionId := by
  simp [Handlers.removeBySessionId, OrderedMap.find?_filter_eq_some]

/-- Destroying sessions leaves the handlers of all others. -/
theorem destroyAll_handlers (sessions : List Session) (handlers : Handlers) (key : String) (h : Handler) :
    (Session.destroyAll sessions handlers).1.find? key = some h ↔
      handlers.find? key = some h ∧ ∀ session ∈ sessions, h.sessionId ≠ session.sessionId := by
  induction sessions generalizing handlers with
  | nil => simp [Session.destroyAll]
  | cons session rest ih =>
      simp only [Session.destroyAll, destroy_eq, ih, find?_removeBySessionId, List.forall_mem_cons]
      exact and_assoc

theorem mem_destroyAll {sessions : List Session} {handlers : Handlers} {effect : Effect} :
    effect ∈ (Session.destroyAll sessions handlers).2 ↔
      ∃ session ∈ sessions, effect ∈ cancelOpen session.sam.statusCall ∨
        effect ∈ cancelOpen session.sam.listApps := by
  induction sessions generalizing handlers with
  | nil => simp [Session.destroyAll]
  | cons session rest ih => simp [Session.destroyAll, destroy_eq, ih, or_assoc]

/-! ## `Account` -/

/-- The session ids an array names. -/
def namedSessions (items : List JValue) : List String :=
  items.filterMap fun item =>
    match getValue string item "sessionId" "" with
    | (true, sessionId) => some sessionId
    | (false, _) => none

/-- The call a new session opens. -/
def sessionCall (sessionId : String) : LSCall :=
  clientStatusCall Sam.serviceName sessionId (.sam sessionId)

theorem new_eq (bus : Bus) (sessionId : String) :
    Session.new bus sessionId =
      ({ sessionId := sessionId
         sam := { sessionId := sessionId, statusCall := storeToken (bus.answer (sessionCall sessionId)) 0 } },
       [.call (sessionCall sessionId) (bus.answer (sessionCall sessionId))]) := rfl

theorem updateSessions_unnamed (bus : Bus) {item : JValue} {rest : List JValue} {sessionId id : String}
    {sessions : OrderedMap String Session} (unnamed : getValue string item "sessionId" "" = (false, id)) :
    Account.updateSessions bus (item :: rest) sessionId sessions =
      Account.updateSessions bus rest sessionId sessions := by
  rw [Account.updateSessions, getString_eq, unnamed]
  rfl

theorem updateSessions_known (bus : Bus) {item : JValue} {rest : List JValue} {sessionId id : String}
    {sessions : OrderedMap String Session} {session : Session}
    (named : getValue string item "sessionId" "" = (true, id)) (known : sessions.find? id = some session) :
    Account.updateSessions bus (item :: rest) sessionId sessions =
      Account.updateSessions bus rest id (sessions.insert id { session with isRunning := true }) := by
  rw [Account.updateSessions, getString_eq, named]
  simp [known]

theorem updateSessions_new (bus : Bus) {item : JValue} {rest : List JValue} {sessionId id : String}
    {sessions : OrderedMap String Session} (named : getValue string item "sessionId" "" = (true, id))
    (absent : sessions.find? id = none) :
    Account.updateSessions bus (item :: rest) sessionId sessions =
      let (updated, more) := Account.updateSessions bus rest id
        (sessions.insert id { (Session.new bus id).1 with isRunning := true })
      (updated, .call (sessionCall id) (bus.answer (sessionCall id)) :: more) := by
  rw [Account.updateSessions, getString_eq, named]
  simp [absent, new_eq]

theorem namedSessions_unnamed {item : JValue} {rest : List JValue} {id : String}
    (unnamed : getValue string item "sessionId" "" = (false, id)) :
    namedSessions (item :: rest) = namedSessions rest := by
  simp [namedSessions, unnamed]

theorem namedSessions_named {item : JValue} {rest : List JValue} {id : String}
    (named : getValue string item "sessionId" "" = (true, id)) :
    namedSessions (item :: rest) = id :: namedSessions rest := by
  simp [namedSessions, named]

/-- The update loop: a named session is kept or created, and marked as running. -/
theorem updateSessions_find? (bus : Bus) (items : List JValue) (sessionId : String)
    (sessions : OrderedMap String Session) (s : String) :
    (Account.updateSessions bus items sessionId sessions).1.find? s =
      if s ∈ namedSessions items then
        some { (sessions.find? s).getD (Session.new bus s).1 with isRunning := true }
      else sessions.find? s := by
  induction items generalizing sessionId sessions with
  | nil => simp [Account.updateSessions, namedSessions]
  | cons item rest ih =>
      rcases named : getValue string item "sessionId" "" with ⟨_ | _, id⟩
      · rw [updateSessions_unnamed bus named, namedSessions_unnamed named, ih]
      · rw [namedSessions_named named]
        have tail : ∀ session : Session, (sessions.find? id).getD (Session.new bus id).1 = session →
            (Account.updateSessions bus rest id
                (sessions.insert id { session with isRunning := true })).1.find? s =
              if s ∈ id :: namedSessions rest then
                some { (sessions.find? s).getD (Session.new bus s).1 with isRunning := true }
              else sessions.find? s := by
          intro session same
          rw [ih, OrderedMap.find?_insert]
          by_cases own : s = id
          · subst own
            simp [same]
          · simp [own]
        cases present : sessions.find? id with
        | some session =>
            rw [updateSessions_known bus named present]
            exact tail session (by simp [present])
        | none =>
            rw [updateSessions_new bus named present]
            exact tail (Session.new bus id).1 (by simp [present])

theorem mem_updateSessions (bus : Bus) (items : List JValue) (sessionId : String)
    (sessions : OrderedMap String Session) (effect : Effect) :
    effect ∈ (Account.updateSessions bus items sessionId sessions).2 ↔
      ∃ s ∈ namedSessions items, sessions.find? s = none ∧
        effect = .call (sessionCall s) (bus.answer (sessionCall s)) := by
  induction items generalizing sessionId sessions with
  | nil => simp [Account.updateSessions, namedSessions]
  | cons item rest ih =>
      rcases named : getValue string item "sessionId" "" with ⟨_ | _, id⟩
      · rw [updateSessions_unnamed bus named, namedSessions_unnamed named, ih]
      · rw [namedSessions_named named]
        simp only [List.mem_cons, exists_eq_or_imp]
        cases present : sessions.find? id with
        | some session =>
            rw [updateSessions_known bus named present, ih]
            simp only [reduceCtorEq, false_and, false_or, OrderedMap.find?_insert]
            refine exists_congr (fun s => and_congr_right (fun _ => and_congr_left (fun _ => ?_)))
            by_cases own : s = id
            · simp [own, present]
            · simp [own]
        | none =>
            rw [updateSessions_new bus named present]
            simp only [List.mem_cons, ih, OrderedMap.find?_insert, true_and]
            refine or_congr_right' (fun other => exists_congr (fun s => and_congr_right (fun _ => ?_)))
            by_cases own : s = id
            · subst own
              simp [other]
            · simp [own]

/-- The sessions after the mark loop. -/
def marked (sessions : OrderedMap String Session) : OrderedMap String Session :=
  sessions.mapValues (fun _ session => { session with isRunning := false })

/-- The sessions after the update loop. -/
def updated (bus : Bus) (sessions : OrderedMap String Session) (items : List JValue) :
    OrderedMap String Session :=
  (Account.updateSessions bus items "" (marked sessions)).1

/-- The sessions the sweep keeps. -/
def keptSessions (bus : Bus) (sessions : OrderedMap String Session) (items : List JValue) :
    OrderedMap String Session :=
  (updated bus sessions items).filter (fun _ session => session.isRunning)

/-- The sessions the sweep destroys. -/
def droppedSessions (bus : Bus) (sessions : OrderedMap String Session) (items : List JValue) :
    OrderedMap String Session :=
  (updated bus sessions items).filter (fun _ session => !session.isRunning)

theorem updated_find? (bus : Bus) (sessions : OrderedMap String Session) (items : List JValue)
    (s : String) :
    (updated bus sessions items).find? s =
      if s ∈ namedSessions items then
        some { (sessions.find? s).getD (Session.new bus s).1 with isRunning := true }
      else (sessions.find? s).map (fun session => { session with isRunning := false }) := by
  rw [updated, updateSessions_find?, marked, OrderedMap.find?_mapValues]
  split
  · cases sessions.find? s <;> rfl
  · rfl

/-- After the sweep the sessions are exactly the named ones. -/
theorem keptSessions_find? (bus : Bus) (sessions : OrderedMap String Session) (items : List JValue)
    (s : String) :
    (keptSessions bus sessions items).find? s =
      if s ∈ namedSessions items then
        some { (sessions.find? s).getD (Session.new bus s).1 with isRunning := true }
      else none := by
  rw [keptSessions, OrderedMap.find?_filter, updated_find?]
  split
  · rfl
  · cases sessions.find? s <;> rfl

theorem mem_droppedSessions (bus : Bus) (sessions : OrderedMap String Session) (items : List JValue)
    (session : Session) :
    session ∈ (droppedSessions bus sessions items).values ↔
      ∃ s old, s ∉ namedSessions items ∧ sessions.find? s = some old ∧
        session = { old with isRunning := false } := by
  simp only [OrderedMap.mem_values, droppedSessions, OrderedMap.find?_filter, updated_find?]
  refine exists_congr (fun s => ?_)
  by_cases named : s ∈ namedSessions items
  · simp only [named, if_true, not_true_eq_false, false_and, exists_false, iff_false,
      Option.filter_eq_some_iff, Option.some.injEq]
    rintro ⟨rfl, stopped⟩
    cases stopped
  · cases sessions.find? s with
    | none => simp [named]
    | some old => simp [named, Option.filter, eq_comm]

section Replies

variable {bus : Bus} {self : Account} {handlers : Handlers} {reply : Message} {items : List JValue}

/-- A successful reply with an array of sessions: mark, update and sweep. -/
theorem onGetSessions_of_array (success : getValue bool reply.payload "returnValue" false = (true, true))
    (array : getValue jvalue reply.payload "sessions" .null = (true, .array items)) :
    self.onGetSessions bus handlers reply =
      ({ self with sessions := keptSessions bus self.sessions items },
        (Session.destroyAll (droppedSessions bus self.sessions items).values handlers).1,
        (Account.updateSessions bus items "" (marked self.sessions)).2 ++
          (Session.destroyAll (droppedSessions bus self.sessions items).values handlers).2) := by
  rw [Account.onGetSessions, success, array]
  rfl

theorem onGetSessions_of_other
    (other : ∀ items, getValue bool reply.payload "returnValue" false = (true, true) →
      getValue jvalue reply.payload "sessions" .null ≠ (true, .array items)) :
    self.onGetSessions bus handlers reply = (self, handlers, []) := by
  unfold Account.onGetSessions
  rcases success : getValue bool reply.payload "returnValue" false with ⟨_ | _, _ | _⟩
  · rfl
  · rfl
  · rfl
  · rcases array : getValue jvalue reply.payload "sessions" .null with ⟨_ | _, sessions⟩
    · rfl
    · cases sessions with
      | array items => exact absurd array (other items success)
      | invalid | null | bool | number | string | object => rfl

end Replies

/-- The ways a `getSessions` reply ends. -/
inductive SyncOutcome (bus : Bus) (self : Account) (handlers : Handlers) (reply : Message) :
    Account → Handlers → List Effect → Prop where
  | ignored : SyncOutcome bus self handlers reply self handlers []
  | synced {items : List JValue}
      (success : getValue bool reply.payload "returnValue" false = (true, true))
      (array : getValue jvalue reply.payload "sessions" .null = (true, .array items)) :
      SyncOutcome bus self handlers reply
        { self with sessions := keptSessions bus self.sessions items }
        (Session.destroyAll (droppedSessions bus self.sessions items).values handlers).1
        ((Account.updateSessions bus items "" (marked self.sessions)).2 ++
          (Session.destroyAll (droppedSessions bus self.sessions items).values handlers).2)

theorem sync_outcome (bus : Bus) (self : Account) (handlers : Handlers) (reply : Message) :
    SyncOutcome bus self handlers reply
      (self.onGetSessions bus handlers reply).1
      (self.onGetSessions bus handlers reply).2.1
      (self.onGetSessions bus handlers reply).2.2 := by
  by_cases listed : ∃ items, getValue bool reply.payload "returnValue" false = (true, true) ∧
      getValue jvalue reply.payload "sessions" .null = (true, .array items)
  · obtain ⟨items, success, array⟩ := listed
    rw [onGetSessions_of_array success array]
    exact .synced success array
  · rw [onGetSessions_of_other (fun items success array => listed ⟨items, success, array⟩)]
    exact .ignored

/-- The ways a status notification to the `Account` ends. -/
inductive AccountOutcome (bus : Bus) (self : Account) (handlers : Handlers) (notice : Message) :
    Account → Handlers → List Effect → Prop where
  | ignored (status : clientStatus "" notice = none) :
      AccountOutcome bus self handlers notice self handlers []
  | up (status : clientStatus "" notice = some true) :
      AccountOutcome bus self handlers notice
        { self with
          isConnected := true
          getSessions := storeToken (bus.answer Account.getSessionsCall) 0
          sessions := ∅ }
        (Session.destroyAll self.sessions.values handlers).1
        (cancelOpen self.getSessions ++ (Session.destroyAll self.sessions.values handlers).2 ++
          [.call Account.getSessionsCall (bus.answer Account.getSessionsCall)])
  | down (status : clientStatus "" notice = some false) :
      AccountOutcome bus self handlers notice
        { self with isConnected := false, getSessions := 0, sessions := ∅ }
        (Session.destroyAll self.sessions.values handlers).1
        (cancelOpen self.getSessions ++ (Session.destroyAll self.sessions.values handlers).2)

theorem account_outcome (bus : Bus) (self : Account) (handlers : Handlers) (notice : Message) :
    AccountOutcome bus self handlers notice
      (self.onStatus bus handlers notice).1
      (self.onStatus bus handlers notice).2.1
      (self.onStatus bus handlers notice).2.2 := by
  unfold Account.onStatus
  cases status : clientStatus "" notice with
  | none => exact .ignored status
  | some connected =>
      cases connected with
      | false => exact .down status
      | true => exact .up status

/-! ## Open calls -/

theorem mem_receive {live : List LiveCall} {e : Event} {entry : LiveCall}
    (member : entry ∈ World.receive live e) : entry ∈ live := by
  cases e with
  | onLaunch reply => exact (List.mem_filter.mp member).1
  | _ => exact member

/-- Nothing but its own reply takes an open call off the list. -/
theorem mem_receive_of_live {live : List LiveCall} {e : Event} {entry : LiveCall} (member : entry ∈ live)
    (unanswered : ∀ reply, e = .onLaunch reply → entry.call.callback = .onLaunch →
      entry.token ≠ reply.responseToken) : entry ∈ World.receive live e := by
  cases e with
  | onLaunch reply =>
      refine List.mem_filter.mpr ⟨member, ?_⟩
      by_cases launch : entry.call.callback = .onLaunch
      · simp [unanswered reply rfl launch]
      · simp [launch]
  | _ => exact member

theorem mem_applyEffects {effects : List Effect} {live : List LiveCall} {entry : LiveCall}
    (member : entry ∈ effects.foldl World.applyEffect live) :
    (entry ∈ live ∧ .cancel entry.token ∉ effects) ∨ .call entry.call (some entry.token) ∈ effects := by
  induction effects generalizing live with
  | nil => exact .inl ⟨member, by simp⟩
  | cons effect rest ih =>
      rcases ih member with ⟨before, kept⟩ | new
      · cases effect with
        | call call answer =>
            cases answer with
            | none => exact .inl ⟨before, by simp [kept]⟩
            | some token =>
                rcases List.mem_append.mp before with before | same
                · exact .inl ⟨before, by simp [kept]⟩
                · rw [List.mem_singleton] at same
                  subst same
                  exact .inr List.mem_cons_self
        | cancel token =>
            obtain ⟨before, different⟩ := List.mem_filter.mp before
            exact .inl ⟨before, by simpa [kept] using different⟩
        | respond _ _ | post _ _ => exact .inl ⟨before, by simp [kept]⟩
      · exact .inr (List.mem_cons_of_mem _ new)

theorem mem_applyEffects_nil {effects : List Effect} {entry : LiveCall}
    (member : entry ∈ effects.foldl World.applyEffect []) :
    .call entry.call (some entry.token) ∈ effects := by
  rcases mem_applyEffects member with ⟨none, _⟩ | made
  · cases none
  · exact made

theorem mem_applyEffects_of_live {effects : List Effect} {live : List LiveCall} {entry : LiveCall}
    (member : entry ∈ live) (kept : .cancel entry.token ∉ effects) :
    entry ∈ effects.foldl World.applyEffect live := by
  induction effects generalizing live with
  | nil => exact member
  | cons effect rest ih =>
      have keptRest : .cancel entry.token ∉ rest := fun h => kept (List.mem_cons_of_mem _ h)
      refine ih ?_ keptRest
      cases effect with
      | call call answer =>
          cases answer with
          | none => exact member
          | some token => exact List.mem_append_left _ member
      | cancel token =>
          have different : entry.token ≠ token := fun same => kept (by simp [same])
          exact List.mem_filter.mpr ⟨member, by simpa using different⟩
      | respond _ _ | post _ _ => exact member

theorem mem_applyEffects_of_call {effects : List Effect} {live : List LiveCall} {call : LSCall}
    {token : UInt64} (member : .call call (some token) ∈ effects) (kept : .cancel token ∉ effects) :
    ⟨token, call⟩ ∈ effects.foldl World.applyEffect live := by
  induction effects generalizing live with
  | nil => cases member
  | cons effect rest ih =>
      have keptRest : .cancel token ∉ rest := fun later => kept (List.mem_cons_of_mem _ later)
      rcases List.mem_cons.mp member with rfl | member
      · rw [List.foldl_cons]
        exact mem_applyEffects_of_live (List.mem_append_right _ (List.mem_singleton_self _)) keptRest
      · exact ih member keptRest

end IntentService
