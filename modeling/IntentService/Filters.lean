import IntentService.Applications
import IntentService.Isolation
import IntentService.Lookup
import IntentService.Matching

/-! # The filters of an application

Which filters a stored handler has is decided when it is registered: they are
those of its entry, of the database, or of an entry before it in the same list.
With that the whole store is a function of the past, and so is what an intent
without a name is shown and launches.
-/

namespace IntentService.Filters

open History Registry Listing Merging Presence Applications JValueUtil IntentManager

/-! ## The entries of a reply -/

/-- The applications that a reply adds, as it writes them. -/
def addedApps (reply : Message) : List JValue :=
  if reply.isHubError || !(getValue bool reply.payload "returnValue" false).2 then []
  else
    match getValue string reply.payload "change" "" with
    | (true, change) => if change = "added" then [reply.payload.get "app"] else []
    | (false, _) =>
        match getValue jvalue reply.payload "apps" .null with
        | (true, apps) => if apps.isArray then apps.items else []
        | (false, _) => []

/-- The list has an application, and the first entry of it comes with the filters:
    its own, those of the database, or those of the last entry before it that has any. -/
def Gives (database : JValue) (apps : List JValue) (carried : JValue) (name : String)
    (intentFilters : JValue) :
    Prop :=
  ∃ front app rest, apps = front ++ app :: rest ∧ entryId app = some name ∧ name ∉ appIds front ∧
    intentFilters = (givenFilters database app name).getD (lastFilters database carried front)

theorem not_gives_nil {database carried : JValue} {name : String} {intentFilters : JValue} :
    ¬ Gives database [] carried name intentFilters := by
  rintro ⟨front, app, rest, split, _⟩
  simp at split

theorem gives_cons {database app carried : JValue} {rest : List JValue} {name : String}
    {intentFilters : JValue} :
    Gives database (app :: rest) carried name intentFilters ↔
      if entryId app = some name then intentFilters = (givenFilters database app name).getD carried
      else Gives database rest ((entryFilters database app).getD carried) name intentFilters := by
  constructor
  · rintro ⟨front, first, behind, split, own, fresh, rfl⟩
    cases front with
    | nil =>
        cases split
        rw [if_pos own]
        rfl
    | cons head front =>
        cases split
        rw [appIds_cons, List.mem_append, Option.mem_toList] at fresh
        obtain ⟨other, fresh⟩ := not_or.mp fresh
        rw [if_neg other, lastFilters_cons]
        exact ⟨front, first, behind, rfl, own, fresh, rfl⟩
  · intro given
    by_cases own : entryId app = some name
    · rw [if_pos own] at given
      exact ⟨[], app, rest, rfl, own, by simp [appIds], given⟩
    · rw [if_neg own] at given
      obtain ⟨front, first, behind, rfl, named, fresh, rfl⟩ := given
      refine ⟨app :: front, first, behind, rfl, named, ?_, ?_⟩
      · rw [appIds_cons, List.mem_append, Option.mem_toList]
        exact not_or.mpr ⟨own, fresh⟩
      · rw [lastFilters_cons]

theorem find?_addEntry (database app carried : JValue) (sessionId name : String) (handlers : Handlers) :
    (addEntry database sessionId carried handlers app).find? (Handler.convertKey sessionId name) =
      if entryId app = some name ∧ name ≠ "" ∧ handlers.find? (Handler.convertKey sessionId name) = none then
        some (Sam.appHandler name sessionId ((givenFilters database app name).getD carried))
      else handlers.find? (Handler.convertKey sessionId name) := by
  unfold addEntry
  cases entryId app with
  | none => simp
  | some id =>
      obtain ⟨key, _, named⟩ := appHandler_fields id sessionId ((givenFilters database app id).getD carried)
      dsimp only
      simp only [find?_add, key, named]
      by_cases own : id = name
      · simp [own]
      · have other : Handler.convertKey sessionId name ≠ Handler.convertKey sessionId id :=
          fun same => own (convertKey_injective same).symm
        simp [own, other]

/-- The loop keeps what is there, and adds the first entry of each application that is not. -/
theorem find?_addApps (database : JValue) (sessionId name : String) (apps : List JValue) (carried : JValue)
    (handlers : Handlers) (h : Handler) :
    (Sam.addApps database sessionId apps "" carried handlers).find? (Handler.convertKey sessionId name) =
        some h ↔
      handlers.find? (Handler.convertKey sessionId name) = some h ∨
        handlers.find? (Handler.convertKey sessionId name) = none ∧ name ≠ "" ∧
          ∃ intentFilters, Gives database apps carried name intentFilters ∧
            h = Sam.appHandler name sessionId intentFilters := by
  induction apps generalizing carried handlers with
  | nil => simp [Sam.addApps, not_gives_nil]
  | cons app rest ih =>
      rw [addApps_cons, ih, find?_addEntry]
      cases stored : handlers.find? (Handler.convertKey sessionId name) with
      | some old => simp
      | none =>
          by_cases own : entryId app = some name
          · by_cases empty : name = ""
            · simp [empty]
            · simp [gives_cons, own, empty, eq_comm]
          · simp [gives_cons, own]

theorem getValue₂_get {α : Type} (output : Output α) (json : JValue) (mainKey subKey : String) (value : α) :
    getValue₂ output json mainKey subKey value = getValue output (json.get mainKey) subKey value := by
  rw [Lookup.getValue₂_eq, getValue_eq, JValue.get]
  cases json.member? mainKey <;> rfl

theorem onListApps_eq_addApps (enableSession : Bool) (database : JValue) (handlers : Handlers)
    {reply : Message} (kept : removal reply = none) :
    Sam.onListApps enableSession database handlers reply =
      Sam.addApps database (getSessionId enableSession reply) (addedApps reply) "" .null handlers := by
  unfold removal at kept
  unfold Sam.onListApps addedApps
  dsimp only
  split
  next => rfl
  next succeeded =>
    rw [if_neg succeeded] at kept
    rcases kind : getValue string reply.payload "change" "" with ⟨_ | _, change⟩
    · rcases list : getValue jvalue reply.payload "apps" .null with ⟨_ | _, apps⟩
      · rfl
      · dsimp only
        split <;> rfl
    · simp only [kind, getValue₂_get] at kept ⊢
      rcases app : getValue string (reply.payload.get "app") "id" "" with ⟨_ | _, id⟩
      · by_cases added : change = "added" <;> simp [added, addApps_cons, addEntry, entryId, app, Sam.addApps]
      · simp only [app] at kept
        by_cases added : change = "added"
        · simp [added, addApps_cons, addEntry, entryId, app, Sam.addApps, lookupFilters_eq]
        · have stays : change ≠ "removed" := fun removed => by simp [removed] at kept
          simp [added, stays, Sam.addApps]

/-! ## One reply -/

/-- The reply comes with the handler. -/
def Makes (enableSession : Bool) (database : JValue) (reply : Message) (h : Handler) : Prop :=
  h.name ≠ "" ∧ ∃ intentFilters, Gives database (addedApps reply) .null h.name intentFilters ∧
    h = Sam.appHandler h.name (getSessionId enableSession reply) intentFilters

theorem addedApps_of_removal {reply : Message} {id : String} (removed : removal reply = some id) :
    addedApps reply = [] := by
  unfold removal at removed
  unfold addedApps
  split
  next => rfl
  next succeeded =>
    rw [if_neg succeeded] at removed
    rcases kind : getValue string reply.payload "change" "" with ⟨_ | _, change⟩
    · simp [kind] at removed
    · by_cases added : change = "added"
      · simp only [kind, added] at removed
        split at removed <;> simp_all
      · simp [added]

theorem Makes.sessionId_eq {enableSession : Bool} {database : JValue} {reply : Message} {h : Handler}
    (makes : Makes enableSession database reply h) : h.sessionId = getSessionId enableSession reply := by
  obtain ⟨_, intentFilters, _, same⟩ := makes
  rw [same]
  exact (appHandler_fields _ _ _).2.1

/-- What is stored after a reply was made by it at a free key, or was stored before and not taken away. -/
theorem stored_onListApps (enableSession : Bool) (database : JValue) (handlers : Handlers) (reply : Message)
    (h : Handler) :
    (Sam.onListApps enableSession database handlers reply).find? h.getKey = some h ↔
      (handlers.find? h.getKey = none ∧ Makes enableSession database reply h) ∨
        handlers.find? h.getKey = some h ∧ ¬ Removes enableSession reply h.getKey := by
  cases removed : removal reply with
  | some id =>
      have nothing : ¬ Makes enableSession database reply h := by
        rintro ⟨_, _, given, _⟩
        rw [addedApps_of_removal removed] at given
        exact not_gives_nil given
      rw [onListApps_eq_apply]
      simp only [patch, removed, Patch.apply, OrderedMap.find?_erase, nothing, and_false, false_or, Removes,
        Option.some.injEq, exists_eq_left']
      by_cases own : h.getKey = Handler.convertKey (getSessionId enableSession reply) id
      · simp [own]
      · simp [own, Ne.symm own]
  | none =>
      have stays : ¬ Removes enableSession reply h.getKey := by simp [Removes, removed]
      rw [onListApps_eq_addApps enableSession database handlers removed]
      by_cases own : h.sessionId = getSessionId enableSession reply
      · rw [Handler.getKey, own, find?_addApps, Makes]
        simp only [Handler.getKey, own] at stays
        simp only [stays, not_false_eq_true, and_true]
        exact or_comm
      · have registers := addApps_registers database (getSessionId enableSession reply)
          (addedApps reply) "" .null
          handlers
        have other : ¬ Makes enableSession database reply h := fun makes => own makes.sessionId_eq
        simp only [other, and_false, false_or, stays, not_false_eq_true, and_true]
        constructor
        · intro found
          cases registers.new _ _ found with
          | inl old => exact old
          | inr new => exact absurd new.2.1 own
        · exact registers.kept _ _

/-! ## One event -/

/-- A reply comes with the handler while nothing stands under its key. -/
def Made (enableSession : Bool) (self : Service) (h : Handler) (e : Event) : Prop :=
  ∃ reply, e = .onListApps reply ∧ self.handlers.find? h.getKey = none ∧
    Makes enableSession self.database reply h

theorem stored_step (enableSession : Bool) (self : Service) (e : Event)
    (own : SessionsKeyed self.account.sessions) (h : Handler) :
    (self.dispatch enableSession e).1.handlers.find? h.getKey = some h ↔
      Made enableSession self h e ∨ self.handlers.find? h.getKey = some h ∧
        ¬ (Unregistered enableSession h.sessionId h.name e ∨ Gone self.account h.sessionId e) := by
  by_cases lists : ∃ reply, e = .onListApps reply
  · obtain ⟨reply, rfl⟩ := lists
    have gone : ¬ Gone self.account h.sessionId (.onListApps reply) := by simp [Gone, Ended, Reported]
    refine (stored_onListApps enableSession self.database self.handlers reply h).trans ?_
    simp [Made, Unregistered, gone, Handler.getKey]
  · have unlisted : ∀ reply, e ≠ .onListApps reply := fun reply same => lists ⟨reply, same⟩
    rw [left_of_event enableSession self unlisted own]
    simp [Made, Unregistered, unlisted]

/-! ## Along a run -/

variable (setup : Setup)

theorem service_database (history : List Event) : (setup.service history).database = setup.database := by
  induction history using List.reverseRecOn with
  | nil => rfl
  | append_singleton history e ih => rw [Setup.service_snoc, Isolation.dispatch_database, ih]

/-- The handler was made, and its application has not been cleared since. -/
def MadeSince (h : Handler) (history : List Event) : Prop :=
  Since (fun pre e => Made setup.enableSession (setup.service pre) h e)
    (Cleared setup h.sessionId h.name) history

theorem mem_values_iff {handlers : Handlers} (keyed : Keyed handlers) {h : Handler} :
    h ∈ handlers.values ↔ handlers.find? h.getKey = some h := by
  rw [OrderedMap.mem_values]
  constructor
  · rintro ⟨key, found⟩
    rwa [(keyed key h found).1]
  · exact fun found => ⟨_, found⟩

theorem stored_snoc (h : Handler) (history : List Event) (e : Event) :
    (setup.service (history ++ [e])).handlers.find? h.getKey = some h ↔
      Made setup.enableSession (setup.service history) h e ∨
        (setup.service history).handlers.find? h.getKey = some h ∧
        ¬ Cleared setup h.sessionId h.name history e := by
  rw [Setup.service_snoc, Cleared, ← gone_iff]
  exact stored_step setup.enableSession _ e (sessionsKeyed setup history) h

theorem stored_since (h : Handler) (history : List Event) :
    h ∈ (setup.service history).handlers.values ↔ MadeSince setup h history := by
  have table := since_iff (fun history => (setup.service history).handlers.find? h.getKey = some h)
    (stored_snoc setup h) history
  have initially : (setup.service []).handlers.find? h.getKey ≠ some h := by
    intro found
    cases found
  rwa [or_iff_right (fun start => initially start.1), ← mem_values_iff (handlersKeyed setup history)] at table

/-! ## Intents without a name -/

/-- One of the filters takes the intent. -/
def Answers (h : Handler) (intent : Intent) : Prop :=
  ∃ f ∈ h.intentFilters.items, Matching.Meets f intent ∨ Matching.Stray f intent

theorem isMatched_implicit {self : Service} {json : JValue} {intent : Intent}
    (parsed : self.freshIntent.fromJson json = (true, intent)) (valid : intent.isValid = true)
    (implicit : intent.hasName = false) (h : Handler) : h.isMatched intent = true ↔ Answers h intent := by
  have action : intent.hasAction = true := by
    simp_all [Intent.isValid, Intent.hasName, Intent.hasAction]
  have sessionless : intent.hasSessionId = false := by
    simp [Intent.hasSessionId, (Encoding.Decoded.of_parsed parsed).sessionId]
  simp [Handler.isMatched, sessionless, implicit, Answers, Matching.compareIntentFilter_meets action]

/-- A query with such an intent is answered with exactly the handlers of its session that the past
    made and that take the intent, in key order. -/
theorem implicit_query_lists {history : List Event} {request : Message} {intent : Intent}
    (asks : request.payload.hasKey "intent" = true)
    (parsed : (setup.service history).freshIntent.fromJson (request.payload.get "intent") = (true, intent))
    (valid : intent.isValid = true) (implicit : intent.hasName = false) :
    ∃ listed : List Handler,
      setup.effects history (.query request) = [done request (JValue.emptyObject.put "handlers"
        (.array (listed.map (fun h => h.toJson .emptyObject)))) ""] ∧
      (listed.map Handler.getKey).Pairwise (· < ·) ∧
      ∀ h, h ∈ listed ↔
        (requestSession setup.enableSession request = "" ∨
          h.sessionId = requestSession setup.enableSession request) ∧
          MadeSince setup h history ∧ Answers h intent := by
  let asked := intent.setSessionId (requestSession setup.enableSession request)
  refine ⟨(setup.service history).handlers.values.filter (fun h => h.isMatched asked),
    Choice.query_handlers asks parsed valid, ?_, fun h => ?_⟩
  · have sorted := OrderedMap.map_values_sorted
      (fun key h found => (handlersKeyed setup history key h found).1)
    exact sorted.sublist (List.filter_sublist.map Handler.getKey)
  · have ofSession := Choice.isMatched_setSessionId (Encoding.Decoded.of_parsed parsed).sessionId
      (requestSession setup.enableSession request) h
    rw [List.mem_filter, ofSession, Bool.and_eq_true, isMatched_implicit parsed valid implicit, stored_since]
    simp only [Bool.or_eq_true, String.isEmpty_iff, beq_iff_eq]
    exact and_left_comm

private def shareFilters : JValue := .array [.object [("actions", .array [.string "share"])]]

/-- Session `b` gets an application that takes what is shared. -/
private def sharers : List Event :=
  Sample.twoSessions ++
    [.onListApps
      (addedReply (some "b") (.object [("id", .string "sharer"), ("intentFilters", shareFilters)]))]

/-- A client of session `b` shares something. -/
private def sharing : Message :=
  { payload := .object [("intent", .object [("action", .string "share")])], sessionId := some "b" }

private def sharedIntent : Intent :=
  ((viewers.service sharers).freshIntent.fromJson (sharing.payload.get "intent")).2

theorem shared_listed :
    ∃ listed : List Handler,
      viewers.effects sharers (.query sharing) = [done sharing (JValue.emptyObject.put "handlers"
        (.array (listed.map (fun h => h.toJson .emptyObject)))) ""] ∧
      (listed.map Handler.getKey).Pairwise (· < ·) ∧
      ∀ h, h ∈ listed ↔ ("b" = "" ∨ h.sessionId = "b") ∧ MadeSince viewers h sharers ∧
          Answers h sharedIntent :=
  implicit_query_lists viewers rfl rfl rfl rfl

/-- Of the handlers that the past made and that take the intent, the first in key order. -/
structure Chosen (intent : Intent) (history : List Event) (h : Handler) : Prop where
  made : MadeSince setup h history
  answers : Answers h intent
  first : ∀ other, MadeSince setup other history → Answers other intent → h.getKey ≤ other.getKey

section Requests

variable {setup} {history : List Event} {request : Message} {intent : Intent}
  (parsed : (setup.service history).freshIntent.fromJson (request.payload.get "intent") = (true, intent))
  (valid : intent.isValid = true) (implicit : intent.hasName = false)
include parsed valid implicit

theorem getHandler_iff (h : Handler) :
    (setup.service history).handlers.getHandler intent = some h ↔ Chosen setup intent history h := by
  have keyed := handlersKeyed setup history
  rw [Handlers.getHandler_eq_some]
  constructor
  · rintro ⟨key, found, matched, first⟩
    obtain rfl := (keyed key h found).1
    refine ⟨(stored_since setup h history).mp ((mem_values_iff keyed).mpr found),
      (isMatched_implicit parsed valid implicit h).mp matched, fun other made answers => ?_⟩
    have stored := (mem_values_iff keyed).mp ((stored_since setup other history).mpr made)
    by_contra earlier
    have rejected := first _ other stored (not_le.mp earlier)
    rw [(isMatched_implicit parsed valid implicit other).mpr answers] at rejected
    cases rejected
  · intro chosen
    refine ⟨h.getKey, (mem_values_iff keyed).mp ((stored_since setup h history).mpr chosen.made),
      (isMatched_implicit parsed valid implicit h).mpr chosen.answers, fun earlier other found before => ?_⟩
    obtain rfl := (keyed earlier other found).1
    rw [Bool.eq_false_iff]
    intro matched
    have made := (stored_since setup other history).mp ((mem_values_iff keyed).mpr found)
    exact not_le.mpr before (chosen.first other made
      ((isMatched_implicit parsed valid implicit other).mp matched))

/-- A start with such an intent launches the first handler of all sessions that the past made and
    that takes it, in the session of the request, and nothing if there is none or the session is not there. -/
theorem implicit_start_launches (bus : Bus) (call : LSCall) (answer : Option UInt64) :
    (.call call answer ∈ setup.effects history (.start request bus) ∧ call.callback = .onLaunch) ↔
      Present setup (requestSession setup.enableSession request) history ∧
        ∃ h, Chosen setup intent history h ∧
          call = Sam.launchCall setup.enableSession
            { sessionId := requestSession setup.enableSession request }
            intent h ∧
          answer = bus.answer call := by
  have sent {session : Session}
      (found : (setup.service history).account.sessions.find? (requestSession setup.enableSession request) =
        some session) (h : Handler) :
      session.sam.launchCall setup.enableSession intent h =
        Sam.launchCall setup.enableSession { sessionId := requestSession setup.enableSession request }
          intent h := by
    simp only [Sam.launchCall, Sam.callSession, (sessionsKeyed setup history _ _ found).2]
  rw [launch_iff, ← present_iff, OrderedMap.contains_iff]
  constructor
  · rintro ⟨_, _, session, _, h, same, target, rfl, answered⟩
    cases same
    obtain ⟨found, parsed', _, picked⟩ := startTarget_eq_ok.mp target
    cases parsed.symm.trans parsed'
    exact ⟨⟨session, found⟩, h, (getHandler_iff parsed valid implicit h).mp picked, sent found h, answered⟩
  · rintro ⟨⟨session, found⟩, h, chosen, rfl, answered⟩
    have picked := (getHandler_iff parsed valid implicit h).mpr chosen
    exact ⟨request, bus, session, intent, h, rfl, startTarget_eq_ok.mpr ⟨found, parsed, valid, picked⟩,
      (sent found h).symm, answered⟩

end Requests

theorem shared_launched :
    let bus := Sample.bus 10 20 Sample.first_tokens
    let call := Sam.launchCall true { sessionId := "b" } sharedIntent
      (Sam.appHandler "sharer" "b" shareFilters)
    (.call call (bus.answer call) ∈ viewers.effects sharers (.start sharing bus) ∧
        call.callback = .onLaunch) ↔
      Present viewers "b" sharers ∧
        ∃ h, Chosen viewers sharedIntent sharers h ∧
          call = Sam.launchCall true { sessionId := "b" } sharedIntent h ∧
              bus.answer call = bus.answer call :=
  implicit_start_launches rfl rfl rfl _ _ _

end IntentService.Filters
