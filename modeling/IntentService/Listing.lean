import IntentService.Clients

/-! # Listing applications at once and one by one

`onListApps` registers the applications of a list in one loop, and each
application that is added later on its own. The loop declares the variable for
the filters outside, so an entry without any gets those of an entry before it.
-/

namespace IntentService.Listing

open JValueUtil

/-- A list of applications. -/
def listReply (sessionId : Option String) (apps : List JValue) : Message :=
  { payload := .object [("returnValue", .bool true), ("apps", .array apps)]
    sessionId := sessionId }

/-- The notice that one application was added. -/
def addedReply (sessionId : Option String) (app : JValue) : Message :=
  { payload := .object [("returnValue", .bool true), ("change", .string "added"), ("app", app)]
    sessionId := sessionId }

/-- The id of an entry, if it has one that is a string. -/
def entryId (app : JValue) : Option String :=
  match getValue string app "id" "" with
  | (true, id) => some id
  | (false, _) => none

/-- The filters of an entry itself, or those that the database lists for its id. -/
def givenFilters (database app : JValue) (id : String) : Option JValue :=
  match getValue jvalue app "intentFilters" .null with
  | (true, intentFilters) => some intentFilters
  | (false, _) =>
      match ConfFile.getIntentFilter database id .null with
      | (true, intentFilters) => some intentFilters
      | (false, _) => none

def entryFilters (database app : JValue) : Option JValue := (entryId app).bind (givenFilters database app)

/-- Filters that leave a handler with none. -/
def Blank (intentFilters : JValue) : Prop := intentFilters.isNull = true ∨ intentFilters = .emptyArray

/-- The last filters that a list of entries comes with. -/
def lastFilters (database : JValue) (intentFilters : JValue) (apps : List JValue) : JValue :=
  (apps.filterMap (entryFilters database)).getLast?.getD intentFilters

/-! ## One entry -/

/-- Register one entry; `intentFilters` is for an entry that has none. -/
def addEntry (database : JValue) (sessionId : String) (intentFilters : JValue) (handlers : Handlers)
    (app : JValue) : Handlers :=
  match entryId app with
  | none => handlers
  | some id =>
      (handlers.add (Sam.appHandler id sessionId ((givenFilters database app id).getD intentFilters))).2

theorem getJValue_eq (json : JValue) (key : String) (value : JValue) :
    getValue jvalue json key value =
      match json.member? key with
      | none => (false, value)
      | some found => (true, found) := by
  rw [getValue_eq]
  cases json.member? key <;> rfl

theorem getIntentFilter_cases (database : JValue) (id : String) :
    (∀ intentFilter, ConfFile.getIntentFilter database id intentFilter = (false, intentFilter)) ∨
      ∃ listed, ∀ intentFilter, ConfFile.getIntentFilter database id intentFilter = (true, listed) := by
  unfold ConfFile.getIntentFilter
  split
  · exact .inl fun _ => rfl
  · split
    · exact .inl fun _ => rfl
    · exact .inr ⟨_, fun _ => rfl⟩

theorem lookupFilters_eq (database app intentFilters : JValue) (id : String) :
    Sam.lookupFilters database (getValue jvalue app "intentFilters" intentFilters) id =
      (givenFilters database app id).getD intentFilters := by
  rw [givenFilters, getJValue_eq, getJValue_eq]
  cases app.member? "intentFilters" with
  | some own => rfl
  | none =>
      cases getIntentFilter_cases database id with
      | inl unlisted => simp [Sam.lookupFilters, unlisted]
      | inr found =>
          obtain ⟨listed, found⟩ := found
          simp [Sam.lookupFilters, found]

theorem addApps_id (database : JValue) (sessionId : String) (apps : List JValue) (id : String)
    (intentFilters : JValue) (handlers : Handlers) :
    Sam.addApps database sessionId apps id intentFilters handlers =
      Sam.addApps database sessionId apps "" intentFilters handlers := by
  induction apps generalizing id with
  | nil => rfl
  | cons app rest ih =>
      rw [Sam.addApps, Sam.addApps, getString_eq]
      rcases getValue string app "id" "" with ⟨_ | _, given⟩
      · exact (ih id).trans (ih given).symm
      · rfl

theorem addApps_cons (database : JValue) (sessionId : String) (app : JValue) (rest : List JValue)
    (intentFilters : JValue) (handlers : Handlers) :
    Sam.addApps database sessionId (app :: rest) "" intentFilters handlers =
      Sam.addApps database sessionId rest "" ((entryFilters database app).getD intentFilters)
        (addEntry database sessionId intentFilters handlers app) := by
  rw [Sam.addApps, entryFilters, addEntry, entryId]
  rcases getValue string app "id" "" with ⟨_ | _, given⟩
  · exact addApps_id database sessionId rest given intentFilters handlers
  · dsimp only [Option.bind_some]
    rw [addApps_id, lookupFilters_eq]

theorem onListApps_added (enableSession : Bool) (database : JValue) (handlers : Handlers)
    (sessionId : Option String) (app : JValue) :
    Sam.onListApps enableSession database handlers (addedReply sessionId app) =
      addEntry database (getSessionId enableSession (addedReply sessionId app)) .null handlers app := by
  cases app with
  | object members =>
      have accepted : ((addedReply sessionId (.object members)).isHubError ||
          !(getValue bool (addedReply sessionId (.object members)).payload "returnValue" false).2) =
            false := rfl
      have change : getValue string (addedReply sessionId (.object members)).payload "change" "" =
          (true, "added") := rfl
      have named : getValue₂ string (addedReply sessionId (.object members)).payload "app" "id" "" =
          getValue string (.object members) "id" "" := rfl
      have filters :
          getValue₂ jvalue (addedReply sessionId (.object members)).payload "app" "intentFilters" .null =
            getValue jvalue (.object members) "intentFilters" .null := rfl
      rw [addEntry, entryId, Sam.onListApps]
      simp only [accepted, change, named, filters, lookupFilters_eq]
      rcases getValue string (.object members) "id" "" with ⟨_ | _, given⟩ <;> rfl
  | invalid | null | bool | number | string | array => rfl

theorem onListApps_list (enableSession : Bool) (database : JValue) (handlers : Handlers)
    (sessionId : Option String) (apps : List JValue) :
    Sam.onListApps enableSession database handlers (listReply sessionId apps) =
      Sam.addApps database (getSessionId enableSession (listReply sessionId apps)) apps "" .null handlers :=
  rfl

/-! ## The whole list -/

/-- Register the entries one after the other. -/
def addEntries (database : JValue) (sessionId : String) (apps : List JValue) (handlers : Handlers) :
    Handlers :=
  apps.foldl (addEntry database sessionId .null) handlers

/-- The entry has an id that is not registered yet, and comes without filters. -/
structure Bare (database : JValue) (sessionId : String) (handlers : Handlers) (app : JValue)
    (id : String) : Prop where
  named : entryId app = some id
  nonempty : id ≠ ""
  absent : handlers.find? (Handler.convertKey sessionId id) = none
  bare : givenFilters database app id = none

/-- Wherever an entry that is registered comes without filters, so does the last
    entry before it that has any. -/
def NoNeighbour (database : JValue) (sessionId : String) (handlers : Handlers) (intentFilters : JValue)
    (apps : List JValue) : Prop :=
  ∀ front app rest id, apps = front ++ app :: rest → Bare database sessionId handlers app id →
    id ∉ appIds front → Blank (lastFilters database intentFilters front)

theorem appHandler_eq_iff {id sessionId : String} {intentFilters : JValue} :
    Sam.appHandler id sessionId intentFilters = Sam.appHandler id sessionId .null ↔ Blank intentFilters := by
  cases intentFilters <;>
    simp [Sam.appHandler, Handler.setIntentFilters, Blank, JValue.isNull, JValue.isValid, JValue.emptyArray]

theorem find?_add_appHandler {handlers : Handlers} {id sessionId : String} (nonempty : id ≠ "")
    (absent : handlers.find? (Handler.convertKey sessionId id) = none) (intentFilters : JValue) :
    (handlers.add (Sam.appHandler id sessionId intentFilters)).2.find? (Handler.convertKey sessionId id) =
      some (Sam.appHandler id sessionId intentFilters) := by
  obtain ⟨key, _, named⟩ := appHandler_fields id sessionId intentFilters
  rw [find?_add, if_pos ⟨key.symm, named.mpr nonempty, absent⟩]

theorem add_appHandler_of_not {handlers : Handlers} {id sessionId : String}
    (refused : ¬ (id ≠ "" ∧ handlers.find? (Handler.convertKey sessionId id) = none))
    (intentFilters : JValue) :
    (handlers.add (Sam.appHandler id sessionId intentFilters)).2 = handlers := by
  obtain ⟨key, _, named⟩ := appHandler_fields id sessionId intentFilters
  apply OrderedMap.ext
  intro k
  rw [find?_add, if_neg]
  intro added
  obtain ⟨same, some, absent⟩ := added
  exact refused ⟨named.mp some, by rw [← key, ← same, absent]⟩

theorem find?_addEntry_of_bare {database app : JValue} {sessionId id : String} {handlers : Handlers}
    (bare : Bare database sessionId handlers app id) (intentFilters : JValue) :
    (addEntry database sessionId intentFilters handlers app).find? (Handler.convertKey sessionId id) =
      some (Sam.appHandler id sessionId intentFilters) := by
  rw [addEntry, bare.named]
  dsimp only
  rw [bare.bare, Option.getD_none, find?_add_appHandler bare.nonempty bare.absent]

/-- One entry is registered alike exactly if it does not need the variable, or
    the variable holds no filters. -/
theorem addEntry_eq_iff {database : JValue} {sessionId : String} {intentFilters : JValue}
    {handlers : Handlers} {app : JValue} :
    addEntry database sessionId intentFilters handlers app = addEntry database sessionId .null handlers app ↔
      ∀ id, Bare database sessionId handlers app id → Blank intentFilters := by
  constructor
  · intro same id bare
    have stored := congrArg (OrderedMap.find? · (Handler.convertKey sessionId id)) same
    simp only [find?_addEntry_of_bare bare, Option.some.injEq] at stored
    exact appHandler_eq_iff.mp stored
  · intro blank
    unfold addEntry
    cases named : entryId app with
    | none => rfl
    | some id =>
        dsimp only
        cases given : givenFilters database app id with
        | some own => rfl
        | none =>
            rw [Option.getD_none, Option.getD_none]
            by_cases new : id ≠ "" ∧ handlers.find? (Handler.convertKey sessionId id) = none
            · rw [appHandler_eq_iff.mpr (blank id ⟨named, new.1, new.2, given⟩)]
            · rw [add_appHandler_of_not new, add_appHandler_of_not new]

theorem convertKey_injective {sessionId name name' : String}
    (same : Handler.convertKey sessionId name = Handler.convertKey sessionId name') : name = name' := by
  unfold Handler.convertKey at same
  exact (String.append_right_inj _).mp ((String.append_right_inj _).mp same)

theorem appIds_cons (app : JValue) (rest : List JValue) :
    appIds (app :: rest) = (entryId app).toList ++ appIds rest := by
  unfold appIds entryId
  rw [List.filterMap_cons]
  rcases getValue string app "id" "" with ⟨_ | _, id⟩ <;> rfl

theorem addEntry_registers (database : JValue) (sessionId : String) (intentFilters : JValue)
    (handlers : Handlers) (app : JValue) :
    Registers sessionId (entryId app).toList handlers
        (addEntry database sessionId intentFilters handlers app) := by
  unfold addEntry
  cases entryId app with
  | none => exact .nil sessionId handlers
  | some id => exact .single sessionId id _ handlers

theorem addEntries_registers (database : JValue) (sessionId : String) (apps : List JValue)
    (handlers : Handlers) :
    Registers sessionId (appIds apps) handlers (addEntries database sessionId apps handlers) := by
  induction apps generalizing handlers with
  | nil => exact .nil sessionId handlers
  | cons app rest ih =>
      rw [appIds_cons]
      exact (addEntry_registers database sessionId .null handlers app).append (ih _)

theorem lastFilters_cons (database : JValue) (intentFilters : JValue) (app : JValue) (front : List JValue) :
    lastFilters database intentFilters (app :: front) =
      lastFilters database ((entryFilters database app).getD intentFilters) front := by
  unfold lastFilters
  rw [List.filterMap_cons]
  cases entryFilters database app with
  | none => rfl
  | some own =>
      rw [List.getLast?_cons]
      rfl

theorem absent_addEntry_iff {database app : JValue} {sessionId id : String} {handlers : Handlers}
    (nonempty : id ≠ "") (intentFilters : JValue) :
    (addEntry database sessionId intentFilters handlers app).find? (Handler.convertKey sessionId id) = none ↔
      handlers.find? (Handler.convertKey sessionId id) = none ∧ id ∉ (entryId app).toList := by
  have registers := addEntry_registers database sessionId intentFilters handlers app
  constructor
  · intro absent
    refine ⟨?_, fun own => ?_⟩
    · rw [Option.eq_none_iff_forall_ne_some]
      intro handler stored
      cases absent.symm.trans (registers.kept _ _ stored)
    · obtain ⟨handler, stored⟩ := registers.all id own nonempty
      cases absent.symm.trans stored
  · intro absent
    rw [Option.eq_none_iff_forall_ne_some]
    intro handler stored
    cases registers.new _ _ stored with
    | inl old => cases absent.1.symm.trans old
    | inr new =>
        obtain ⟨_, _, other, own, _, key⟩ := new
        cases convertKey_injective key
        exact absent.2 own

theorem noNeighbour_cons {database app : JValue} {sessionId : String} {handlers : Handlers}
    {intentFilters : JValue} {rest : List JValue} :
    NoNeighbour database sessionId handlers intentFilters (app :: rest) ↔
      (∀ id, Bare database sessionId handlers app id → Blank intentFilters) ∧
        NoNeighbour database sessionId (addEntry database sessionId .null handlers app)
          ((entryFilters database app).getD intentFilters) rest := by
  constructor
  · intro clean
    refine ⟨fun id bare => clean [] app rest id rfl bare (by simp [appIds]), ?_⟩
    intro front later behind id split bare fresh
    obtain ⟨absent, other⟩ := (absent_addEntry_iff bare.nonempty _).mp bare.absent
    rw [← lastFilters_cons]
    refine clean (app :: front) later behind id (by rw [split, List.cons_append])
      { bare with absent := absent } ?_
    rw [appIds_cons, List.mem_append]
    exact not_or.mpr ⟨other, fresh⟩
  · intro clean front later behind id split bare fresh
    cases front with
    | nil =>
        cases split
        exact clean.1 id bare
    | cons head front =>
        cases split
        rw [appIds_cons, List.mem_append] at fresh
        obtain ⟨other, fresh⟩ := not_or.mp fresh
        rw [lastFilters_cons]
        exact clean.2 front later behind id rfl
          { bare with absent := (absent_addEntry_iff bare.nonempty _).mpr ⟨bare.absent, other⟩ } fresh

/-- The two ways part at the first entry that is registered differently. -/
theorem addApps_eq_iff {database : JValue} {sessionId : String} {apps : List JValue} {intentFilters : JValue}
    {handlers : Handlers} :
    Sam.addApps database sessionId apps "" intentFilters handlers =
      addEntries database sessionId apps handlers ↔
      NoNeighbour database sessionId handlers intentFilters apps := by
  induction apps generalizing intentFilters handlers with
  | nil =>
      refine iff_of_true rfl ?_
      intro front app rest id split
      simp at split
  | cons app rest ih =>
      rw [addApps_cons, noNeighbour_cons, ← addEntry_eq_iff]
      have entries : addEntries database sessionId (app :: rest) handlers =
          addEntries database sessionId rest (addEntry database sessionId .null handlers app) := rfl
      rw [entries]
      by_cases same : addEntry database sessionId intentFilters handlers app =
          addEntry database sessionId .null handlers app
      · rw [same, ih]
        exact (and_iff_right rfl).symm
      · refine iff_of_false (fun whole => ?_) (fun both => same both.1)
        -- what is registered stays registered, so the difference stays as well
        refine same (addEntry_eq_iff.mpr fun id bare => ?_)
        have bulk := (addApps_registers database sessionId rest ""
          ((entryFilters database app).getD intentFilters)
          _).kept _ _ (find?_addEntry_of_bare bare intentFilters)
        have single := (addEntries_registers database sessionId rest _).kept _ _
          (find?_addEntry_of_bare bare .null)
        rw [whole] at bulk
        exact appHandler_eq_iff.mp (Option.some.inj (bulk.symm.trans single))

/-- Registering a list at once and entry by entry leaves the same store exactly
    if no entry that is registered gets filters of an entry before it. -/
theorem list_agrees_iff (enableSession : Bool) (database : JValue) (handlers : Handlers)
    (sessionId : Option String) (apps : List JValue) :
    Sam.onListApps enableSession database handlers (listReply sessionId apps) =
        apps.foldl (fun handlers app => Sam.onListApps enableSession database handlers
          (addedReply sessionId app))
          handlers ↔
      NoNeighbour database (getSessionId enableSession (listReply sessionId apps)) handlers .null apps := by
  simp only [onListApps_list, onListApps_added]
  exact addApps_eq_iff

/-- The second application has no filters, and gets those of the first. -/
theorem neighbour_filters :
    let apps := [.object [("id", .string "browser"), ("intentFilters", .array [.object []])],
      .object [("id", .string "clock")]]
    Sam.onListApps false .emptyObject ∅ (listReply none apps) ≠
      apps.foldl
        (fun handlers app => Sam.onListApps false .emptyObject handlers (addedReply none app)) ∅ := by
  intro apps same
  have stored := congrArg (fun handlers : Handlers => (handlers.find? "host_clock").map Handler.intentFilters)
    same
  exact absurd stored (by decide)

end IntentService.Listing
