import IntentService.Library.Patch
import IntentService.Listing
import IntentService.Registry

/-! # The order of app lists

A `listApps` reply is a patch of the handlers: it fills in the applications that
are not there, or drops one. So replies of different sessions can come in any order unless two of
their names make one key.
-/

namespace IntentService.Merging

open JValueUtil Registry Listing

theorem add_eq_union (handlers : Handlers) (handler : Handler) :
    (handlers.add handler).2 = handlers.union (Handlers.add ∅ handler).2 := by
  apply OrderedMap.ext
  intro key
  rw [OrderedMap.find?_union, find?_add, find?_add]
  cases handlers.find? key <;> simp

theorem addEntry_eq_union (database : JValue) (sessionId : String) (intentFilters : JValue)
    (handlers : Handlers) (app : JValue) :
    addEntry database sessionId intentFilters handlers app =
      handlers.union (addEntry database sessionId intentFilters ∅ app) := by
  unfold addEntry
  cases entryId app with
  | none => exact (OrderedMap.union_empty handlers).symm
  | some id => exact add_eq_union handlers _

/-- A list fills in the table that it makes of an empty store. -/
theorem addApps_eq_union (database : JValue) (sessionId : String) (apps : List JValue)
    (intentFilters : JValue) (handlers : Handlers) :
    Sam.addApps database sessionId apps "" intentFilters handlers =
      handlers.union (Sam.addApps database sessionId apps "" intentFilters ∅) := by
  induction apps generalizing intentFilters handlers with
  | nil => exact (OrderedMap.union_empty handlers).symm
  | cons app rest ih =>
      rw [addApps_cons, addApps_cons, ih, addEntry_eq_union, OrderedMap.union_assoc, ← ih]

/-- The application that a reply takes away. -/
def removal (reply : Message) : Option String :=
  if reply.isHubError || !(getValue bool reply.payload "returnValue" false).2 then none
  else
    match getValue string reply.payload "change" "", getValue₂ string reply.payload "app" "id" "" with
    | (true, change), (true, id) => if change ≠ "added" ∧ change = "removed" then some id else none
    | (true, _), (false, _) | (false, _), _ => none

variable (enableSession : Bool) (database : JValue)

/-- The patch that a reply is. -/
def patch (reply : Message) : Patch String Handler :=
  match removal reply with
  | some id => .drop (Handler.convertKey (getSessionId enableSession reply) id)
  | none => .fill (Sam.onListApps enableSession database ∅ reply)

theorem onListApps_eq_apply (handlers : Handlers) (reply : Message) :
    Sam.onListApps enableSession database handlers reply =
        (patch enableSession database reply).apply handlers := by
  have unchanged : handlers = handlers.union ∅ := (OrderedMap.union_empty handlers).symm
  unfold patch removal Sam.onListApps
  dsimp only
  split
  next failed => exact unchanged
  next succeeded =>
    rcases kind : getValue string reply.payload "change" "" with ⟨_ | _, change⟩
    · rcases list : getValue jvalue reply.payload "apps" .null with ⟨_ | _, apps⟩
      · exact unchanged
      · dsimp only
        split
        next array => exact addApps_eq_union _ _ _ _ _
        next other => exact unchanged
    · rcases app : getValue₂ string reply.payload "app" "id" "" with ⟨_ | _, id⟩
      · exact unchanged
      · dsimp only
        by_cases added : change = "added"
        · rw [if_pos added, if_neg (fun removed => removed.1 added), if_pos added]
          exact add_eq_union handlers _
        · by_cases removed : change = "removed"
          · rw [if_neg added, if_pos removed, if_pos ⟨added, removed⟩]
            rfl
          · rw [if_neg added, if_neg removed, if_neg (fun both => removed both.2), if_neg added,
              if_neg removed]
            exact unchanged

theorem touches_patch {reply : Message} {key : String}
    (touches : (patch enableSession database reply).Touches key) :
    ∃ name, key = Handler.convertKey (getSessionId enableSession reply) name := by
  unfold patch at touches
  cases removed : removal reply with
  | some id =>
      rw [removed] at touches
      exact ⟨id, touches⟩
  | none =>
      rw [removed] at touches
      obtain ⟨handler, stored⟩ := Option.ne_none_iff_exists'.mp touches
      cases (apps_outcome enableSession database ∅ reply).new stored with
      | inl old => simp at old
      | inr new =>
          obtain ⟨_, _, id, _, _, key⟩ := new
          exact ⟨id, key⟩

/-! ## Replies in a row -/

/-- Register what comes in a row of replies. -/
def register (replies : List Message) (handlers : Handlers) : Handlers :=
  Patch.run (patch enableSession database) replies handlers

theorem service_replies (setup : Setup) (history : List Event) (replies : List Message) :
    setup.service (history ++ replies.map .onListApps) =
      { setup.service history with
        handlers := register setup.enableSession (setup.service history).database replies
          (setup.service history).handlers } := by
  induction replies using List.reverseRecOn with
  | nil => simp [register, Patch.run]
  | append_singleton replies reply ih =>
      rw [List.map_append, ← List.append_assoc, List.map_singleton, Setup.service_snoc, ih, Service.dispatch]
      dsimp only
      rw [onListApps_eq_apply, register, register, Patch.run, Patch.run, List.foldl_append]
      rfl

/-- The names of two applications of the sessions never make one key. -/
def Apart (sessions : Set String) : Prop :=
  ∀ s ∈ sessions, ∀ t ∈ sessions, s ≠ t → ∀ name other, ¬ LineUp s name t other

theorem register_of_apart {sessions : Set String} (apart : Apart sessions) {first second : List Message}
    (within : ∀ reply ∈ first, getSessionId enableSession reply ∈ sessions)
    (same : Patch.SameOrder (getSessionId enableSession) first second) (handlers : Handlers) :
    register enableSession database first handlers = register enableSession database second handlers := by
  refine Patch.run_of_sameOrder same (fun reply member other listed key touches meets => ?_) handlers
  obtain ⟨name, own⟩ := touches_patch enableSession database touches
  obtain ⟨name', own'⟩ := touches_patch enableSession database meets
  by_contra different
  exact apart _ (within reply member) _ (within other listed) different name name'
    ((convertKey_eq_iff _ _ _ _).mp (own.symm.trans own'))

/-- An application without filters. -/
def bareApp (name : String) : JValue := .object [("id", .string name)]

theorem getSessionId_added {s : String} (named : s ≠ "host") (app : JValue) :
    getSessionId true (addedReply (some s) app) = s := by
  simp [getSessionId, addedReply, named]

theorem addEntry_bareApp (sessionId name : String) (handlers : Handlers) :
    ∃ intentFilters, addEntry database sessionId .null handlers (bareApp name) =
      (handlers.add (Sam.appHandler name sessionId intentFilters)).2 :=
  ⟨_, rfl⟩

theorem single_added {s name : String} (sNamed : s ≠ "host") (nonempty : name ≠ "") :
    ∃ h, (register true database [addedReply (some s) (bareApp name)] ∅).find? (Handler.convertKey s name) =
      some h ∧
      h.sessionId = s := by
  simp only [register, Patch.run, List.foldl_cons, List.foldl_nil, ← onListApps_eq_apply, onListApps_added,
    getSessionId_added sNamed]
  obtain ⟨intentFilters, single⟩ := addEntry_bareApp database s name ∅
  rw [single]
  exact ⟨_, find?_add_appHandler nonempty rfl intentFilters, (appHandler_fields name s intentFilters).2.1⟩

theorem first_added {s t name other : String} (sNamed : s ≠ "host") (tNamed : t ≠ "host")
    (nonempty : name ≠ "") :
    ((register true database
        [addedReply (some s) (bareApp name), addedReply (some t) (bareApp other)] ∅).find?
      (Handler.convertKey s name)).map Handler.sessionId = some s := by
  obtain ⟨h, stored, own⟩ := single_added database sNamed nonempty
  simp only [register, Patch.run, List.foldl_cons, List.foldl_nil, ← onListApps_eq_apply, onListApps_added,
    getSessionId_added sNamed, getSessionId_added tNamed] at stored ⊢
  rw [(addEntry_registers database t .null _ (bareApp other)).kept _ _ stored, Option.map_some, own]

theorem LineUp.longer {s name t other : String} (meets : LineUp s name t other) (rest : String) :
    Handler.convertKey s (name ++ rest) = Handler.convertKey t (other ++ rest) := by
  have same := congrArg (· ++ rest) ((convertKey_eq_iff s name t other).mpr meets)
  simpa only [Handler.convertKey, String.append_assoc] using same

/-- From every state, replies of the sessions can come in any order that keeps
    the order in each session, exactly if no two of their names make one key. -/
theorem any_order_iff {setup : Setup} (build : setup.enableSession = true) {sessions : Set String}
    (named : "host" ∉ sessions) :
    (∀ history first second, (∀ reply ∈ first, getSessionId true reply ∈ sessions) →
        Patch.SameOrder (getSessionId true) first second →
        setup.service (history ++ first.map .onListApps) =
          setup.service (history ++ second.map .onListApps)) ↔
      Apart sessions := by
  constructor
  · intro anyOrder s sMem t tMem different name other meets
    have sNamed : s ≠ "host" := fun host => named (host ▸ sMem)
    have tNamed : t ≠ "host" := fun host => named (host ▸ tMem)
    -- both names go on with a letter, so that neither is empty
    have key := LineUp.longer meets "x"
    have nonempty : ∀ name : String, name ++ "x" ≠ "" := fun name => by simp
    let a := addedReply (some s) (bareApp (name ++ "x"))
    let b := addedReply (some t) (bareApp (other ++ "x"))
    have same := anyOrder [] [a, b] [b, a] ?_ ?_
    · rw [service_replies, service_replies, build] at same
      have stored := congrArg (fun service : Service =>
        (service.handlers.find? (Handler.convertKey s (name ++ "x"))).map Handler.sessionId) same
      dsimp only at stored
      have empty : (setup.service []).handlers = ∅ := rfl
      rw [empty, first_added _ sNamed tNamed (nonempty name), key,
        first_added _ tNamed sNamed (nonempty other)]
        at stored
      exact different (Option.some.inj stored)
    · intro reply member
      simp only [List.mem_cons, List.not_mem_nil, or_false] at member
      rcases member with rfl | rfl
      · rwa [getSessionId_added sNamed]
      · rwa [getSessionId_added tNamed]
    · refine .swap ?_
      rwa [getSessionId_added sNamed, getSessionId_added tNamed]
  · intro apart history first second within same
    rw [service_replies, service_replies, build, register_of_apart true _ apart within same]

/-- The host and session `a` share no key. -/
theorem host_apart : Apart {"", "a"} := by
  have apart : ∀ name other, Handler.convertKey "" name ≠ Handler.convertKey "a" other := by
    intro name other same
    have letters := congrArg (fun key : String => key.toList.head?) same
    simp [Handler.convertKey, String.toList_append] at letters
  intro s sMem t tMem different name other meets
  have key := (convertKey_eq_iff s name t other).mpr meets
  simp only [Set.mem_insert_iff, Set.mem_singleton_iff] at sMem tMem
  rcases sMem with rfl | rfl <;> rcases tMem with rfl | rfl
  · exact different rfl
  · exact apart name other key
  · exact apart other name key.symm
  · exact different rfl

theorem host_any_order :
    let setup := Setup.withSessions (Sample.bus 10 20 Sample.first_tokens) .emptyObject
    setup.service ([] ++ [Sample.apps "viewer" none, Sample.apps "viewer" (some "a")].map .onListApps) =
      setup.service ([] ++ [Sample.apps "viewer" (some "a"), Sample.apps "viewer" none].map .onListApps) := by
  refine (any_order_iff rfl (by simp)).mpr host_apart [] _ _ ?_ ?_
  · intro reply member
    simp only [List.mem_cons, List.not_mem_nil, or_false] at member
    rcases member with rfl | rfl <;> decide
  · exact .swap (by decide)

end IntentService.Merging
