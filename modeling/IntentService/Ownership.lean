import IntentService.Watches
import IntentService.Library.Handles

/-! # Who keeps which call

The account and the session managers keep the token of every call they have
open in a field of their own, and the callback of the call is given the object.
So no call may outlive the field: a reply would reach an object that is gone. The
other way round a field may outlive its call: a notice that an owner left closes
the one with the token of its own message.
-/

namespace IntentService.Ownership

open History

/-! ## Slots -/

/-- The fields that keep the token of an open call. -/
inductive Slot where
  /-- `m_statusCall` of the `Account`. -/
  | status
  /-- `Account::m_getSessions`. -/
  | getSessions
  /-- `m_statusCall` of the `SAM` of a session. -/
  | samStatus (sessionId : String)
  /-- `SAM::m_listApps`. -/
  | listApps (sessionId : String)

/-- A token that stands for an open call. -/
def nonzero (token : UInt64) : Option UInt64 := if token = 0 then none else some token

/-- What a field keeps. -/
def kept (self : Account) : Slot → Option UInt64
  | .status => nonzero self.statusCall
  | .getSessions => nonzero self.getSessions
  | .samStatus s => (self.sessions.find? s).bind (fun session => nonzero session.sam.statusCall)
  | .listApps s => (self.sessions.find? s).bind (fun session => nonzero session.sam.listApps)

namespace Slot

/-- The call the token of a field belongs to. -/
def call (enableSession : Bool) : Slot → LSCall
  | .status => clientStatusCall Account.serviceName "" .account
  | .getSessions => Account.getSessionsCall
  | .samStatus s => sessionCall s
  | .listApps s => ({ sessionId := s } : Sam).listAppsCall enableSession

/-- The event that fills the field. -/
def FilledBy (e : Event) : Slot → Prop
  | .status => False
  | .getSessions => ∃ notice bus, e = .accountStatus notice bus
  | .samStatus _ => ∃ reply bus, e = .onGetSessions reply bus
  | .listApps s => ∃ notice bus, e = .samStatus s notice bus

theorem call_not_ofStart (enableSession : Bool) (slot : Slot) :
    ¬ (slot.call enableSession).callback.ofStart := by
  cases slot with
  | status => simp [Callback.ofStart, call, clientStatusCall]
  | getSessions => exact getSessionsCall_not_ofStart
  | samStatus s => exact sessionCall_not_ofStart s
  | listApps s => exact listAppsCall_not_ofStart _ _

end Slot

theorem nonzero_eq_some {token x : UInt64} : nonzero token = some x ↔ token ≠ 0 ∧ x = token := by
  unfold nonzero
  split <;> simp_all [eq_comm]

theorem cancel_mem_cancelOpen {token x : UInt64} : .cancel x ∈ cancelOpen token ↔ nonzero token = some x := by
  rw [mem_cancelOpen, nonzero_eq_some, Effect.cancel.injEq]

theorem nonzero_storeToken (bus : Bus) (call : LSCall) :
    nonzero (storeToken (bus.answer call) 0) = bus.answer call := by
  cases answer : bus.answer call with
  | none => rfl
  | some token => exact if_neg (bus.nonzero answer)

/-! ## One event -/

variable {enableSession : Bool}

/-- The call of the field was answered with the token. -/
def Opened (enableSession : Bool) (e : Event) (effects : List Effect) (slot : Slot) (token : UInt64) : Prop :=
  .call (slot.call enableSession) (some token) ∈ effects ∧ slot.FilledBy e

theorem change_of_call {e : Event} {effects : List Effect} {slot : Slot} {old answer : Option UInt64}
    (released : ∀ x, old = some x → .cancel x ∈ effects)
    (made : .call (slot.call enableSession) answer ∈ effects) (fills : slot.FilledBy e) :
    Handles.Change (Opened enableSession e effects slot) (fun x => .cancel x ∈ effects) old answer := by
  cases answer with
  | none => exact .emptied released
  | some token => exact .filled released ⟨made, fills⟩

theorem swept (handlers : Handlers) {self : Account} {s : String} {x : UInt64}
    (held : kept self (.samStatus s) = some x ∨ kept self (.listApps s) = some x) :
    .cancel x ∈ (Session.destroyAll self.sessions.values handlers).2 := by
  simp only [kept, Option.bind_eq_some_iff] at held
  rcases held with ⟨session, known, held⟩ | ⟨session, known, held⟩
  · exact mem_destroyAll.mpr ⟨session, OrderedMap.mem_values.mpr ⟨s, known⟩,
      .inl (cancel_mem_cancelOpen.mpr held)⟩
  · exact mem_destroyAll.mpr ⟨session, OrderedMap.mem_values.mpr ⟨s, known⟩,
      .inr (cancel_mem_cancelOpen.mpr held)⟩

theorem change_of_account {bus : Bus} {self account : Account} {handlers left : Handlers} {notice : Message}
    {effects : List Effect} (ended : AccountOutcome bus self handlers notice account left effects)
    (slot : Slot) :
    Handles.Change (Opened enableSession (.accountStatus notice bus) effects slot)
      (fun x => .cancel x ∈ effects) (kept self slot) (kept account slot) := by
  cases ended with
  | ignored => exact .same _
  | up =>
      cases slot with
      | status => exact .same _
      | getSessions =>
          change Handles.Change _ _ (nonzero self.getSessions) (nonzero (storeToken (bus.answer _) 0))
          rw [nonzero_storeToken]
          refine change_of_call (fun x held => ?_) (by simp [Slot.call]) ⟨_, _, rfl⟩
          have cancelled := cancel_mem_cancelOpen.mpr held
          simp [cancelled]
      | samStatus s =>
          refine .emptied (fun x held => ?_)
          have cancelled := swept handlers (.inl held)
          simp [cancelled]
      | listApps s =>
          refine .emptied (fun x held => ?_)
          have cancelled := swept handlers (.inr held)
          simp [cancelled]
  | down =>
      cases slot with
      | status => exact .same _
      | getSessions => exact .emptied (fun x held => List.mem_append_left _ (cancel_mem_cancelOpen.mpr held))
      | samStatus s => exact .emptied (fun x held => List.mem_append_right _ (swept _ (.inl held)))
      | listApps s => exact .emptied (fun x held => List.mem_append_right _ (swept _ (.inr held)))

theorem kept_insert (self : Account) (s : String) (session : Session) (slot : Slot) :
    kept { self with sessions := self.sessions.insert s session } slot =
      match slot with
      | .samStatus t => if t = s then nonzero session.sam.statusCall else kept self slot
      | .listApps t => if t = s then nonzero session.sam.listApps else kept self slot
      | .status | .getSessions => kept self slot := by
  cases slot with
  | status | getSessions => rfl
  | samStatus t | listApps t =>
      simp only [kept, OrderedMap.find?_insert]
      split <;> rfl

theorem change_of_sam {bus : Bus} {self : Account} {s : String} {session : Session} {sam : Sam}
    {handlers left : Handlers} {notice : Message} {effects : List Effect}
    (known : self.sessions.find? s = some session) (own : session.sam.sessionId = s)
    (ended : SamOutcome enableSession bus session.sam handlers notice sam left effects) (slot : Slot) :
    Handles.Change (Opened enableSession (.samStatus s notice bus) effects slot)
      (fun x => .cancel x ∈ effects) (kept self slot)
      (kept { self with sessions := self.sessions.insert s { session with sam := sam } } slot) := by
  have status : kept self (.samStatus s) = nonzero session.sam.statusCall := by simp [kept, known]
  have apps : kept self (.listApps s) = nonzero session.sam.listApps := by simp [kept, known]
  rw [kept_insert]
  cases slot with
  | status | getSessions => exact .same _
  | samStatus t =>
      dsimp only
      split
      next same =>
        subst same
        rw [status]
        cases ended <;> exact .same _
      next => exact .same _
  | listApps t =>
      dsimp only
      split
      next same =>
        subst same
        rw [apps]
        cases ended with
        | ignored | stayed => exact .same _
        | subscribed _ closed =>
            dsimp only
            rw [nonzero_storeToken, closed]
            refine change_of_call (fun x held => by cases held) ?_ ⟨_, _, rfl⟩
            simp [Slot.call, Sam.listAppsCall, Sam.callSession, own]
        | down => exact .emptied (fun x held => cancel_mem_cancelOpen.mpr held)
      next => exact .same _

theorem swept_unnamed (bus : Bus) (handlers : Handlers) {self : Account} {items : List JValue} {s : String}
    {x : UInt64} (unnamed : s ∉ namedSessions items)
    (held : kept self (.samStatus s) = some x ∨ kept self (.listApps s) = some x) :
    .cancel x ∈ (Session.destroyAll (droppedSessions bus self.sessions items).values handlers).2 := by
  have dropped {session : Session} (known : self.sessions.find? s = some session) :=
    (mem_droppedSessions bus self.sessions items _).mpr ⟨s, session, unnamed, known, rfl⟩
  simp only [kept, Option.bind_eq_some_iff] at held
  rcases held with ⟨session, known, held⟩ | ⟨session, known, held⟩
  · exact mem_destroyAll.mpr ⟨_, dropped known, .inl (cancel_mem_cancelOpen.mpr held)⟩
  · exact mem_destroyAll.mpr ⟨_, dropped known, .inr (cancel_mem_cancelOpen.mpr held)⟩

theorem kept_unnamed (bus : Bus) (self : Account) {items : List JValue} {s : String}
    (unnamed : s ∉ namedSessions items) :
    kept { self with sessions := keptSessions bus self.sessions items } (.samStatus s) = none ∧
      kept { self with sessions := keptSessions bus self.sessions items } (.listApps s) = none := by
  simp only [kept, keptSessions_find?, if_neg unnamed]
  exact ⟨rfl, rfl⟩

theorem change_of_sync {bus : Bus} {self account : Account} {handlers left : Handlers} {reply : Message}
    {effects : List Effect} (ended : SyncOutcome bus self handlers reply account left effects) (slot : Slot) :
    Handles.Change (Opened enableSession (.onGetSessions reply bus) effects slot)
      (fun x => .cancel x ∈ effects) (kept self slot) (kept account slot) := by
  cases ended with
  | ignored => exact .same _
  | @synced items =>
      cases slot with
      | status | getSessions => exact .same _
      | samStatus s =>
          by_cases named : s ∈ namedSessions items
          · simp only [kept, keptSessions_find?, if_pos named]
            cases known : self.sessions.find? s with
            | some old => exact .same _
            | none =>
                change Handles.Change _ _ none (nonzero (storeToken (bus.answer (sessionCall s)) 0))
                rw [nonzero_storeToken]
                refine change_of_call (fun x held => by cases held) (List.mem_append_left _ ?_) ⟨_, _, rfl⟩
                refine (mem_updateSessions _ _ _ _ _).mpr ⟨s, named, ?_, rfl⟩
                rw [marked, OrderedMap.find?_mapValues, known]
                rfl
          · rw [(kept_unnamed bus self named).1]
            exact .emptied (fun x held => List.mem_append_right _ (swept_unnamed bus _ named (.inl held)))
      | listApps s =>
          by_cases named : s ∈ namedSessions items
          · simp only [kept, keptSessions_find?, if_pos named]
            cases known : self.sessions.find? s <;> exact .same _
          · rw [(kept_unnamed bus self named).2]
            exact .emptied (fun x held => List.mem_append_right _ (swept_unnamed bus _ named (.inr held)))

theorem change_of_event {self : Service} {e : Event} {account : Account} {handlers : Handlers}
    {effects : List Effect} (change : ClientsChange enableSession self e account handlers effects)
    (keyed : SessionsKeyed self.account.sessions) (slot : Slot) :
    Handles.Change (Opened enableSession e effects slot) (fun x => .cancel x ∈ effects)
      (kept self.account slot) (kept account slot) := by
  cases change with
  | other | apps => exact .same _
  | account ended => exact change_of_account ended slot
  | sam known ended => exact change_of_sam known (keyed _ _ known).2 ended slot
  | sync ended => exact change_of_sync ended slot

theorem slot_of_call {self : Service} {e : Event} {account : Account} {handlers : Handlers}
    {effects : List Effect} (change : ClientsChange enableSession self e account handlers effects)
    (keyed : SessionsKeyed self.account.sessions) {call : LSCall} {answer : Option UInt64}
    (made : .call call answer ∈ effects) (own : ¬ call.callback.ofStart) :
    ∃ slot : Slot, slot.call enableSession = call ∧ slot.FilledBy e ∧ kept account slot = answer := by
  cases change with
  | other calls => exact absurd (calls _ _ made).1 own
  | apps => cases made
  | account ended =>
      obtain ⟨rfl, rfl⟩ := ended.call_eq made
      refine ⟨.getSessions, rfl, ⟨_, _, rfl⟩, ?_⟩
      cases ended with
      | ignored => cases made
      | up => exact nonzero_storeToken _ _
      | down => simp [call_not_mem_cancelOpen, call_not_mem_destroyAll] at made
  | @sam s notice bus session sam _ _ known ended =>
      obtain ⟨rfl, rfl⟩ := ended.call_eq made
      refine ⟨.listApps s, ?_, ⟨_, _, rfl⟩, ?_⟩
      · simp [Slot.call, Sam.listAppsCall, Sam.callSession, (keyed _ _ known).2]
      · simp only [kept_insert, if_true]
        cases ended with
        | ignored | stayed => cases made
        | subscribed => exact nonzero_storeToken _ _
        | down => exact absurd made call_not_mem_cancelOpen
  | sync ended =>
      cases ended with
      | ignored => cases made
      | synced =>
          rcases List.mem_append.mp made with made | made
          · obtain ⟨s, named, absent, same⟩ := (mem_updateSessions _ _ _ _ _).mp made
            cases same
            refine ⟨.samStatus s, rfl, ⟨_, _, rfl⟩, ?_⟩
            have unknown : self.account.sessions.find? s = none := by
              rwa [marked, OrderedMap.find?_mapValues, Option.map_eq_none_iff] at absent
            rw [kept, keptSessions_find?, if_pos named, unknown]
            exact nonzero_storeToken _ _
          · exact absurd made call_not_mem_destroyAll

theorem slot_unique {e : Event} {slot other : Slot} (fills : slot.FilledBy e) (fills' : other.FilledBy e)
    (same : slot.call enableSession = other.call enableSession) : slot = other := by
  cases slot with
  | status => cases fills
  | getSessions =>
      obtain ⟨_, _, rfl⟩ := fills
      cases other with
      | getSessions => rfl
      | status | samStatus | listApps => simp [Slot.FilledBy] at fills'
  | samStatus s =>
      obtain ⟨_, _, rfl⟩ := fills
      cases other with
      | samStatus t =>
          have context := congrArg LSCall.callback same
          cases context
          rfl
      | status | getSessions | listApps => simp [Slot.FilledBy] at fills'
  | listApps s =>
      obtain ⟨_, _, rfl⟩ := fills
      cases other with
      | listApps t =>
          obtain ⟨_, _, same⟩ := fills'
          cases same
          rfl
      | status | getSessions | samStatus => simp [Slot.FilledBy] at fills'

theorem kept_of_opened {self : Service} {e : Event} {account : Account} {handlers : Handlers}
    {effects : List Effect} (change : ClientsChange enableSession self e account handlers effects)
    (keyed : SessionsKeyed self.account.sessions) {slot : Slot} {token : UInt64}
    (opened : Opened enableSession e effects slot token) : kept account slot = some token := by
  obtain ⟨made, fills⟩ := opened
  obtain ⟨other, same, fills', held⟩ := slot_of_call change keyed made (slot.call_not_ofStart _)
  cases slot_unique fills fills' same.symm
  exact held

theorem slot_of_destroyed {self account : Account} {handlers : Handlers} {sessions : List Session}
    {x : UInt64} (cancel : .cancel x ∈ (Session.destroyAll sessions handlers).2)
    (known : ∀ session ∈ sessions, ∃ s old, self.sessions.find? s = some old ∧ old.sam = session.sam ∧
      account.sessions.find? s = none) :
    ∃ slot, kept self slot = some x ∧ kept account slot = none := by
  obtain ⟨session, member, cancelled⟩ := mem_destroyAll.mp cancel
  obtain ⟨s, old, stored, same, gone⟩ := known session member
  rw [cancel_mem_cancelOpen, cancel_mem_cancelOpen] at cancelled
  rcases cancelled with status | apps
  · exact ⟨.samStatus s, by simp [kept, stored, same, status], by simp [kept, gone]⟩
  · exact ⟨.listApps s, by simp [kept, stored, same, apps], by simp [kept, gone]⟩

theorem slot_of_destroyAll {self account : Account} {handlers : Handlers} {x : UInt64}
    (gone : account.sessions = ∅)
    (cancel : .cancel x ∈ (Session.destroyAll self.sessions.values handlers).2) :
    ∃ slot, kept self slot = some x ∧ kept account slot = none := by
  refine slot_of_destroyed cancel (fun session member => ?_)
  obtain ⟨s, stored⟩ := OrderedMap.mem_values.mp member
  exact ⟨s, session, stored, rfl, by rw [gone]; rfl⟩

/-- The field a cancelled token was kept in: it is empty now, or holds what a new call was answered with. -/
def Released (enableSession : Bool) (e : Event) (effects : List Effect) (self account : Account)
    (x : UInt64) :
    Prop :=
  ∃ slot, kept self slot = some x ∧ (kept account slot = some x → Opened enableSession e effects slot x)

theorem released_of_emptied {e : Event} {effects : List Effect} {self account : Account} {x : UInt64}
    (emptied : ∃ slot, kept self slot = some x ∧ kept account slot = none) :
    Released enableSession e effects self account x := by
  obtain ⟨slot, held, gone⟩ := emptied
  exact ⟨slot, held, fun again => by cases gone.symm.trans again⟩

theorem released_of_account {bus : Bus} {self account : Account} {handlers left : Handlers} {notice : Message}
    {effects : List Effect} (ended : AccountOutcome bus self handlers notice account left effects)
    {x : UInt64} (cancel : .cancel x ∈ effects) :
    Released enableSession (.accountStatus notice bus) effects self account x := by
  cases ended with
  | ignored => cases cancel
  | up =>
      rcases List.mem_append.mp cancel with cancel | cancel
      · rcases List.mem_append.mp cancel with cancel | cancel
        · refine ⟨.getSessions, cancel_mem_cancelOpen.mp cancel, fun again => ⟨?_, _, _, rfl⟩⟩
          have answer := (nonzero_storeToken _ _).symm.trans again
          simp [Slot.call, answer]
        · exact released_of_emptied (slot_of_destroyAll rfl cancel)
      · cases List.mem_singleton.mp cancel
  | down =>
      rcases List.mem_append.mp cancel with cancel | cancel
      · exact released_of_emptied ⟨.getSessions, cancel_mem_cancelOpen.mp cancel, rfl⟩
      · exact released_of_emptied (slot_of_destroyAll rfl cancel)

theorem released_of_sam {bus : Bus} {self : Account} {s : String} {session : Session} {sam : Sam}
    {handlers left : Handlers} {notice : Message} {effects : List Effect}
    (known : self.sessions.find? s = some session)
    (ended : SamOutcome enableSession bus session.sam handlers notice sam left effects) {x : UInt64}
    (cancel : .cancel x ∈ effects) :
    Released enableSession (.samStatus s notice bus) effects self
      { self with sessions := self.sessions.insert s { session with sam := sam } } x := by
  cases ended with
  | ignored | stayed => cases cancel
  | subscribed => cases List.mem_singleton.mp cancel
  | down =>
      refine released_of_emptied ⟨.listApps s, ?_, ?_⟩
      · rw [kept, known]
        exact cancel_mem_cancelOpen.mp cancel
      · simp only [kept_insert, if_true]
        rfl

theorem released_of_sync {bus : Bus} {self account : Account} {handlers left : Handlers} {reply : Message}
    {effects : List Effect} (ended : SyncOutcome bus self handlers reply account left effects) {x : UInt64}
    (cancel : .cancel x ∈ effects) :
    Released enableSession (.onGetSessions reply bus) effects self account x := by
  cases ended with
  | ignored => cases cancel
  | synced =>
      rcases List.mem_append.mp cancel with cancel | cancel
      · obtain ⟨_, _, _, same⟩ := (mem_updateSessions _ _ _ _ _).mp cancel
        cases same
      · refine released_of_emptied (slot_of_destroyed cancel (fun session member => ?_))
        obtain ⟨s, old, unnamed, stored, rfl⟩ := (mem_droppedSessions _ _ _ _).mp member
        exact ⟨s, old, stored, rfl, by rw [keptSessions_find?, if_neg unnamed]⟩

/-- A token the clients cancel comes from a field that is emptied or filled anew. -/
theorem slot_of_cancel {self : Service} {e : Event} {account : Account} {handlers : Handlers}
    {effects : List Effect} (change : ClientsChange enableSession self e account handlers effects)
    {x : UInt64} (cancel : .cancel x ∈ effects) (client : ∀ notice, e ≠ .ownerStatus notice) :
    Released enableSession e effects self.account account x := by
  cases change with
  | other _ cancels =>
      obtain ⟨notice, _, rfl, _⟩ := cancels x cancel
      exact absurd rfl (client notice)
  | apps => cases cancel
  | account ended => exact released_of_account ended cancel
  | sam known ended => exact released_of_sam known ended cancel
  | sync ended => exact released_of_sync ended cancel

/-! ## Along a run -/

variable (setup : Setup)

/-- The account after a history of events. -/
def account (history : List Event) : Account := (setup.service history).account

/-- The clients have the call open under the token. -/
def Live (history : List Event) (call : LSCall) (token : UInt64) : Prop :=
  ⟨token, call⟩ ∈ (setup.after history).live ∧ ¬ call.callback.ofStart

theorem kept_initial : ∃ slot answer,
    Watches.initialEffects setup = [.call (slot.call setup.enableSession) answer] ∧
    kept (account setup []) slot = answer ∧
      ∀ other token, kept (account setup []) other = some token → other = slot := by
  rcases setup with ⟨_ | _, bus, database⟩
  · have initial := kept_insert {} "" (Session.new bus "").1
    refine ⟨.samStatus "", _, rfl, (initial _).trans (nonzero_storeToken _ _), fun other token held => ?_⟩
    have held := (initial other).symm.trans held
    cases other with
    | status | getSessions => cases held
    | samStatus t =>
        dsimp only at held
        split at held
        next same => rw [same]
        next => cases held
    | listApps t =>
        dsimp only at held
        split at held
        next => cases held
        next => cases held
  · refine ⟨.status, _, rfl, nonzero_storeToken _ _, fun other token held => ?_⟩
    cases other with
    | status => rfl
    | getSessions | samStatus | listApps => cases held

variable {setup}

theorem live_snoc {history : List Event} {e : Event} {call : LSCall} {token : UInt64}
    (live : Live setup (history ++ [e]) call token) :
    (Live setup history call token ∧ .cancel token ∉ setup.effects history e) ∨
      .call call (some token) ∈ setup.effects history e := by
  obtain ⟨live, own⟩ := live
  rw [Setup.live_snoc] at live
  rcases mem_applyEffects live with ⟨before, left⟩ | made
  · exact .inl ⟨⟨mem_receive before, own⟩, left⟩
  · exact .inr made

variable (setup)

theorem covered (history : List Event) :
    Handles.Covered (Slot.call setup.enableSession) (Live setup history) (kept (account setup history)) := by
  induction history using List.reverseRecOn with
  | nil =>
      rintro call token ⟨live, _⟩
      obtain ⟨slot, answer, initial, held, _⟩ := kept_initial setup
      have made : .call call (some token) ∈ Watches.initialEffects setup := mem_applyEffects_nil live
      rw [initial, List.mem_singleton] at made
      cases made
      exact ⟨slot, rfl, held⟩
  | append_singleton history e ih =>
      have change := clients_snoc setup history e
      have keyed := sessionsKeyed setup history
      refine ih.step (fun slot => change_of_event change keyed slot) ?_ ?_
      · exact fun slot token opened => kept_of_opened change keyed opened
      · intro call token live
        refine (live_snoc live).imp id (fun made => ?_)
        obtain ⟨slot, same, fills, _⟩ := slot_of_call change keyed made live.2
        exact ⟨slot, same, same ▸ made, fills⟩

/-- The object a reply to the call is handed to, and the field it keeps the token in. -/
def KeptBy (self : Account) (call : LSCall) (token : UInt64) : Prop :=
  match call.callback with
  | .clientStatus .account => self.statusCall = token
  | .clientStatus (.sam s) => ∃ session, self.sessions.find? s = some session ∧ session.sam.statusCall = token
  | .onGetSessions => self.getSessions = token
  | .onListApps => ∃ s session, self.sessions.find? s = some session ∧ session.sam.listApps = token
  | .onLaunch | .ownerStatus => True

theorem keptBy_of_slot {self : Account} {slot : Slot} {token : UInt64} (held : kept self slot = some token) :
    token ≠ 0 ∧ KeptBy self (slot.call enableSession) token := by
  cases slot with
  | status | getSessions =>
      obtain ⟨nonzero, rfl⟩ := nonzero_eq_some.mp held
      exact ⟨nonzero, rfl⟩
  | samStatus s =>
      obtain ⟨session, known, held⟩ := Option.bind_eq_some_iff.mp held
      obtain ⟨nonzero, rfl⟩ := nonzero_eq_some.mp held
      exact ⟨nonzero, session, known, rfl⟩
  | listApps s =>
      obtain ⟨session, known, held⟩ := Option.bind_eq_some_iff.mp held
      obtain ⟨nonzero, rfl⟩ := nonzero_eq_some.mp held
      exact ⟨nonzero, s, session, known, rfl⟩

theorem kept_of_live {history : List Event} {entry : LiveCall} (live : entry ∈ (setup.after history).live)
    (own : ¬ entry.call.callback.ofStart) :
    entry.token ≠ 0 ∧ KeptBy (setup.service history).account entry.call entry.token := by
  obtain ⟨slot, same, held⟩ := covered setup history entry.call entry.token ⟨live, own⟩
  rw [← same]
  exact keptBy_of_slot held

/-- A reply that may still come to a client finds the object it was registered
    for: the account, or a session that is there. -/
def Answerable (self : World) : Prop :=
  ∀ entry ∈ self.live, ¬ entry.call.callback.ofStart →
    entry.token ≠ 0 ∧ KeptBy self.service.account entry.call entry.token

/-- Whatever the bus does, no call of a client outlives the object that made it. -/
theorem open_calls_kept (history : List Event) : Answerable (setup.after history) :=
  fun _ live own => kept_of_live setup live own

/-! ## Fresh tokens -/

/-- The calls the clients have open are the ones they keep, each in one field. -/
structure Matched (history : List Event) : Prop where
  live_iff : ∀ call token, Live setup history call token ↔
    ∃ slot : Slot, slot.call setup.enableSession = call ∧ kept (account setup history) slot = some token
  single : ∀ slot other token, kept (account setup history) slot = some token →
    kept (account setup history) other = some token → slot = other

/-- Every token a client cancels is the one of a call of its own that is open. -/
def CancelsOpen (history : List Event) (e : Event) : Prop :=
  ∀ token, .cancel token ∈ setup.effects history e → (∀ notice, e ≠ .ownerStatus notice) →
    ∃ call, Live setup history call token

/-- Throughout a run the fields and the open calls match, and only those are cancelled. -/
structure AlwaysMatched (history : List Event) : Prop where
  matched : ∀ pre post, history = pre ++ post → Matched setup pre
  cancels : Historically (CancelsOpen setup) history

/-- No notice that an owner left has the token of a client's call for its own message. -/
def SparesClients (history : List Event) (e : Event) : Prop :=
  ∀ call token, Live setup history call token → ¬ e.Cancels token

variable {setup}

theorem given_of_kept {history : List Event} {slot : Slot} {token : UInt64}
    (held : kept (account setup history) slot = some token) :
    ∃ call, Watches.Given setup history token call := by
  induction history using List.reverseRecOn with
  | nil =>
      obtain ⟨first, answer, initial, answered, only⟩ := kept_initial setup
      cases only slot token held
      refine ⟨slot.call setup.enableSession, .inl ?_⟩
      rw [initial, ← answered, held]
      exact List.mem_singleton_self _
  | append_singleton history e ih =>
      have change := change_of_event (clients_snoc setup history e) (sessionsKeyed setup history) slot
      rcases (held ▸ change).origin with before | ⟨made, _⟩
      · exact (ih before).imp (fun call given => Watches.given_snoc.mpr (.inl given))
      · exact ⟨_, Watches.given_snoc.mpr (.inr made)⟩

theorem live_of_live {history : List Event} {e : Event} {call : LSCall} {token : UInt64}
    (live : Live setup history call token) (left : .cancel token ∉ setup.effects history e) :
    Live setup (history ++ [e]) call token := by
  refine ⟨?_, live.2⟩
  rw [Setup.live_snoc]
  refine mem_applyEffects_of_live (mem_receive_of_live live.1 ?_) left
  intro _ _ launch
  exact absurd (.inl launch) live.2

theorem live_of_call {history : List Event} {e : Event} {call : LSCall} {token : UInt64}
    (made : .call call (some token) ∈ setup.effects history e) (own : ¬ call.callback.ofStart)
    (left : .cancel token ∉ setup.effects history e) : Live setup (history ++ [e]) call token := by
  refine ⟨?_, own⟩
  rw [Setup.live_snoc]
  exact mem_applyEffects_of_call made left

theorem account_ownerStatus (history : List Event) (notice : Message) :
    account setup (history ++ [.ownerStatus notice]) = account setup history := by
  rw [account, Setup.service_snoc, Service.dispatch, IntentManager.onServerStatusChanged]
  split <;> rfl

theorem live_ownerStatus {history : List Event} {notice : Message}
    (spares : SparesClients setup history (.ownerStatus notice)) {call : LSCall} {token : UInt64}
    (live : Live setup history call token) : Live setup (history ++ [.ownerStatus notice]) call token := by
  refine live_of_live live ?_
  intro cancel
  refine spares call token live ?_
  simp only [Setup.effects, Service.dispatch, IntentManager.onServerStatusChanged] at cancel
  cases left : IntentManager.departed notice with
  | none =>
      rw [left] at cancel
      cases cancel
  | some name =>
      rw [left] at cancel
      cases List.mem_singleton.mp cancel
      exact ⟨notice, name, rfl, left, rfl⟩

theorem handles_fresh {history : List Event} {e : Event} (fresh : Watches.Fresh setup history e) :
    Handles.Fresh (kept (account setup history))
      (Opened setup.enableSession e (setup.effects history e)) := by
  constructor
  · rintro slot token ⟨made, _⟩ other held
    obtain ⟨call, given⟩ := given_of_kept held
    exact (fresh _ _ made).1 call given
  · rintro slot other token ⟨made, fills⟩ ⟨made', fills'⟩
    exact slot_unique fills fills' ((fresh _ _ made').2 _ made)

theorem open_step {history : List Event} {e : Event} (fresh : Watches.Fresh setup history e)
    (spares : SparesClients setup history e)
    (opens : Handles.Open (Slot.call setup.enableSession) (Live setup history)
      (kept (account setup history))) :
    Handles.Open (Slot.call setup.enableSession) (Live setup (history ++ [e]))
      (kept (account setup (history ++ [e]))) := by
  by_cases client : ∀ notice, e ≠ .ownerStatus notice
  · have change := clients_snoc setup history e
    have keyed := sessionsKeyed setup history
    refine opens.step ⟨change_of_event change keyed, ?_, ?_⟩ (handles_fresh fresh)
      (fun call token live left => live_of_live live left)
      (fun slot token opened left => live_of_call opened.1 (slot.call_not_ofStart _) left)
    · exact fun slot token opened => kept_of_opened change keyed opened
    · exact fun token cancel => slot_of_cancel change cancel client
  · obtain ⟨notice, rfl⟩ := not_forall_not.mp client
    rw [account_ownerStatus]
    exact ⟨fun slot token held => live_ownerStatus spares (opens.live slot token held), opens.single⟩

theorem open_of_spares {history : List Event} (fresh : Historically (Watches.Fresh setup) history)
    (spares : Historically (SparesClients setup) history) :
    Handles.Open (Slot.call setup.enableSession) (Live setup history) (kept (account setup history)) := by
  refine invariant (fun history =>
    Handles.Open (Slot.call setup.enableSession) (Live setup history) (kept (account setup history))) ?_ ?_
    (fresh.and spares)
  · obtain ⟨first, answer, initial, answered, only⟩ := kept_initial setup
    refine ⟨fun slot token held => ?_, fun slot other token held held' => ?_⟩
    · cases only slot token held
      have made : .call (first.call setup.enableSession) (some token) ∈ Watches.initialEffects setup := by
        rw [initial, ← answered, held]
        exact List.mem_singleton_self _
      have quiet : .cancel token ∉ Watches.initialEffects setup := by simp [initial]
      exact ⟨mem_applyEffects_of_call made quiet, first.call_not_ofStart _⟩
    · rw [only slot token held, only other token held']
  · exact fun history e _ last opens => open_step last.1 last.2 opens

/-- A call that a notice closes is still kept, so it must not have been a client's. -/
theorem spares_of_matched {history : List Event} {e : Event} (before : Matched setup history)
    (after : Matched setup (history ++ [e])) : SparesClients setup history e := by
  intro call token live cancels
  obtain ⟨slot, same, held⟩ := (before.live_iff call token).mp live
  have effects := effects_of_cancels setup history cancels
  obtain ⟨notice, _, rfl, _⟩ := cancels
  rw [← account_ownerStatus history notice] at held
  have still := (after.live_iff call token).mpr ⟨slot, same, held⟩
  rcases live_snoc still with ⟨_, left⟩ | made
  · exact left (effects ▸ List.mem_singleton_self _)
  · rw [effects] at made
    cases List.mem_singleton.mp made

variable (setup)

/-- On a bus whose tokens are fresh the clients keep exactly the calls they have
    open, and cancel no others, along the runs whose notices spare their calls. -/
theorem alwaysMatched_iff_spares (history : List Event) (fresh : Historically (Watches.Fresh setup) history) :
    AlwaysMatched setup history ↔ Historically (SparesClients setup) history := by
  constructor
  · rintro ⟨matched, _⟩ pre e post rfl
    exact spares_of_matched (matched pre (e :: post) rfl) (matched (pre ++ [e]) post (List.append_cons _ _ _))
  · intro spares
    constructor
    case matched =>
      rintro pre post rfl
      have opens := open_of_spares fresh.of_append spares.of_append
      refine ⟨fun call token => ⟨covered setup pre call token, ?_⟩, opens.single⟩
      rintro ⟨slot, rfl, held⟩
      exact opens.live slot token held
    case cancels =>
      rintro pre e post rfl token cancel client
      obtain ⟨slot, held, _⟩ := slot_of_cancel (clients_snoc setup pre e) cancel client
      exact ⟨_, (open_of_spares fresh.of_append spares.of_append).live slot token held⟩

/-- The sample bus in a build with sessions. -/
def sampleSetup : Setup := .withSessions (Sample.bus 10 20 Sample.first_tokens) .emptyObject

/-- The account service comes up or goes down. -/
def serviceStatus (connected : Bool) : Event :=
  .accountStatus (Sample.status connected "") (Sample.bus 10 20 Sample.first_tokens)

def sessions : Event := .onGetSessions (Sample.sessionList ["a"]) (Sample.bus 10 20 Sample.first_tokens)

def sam : Event := .samStatus "a" (Sample.status true "a") (Sample.bus 10 20 Sample.first_tokens)

/-- A session appears, a notice about an owner has a token of its own, and the
    account service goes down. -/
def sampleRun : List Event :=
  [serviceStatus true, sessions, sam, .ownerStatus (Notice.message ⟨20, "client"⟩ 77), serviceStatus false]

theorem sampleRun_matched : AlwaysMatched sampleSetup sampleRun := by
  refine (alwaysMatched_iff_spares sampleSetup sampleRun (Watches.fresh_of_nodup (by decide))).mpr ?_
  have others : ∀ entry ∈ (sampleSetup.after [serviceStatus true, sessions, sam]).live, entry.token ≠ 77 := by
    decide
  simp only [sampleRun, historically_cons, historically_nil, and_true]
  refine ⟨by simp [SparesClients, Event.Cancels, serviceStatus],
    by simp [SparesClients, Event.Cancels, sessions],
    by simp [SparesClients, Event.Cancels, sam], ?_,
    by simp [SparesClients, Event.Cancels, serviceStatus]⟩
  rintro call token ⟨live, _⟩ ⟨_, _, ⟨⟩, _, rfl⟩
  exact others _ live rfl

end IntentService.Ownership
