import IntentService.Sessions
import IntentService.Library.Turns

/-! # The `listApps` subscription of a session

The life of a `SAM`, from the construction of its session to its destruction,
under any notifications and any answers of the bus.
-/

namespace IntentService.Subscription

open JValueUtil

/-- A status notification to the `SAM`, with the bus and the handlers at that time. -/
structure Arrival where
  notice : Message
  bus : Bus
  handlers : Handlers

/-- A session and the effects of it and its `SAM` so far. -/
structure Life where
  session : Session
  trace : List Effect

namespace Life

def create (bus : Bus) (sessionId : String) : Life :=
  let (session, effects) := Session.new bus sessionId
  { session := session, trace := effects }

def deliver (enableSession : Bool) (self : Life) (arrival : Arrival) : Life :=
  let (sam, _, effects) := self.session.sam.onStatus enableSession arrival.bus arrival.handlers arrival.notice
  { session := { self.session with sam := sam }, trace := self.trace ++ effects }

/-- The session after the notifications. -/
def after (enableSession : Bool) (bus : Bus) (sessionId : String) (arrivals : List Arrival) : Life :=
  History.state (deliver enableSession) (create bus sessionId) arrivals

/-- What the destructors do. -/
def destruction (self : Life) (handlers : Handlers) : List Effect := (self.session.destroy handlers).2

end Life

/-- What the notifications that are accepted say, oldest first. -/
def accepted (sessionId : String) (arrivals : List Arrival) : List Bool :=
  arrivals.filterMap (fun arrival => clientStatus sessionId arrival.notice)

/-- The calls to `listApps` among the open ones. -/
def apps (live : List LiveCall) : List LiveCall :=
  live.filter (fun entry => entry.call.callback = .onListApps)

/-- The calls to `listApps` that are open after some effects. -/
def liveApps (trace : List Effect) : List LiveCall := apps (trace.foldl World.applyEffect [])

/-- The token of an accepted call to `listApps`. -/
def opens : Effect → Option UInt64
  | .call call answer => if call.callback = .onListApps then answer else none
  | .cancel _ | .respond _ _ | .post _ _ => none

def closes : Effect → Option UInt64
  | .cancel token => some token
  | .call _ _ | .respond _ _ | .post _ _ => none

/-- The token a `SAM` holds. -/
def held (self : Sam) : Option UInt64 := if self.listApps = 0 then none else some self.listApps

/-- No call to `listApps` is accepted. -/
def Quiet (effects : List Effect) : Prop :=
  ∀ call token, .call call (some token) ∈ effects → call.callback ≠ .onListApps

/-- What a life does with its calls to `listApps`, up to and with its end. -/
structure OneSubscription (statuses : List Bool) (self : Life) (destruction : List Effect) : Prop where
  /-- At any time at most one is open, -/
  single : ∀ before, before <+: self.trace ++ destruction → (liveApps before).length ≤ 1
  /-- none unless the last accepted notification said connected, -/
  disconnected : statuses.getLast? ≠ some true → liveApps self.trace = []
  /-- and none in the end. -/
  gone : liveApps (self.trace ++ destruction) = []
  /-- Each one is cancelled once before the next one is opened, -/
  replaced : ∀ before call token mid next other rest,
    self.trace = before ++ .call call (some token) :: (mid ++ .call next (some other) :: rest) →
    call.callback = .onListApps → next.callback = .onListApps → Quiet mid → mid.count (.cancel token) = 1
  /-- and the last one once before the end, its token being different from that of the status call. -/
  last : ∀ before call token rest, self.trace = before ++ .call call (some token) :: rest →
    call.callback = .onListApps → Quiet rest → token ≠ self.session.sam.statusCall →
    (rest ++ destruction).count (.cancel token) = 1
  /-- Nothing is opened in the end. -/
  closing : Quiet destruction

/-! ## The turns of a life -/

theorem opens_of_callback {call : LSCall} (answer : Option UInt64) (own : call.callback = .onListApps) :
    opens (.call call answer) = answer := by
  rw [opens, if_pos own]

theorem Quiet.opens_eq_none {effects : List Effect} (quiet : Quiet effects) :
    ∀ effect ∈ effects, opens effect = none := by
  intro effect member
  cases effect with
  | cancel _ | respond _ _ | post _ _ => rfl
  | call call answer =>
      cases answer with
      | none => exact ite_self none
      | some token => exact if_neg (quiet call token member)

theorem opens_of_mem_cancelOpen {token : UInt64} {effect : Effect} (member : effect ∈ cancelOpen token) :
    opens effect = none := by
  rw [(mem_cancelOpen.mp member).2, opens]

theorem turns_of_outcome {enableSession : Bool} {bus : Bus} {self sam : Sam} {handlers left : Handlers}
    {notice : Message} {effects : List Effect}
    (ended : SamOutcome enableSession bus self handlers notice sam left effects) :
    Turns opens closes (held self) effects (held sam) := by
  cases ended with
  | ignored | stayed => exact .nil _
  | subscribed _ closed =>
      rw [held, held, if_pos closed]
      cases answer : bus.answer (self.listAppsCall enableSession) with
      | none => exact .quiet (opens_of_callback _ rfl) rfl (.nil _)
      | some token =>
          rw [storeToken, Option.getD_some, if_neg (bus.nonzero answer)]
          exact .opened (opens_of_callback _ rfl) rfl (.nil _)
  | down =>
      rw [held, held, if_pos rfl, cancelOpen]
      by_cases closed : self.listApps = 0
      · rw [if_pos closed, if_neg (not_not.mpr closed)]
        exact .nil _
      · rw [if_neg closed, if_pos closed]
        exact .closed rfl rfl (.nil _)

variable {enableSession : Bool} {bus : Bus} {sessionId : String} {arrivals : List Arrival} {arrival : Arrival}
  {handlers : Handlers}

theorem after_snoc :
    Life.after enableSession bus sessionId (arrivals ++ [arrival]) =
      (Life.after enableSession bus sessionId arrivals).deliver enableSession arrival :=
  History.state_snoc _ _ _ _

theorem deliver_outcome (life : Life) :
    ∃ left effects, SamOutcome enableSession arrival.bus life.session.sam arrival.handlers arrival.notice
      (life.deliver enableSession arrival).session.sam left effects ∧
      (life.deliver enableSession arrival).trace = life.trace ++ effects :=
  ⟨_, _, sam_outcome enableSession arrival.bus life.session.sam arrival.handlers arrival.notice, rfl⟩

/-- The effects so far take turns, and the `SAM` keeps the token that is left. -/
def Life.InTurn (self : Life) : Prop := Turns opens closes none self.trace (held self.session.sam)

theorem inTurn (enableSession : Bool) (bus : Bus) (sessionId : String) (arrivals : List Arrival) :
    (Life.after enableSession bus sessionId arrivals).InTurn := by
  induction arrivals using List.reverseRecOn with
  | nil => exact .quiet rfl rfl (.nil _)
  | append_singleton arrivals arrival ih =>
      obtain ⟨left, effects, ended, trace⟩ :=
        deliver_outcome (Life.after enableSession bus sessionId arrivals)
      rw [after_snoc, Life.InTurn, trace]
      exact ih.append (turns_of_outcome ended)

theorem sessionId_eq (arrivals : List Arrival) :
    (Life.after enableSession bus sessionId arrivals).session.sam.sessionId = sessionId := by
  induction arrivals using List.reverseRecOn with
  | nil => rfl
  | append_singleton arrivals arrival ih =>
      obtain ⟨left, effects, ended, _⟩ := deliver_outcome (Life.after enableSession bus sessionId arrivals)
      rw [after_snoc, ended.sessionId_eq, ih]

/-- A token is held on only by a notification that is ignored, or by one that says connected. -/
theorem held_eq_none_of_outcome {bus : Bus} {self sam : Sam} {handlers left : Handlers} {notice : Message}
    {effects : List Effect} (ended : SamOutcome enableSession bus self handlers notice sam left effects)
    (before : clientStatus self.sessionId notice = none → held self = none)
    (down : clientStatus self.sessionId notice ≠ some true) : held sam = none := by
  cases ended with
  | ignored status => exact before status
  | subscribed status | stayed status => exact absurd status down
  | down => exact if_pos rfl

theorem accepted_snoc :
    accepted sessionId (arrivals ++ [arrival]) =
      accepted sessionId arrivals ++ (clientStatus sessionId arrival.notice).toList := by
  rw [accepted, List.filterMap_append, accepted]
  cases status : clientStatus sessionId arrival.notice <;> simp [status]

theorem held_eq_none (arrivals : List Arrival) (down : (accepted sessionId arrivals).getLast? ≠ some true) :
    held (Life.after enableSession bus sessionId arrivals).session.sam = none := by
  induction arrivals using List.reverseRecOn with
  | nil => rfl
  | append_singleton arrivals arrival ih =>
      obtain ⟨left, effects, ended, _⟩ := deliver_outcome (Life.after enableSession bus sessionId arrivals)
      rw [after_snoc]
      rw [accepted_snoc] at down
      refine held_eq_none_of_outcome ended ?_ ?_
      · rw [sessionId_eq]
        intro status
        exact ih (by simpa [status] using down)
      · rw [sessionId_eq]
        intro status
        simp [status] at down

/-! ## What is live -/

theorem mem_apps_filter {live : List LiveCall} {p : LiveCall → Bool} {entry : LiveCall} :
    entry ∈ apps (live.filter p) ↔ entry ∈ apps live ∧ p entry = true := by
  simp only [apps, List.mem_filter]
  exact and_right_comm

theorem apps_of_unopened {live : List LiveCall} {call : LSCall} {token : UInt64}
    (unopened : opens (.call call (some token)) = none) :
    apps (World.applyEffect live (.call call (some token))) = apps live := by
  have other : call.callback ≠ .onListApps := by
    intro own
    cases (opens_of_callback (some token) own).symm.trans unopened
  rw [World.applyEffect, apps, List.filter_append, apps, List.append_right_eq_self]
  simp [other]

/-- The open calls to `listApps` are the one whose token is held, if there is one. -/
theorem tokens_of_turns {before after : Option UInt64} {effects : List Effect}
    (turns : Turns opens closes before effects after) {live : List LiveCall}
    (tokens : (apps live).map LiveCall.token = before.toList) :
    (apps (effects.foldl World.applyEffect live)).map LiveCall.token = after.toList := by
  induction turns generalizing live with
  | nil => exact tokens
  | @quiet held after effect rest unopened unclosed _ ih =>
      refine ih ?_
      cases effect with
      | cancel token => cases unclosed
      | respond _ _ | post _ _ => exact tokens
      | call call answer =>
          cases answer with
          | none => exact tokens
          | some token =>
              rw [apps_of_unopened unopened]
              exact tokens
  | @opened token after effect rest start _ _ ih =>
      refine ih ?_
      cases effect with
      | cancel _ | respond _ _ | post _ _ => cases start
      | call call answer =>
          rw [opens] at start
          split at start
          next own =>
            rw [start, World.applyEffect, apps, List.filter_append, ← apps, List.map_append, tokens]
            simp [own]
          next => cases start
  | @closed token after effect rest _ stop _ ih =>
      refine ih ?_
      cases effect with
      | call _ _ | respond _ _ | post _ _ => cases stop
      | cancel given =>
          cases stop
          rw [Option.toList_none, List.map_eq_nil_iff, List.eq_nil_iff_forall_not_mem]
          intro entry member
          obtain ⟨member, different⟩ := mem_apps_filter.mp member
          have own : entry.token ∈ [token] := by
            rw [← Option.toList_some, ← tokens]
            exact List.mem_map_of_mem member
          simp [List.mem_singleton.mp own] at different

theorem length_apps_le {effects : List Effect} (unopened : ∀ effect ∈ effects, opens effect = none)
    (live : List LiveCall) : (apps (effects.foldl World.applyEffect live)).length ≤ (apps live).length := by
  induction effects generalizing live with
  | nil => exact le_rfl
  | cons effect rest ih =>
      refine (ih (fun e member => unopened e (List.mem_cons_of_mem _ member)) _).trans ?_
      have first := unopened effect List.mem_cons_self
      cases effect with
      | respond _ _ | post _ _ => exact le_rfl
      | cancel token => exact (List.filter_sublist.filter _).length_le
      | call call answer =>
          cases answer with
          | none => exact le_rfl
          | some token =>
              rw [apps_of_unopened first]

/-! ## The end of a life -/

variable {life : Life}

theorem opens_destruction {effect : Effect} (member : effect ∈ life.destruction handlers) :
    opens effect = none := by
  rw [Life.destruction, destroy_eq] at member
  rcases List.mem_append.mp member with member | member <;> exact opens_of_mem_cancelOpen member

theorem tokens_eq {trace : List Effect} {after : Option UInt64}
    (turns : Turns opens closes none trace after) :
    (liveApps trace).map LiveCall.token = after.toList :=
  tokens_of_turns turns rfl

theorem length_of_turns {trace : List Effect} {after : Option UInt64}
    (turns : Turns opens closes none trace after) : (liveApps trace).length ≤ 1 := by
  rw [← List.length_map LiveCall.token, tokens_eq turns]
  cases after <;> simp

theorem Life.InTurn.length_le (inTurn : life.InTurn) {before : List Effect}
    (up : before <+: life.trace ++ life.destruction handlers) : (liveApps before).length ≤ 1 := by
  obtain ⟨rest, whole⟩ := up
  rcases List.append_eq_append_iff.mp whole with ⟨later, trace, _⟩ | ⟨part, rfl, destroyed⟩
  · rw [Life.InTurn, trace] at inTurn
    obtain ⟨_, first, _⟩ := inTurn.split
    exact length_of_turns first
  · have unopened : ∀ effect ∈ part, opens effect = none := by
      intro effect member
      have listed : effect ∈ life.destruction handlers := by
        rw [destroyed]
        exact List.mem_append_left _ member
      exact opens_destruction listed
    rw [liveApps, List.foldl_append]
    exact (length_apps_le unopened _).trans (length_of_turns inTurn)

theorem held_eq_some {self : Sam} {token : UInt64} :
    held self = some token ↔ token ≠ 0 ∧ self.listApps = token := by
  unfold held
  split
  next closed =>
    rw [closed]
    simp [eq_comm]
  next opened =>
    rw [Option.some.injEq]
    exact ⟨fun same => ⟨same ▸ opened, same⟩, And.right⟩

theorem held_eq_none_iff {self : Sam} : held self = none ↔ self.listApps = 0 := by
  simp [held]

theorem Life.InTurn.destroyed (inTurn : life.InTurn) :
    liveApps (life.trace ++ life.destruction handlers) = [] := by
  refine List.eq_nil_iff_forall_not_mem.mpr (fun entry member => ?_)
  rw [liveApps, List.foldl_append] at member
  obtain ⟨member, own⟩ := List.mem_filter.mp member
  rcases mem_applyEffects member with ⟨before, kept⟩ | opened
  · have listed : entry.token ∈ (liveApps life.trace).map LiveCall.token :=
      List.mem_map_of_mem (List.mem_filter.mpr ⟨before, own⟩)
    rw [tokens_eq inTurn, Option.mem_toList, held_eq_some] at listed
    obtain ⟨nonzero, same⟩ := listed
    refine kept (List.mem_append_right _ (mem_cancelOpen.mpr ?_))
    rw [same]
    exact ⟨nonzero, rfl⟩
  · have never := opens_destruction opened
    rw [opens, if_pos (of_decide_eq_true own)] at never
    cases never

/-! ## How often a call is cancelled -/

theorem count_cancel (token : UInt64) (effects : List Effect) :
    effects.count (.cancel token) = Turns.closings closes token effects := by
  refine List.countP_congr (fun effect _ => ?_)
  cases effect <;> simp [closes]

theorem count_cancelOpen (token : UInt64) (nonzero : token ≠ 0) :
    (cancelOpen token).count (.cancel token) = 1 := by
  rw [cancelOpen, if_pos nonzero, List.count_singleton_self]

theorem count_cancelOpen_of_ne {token other : UInt64} (ne : token ≠ other) :
    (cancelOpen other).count (.cancel token) = 0 := by
  refine List.count_eq_zero.mpr (fun member => ?_)
  obtain ⟨_, same⟩ := mem_cancelOpen.mp member
  cases same
  exact ne rfl

theorem Life.InTurn.count_last (inTurn : life.InTurn) {before rest : List Effect} {first : Effect}
    {token : UInt64} (trace : life.trace = before ++ first :: rest) (start : opens first = some token)
    (unopened : ∀ effect ∈ rest, opens effect = none) (own : token ≠ life.session.sam.statusCall) :
    (rest ++ life.destruction handlers).count (.cancel token) = 1 := by
  rw [Life.InTurn, trace] at inTurn
  rw [List.count_append, Life.destruction, destroy_eq, List.count_append, count_cancelOpen_of_ne own,
    Nat.zero_add, count_cancel token rest]
  rcases inTurn.closings_last start unopened with ⟨empty, once⟩ | ⟨full, never⟩
  · rw [once, held_eq_none_iff.mp empty]
    rfl
  · obtain ⟨nonzero, same⟩ := held_eq_some.mp full
    rw [never, same, count_cancelOpen token nonzero]

theorem clientStatus_foreign {sessionId : String} {notice : Message} (nonempty : sessionId ≠ "")
    (foreign : notice.payload.get "sessionId" ≠ .string sessionId) :
    clientStatus sessionId notice = none := by
  have named : sessionId.isEmpty = false := by simpa using nonempty
  rw [clientStatus]
  split
  · rfl
  · rcases getValue bool notice.payload "connected" false with ⟨_ | _, connected⟩
    · rfl
    · rcases given : getValue string notice.payload "sessionId" "" with ⟨_ | _, text⟩
      · simp [named]
      · have other : text ≠ sessionId := by
          rintro rfl
          exact foreign ((getValue_string_eq_true "").mp given)
        simp [named, other]

/-- However a session is notified and the bus answers, it has one `listApps`
    subscription at a time and gives up each that it had; notifications that are
    not for its session change nothing. -/
theorem one_subscription (enableSession : Bool) (bus : Bus) (sessionId : String) (arrivals : List Arrival)
    (handlers : Handlers) :
    OneSubscription (accepted sessionId arrivals) (Life.after enableSession bus sessionId arrivals)
        ((Life.after enableSession bus sessionId arrivals).destruction handlers) ∧
      ∀ (self : Sam) (arrival : Arrival), self.sessionId ≠ "" →
        arrival.notice.payload.get "sessionId" ≠ .string self.sessionId →
        self.onStatus enableSession arrival.bus arrival.handlers arrival.notice =
            (self, arrival.handlers, []) := by
  have life := inTurn enableSession bus sessionId arrivals
  refine ⟨⟨fun before up => life.length_le up, fun down => ?_, life.destroyed, ?_, ?_, ?_⟩, ?_⟩
  · rw [← List.map_eq_nil_iff, tokens_eq life, held_eq_none arrivals down, Option.toList_none]
  · intro before call token mid next other rest trace own again quiet
    rw [count_cancel]
    rw [Life.InTurn, trace] at life
    refine life.closings_between (opens_of_callback _ own) ?_ quiet.opens_eq_none
    rw [opens_of_callback _ again, Option.isSome_some]
  · intro before call token rest trace own quiet different
    exact life.count_last trace (opens_of_callback _ own) quiet.opens_eq_none different
  · intro call token member own
    cases (opens_of_callback (some token) own).symm.trans (opens_destruction member)
  · intro self arrival nonempty foreign
    rw [Sam.onStatus, clientStatus_foreign nonempty foreign]

/-- Up, up again, down, and a notification for another session: one call, cancelled once. -/
example :
    let arrival (connected : Bool) (sessionId : String) : Arrival :=
      ⟨Sample.status connected sessionId, Sample.bus 10 20 Sample.first_tokens, ∅⟩
    (Life.after true (Sample.bus 10 20 Sample.first_tokens) "a"
        [arrival true "a", arrival true "a", arrival false "a", arrival true "b"]).trace.filterMap
      (fun effect => (opens effect).or (closes effect)) = [5, 5] := by
  decide

/-! ## The sessions of a run -/

/-- Every session is one that was built under its id and notified since. -/
def Lived (enableSession : Bool) (sessions : OrderedMap String Session) : Prop :=
  ∀ s session, sessions.find? s = some session →
    ∃ bus arrivals, session = (Life.after enableSession bus s arrivals).session

theorem lived_empty : Lived enableSession ∅ := by
  intro s session found
  simp at found

theorem Lived.insert {sessions : OrderedMap String Session} (lived : Lived enableSession sessions)
    (s : String) (bus : Bus) (arrivals : List Arrival) :
    Lived enableSession (sessions.insert s (Life.after enableSession bus s arrivals).session) := by
  intro t session found
  rw [OrderedMap.find?_insert] at found
  split at found
  next same =>
    cases found
    exact ⟨bus, arrivals, by rw [same]⟩
  next => exact lived t session found

theorem isRunning_after (arrivals : List Arrival) :
    (Life.after enableSession bus sessionId arrivals).session.isRunning = true := by
  induction arrivals using List.reverseRecOn with
  | nil => rfl
  | append_singleton arrivals arrival ih =>
      rw [after_snoc]
      exact ih

theorem Lived.kept {sessions : OrderedMap String Session} (lived : Lived enableSession sessions) (bus : Bus)
    (items : List JValue) : Lived enableSession (keptSessions bus sessions items) := by
  intro s session found
  rw [keptSessions_find?] at found
  split at found
  · cases found
    cases known : sessions.find? s with
    | none => exact ⟨bus, [], rfl⟩
    | some old =>
        obtain ⟨built, arrivals, rfl⟩ := lived s old known
        refine ⟨built, arrivals, ?_⟩
        rw [Option.getD_some, ← isRunning_after arrivals]
  · cases found

theorem sam_eq_onStatus {bus : Bus} {self sam : Sam} {left : Handlers} {notice : Message}
    {effects : List Effect} (ended : SamOutcome enableSession bus self handlers notice sam left effects) :
    sam = (self.onStatus enableSession bus handlers notice).1 := by
  cases ended with
  | ignored status => rw [Sam.onStatus, status]
  | down status =>
      rw [Sam.onStatus, status]
      rfl
  | subscribed status closed =>
      simp only [Sam.onStatus, status, Sam.onServerStatusChanged, closed, if_true]
      rfl
  | stayed status opened => simp [Sam.onStatus, status, Sam.onServerStatusChanged, opened]

theorem lived_of_change {self : Service} {e : Event} {account : Account} {effects : List Effect}
    (change : ClientsChange enableSession self e account handlers effects)
    (lived : Lived enableSession self.account.sessions) : Lived enableSession account.sessions := by
  cases change with
  | other | apps => exact lived
  | account ended =>
      cases ended with
      | ignored => exact lived
      | up | down => exact lived_empty
  | sync ended =>
      cases ended with
      | ignored => exact lived
      | synced => exact lived.kept _ _
  | @sam s notice bus session sam _ _ known ended =>
      obtain ⟨built, arrivals, rfl⟩ := lived s session known
      have last := lived.insert s built (arrivals ++ [⟨notice, bus, self.handlers⟩])
      rw [after_snoc] at last
      rw [sam_eq_onStatus ended]
      exact last

/-- So what holds of every life holds of every session of every run. -/
theorem sessions_lived (setup : Setup) (history : List Event) :
    Lived setup.enableSession (setup.service history).account.sessions := by
  induction history using List.reverseRecOn with
  | nil =>
      rcases setup with ⟨_ | _, bus, database⟩
      · exact lived_empty.insert "" bus []
      · exact lived_empty
  | append_singleton history e ih => exact lived_of_change (clients_snoc setup history e) ih

end IntentService.Subscription
