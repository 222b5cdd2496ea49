import IntentService.Steps

/-! # Where a stored intent comes from

Every stored intent is kept under its own id, was stored by one `start` of the
run and has only gained subscribers since. The objects are numbered as they are
built, so an object identifies the `start`, is stored under at most one id, and
never comes back once it left the store.
-/

namespace IntentService

open History JValueUtil

/-- `y` is `x` with the subscribers that joined since. -/
def Grown (x y : Intent) : Prop := ∃ more, y = { x with subscribers := x.subscribers ++ more }

namespace Grown

variable {x y z : Intent}

theorem refl (x : Intent) : Grown x x := ⟨[], by simp⟩

theorem trans (first : Grown x y) (second : Grown y z) : Grown x z := by
  obtain ⟨more, rfl⟩ := first
  obtain ⟨rest, rfl⟩ := second
  exact ⟨more ++ rest, by simp⟩

theorem addSubscriber (x : Intent) (request : Nat) : Grown x (x.addSubscriber request) := ⟨[request], rfl⟩

theorem intentId_eq (grown : Grown x y) : y.intentId = x.intentId := by
  obtain ⟨_, rfl⟩ := grown
  rfl

theorem object_eq (grown : Grown x y) : y.object = x.object := by
  obtain ⟨_, rfl⟩ := grown
  rfl

theorem owner_eq (grown : Grown x y) : y.owner = x.owner := by
  obtain ⟨_, rfl⟩ := grown
  rfl

theorem token_eq (grown : Grown x y) : y.token = x.token := by
  obtain ⟨_, rfl⟩ := grown
  rfl

end Grown

/-! ## One event -/

theorem IntentsChange.stored {enableSession : Bool} {self : Service} {e : Event} {after : Intents}
    {posted : List Post} (change : IntentsChange enableSession self e after posted) {i : Int} {y : Intent}
    (found : after.find? i = some y) :
    self.intents.find? i = some y ∨
      (∃ request x, e = .subscribeResult request ∧
        getValue int request.payload "intentId" (-1) = (true, i) ∧ self.intents.find? i = some x ∧
        request.isSubscription = true ∧ y = x.addSubscriber request.id) ∨
      ∃ request bus token, e = .start request bus ∧ y.intentId = i ∧
        Started enableSession self request bus token y := by
  cases change with
  | same => exact .inl found
  | started start =>
      rw [Intents.add, OrderedMap.find?_insert] at found
      split at found
      next key =>
        cases found
        exact .inr (.inr ⟨_, _, _, rfl, key.symm, start⟩)
      next => exact .inl found
  | joined named stored subscription =>
      rw [OrderedMap.find?_insert] at found
      split at found
      next key =>
        cases found
        exact .inr (.inl ⟨_, _, rfl, key ▸ named, key ▸ stored, subscription, rfl⟩)
      next => exact .inl found
  | answered => exact .inl found
  | failed =>
      rw [OrderedMap.find?_erase] at found
      split at found
      · cases found
      · exact .inl found
  | departed => exact .inl ((Intents.find?_removeByOwner _ _ _ _).mp found).1

theorem IntentsChange.grown {enableSession : Bool} {self : Service} {e : Event} {after : Intents}
    {posted : List Post} (change : IntentsChange enableSession self e after posted) {i : Int} {y : Intent}
    (found : after.find? i = some y) :
    (∃ x, self.intents.find? i = some x ∧ Grown x y) ∨
      ∃ request bus token, e = .start request bus ∧ y.intentId = i ∧
        Started enableSession self request bus token y := by
  rcases change.stored found with before | ⟨request, x, _, _, before, _, rfl⟩ | started
  · exact .inl ⟨y, before, .refl y⟩
  · exact .inl ⟨x, before, .addSubscriber x request.id⟩
  · exact .inr started

theorem StartOutcome.built_eq {enableSession : Bool} {bus : Bus} {self after : Service}
    {request : Message} {effects : List Effect}
    (ended : StartOutcome enableSession bus self request after effects) :
    after.objects = self.objects + 1 ∧ after.counter = Intent.nextId self.counter := by
  cases ended <;> exact ⟨rfl, rfl⟩

theorem SubscribeOutcome.built_eq {self after : Service} {request : Message} {effects : List Effect}
    (ended : SubscribeOutcome self request after effects) :
    after.objects = self.objects ∧ after.counter = self.counter := by
  cases ended <;> exact ⟨rfl, rfl⟩

/-- The requests that build an intent. -/
def Event.builds : Event → Bool
  | .query _ | .start _ _ => true
  | _ => false

theorem dispatch_built (enableSession : Bool) (self : Service) (e : Event) :
    (self.dispatch enableSession e).1.objects = (if e.builds then self.objects + 1 else self.objects) ∧
      (self.dispatch enableSession e).1.counter =
        if e.builds then Intent.nextId self.counter else self.counter := by
  cases e with
  | query request =>
      rw [Service.dispatch, (query_eq enableSession self request).1]
      exact ⟨rfl, rfl⟩
  | start request bus => exact (start_outcome enableSession bus self request).built_eq
  | sendResult request =>
      rw [Service.dispatch, send_state]
      exact ⟨rfl, rfl⟩
  | subscribeResult request => exact (subscribe_outcome self request).built_eq
  | ownerStatus notice =>
      simp only [Service.dispatch, IntentManager.onServerStatusChanged, Event.builds, Bool.false_eq_true,
        if_false]
      split <;> exact ⟨rfl, rfl⟩
  | samStatus sessionId notice bus =>
      simp only [Service.dispatch, Event.builds, Bool.false_eq_true, if_false]
      split <;> exact ⟨rfl, rfl⟩
  | onLaunch _ | accountStatus _ _ | onGetSessions _ _ | onListApps _ | disconnect _ _ => exact ⟨rfl, rfl⟩

/-! ## Along a run -/

variable (setup : Setup)

theorem change_snoc (history : List Event) (e : Event) :
    IntentsChange setup.enableSession (setup.service history) e (setup.intents (history ++ [e]))
      (posts (setup.effects history e)) := by
  rw [Setup.intents, Setup.service_snoc]
  exact dispatch_intents setup.enableSession (setup.service history) e

section Started

variable {setup} {history : List Event} {request : Message} {bus : Bus} {token : UInt64} {x : Intent}

theorem intents_started (start : Started setup.enableSession (setup.service history) request bus token x) :
    setup.intents (history ++ [.start request bus]) = (setup.intents history).add x := by
  rw [Setup.intents, Setup.service_snoc, Service.dispatch, start.intents_eq]
  rfl

theorem stored_started (start : Started setup.enableSession (setup.service history) request bus token x) :
    (setup.intents (history ++ [.start request bus])).find? x.intentId = some x := by
  rw [intents_started start]
  exact OrderedMap.find?_insert_self _ _ _

theorem effects_started (start : Started setup.enableSession (setup.service history) request bus token x) :
    ∃ call payload, call.callback = .onLaunch ∧
      setup.effects history (.start request bus) =
        [.call call (some token),
          IntentManager.subscribeStatus bus x.owner (getSessionId setup.enableSession request),
          .respond request.id payload] := by
  obtain ⟨call, intent, launch, _, same⟩ := start.start_eq
  rw [start.owner_eq]
  exact ⟨call, _, launch, congrArg Prod.snd same⟩

theorem cancel_not_mem_started
    (start : Started setup.enableSession (setup.service history) request bus token x) (cancelled : UInt64) :
    .cancel cancelled ∉ setup.effects history (.start request bus) := by
  obtain ⟨call, payload, _, effects⟩ := effects_started start
  simp [effects, IntentManager.subscribeStatus]

end Started

theorem objects_eq_countP (history : List Event) :
    (setup.service history).objects = history.countP Event.builds := by
  induction history using List.reverseRecOn with
  | nil => rfl
  | append_singleton history e ih =>
      rw [Setup.service_snoc, (dispatch_built _ _ _).1, ih, List.countP_append, List.countP_singleton]
      split <;> rfl

theorem objects_lt_of_start (before : List Event) (request : Message) (bus : Bus) (since : List Event) :
    (setup.service before).objects < (setup.service (before ++ .start request bus :: since)).objects := by
  rw [objects_eq_countP, objects_eq_countP, List.countP_append, List.countP_cons_of_pos rfl]
  omega

/-- The number of the object says which `start` of a run built it. -/
theorem start_eq_of_object {before since before' since' : List Event} {request request' : Message}
    {bus bus' : Bus}
    (split : before ++ .start request bus :: since = before' ++ .start request' bus' :: since')
    (object : (setup.service before).objects = (setup.service before').objects) :
    before = before' ∧ request = request' ∧ bus = bus' ∧ since = since' := by
  rcases split_cases split with ⟨rfl, same, rfl⟩ | ⟨mid, rfl, _⟩ | ⟨mid, rfl, _⟩
  · cases same
    exact ⟨rfl, rfl, rfl, rfl⟩
  · exact absurd object (objects_lt_of_start setup before request bus mid).ne
  · exact absurd object (objects_lt_of_start setup before' request' bus' mid).ne'

/-- The `start` behind an intent that is stored after a history. -/
structure Origin (history : List Event) (y : Intent) where
  before : List Event
  request : Message
  bus : Bus
  since : List Event
  token : UInt64
  stored : Intent
  split : history = before ++ .start request bus :: since
  start : Started setup.enableSession (setup.service before) request bus token stored
  grown : Grown stored y

namespace Origin

variable {setup} {history : List Event} {x y : Intent}

/-- The `start` itself stores the intent first. -/
def started {request : Message} {bus : Bus} {token : UInt64}
    (start : Started setup.enableSession (setup.service history) request bus token x) :
    Origin setup (history ++ [.start request bus]) x :=
  ⟨history, request, bus, [], token, x, rfl, start, .refl x⟩

/-- The same `start`, seen from later on. -/
def later {whole : List Event} (origin : Origin setup history x) (grown : Grown x y) (more : List Event)
    (longer : whole = history ++ more) : Origin setup whole y :=
  { origin with
    since := origin.since ++ more
    split := longer.trans ((congrArg (· ++ more) origin.split).trans (List.append_assoc _ _ _))
    grown := origin.grown.trans grown }

theorem object_eq (origin : Origin setup history y) :
    y.object = (setup.service origin.before).objects :=
  origin.grown.object_eq.trans origin.start.object_eq

theorem owner_eq (origin : Origin setup history y) : y.owner = getName origin.request :=
  origin.grown.owner_eq.trans origin.start.owner_eq

theorem token_eq (origin : Origin setup history y) : y.token = toInt origin.token :=
  origin.grown.token_eq.trans origin.start.token_eq

theorem stored_eq (origin : Origin setup history x) (other : Origin setup history y)
    (same : x.object = y.object) :
    origin.before = other.before ∧ origin.request = other.request ∧ origin.token = other.token ∧
      origin.stored = other.stored := by
  have object : (setup.service origin.before).objects = (setup.service other.before).objects := by
    rw [← origin.object_eq, ← other.object_eq, same]
  obtain ⟨before, request, bus, _⟩ :=
    start_eq_of_object setup (origin.split.symm.trans other.split) object
  have start := other.start
  rw [← before, ← request, ← bus] at start
  exact ⟨before, request, origin.start.unique start⟩

end Origin

/-- Every stored intent is kept under its id and has an origin. -/
theorem stored_origin (history : List Event) {i : Int} {y : Intent}
    (found : (setup.intents history).find? i = some y) :
    y.intentId = i ∧ Nonempty (Origin setup history y) := by
  induction history using List.reverseRecOn generalizing i y with
  | nil => simp at found
  | append_singleton history e ih =>
      rcases (change_snoc setup history e).grown found with
        ⟨x, before, grown⟩ | ⟨request, bus, token, rfl, key, start⟩
      · obtain ⟨key, ⟨origin⟩⟩ := ih before
        exact ⟨grown.intentId_eq.trans key, ⟨origin.later grown [e] rfl⟩⟩
      · exact ⟨key, ⟨.started start⟩⟩

theorem stored_eq_of_object (history : List Event) {i j : Int} {x y : Intent}
    (foundX : (setup.intents history).find? i = some x) (foundY : (setup.intents history).find? j = some y)
    (same : x.object = y.object) : i = j ∧ x = y := by
  obtain ⟨keyX, ⟨originX⟩⟩ := stored_origin setup history foundX
  obtain ⟨keyY, ⟨originY⟩⟩ := stored_origin setup history foundY
  have stored := (originX.stored_eq originY same).2.2.2
  have key : i = j := by
    rw [← keyX, ← keyY, originX.grown.intentId_eq, originY.grown.intentId_eq, stored]
  subst key
  exact ⟨rfl, Option.some.inj (foundX.symm.trans foundY)⟩

/-- The object is stored, under whatever id. -/
def Holds (history : List Event) (object : Nat) : Prop :=
  ∃ i x, (setup.intents history).find? i = some x ∧ x.object = object

theorem holds_snoc {history : List Event} {e : Event} {object : Nat}
    (built : object < (setup.service history).objects) (holds : Holds setup (history ++ [e]) object) :
    Holds setup history object := by
  obtain ⟨i, y, found, rfl⟩ := holds
  rcases (change_snoc setup history e).grown found with
    ⟨x, before, grown⟩ | ⟨_, _, _, _, _, start⟩
  · exact ⟨i, x, before, grown.object_eq.symm⟩
  · rw [start.object_eq] at built
    exact absurd built (lt_irrefl _)

end IntentService
