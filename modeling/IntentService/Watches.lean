import IntentService.Origin
import IntentService.Sessions

/-! # Which stored intents are watched

Each `start` opens a watch on its requester and forgets the token, so the only
thing that can close it is a notice that an owner left. Its handler removes the
intents of that owner, and cancels the token of the notice's own message, where
`SAM::onLaunch` takes the one the reply is for. So an intent of somebody else may
lose its watch.
-/

namespace IntentService.Watches

open History JValueUtil

variable (setup : Setup)

/-! ## Tokens the bus gave -/

/-- The calls the process makes before the main loop. -/
def initialEffects : List Effect := (({} : Account).onInitialization setup.enableSession setup.bus).2

/-- The bus accepted the call with the token. -/
def Given (history : List Event) (token : UInt64) (call : LSCall) : Prop :=
  .call call (some token) ∈ initialEffects setup ∨
    Once (fun pre e => .call call (some token) ∈ setup.effects pre e) history

/-- The bus gives a token to one call. -/
def Fresh (history : List Event) (e : Event) : Prop :=
  ∀ call token, .call call (some token) ∈ setup.effects history e →
    (∀ other, ¬ Given setup history token other) ∧
      ∀ other, .call other (some token) ∈ setup.effects history e → other = call

variable {setup}

theorem given_snoc {history : List Event} {e : Event} {token : UInt64} {call : LSCall} :
    Given setup (history ++ [e]) token call ↔
      Given setup history token call ∨ .call call (some token) ∈ setup.effects history e := by
  rw [Given, once_snoc, ← or_assoc, ← Given]

theorem initialEffects_eq (setup : Setup) : ∃ call answer, initialEffects setup = [.call call answer] ∧
    ¬ call.callback.ofStart := by
  rcases setup with ⟨_ | _, bus, database⟩
  · exact ⟨sessionCall "", _, rfl, sessionCall_not_ofStart ""⟩
  · exact ⟨clientStatusCall Account.serviceName "" .account, _, rfl,
      by simp [Callback.ofStart, clientStatusCall]⟩

theorem given_once {history : List Event} (fresh : Historically (Fresh setup) history) {token : UInt64}
    {call other : LSCall} (given : Given setup history token call) (again : Given setup history token other) :
    call = other := by
  induction history using List.reverseRecOn with
  | nil =>
      obtain ⟨single, answer, initial, _⟩ := initialEffects_eq setup
      simp only [Given, initial, once_nil, or_false, List.mem_singleton, Effect.call.injEq] at given again
      rw [given.1, again.1]
  | append_singleton history e ih =>
      obtain ⟨earlier, last⟩ := historically_snoc.mp fresh
      rcases given_snoc.mp given with given | given <;> rcases given_snoc.mp again with again | again
      · exact ih earlier given again
      · exact absurd given ((last other token again).1 call)
      · exact absurd again ((last call token given).1 other)
      · exact (last other token again).2 call given

/-- The token of an accepted call. -/
def accepted : Effect → Option UInt64
  | .call _ answer => answer
  | .cancel _ | .respond _ _ | .post _ _ => none

/-- Along a run that is known it is enough that no token is given out twice. -/
theorem fresh_of_nodup {history : List Event}
    (once : ((initialEffects setup ++ emitted setup.effects [] history).filterMap accepted).Nodup) :
    Historically (Fresh setup) history := by
  rintro pre e post rfl call token made
  simp only [emitted_append, emitted, List.nil_append, ← List.append_assoc] at once
  rw [List.filterMap_append, List.filterMap_append] at once
  obtain ⟨_, now, apart⟩ := List.nodup_append.mp once.of_append_left
  have answered {call : LSCall} {effects : List Effect} (made : .call call (some token) ∈ effects) :
      token ∈ effects.filterMap accepted := List.mem_filterMap.mpr ⟨_, made, rfl⟩
  constructor
  · intro other given
    rw [Given, once_iff_mem_emitted, ← List.mem_append] at given
    exact apart token (answered given) token (answered made) rfl
  · intro other again
    obtain ⟨first, rest, split⟩ := List.append_of_mem made
    have head : accepted (.call call (some token)) = some token := rfl
    rw [split, List.filterMap_append, List.filterMap_cons_some head, List.nodup_middle,
      ← List.filterMap_append, List.nodup_cons] at now
    rw [split, List.mem_append, List.mem_cons, or_left_comm, ← List.mem_append] at again
    rcases again with same | again
    · cases same
      rfl
    · exact absurd (answered again) now.1

theorem live_given (history : List Event) {entry : LiveCall} (live : entry ∈ (setup.after history).live) :
    Given setup history entry.token entry.call := by
  induction history using List.reverseRecOn with
  | nil =>
      exact .inl (mem_applyEffects_nil live)
  | append_singleton history e ih =>
      rw [Setup.live_snoc] at live
      rw [given_snoc]
      rcases mem_applyEffects live with ⟨before, _⟩ | made
      · exact .inl (ih (mem_receive before))
      · exact .inr made

theorem initial_holds {token : UInt64} (holds : (setup.service []).account.Holds token) :
    Opens (initialEffects setup) token := by
  obtain ⟨nonzero, held⟩ := holds
  rcases setup with ⟨_ | _, bus, database⟩
  · rcases held with held | ⟨s, session, found, held⟩
    · exact absurd held nonzero
    · change ((∅ : OrderedMap String Session).insert "" (Session.new bus "").1).find? s =
        some session at found
      rw [OrderedMap.find?_insert] at found
      split at found
      · cases found
        rcases held with held | held
        · exact .of_stored held nonzero (List.mem_singleton_self _) (sessionCall_not_ofStart "")
        · exact absurd held nonzero
      · cases found
  · rcases held with held | ⟨s, session, found, _⟩
    · exact absurd held nonzero
    · cases found

theorem holds_given (history : List Event) {token : UInt64}
    (holds : (setup.service history).account.Holds token) :
    ∃ call, Given setup history token call ∧ ¬ call.callback.ofStart := by
  induction history using List.reverseRecOn with
  | nil =>
      obtain ⟨call, made, own⟩ := initial_holds holds
      exact ⟨call, .inl made, own⟩
  | append_singleton history e ih =>
      rcases (clients_snoc setup history e).holds holds with before | ⟨call, made, own⟩
      · obtain ⟨call, given, own⟩ := ih before
        exact ⟨call, given_snoc.mpr (.inl given), own⟩
      · exact ⟨call, given_snoc.mpr (.inr made), own⟩

section Open

variable {history : List Event} {e : Event}

/-- An open call of `start` is cancelled by nothing but a notice whose message has its token. -/
theorem cancels_of_cancel (fresh : Historically (Fresh setup) history) {entry : LiveCall}
    (own : entry.call.callback.ofStart) (live : entry ∈ (setup.after history).live)
    (cancel : .cancel entry.token ∈ setup.effects history e) : e.Cancels entry.token := by
  refine ((clients_snoc setup history e).cancels cancel).resolve_left ?_
  intro held
  obtain ⟨other, given, others⟩ := holds_given history held
  rw [given_once fresh given (live_given history live)] at others
  exact others own

theorem watch_snoc (fresh : Historically (Fresh setup) history) {entry : LiveCall}
    (watch : entry.call.callback = .ownerStatus) (live : entry ∈ (setup.after history).live)
    (spared : ¬ e.Cancels entry.token) : entry ∈ (setup.after (history ++ [e])).live := by
  rw [Setup.live_snoc]
  refine mem_applyEffects_of_live (mem_receive_of_live live ?_) ?_
  · intro _ _ launch
    cases watch.symm.trans launch
  · intro cancel
    exact spared (cancels_of_cancel fresh (.inr watch) live cancel)

end Open

/-! ## Watches on the owners -/

variable (setup)

/-- What the bus does for the watches of `start`. -/
structure WatchBus (history : List Event) (e : Event) : Prop where
  /-- A watch that is asked for is opened. -/
  accepts : ∀ call answer, .call call answer ∈ setup.effects history e → call.callback = .ownerStatus →
    answer ≠ none
  /-- A token is given to one call. -/
  fresh : Fresh setup history e

/-- A notice on an open watch is about the service that is watched. -/
def NamesWatched (history : List Event) (e : Event) : Prop :=
  ∀ notice name entry, e = .ownerStatus notice → IntentManager.departed notice = some name →
    entry ∈ (setup.after history).live → entry.token = notice.responseToken →
    ∃ sessionId, entry.call = IntentManager.statusCall name sessionId

/-- Every stored intent has an open watch on its owner in the session its
    `start` came from. -/
def Watched (history : List Event) : Prop :=
  ∀ i x, (setup.intents history).find? i = some x → ∃ origin : Origin setup history x,
    ∃ entry ∈ (setup.after history).live, entry.call = IntentManager.statusCall x.owner
      (getSessionId setup.enableSession origin.request)

/-- Throughout a run each stored intent is watched, and a notice that a service
    left leaves no intent of it behind. -/
structure AlwaysWatched (history : List Event) : Prop where
  watched : ∀ pre post, history = pre ++ post → Watched setup pre
  gone : ∀ pre notice post name, history = pre ++ .ownerStatus notice :: post →
    IntentManager.departed notice = some name →
    ∀ i x, (setup.intents (pre ++ [.ownerStatus notice])).find? i = some x → x.owner ≠ name

/-- The token of a notice's own message is not that of the only watch of an intent
    the notice is not about. -/
def Spared (history : List Event) (e : Event) : Prop :=
  ∀ notice name i x (origin : Origin setup history x) entry, e = .ownerStatus notice →
    IntentManager.departed notice = some name → (setup.intents history).find? i = some x → x.owner ≠ name →
    entry ∈ (setup.after history).live →
    entry.call = IntentManager.statusCall x.owner (getSessionId setup.enableSession origin.request) →
    entry.token = notice.messageToken →
    ∃ other ∈ (setup.after history).live, other.call = entry.call ∧ other.token ≠ notice.messageToken

variable {setup}

theorem statusCall_serviceName (name sessionId : String) :
    (IntentManager.statusCall name sessionId).payload.get "serviceName" = .string name := by
  unfold IntentManager.statusCall
  dsimp only
  split <;> rfl

theorem watched_started {history : List Event} {request : Message} {bus : Bus} {token : UInt64} {x : Intent}
    (accepts : ∀ call answer, .call call answer ∈ setup.effects history (.start request bus) →
      call.callback = .ownerStatus → answer ≠ none)
    (start : Started setup.enableSession (setup.service history) request bus token x) :
    ∃ entry ∈ (setup.after (history ++ [.start request bus])).live,
      entry.call = IntentManager.statusCall x.owner (getSessionId setup.enableSession request) := by
  obtain ⟨launch, reply, _, effects⟩ := effects_started start
  have watch : .call (IntentManager.statusCall x.owner (getSessionId setup.enableSession request))
      (bus.answer (IntentManager.statusCall x.owner (getSessionId setup.enableSession request))) ∈
        setup.effects history (.start request bus) := by
    rw [effects]
    exact .tail _ (.head _)
  have answered := accepts _ _ watch rfl
  rw [Option.ne_none_iff_exists'] at answered
  obtain ⟨given, answered⟩ := answered
  rw [answered] at watch
  refine ⟨⟨given, _⟩, ?_, rfl⟩
  rw [Setup.live_snoc]
  exact mem_applyEffects_of_call watch (cancel_not_mem_started start _)

theorem ownerStatus_snoc {history : List Event} {notice : Message} {name : String}
    (left : IntentManager.departed notice = some name) :
    setup.intents (history ++ [.ownerStatus notice]) = (setup.intents history).removeByOwner name := by
  rw [Setup.intents, Setup.service_snoc, Service.dispatch, IntentManager.onServerStatusChanged, left]
  rfl

theorem gone_after_notice {history : List Event} {notice : Message} {name : String}
    (left : IntentManager.departed notice = some name) {i : Int} {x : Intent}
    (stored : (setup.intents (history ++ [.ownerStatus notice])).find? i = some x) : x.owner ≠ name := by
  rw [ownerStatus_snoc left] at stored
  exact ((Intents.find?_removeByOwner _ _ _ _).mp stored).2

section Step

variable {history : List Event} {e : Event}

/-- An intent that stays keeps a watch: the one it had, or another one. -/
theorem watched_kept (fresh : Historically (Fresh setup) history) (spared : Spared setup history e) {i : Int}
    {x y : Intent} (before : (setup.intents history).find? i = some x) (grown : Grown x y)
    (stored : (setup.intents (history ++ [e])).find? i = some y) (origin : Origin setup history x)
    {entry : LiveCall} (live : entry ∈ (setup.after history).live)
    (watch : entry.call =
      IntentManager.statusCall x.owner (getSessionId setup.enableSession origin.request)) :
    ∃ kept ∈ (setup.after (history ++ [e])).live, kept.call = entry.call := by
  have callback : entry.call.callback = .ownerStatus := watch ▸ rfl
  by_cases cancels : e.Cancels entry.token
  · obtain ⟨notice, name, rfl, left, token⟩ := cancels
    have foreign : x.owner ≠ name := grown.owner_eq ▸ gone_after_notice left stored
    obtain ⟨other, stillLive, same, differs⟩ :=
      spared notice name i x origin entry rfl left before foreign live watch token.symm
    refine ⟨other, watch_snoc fresh (same ▸ callback) stillLive ?_, same⟩
    rintro ⟨_, _, ⟨⟩, _, again⟩
    exact differs again.symm
  · exact ⟨entry, watch_snoc fresh callback live cancels, rfl⟩

theorem watched_snoc (bus : Historically (WatchBus setup) history) (last : WatchBus setup history e)
    (spared : Spared setup history e) (watched : Watched setup history) : Watched setup (history ++ [e]) := by
  intro i y stored
  rcases (change_snoc setup history e).grown stored with
    ⟨x, before, grown⟩ | ⟨request, answers, token, rfl, _, start⟩
  · obtain ⟨origin, entry, live, watch⟩ := watched i x before
    obtain ⟨kept, stillLive, same⟩ :=
      watched_kept (bus.mono (fun _ _ given => given.fresh)) spared before grown stored origin live watch
    refine ⟨origin.later grown [e] rfl, kept, stillLive, ?_⟩
    rw [same, watch, grown.owner_eq]
    rfl
  · exact ⟨.started start, watched_started last.accepts start⟩

/-- An intent that a notice leaves watched had a watch with another token. -/
theorem spared_of_watched (watched : Watched setup (history ++ [e])) : Spared setup history e := by
  rintro notice name i x origin entry rfl left stored foreign _ watch _
  have stays : (setup.intents (history ++ [.ownerStatus notice])).find? i = some x := by
    rw [ownerStatus_snoc left]
    exact (Intents.find?_removeByOwner _ _ _ _).mpr ⟨stored, foreign⟩
  obtain ⟨again, other, live, same⟩ := watched i x stays
  -- one object has one origin, so the watch is in the same session
  rw [((origin.later (.refl x) [.ownerStatus notice] rfl).stored_eq again rfl).2.1.symm] at same
  have cancels : Event.Cancels (.ownerStatus notice) notice.messageToken := ⟨notice, name, rfl, left, rfl⟩
  rw [Setup.live_snoc] at live
  rcases mem_applyEffects live with ⟨before, uncancelled⟩ | made
  · rw [effects_of_cancels setup history cancels] at uncancelled
    refine ⟨other, before, same.trans watch.symm, ?_⟩
    intro token
    exact uncancelled (token ▸ List.mem_singleton_self _)
  · rw [effects_of_cancels setup history cancels] at made
    cases List.mem_singleton.mp made

end Step

theorem watched_of_bus {history : List Event} (bus : Historically (WatchBus setup) history)
    (spared : Historically (Spared setup) history) : Watched setup history := by
  refine invariant (Watched setup) ?_ ?_ (bus.and spared)
  · intro i x stored
    simp at stored
  · intro history e earlier last ih
    exact watched_snoc (earlier.mono (fun _ _ both => both.1)) last.1 last.2 ih

variable (setup)

/-- On a bus that opens the watches that are asked for, every stored intent is
    watched along exactly the runs whose notices spare the watches of others. -/
theorem alwaysWatched_iff_spared (history : List Event) (bus : Historically (WatchBus setup) history) :
    AlwaysWatched setup history ↔ Historically (Spared setup) history := by
  constructor
  · rintro ⟨watched, _⟩ pre e post rfl
    exact spared_of_watched (watched (pre ++ [e]) post (List.append_cons _ _ _))
  · intro spared
    refine ⟨?_, fun _ _ _ _ _ left _ _ stored => gone_after_notice left stored⟩
    rintro pre post rfl
    exact watched_of_bus bus.of_append spared.of_append

/-! ## Two owners -/

/-- The bus did not open a watch. -/
def refusesWatch : Effect → Bool
  | .call call none => call.callback == .ownerStatus
  | .call _ (some _) | .cancel _ | .respond _ _ | .post _ _ => false

variable {setup} in
/-- Along a run that is known the bus can be read off what was put out. -/
theorem watchBus_of_emitted {history : List Event}
    (opened : ∀ effect ∈ emitted setup.effects [] history, refusesWatch effect = false)
    (once : ((initialEffects setup ++ emitted setup.effects [] history).filterMap accepted).Nodup) :
    Historically (WatchBus setup) history := by
  intro pre e post split
  refine ⟨?_, fresh_of_nodup once pre e post split⟩
  rintro call answer made watch rfl
  have answered := opened _ (once_iff_mem_emitted.mp ⟨pre, e, post, split, made⟩)
  rw [refusesWatch, watch] at answered
  cases answered

/-- Two clients start intents, and one of them leaves: the notice comes on watch 20. -/
def firstLeaves (messageToken : UInt64) : List Event :=
  [Sample.up, Sample.listed, Sample.start 1 "first" 10 20 Sample.first_tokens,
    Sample.start 2 "second" 11 21 Sample.second_tokens, .disconnect "first" "",
    .ownerStatus (Notice.message ⟨20, "first"⟩ messageToken)]

theorem firstLeaves_watched :
    AlwaysWatched Sample.host (firstLeaves 77) ↔ Historically (Spared Sample.host) (firstLeaves 77) :=
  alwaysWatched_iff_spared Sample.host (firstLeaves 77) (watchBus_of_emitted (by decide) (by decide))

/-- The notice has the token of the other client's watch, and that one is closed. -/
theorem notice_closes_other_watch :
    Historically (WatchBus Sample.host) (firstLeaves 21) ∧
      Historically (NamesWatched Sample.host) (firstLeaves 21) ∧
        ¬ AlwaysWatched Sample.host (firstLeaves 21) := by
  refine ⟨watchBus_of_emitted (by decide) (by decide), ?_, ?_⟩
  · have named : ∀ entry ∈ (Sample.host.after (firstLeaves 21).dropLast).live, entry.token = 20 →
        entry.call = IntentManager.statusCall "first" "" := by
      decide
    simp only [firstLeaves, historically_cons, historically_nil, and_true]
    refine ⟨by simp [NamesWatched, Sample.up], by simp [NamesWatched, Sample.listed],
      by simp [NamesWatched, Sample.start], by simp [NamesWatched, Sample.start], by simp [NamesWatched], ?_⟩
    rintro notice name entry ⟨⟩ ⟨⟩ live watch
    exact ⟨"", named entry live watch⟩
  · rintro ⟨watched, _⟩
    obtain ⟨origin, entry, live, watch⟩ := watched _ [] (List.append_nil _).symm 2 _ rfl
    have unwatched : ∀ entry ∈ (Sample.host.after (firstLeaves 21)).live,
        entry.call.payload.get "serviceName" ≠ .string "second" := by
      decide
    refine unwatched entry live ?_
    rw [watch]
    exact statusCall_serviceName _ _

end IntentService.Watches
