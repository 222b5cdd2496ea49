import IntentService.Watches

/-! # The calls that `start` has open

A launch call is over with its reply. What ends a watch is a notice that an owner
left whose own message has its token, which need not be the notice on that watch.
On a bus that gives each token to one call nothing else ends either of them. So
when everybody has left, and nobody starts anything any more, no intent remains,
and of the watches those whose tokens no notice happened to have.
-/

namespace IntentService.Calls

open History Watches

/-- The call is over: its reply comes, or a notice that an owner left whose own
    message has its token. -/
def Closes (call : LSCall) (token : UInt64) (e : Event) : Prop :=
  (call.callback = .onLaunch ∧ ∃ reply, e = .onLaunch reply ∧ reply.responseToken = token) ∨ e.Cancels token

theorem start_quiet {enableSession : Bool} {self : Service} {request : Message} {bus : Bus}
    {account : Account} {handlers : Handlers} {effects : List Effect}
    (change : ClientsChange enableSession self (.start request bus) account handlers effects)
    (token : UInt64) : .cancel token ∉ effects := by
  intro cancel
  cases change with
  | other _ cancels =>
      obtain ⟨_, _, same, _⟩ := cancels token cancel
      cases same

variable {setup : Setup} {history : List Event} {e : Event} {call : LSCall} {token : UInt64}

theorem not_closes {live : List LiveCall} (received : ⟨token, call⟩ ∈ World.receive live e)
    (kept : .cancel token ∉ setup.effects history e) : ¬ Closes call token e := by
  rintro (⟨launch, reply, rfl, same⟩ | cancels)
  · simp [World.receive, launch, same] at received
  · exact kept (effects_of_cancels setup history cancels ▸ List.mem_singleton_self _)

theorem mem_receive_of_not_closes {live : List LiveCall} (member : ⟨token, call⟩ ∈ live)
    (kept : ¬ Closes call token e) : ⟨token, call⟩ ∈ World.receive live e :=
  mem_receive_of_live member (fun reply same launch answers =>
    kept (.inl ⟨launch, reply, same, answers.symm⟩))

theorem live_snoc_iff (fresh : Historically (Fresh setup) history) (own : call.callback.ofStart) :
    ⟨token, call⟩ ∈ (setup.after (history ++ [e])).live ↔
      .call call (some token) ∈ setup.effects history e ∨
        ⟨token, call⟩ ∈ (setup.after history).live ∧ ¬ Closes call token e := by
  rw [Setup.live_snoc]
  constructor
  · intro live
    rcases mem_applyEffects live with ⟨before, kept⟩ | made
    · exact .inr ⟨mem_receive before, not_closes before kept⟩
    · exact .inl made
  · rintro (made | ⟨live, kept⟩)
    · have change := clients_snoc setup history e
      obtain ⟨request, bus, rfl⟩ := change.start_of_call made own
      exact mem_applyEffects_of_call made (start_quiet change token)
    · refine mem_applyEffects_of_live (mem_receive_of_not_closes live kept) ?_
      intro cancel
      exact kept (.inr (cancels_of_cancel fresh own live cancel))

/-- A launch call or a watch is open exactly since it was accepted, until it is over. -/
theorem start_calls_since (setup : Setup) (history : List Event) (fresh : Historically (Fresh setup) history)
    {call : LSCall} (own : call.callback.ofStart) (token : UInt64) :
    ⟨token, call⟩ ∈ (setup.after history).live ↔
      Since (fun pre e => .call call (some token) ∈ setup.effects pre e)
          (fun _ e => Closes call token e) history := by
  induction history using List.reverseRecOn with
  | nil =>
      obtain ⟨first, answer, initial, other⟩ := initialEffects_eq setup
      have closed : ⟨token, call⟩ ∉ (setup.after []).live := by
        intro live
        have made : .call call (some token) ∈ initialEffects setup := mem_applyEffects_nil live
        rw [initial] at made
        cases List.mem_singleton.mp made
        exact other own
      exact iff_of_false closed since_nil
  | append_singleton history e ih =>
      have earlier := (historically_snoc.mp fresh).1
      rw [live_snoc_iff earlier own, since_snoc, ih earlier]

/-- A client starts an intent. -/
def started : List Event := [Sample.up, Sample.listed, Sample.start 1 "client" 10 20 Sample.first_tokens]

/-- The client of watch 20 leaves. -/
def leaving (messageToken : UInt64) : List Event :=
  [.disconnect "client" "", .ownerStatus (Notice.message ⟨20, "client"⟩ messageToken)]

theorem started_calls :
    ⟨20, IntentManager.statusCall "client" ""⟩ ∈ (Sample.host.after (started ++ leaving 20)).live ↔
      Since (fun pre e => .call (IntentManager.statusCall "client" "") (some 20) ∈ Sample.host.effects pre e)
        (fun _ e => Closes (IntentManager.statusCall "client" "") 20 e) (started ++ leaving 20) :=
  start_calls_since Sample.host (started ++ leaving 20) (fresh_of_nodup (by decide)) (.inr rfl) 20

/-! ## When everybody leaves -/

/-- Nobody starts an intent. -/
def NoStart (events : List Event) : Prop := ∀ request bus, .start request bus ∉ events

theorem NoStart.of_append {events more : List Event} (quiet : NoStart (events ++ more)) :
    NoStart events ∧ NoStart more :=
  ⟨fun request bus member => quiet request bus (List.mem_append_left _ member),
    fun request bus member => quiet request bus (List.mem_append_right _ member)⟩

theorem stored_before {more : List Event} (quiet : NoStart more) {i : Int} {y : Intent}
    (stored : (setup.intents (history ++ more)).find? i = some y) :
    ∃ x, (setup.intents history).find? i = some x ∧ x.owner = y.owner := by
  induction more using List.reverseRecOn generalizing y with
  | nil => exact ⟨y, by simpa using stored, rfl⟩
  | append_singleton more e ih =>
      rw [← List.append_assoc] at stored
      rcases (change_snoc setup (history ++ more) e).grown stored with
        ⟨x, before, grown⟩ | ⟨request, bus, _, rfl, _⟩
      · obtain ⟨first, stored, owner⟩ := ih quiet.of_append.1 before
        exact ⟨first, stored, owner.trans grown.owner_eq.symm⟩
      · exact absurd (List.mem_append_right more (List.mem_singleton_self _)) (quiet request bus)

/-- While nobody starts anything a watch is closed by a notice with its token, and
    none is opened. -/
theorem watch_stays_iff {more : List Event} (fresh : Historically (Fresh setup) (history ++ more))
    (quiet : NoStart more) {entry : LiveCall} (watch : entry.call.callback = .ownerStatus) :
    entry ∈ (setup.after (history ++ more)).live ↔
      entry ∈ (setup.after history).live ∧ ∀ e ∈ more, ¬ e.Cancels entry.token := by
  induction more using List.reverseRecOn with
  | nil => simp
  | append_singleton more e ih =>
      rw [← List.append_assoc] at fresh ⊢
      have earlier := (historically_snoc.mp fresh).1
      have unopened : .call entry.call (some entry.token) ∉ setup.effects (history ++ more) e := by
        intro made
        obtain ⟨request, bus, rfl⟩ := (clients_snoc setup _ e).start_of_call made (.inr watch)
        exact quiet request bus (List.mem_append_right _ (List.mem_singleton_self _))
      have closes : Closes entry.call entry.token e ↔ e.Cancels entry.token := by
        simp [Closes, watch]
      rw [live_snoc_iff earlier (.inr watch), ih earlier quiet.of_append.1, closes]
      simp only [unopened, false_or, List.mem_append, List.mem_singleton, or_imp, forall_and, forall_eq,
        and_assoc]

/-- On each open watch comes the notice that its owner left. -/
def AllLeave (setup : Setup) (history more : List Event) : Prop :=
  ∀ entry name sessionId, entry ∈ (setup.after history).live →
    entry.call = IntentManager.statusCall name sessionId →
    ∃ notice, .ownerStatus notice ∈ more ∧ IntentManager.departed notice = some name ∧
      notice.responseToken = entry.token

theorem intents_emptied {more : List Event} (watched : Watched setup history) (quiet : NoStart more)
    (leave : AllLeave setup history more) : setup.intents (history ++ more) = ∅ := by
  apply OrderedMap.ext
  intro i
  cases stored : (setup.intents (history ++ more)).find? i with
  | none => rfl
  | some y =>
      obtain ⟨x, before, owner⟩ := stored_before quiet stored
      obtain ⟨origin, entry, live, watch⟩ := watched i x before
      obtain ⟨notice, comes, left, _⟩ := leave entry _ _ live watch
      -- what is stored after the notice was there right after it
      obtain ⟨first, rest, rfl⟩ := List.append_of_mem comes
      rw [List.append_cons, ← List.append_assoc, ← List.append_assoc] at stored
      rw [List.append_cons] at quiet
      obtain ⟨z, survives, same⟩ := stored_before quiet.of_append.2 stored
      exact absurd (same.trans owner.symm) (gone_after_notice left survives)

/-- When nobody starts anything any more, and everybody who is watched leaves, no
    intent is left, and the watches whose tokens the notices did not have. -/
theorem all_left (setup : Setup) (history more : List Event)
    (bus : Historically (WatchBus setup) (history ++ more)) (spared : Historically (Spared setup) history)
    (quiet : NoStart more) (leave : AllLeave setup history more) :
    setup.intents (history ++ more) = ∅ ∧
      ∀ entry, entry.call.callback = .ownerStatus →
        (entry ∈ (setup.after (history ++ more)).live ↔
          entry ∈ (setup.after history).live ∧ ∀ e ∈ more, ¬ e.Cancels entry.token) := by
  constructor
  · exact intents_emptied (watched_of_bus bus.of_append spared) quiet leave
  · intro entry watch
    exact watch_stays_iff (bus.mono (fun _ _ last => last.fresh)) quiet watch

theorem started_left :
    Sample.host.intents (started ++ leaving 77) = ∅ ∧
      ∀ entry, entry.call.callback = .ownerStatus →
        (entry ∈ (Sample.host.after (started ++ leaving 77)).live ↔
          entry ∈ (Sample.host.after started).live ∧ ∀ e ∈ leaving 77, ¬ e.Cancels entry.token) := by
  have spared : Historically (Spared Sample.host) started := by
    simp only [started, historically_cons, historically_nil, and_true]
    exact ⟨by simp [Spared, Sample.up], by simp [Spared, Sample.listed], by simp [Spared, Sample.start]⟩
  have single : ∀ entry ∈ (Sample.host.after started).live, entry.call.callback = .ownerStatus →
      entry.token = 20 ∧ entry.call.payload.get "serviceName" = .string "client" := by
    decide
  refine all_left Sample.host started (leaving 77) (watchBus_of_emitted (by decide) (by decide)) spared
    (by simp [NoStart, leaving]) ?_
  intro entry name sessionId live watch
  obtain ⟨token, service⟩ := single entry live (watch ▸ rfl)
  rw [watch, statusCall_serviceName] at service
  cases service
  exact ⟨_, List.mem_cons_of_mem _ (List.mem_singleton_self _), rfl, token.symm⟩

end IntentService.Calls
