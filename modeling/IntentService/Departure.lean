import IntentService.Watches

/-! # What a departing owner takes along

`start` watches its requester in one bus session, and each `start` has a watch
of its own. The handler of a notice forgets both: it removes every intent of
that name, whatever session and whatever time it was started in.
-/

namespace IntentService.Departure

open History JValueUtil

/-! ## Other sessions -/

/-- The intent was started by the name in the bus session. -/
def StartedBy (setup : Setup) (history : List Event) (x : Intent) (name sessionId : String) : Prop :=
  ∃ origin : Origin setup history x, getName origin.request = name ∧
    getSessionId setup.enableSession origin.request = sessionId

/-- The notice says that the watched service left, and comes on an open watch of
    `start` on the name in the bus session. -/
structure NoticeOn (setup : Setup) (history : List Event) (notice : Message) (name sessionId : String) :
    Prop where
  left : IntentManager.departed notice = some name
  watch : ⟨notice.responseToken, IntentManager.statusCall name sessionId⟩ ∈ (setup.after history).live

variable (bus : Bus) (database : JValue)

/-- A notice removes the intents of the watched requester and no others. -/
def RemovesOwn (history : List Event) (e : Event) : Prop :=
  ∀ notice name sessionId, e = .ownerStatus notice →
    NoticeOn (Setup.withSessions bus database) history notice name sessionId →
    ∀ i x, ((Setup.withSessions bus database).intents history).find? i = some x →
      (StartedBy (Setup.withSessions bus database) history x name sessionId →
        ((Setup.withSessions bus database).intents (history ++ [e])).find? i = none) ∧
      (¬ StartedBy (Setup.withSessions bus database) history x name sessionId →
        ((Setup.withSessions bus database).intents (history ++ [e])).find? i = some x)

/-- When a notice about a name arrives, every stored intent of that name was
    started in the bus session the watch is for. -/
def OneSession (history : List Event) (e : Event) : Prop :=
  ∀ notice name sessionId, e = .ownerStatus notice →
    NoticeOn (Setup.withSessions bus database) history notice name sessionId →
    ∀ i x (origin : Origin (Setup.withSessions bus database) history x),
      ((Setup.withSessions bus database).intents history).find? i = some x → getName origin.request = name →
      getSessionId true origin.request = sessionId

variable {bus database}

theorem removesOwn_iff (history : List Event) (e : Event) :
    RemovesOwn bus database history e ↔ OneSession bus database history e := by
  constructor
  · rintro removes notice name sessionId rfl on i x origin stored named
    by_contra other
    have foreign : ¬ StartedBy (Setup.withSessions bus database) history x name sessionId := by
      rintro ⟨again, _, same⟩
      rw [← (origin.stored_eq again rfl).2.1] at same
      exact other same
    have kept := (removes notice name sessionId rfl on i x stored).2 foreign
    exact Watches.gone_after_notice on.left kept (origin.owner_eq.trans named)
  · rintro one notice name sessionId rfl on i x stored
    obtain ⟨_, ⟨origin⟩⟩ := stored_origin (Setup.withSessions bus database) history stored
    rw [Watches.ownerStatus_snoc on.left]
    constructor
    · rintro ⟨starter, named, _⟩
      rw [← named, ← starter.owner_eq]
      exact Intents.removeByOwner_owner stored
    · intro foreign
      refine (Intents.find?_removeByOwner _ _ _ _).mpr ⟨stored, ?_⟩
      intro own
      have named := origin.owner_eq.symm.trans own
      exact foreign ⟨origin, named, one notice name sessionId rfl on i x origin stored named⟩

variable (bus database)

/-- Notices remove what they should along exactly the runs in which a notice on
    a name never meets an intent of that name from another bus session. -/
theorem notices_remove_own_iff (history : List Event) :
    Historically (RemovesOwn bus database) history ↔ Historically (OneSession bus database) history :=
  historically_congr removesOwn_iff

/-- The client leaves session `a`, and its intent of session `b` is gone. -/
theorem notice_removes_other_session :
    ¬ Historically (RemovesOwn (Sample.bus 10 20 Sample.first_tokens) .emptyObject)
      (Sample.twoSessions ++
        [.start { Sample.starting 1 "client" "viewer" [] with sessionId := some "a" }
            (Sample.bus 10 20 Sample.first_tokens),
          .start { Sample.starting 2 "client" "viewer" [] with sessionId := some "b" }
            (Sample.bus 11 21 Sample.second_tokens),
          .disconnect "client" "a",
          .ownerStatus (Notice.message ⟨20, "client"⟩ 77)]) := by
  intro removes
  have last := (removesOwn_iff _ _).mp (removes (Sample.twoSessions ++ [_, _, _]) _ [] rfl)
  have same := last _ "client" "a" rfl ⟨rfl, List.mem_of_getElem? (i := 7) rfl⟩ 2 _
    ⟨Sample.twoSessions ++ [_], _, _, [_], 11, _, rfl, ⟨rfl, rfl, by decide, rfl⟩, .refl _⟩ rfl rfl
  exact absurd same (by decide)

/-! ## Earlier times -/

variable (setup : Setup)

/-- The bus may deliver the notice next: it is under way to an open watch. -/
def Deliverable (history : List Event) (notice : Message) (name : String) : Prop :=
  IntentManager.departed notice = some name ∧ ⟨notice.responseToken, name⟩ ∈ (setup.after history).undelivered

/-- A notice that arrives now removes only intents whose owner left after they
    were started; in a run within one session, in that session. -/
def Timely (history : List Event) (notice : Message) : Prop :=
  ∀ i x, (setup.intents history).find? i = some x →
    (setup.intents (history ++ [.ownerStatus notice])).find? i = none →
    ∃ (origin : Origin setup history x) (sessionId : String), .disconnect x.owner sessionId ∈ origin.since

/-- At every point of a run, whichever notice arrives next removes no intent that
    was started after the departure it is about. -/
def NeverLate (history : List Event) : Prop :=
  ∀ pre post, history = pre ++ post → ∀ notice name, Deliverable setup pre notice name →
    Timely setup pre notice

/-- No intent is started while a notice about its owner is under way. -/
def Settled (history : List Event) (e : Event) : Prop :=
  ∀ request bus token x, e = .start request bus →
    Started setup.enableSession (setup.service history) request bus token x →
    ∀ notice ∈ (setup.after history).undelivered, notice.name ≠ getName request

variable {setup}

theorem undelivered_snoc (history : List Event) (e : Event) :
    (setup.after (history ++ [e])).undelivered =
      (World.exchange (setup.after history).live (setup.after history).undelivered e).filter
        (fun notice =>
          (setup.after (history ++ [e])).live.any (fun entry => entry.token == notice.token)) := by
  simp only [Setup.after_snoc]
  rfl

/-- A notice under way was under way before, or somebody just left. -/
theorem notice_older {history : List Event} {e : Event} {notice : Notice}
    (sent : notice ∈ (setup.after (history ++ [e])).undelivered) :
    notice ∈ (setup.after history).undelivered ∨ ∃ sessionId, e = .disconnect notice.name sessionId := by
  rw [undelivered_snoc] at sent
  have exchanged := (List.mem_filter.mp sent).1
  cases e with
  | disconnect name sessionId =>
      rcases List.mem_append.mp exchanged with before | new
      · exact .inl before
      · obtain ⟨entry, _, rfl⟩ := List.mem_map.mp new
        exact .inr ⟨sessionId, rfl⟩
  | ownerStatus delivered =>
      simp only [World.exchange] at exchanged
      split at exchanged
      · exact .inl (List.mem_of_mem_erase exchanged)
      · exact .inl exchanged
  | _ => exact .inl exchanged

theorem notice_older_than (history more : List Event) {notice : Notice}
    (sent : notice ∈ (setup.after (history ++ more)).undelivered)
    (stayed : ∀ sessionId, .disconnect notice.name sessionId ∉ more) :
    notice ∈ (setup.after history).undelivered := by
  induction more using List.reverseRecOn with
  | nil => simpa using sent
  | append_singleton more e ih =>
      rw [← List.append_assoc] at sent
      rcases notice_older sent with before | ⟨sessionId, rfl⟩
      · exact ih before (fun s member => stayed s (List.mem_append_left _ member))
      · exact absurd (List.mem_append_right _ (List.mem_singleton_self _)) (stayed sessionId)

theorem notice_live (history : List Event) {notice : Notice}
    (sent : notice ∈ (setup.after history).undelivered) :
    ∃ entry ∈ (setup.after history).live, entry.token = notice.token := by
  induction history using List.reverseRecOn with
  | nil => cases sent
  | append_singleton history e ih =>
      rw [undelivered_snoc] at sent
      simpa using (List.mem_filter.mp sent).2

theorem notice_survives_start {history : List Event} {request : Message} {bus : Bus} {token : UInt64}
    {x : Intent} (start : Started setup.enableSession (setup.service history) request bus token x)
    {notice : Notice} (sent : notice ∈ (setup.after history).undelivered) :
    notice ∈ (setup.after (history ++ [.start request bus])).undelivered := by
  obtain ⟨entry, live, own⟩ := notice_live history sent
  have still : entry ∈ (setup.after (history ++ [.start request bus])).live := by
    rw [Setup.live_snoc]
    exact mem_applyEffects_of_live live (cancel_not_mem_started start _)
  rw [undelivered_snoc]
  exact List.mem_filter.mpr ⟨sent, List.any_eq_true.mpr ⟨entry, still, by simpa using own⟩⟩

theorem settled_of_neverLate {history : List Event} (timely : NeverLate setup history) :
    Historically (Settled setup) history := by
  rintro pre e post rfl request bus token x rfl start notice sent named
  have delivered : Deliverable setup (pre ++ [.start request bus]) (notice.message 0) notice.name :=
    ⟨rfl, notice_survives_start start sent⟩
  have stored := stored_started start
  have removed : (setup.intents ((pre ++ [.start request bus]) ++ [.ownerStatus (notice.message 0)])).find?
      x.intentId = none := by
    rw [Watches.ownerStatus_snoc delivered.1, named, ← start.owner_eq]
    exact Intents.removeByOwner_owner stored
  obtain ⟨origin, sessionId, gone⟩ :=
    timely _ post (List.append_cons _ _ _) (notice.message 0) notice.name delivered _ x stored removed
  -- the origin is this very `start`, so nothing happened since
  have object : (setup.service origin.before).objects = (setup.service pre).objects :=
    origin.object_eq.symm.trans start.object_eq
  obtain ⟨_, _, _, since⟩ := start_eq_of_object setup origin.split.symm object
  rw [since] at gone
  cases gone

theorem neverLate_of_settled {history : List Event} (settled : Historically (Settled setup) history) :
    NeverLate setup history := by
  rintro pre post rfl notice name ⟨left, sent⟩ i x stored removed
  have own : x.owner = name := by
    by_contra other
    rw [Watches.ownerStatus_snoc left, (Intents.find?_removeByOwner _ _ _ _).mpr ⟨stored, other⟩] at removed
    cases removed
  obtain ⟨_, ⟨origin⟩⟩ := stored_origin setup pre stored
  by_contra never
  have stayed : ∀ sessionId, .disconnect name sessionId ∉ .start origin.request origin.bus ::
      origin.since := by
    intro sessionId member
    rcases List.mem_cons.mp member with same | member
    · cases same
    · exact never ⟨origin, sessionId, own ▸ member⟩
  have before := notice_older_than origin.before (.start origin.request origin.bus :: origin.since)
    (origin.split ▸ sent) stayed
  have quiet : Settled setup origin.before (.start origin.request origin.bus) := by
    have earlier := settled.of_append
    rw [origin.split] at earlier
    exact earlier.at
  exact quiet _ _ _ _ rfl origin.start _ before (own.symm.trans origin.owner_eq)

variable (setup)

/-- No late notice can remove new work exactly if no intent is ever started while
    a notice about its owner is under way. -/
theorem neverLate_iff_settled (history : List Event) :
    NeverLate setup history ↔ Historically (Settled setup) history :=
  ⟨settled_of_neverLate, neverLate_of_settled⟩

/-- The owner has two watches, leaves and comes back: the second notice about its
    departure removes what it started since. -/
theorem late_notice_removes_new_intent :
    ¬ NeverLate Sample.host
      [Sample.up, Sample.listed, Sample.start 1 "client" 10 20 Sample.first_tokens,
        Sample.start 2 "client" 11 21 Sample.second_tokens, .disconnect "client" "",
        .ownerStatus (Notice.message ⟨20, "client"⟩ 77), Sample.start 3 "client" 12 22 (by decide)] := by
  intro timely
  have last := settled_of_neverLate timely [_, _, _, _, _, _] _ [] rfl
  exact last _ _ 12 _ rfl ⟨rfl, rfl, by decide, rfl⟩ ⟨21, "client"⟩ (by decide) rfl

end IntentService.Departure
