import IntentService.Sessions

/-! # One `getSessions` reply

The mark, update and sweep of `onGetSessions` come to a diff: who is named stays
or is created, who is not is destroyed together with its handlers, and nobody
else is touched.
-/

namespace IntentService.Sync

open JValueUtil

/-- The reply is successful and has an array of sessions. -/
structure Lists (reply : Message) (items : List JValue) : Prop where
  success : reply.payload.get "returnValue" = .bool true
  sessions : reply.payload.get "sessions" = .array items

/-- An item of the array has the session id. -/
def Names (items : List JValue) (s : String) : Prop := ∃ item ∈ items, item.get "sessionId" = .string s

/-- The session was there and is not named any more. -/
def Dropped (self : Account) (items : List JValue) (session : Session) : Prop :=
  ∃ s, self.sessions.find? s = some session ∧ ¬ Names items s

/-- The sessions and handlers after a reply that lists `items`. -/
structure Synced (bus : Bus) (self : Account) (handlers : Handlers) (items : List JValue) (after : Account)
    (left : Handlers) (effects : List Effect) : Prop where
  /-- The sessions are exactly those that are named. -/
  keys : ∀ s, after.sessions.contains s = true ↔ Names items s
  /-- A session that was there stays as it is. -/
  kept : ∀ s session, self.sessions.find? s = some session → Names items s →
    after.sessions.find? s = some { session with isRunning := true }
  fresh : ∀ s, self.sessions.find? s = none → Names items s →
    after.sessions.find? s = some (Session.new bus s).1
  /-- Nothing else of the account changes. -/
  others : after = { self with sessions := after.sessions }
  /-- Exactly the handlers of the dropped sessions go. -/
  swept : ∀ key handler, left.find? key = some handler ↔
    handlers.find? key = some handler ∧
      ∀ session, Dropped self items session → handler.sessionId ≠ session.sessionId
  /-- So a session that is kept keeps all its handlers, the sessions being stored
      under their own ids as in every run (`sessionsKeyed`). -/
  keptHandlers : SessionsKeyed self.sessions → ∀ s session, self.sessions.find? s = some session →
    Names items s →
    ∀ key handler, handler.sessionId = session.sessionId →
      (left.find? key = some handler ↔ handlers.find? key = some handler)
  /-- Exactly the new sessions are built. -/
  built : ∀ call answer, .call call answer ∈ effects ↔
    ∃ s, Names items s ∧ self.sessions.find? s = none ∧ call = sessionCall s ∧ answer = bus.answer call
  /-- Exactly the dropped sessions are destroyed. -/
  destroyed : ∀ token, .cancel token ∈ effects ↔
    token ≠ 0 ∧ ∃ session, Dropped self items session ∧
      (token = session.sam.statusCall ∨ token = session.sam.listApps)

/-! ## What the reply lists -/

theorem mem_namedSessions {items : List JValue} {s : String} : s ∈ namedSessions items ↔ Names items s := by
  rw [namedSessions, List.mem_filterMap]
  refine exists_congr (fun item => and_congr_right (fun _ => ?_))
  rw [← getValue_string_eq_true ""]
  rcases getValue string item "sessionId" "" with ⟨_ | _, id⟩ <;> simp

variable {bus : Bus} {self : Account} {handlers : Handlers} {reply : Message} {items : List JValue}

theorem onGetSessions_listed (lists : Lists reply items) :
    self.onGetSessions bus handlers reply =
      ({ self with sessions := keptSessions bus self.sessions items },
        (Session.destroyAll (droppedSessions bus self.sessions items).values handlers).1,
        (Account.updateSessions bus items "" (marked self.sessions)).2 ++
          (Session.destroyAll (droppedSessions bus self.sessions items).values handlers).2) :=
  onGetSessions_of_array ((getValue_bool_eq_true false).mpr lists.success)
    ((getValue_jvalue_eq_true .null).mpr lists.sessions)

theorem onGetSessions_unlisted (unlisted : ∀ items, ¬ Lists reply items) :
    self.onGetSessions bus handlers reply = (self, handlers, []) := by
  refine onGetSessions_of_other (fun items success array => unlisted items ⟨?_, ?_⟩)
  · exact (getValue_bool_eq_true false).mp success
  · exact (getValue_jvalue_eq_true .null).mp array

/-! ## The diff -/

theorem mem_dropped {session : Session} :
    session ∈ (droppedSessions bus self.sessions items).values ↔
      ∃ old, Dropped self items old ∧ session = { old with isRunning := false } := by
  simp only [mem_droppedSessions, mem_namedSessions, Dropped]
  constructor
  · rintro ⟨s, old, unnamed, found, same⟩
    exact ⟨old, ⟨s, found, unnamed⟩, same⟩
  · rintro ⟨old, ⟨s, found, unnamed⟩, same⟩
    exact ⟨s, old, unnamed, found, same⟩

theorem kept_find? (s : String) :
    Names items s → (keptSessions bus self.sessions items).find? s =
      some { (self.sessions.find? s).getD (Session.new bus s).1 with isRunning := true } := by
  intro named
  rw [keptSessions_find?, if_pos (mem_namedSessions.mpr named)]

theorem contains_kept (s : String) :
    (keptSessions bus self.sessions items).contains s = true ↔ Names items s := by
  rw [OrderedMap.contains, keptSessions_find?, ← mem_namedSessions]
  split
  next named => simp [named]
  next unnamed => simp [unnamed]

theorem swept_find? (key : String) (handler : Handler) :
    (Session.destroyAll (droppedSessions bus self.sessions items).values handlers).1.find? key = some handler ↔
      handlers.find? key = some handler ∧
        ∀ session, Dropped self items session → handler.sessionId ≠ session.sessionId := by
  rw [destroyAll_handlers]
  refine and_congr_right (fun _ => ⟨fun apart session dropped => ?_, fun apart session listed => ?_⟩)
  · exact apart { session with isRunning := false } (mem_dropped.mpr ⟨session, dropped, rfl⟩)
  · obtain ⟨old, dropped, rfl⟩ := mem_dropped.mp listed
    exact apart old dropped

theorem dropped_sessionId_ne (keyed : SessionsKeyed self.sessions) {s : String} {session other : Session}
    (found : self.sessions.find? s = some session) (named : Names items s)
    (dropped : Dropped self items other) :
    session.sessionId ≠ other.sessionId := by
  obtain ⟨t, stored, unnamed⟩ := dropped
  rw [(keyed s session found).1, (keyed t other stored).1]
  rintro rfl
  exact unnamed named

theorem synced (bus : Bus) (self : Account) (handlers : Handlers) (items : List JValue) :
    Synced bus self handlers items { self with sessions := keptSessions bus self.sessions items }
      (Session.destroyAll (droppedSessions bus self.sessions items).values handlers).1
      ((Account.updateSessions bus items "" (marked self.sessions)).2 ++
        (Session.destroyAll (droppedSessions bus self.sessions items).values handlers).2) where
  keys := contains_kept
  kept s session found named := by rw [kept_find? s named, found, Option.getD_some]
  fresh s absent named := by rw [kept_find? s named, absent, Option.getD_none, new_eq]
  others := rfl
  swept := swept_find?
  keptHandlers keyed s session found named key handler own := by
    rw [swept_find?, own]
    exact and_iff_left (fun other dropped => dropped_sessionId_ne keyed found named dropped)
  built call answer := by
    rw [List.mem_append, or_iff_left call_not_mem_destroyAll, mem_updateSessions]
    refine exists_congr (fun s => ?_)
    rw [mem_namedSessions, marked, OrderedMap.find?_mapValues, Option.map_eq_none_iff, Effect.call.injEq]
    refine and_congr_right (fun _ => and_congr_right (fun _ => and_congr_right (fun same => ?_)))
    rw [same]
  destroyed token := by
    have never : .cancel token ∉ (Account.updateSessions bus items "" (marked self.sessions)).2 := by
      simp [mem_updateSessions]
    rw [List.mem_append, or_iff_right never, mem_destroyAll]
    simp only [mem_dropped, mem_cancelOpen, Effect.cancel.injEq]
    constructor
    · rintro ⟨_, ⟨old, dropped, rfl⟩, ⟨nonzero, rfl⟩ | ⟨nonzero, rfl⟩⟩
      · exact ⟨nonzero, old, dropped, .inl rfl⟩
      · exact ⟨nonzero, old, dropped, .inr rfl⟩
    · rintro ⟨nonzero, old, dropped, rfl | rfl⟩
      · exact ⟨_, ⟨old, dropped, rfl⟩, .inl ⟨nonzero, rfl⟩⟩
      · exact ⟨_, ⟨old, dropped, rfl⟩, .inr ⟨nonzero, rfl⟩⟩

/-! ## The same reply again -/

/-- Once all sessions are named and named sessions are there, nothing is built or dropped. -/
theorem onGetSessions_settled (lists : Lists reply items)
    (keys : ∀ s, self.sessions.contains s = true ↔ Names items s)
    (running : ∀ s session, self.sessions.find? s = some session → session.isRunning = true) :
    self.onGetSessions bus handlers reply = (self, handlers, []) := by
  have nobody : (droppedSessions bus self.sessions items).values = [] := by
    refine List.eq_nil_iff_forall_not_mem.mpr (fun session listed => ?_)
    obtain ⟨old, ⟨s, found, unnamed⟩, _⟩ := mem_dropped.mp listed
    exact unnamed ((keys s).mp (OrderedMap.contains_iff.mpr ⟨old, found⟩))
  have quiet : (Account.updateSessions bus items "" (marked self.sessions)).2 = [] := by
    refine List.eq_nil_iff_forall_not_mem.mpr (fun effect made => ?_)
    obtain ⟨s, named, absent, _⟩ := (mem_updateSessions _ _ _ _ _).mp made
    obtain ⟨session, found⟩ := OrderedMap.contains_iff.mp ((keys s).mpr (mem_namedSessions.mp named))
    rw [marked, OrderedMap.find?_mapValues, found] at absent
    cases absent
  have same : keptSessions bus self.sessions items = self.sessions := by
    refine OrderedMap.ext (fun s => ?_)
    cases found : self.sessions.find? s with
    | none =>
        rw [← OrderedMap.contains_eq_false, Bool.eq_false_iff, ne_eq, contains_kept, ← keys s,
          ← ne_eq, ← Bool.eq_false_iff, OrderedMap.contains_eq_false, found]
    | some session =>
        rw [kept_find? s ((keys s).mp (OrderedMap.contains_iff.mpr ⟨session, found⟩)), found,
          Option.getD_some, ← running s session found]
  rw [onGetSessions_listed lists, nobody, quiet, same]
  rfl

theorem running_kept (s : String) (session : Session)
    (found : (keptSessions bus self.sessions items).find? s = some session) : session.isRunning = true :=
  (OrderedMap.find?_filter_eq_some.mp found).2

/-- A reply with an array of sessions is an exact diff, and the same reply again
    changes nothing; any other reply changes nothing at once. -/
theorem reply_exact_stable (bus again : Bus) (self : Account) (handlers : Handlers) (reply : Message) :
    let outcome := self.onGetSessions bus handlers reply
    (∀ items, Lists reply items → Synced bus self handlers items outcome.1 outcome.2.1 outcome.2.2) ∧
      outcome.1.onGetSessions again outcome.2.1 reply = (outcome.1, outcome.2.1, []) ∧
      ((∀ items, ¬ Lists reply items) → outcome = (self, handlers, [])) := by
  refine ⟨fun items lists => ?_, ?_, onGetSessions_unlisted⟩
  · rw [onGetSessions_listed lists]
    exact synced bus self handlers items
  · by_cases listed : ∃ items, Lists reply items
    · obtain ⟨items, lists⟩ := listed
      have first : self.onGetSessions bus handlers reply = _ := onGetSessions_listed lists
      rw [first]
      exact onGetSessions_settled lists contains_kept running_kept
    · exact onGetSessions_unlisted (fun items lists => listed ⟨items, lists⟩)

/-- An entry without an id and one that is listed twice, with the sessions `a` and `b` before. -/
example :
    (((Setup.withSessions (Sample.bus 10 20 Sample.first_tokens) .emptyObject).service
        Sample.twoSessions).account.onGetSessions (Sample.bus 10 20 Sample.first_tokens) ∅
      { payload := JValue.object [("returnValue", .bool true), ("sessions", .array
          [.null, .object [("sessionId", .string "c")], .object [("sessionId", .string "b")],
            .object [("sessionId", .string "c")]])] }).1.sessions.entries.map Prod.fst = ["b", "c"] := by
  decide

end IntentService.Sync
