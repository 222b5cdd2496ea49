import IntentService.Handler
import IntentService.Library.History

/-! # The handler store as a map over pairs

What `Handlers` is for: at most one handler for each session and name. The
store itself is keyed by one string per pair, so the two agree only as long as
no stored pair shares its string with another pair that is used.
-/

namespace IntentService.Registry

open History

/-- A use of the store. Only handlers with a name are ever accepted. -/
inductive StoreOp where
  | add (handler : Handler) (named : handler.hasName = true)
  | remove (sessionId name : String)
  | removeBySessionId (sessionId : String)

namespace StoreOp

/-- The store after an operation. -/
def apply (self : Handlers) : StoreOp → Handlers
  | .add handler _ => (self.add handler).2
  | .remove sessionId name => self.remove (Handler.convertKey sessionId name)
  | .removeBySessionId sessionId => self.removeBySessionId sessionId

/-- What the operation returns; the removals always return `true`. -/
def succeeds (self : Handlers) : StoreOp → Bool
  | .add handler _ => (self.add handler).1
  | .remove _ _ | .removeBySessionId _ => true

/-- The store after a sequence of operations. -/
def run (ops : List StoreOp) : Handlers := History.state apply ∅ ops

end StoreOp

/-! ## The abstract store -/

/-- The store as its users see it: a handler for each session and name. -/
abbrev PairMap := String → String → Option Handler

namespace PairMap

def apply (self : PairMap) : StoreOp → PairMap
  | .add handler _ => fun sessionId name =>
      if handler.sessionId = sessionId ∧ handler.name = name ∧ self sessionId name = none then some handler
      else self sessionId name
  | .remove removedSession removedName => fun sessionId name =>
      if removedSession = sessionId ∧ removedName = name then none else self sessionId name
  | .removeBySessionId removedSession => fun sessionId name =>
      if removedSession = sessionId then none else self sessionId name

def succeeds (self : PairMap) : StoreOp → Bool
  | .add handler _ => (self handler.sessionId handler.name).isNone
  | .remove _ _ | .removeBySessionId _ => true

def run (ops : List StoreOp) : PairMap := History.state apply (fun _ _ => none) ops

end PairMap

/-- The handler the store holds for a pair, whatever string it is kept under. -/
def view (self : Handlers) : PairMap := fun sessionId name =>
  self.values.find? (fun handler => handler.sessionId = sessionId ∧ handler.name = name)

/-! ## The key -/

/-- The session part of a key. -/
def keySession (sessionId : String) : String := if sessionId.isEmpty then "host" else sessionId

/-- Two pairs line up when one session, with `host` for the empty one, is the
    other continued by an underscore and the front of the other name. -/
def LineUp (sessionId name sessionId' name' : String) : Prop :=
  (keySession sessionId = keySession sessionId' ∧ name = name') ∨
    (∃ middle, keySession sessionId' = keySession sessionId ++ "_" ++ middle ∧
      name = middle ++ "_" ++ name') ∨
    (∃ middle, keySession sessionId = keySession sessionId' ++ "_" ++ middle ∧
      name' = middle ++ "_" ++ name)

private theorem split_underscore (s n s' n' : List Char) :
    s ++ '_' :: n = s' ++ '_' :: n' ↔
      (s = s' ∧ n = n') ∨ (∃ t, s' = s ++ '_' :: t ∧ n = t ++ '_' :: n') ∨
        (∃ t, s = s' ++ '_' :: t ∧ n' = t ++ '_' :: n) := by
  rw [List.append_eq_append_iff]
  constructor
  · rintro (⟨t, rfl, same⟩ | ⟨t, rfl, same⟩)
    · cases t with
      | nil => exact .inl ⟨by simp, by simpa using same⟩
      | cons c t =>
          simp only [List.cons_append, List.cons.injEq] at same
          exact .inr (.inl ⟨t, by rw [← same.1], same.2⟩)
    · cases t with
      | nil => exact .inl ⟨by simp, by simpa using same.symm⟩
      | cons c t =>
          simp only [List.cons_append, List.cons.injEq] at same
          exact .inr (.inr ⟨t, by rw [← same.1], same.2⟩)
  · rintro (⟨rfl, rfl⟩ | ⟨t, rfl, rfl⟩ | ⟨t, rfl, rfl⟩)
    · exact .inl ⟨[], by simp, by simp⟩
    · exact .inl ⟨'_' :: t, rfl, by simp⟩
    · exact .inr ⟨'_' :: t, rfl, by simp⟩

private theorem toList_underscore (s n : String) :
    (s ++ ("_" ++ n)).toList = s.toList ++ '_' :: n.toList := by
  have underscore : "_".toList = ['_'] := by decide
  simp [underscore]

private theorem exists_string {p : List Char → Prop} : (∃ s : String, p s.toList) ↔ ∃ l, p l :=
  ⟨fun ⟨s, h⟩ => ⟨_, h⟩, fun ⟨l, h⟩ => ⟨String.ofList l, by simpa using h⟩⟩

/-- Two pairs are kept under the same string exactly when they line up. -/
theorem convertKey_eq_iff (sessionId name sessionId' name' : String) :
    Handler.convertKey sessionId name = Handler.convertKey sessionId' name' ↔
      LineUp sessionId name sessionId' name' := by
  have keyOf : ∀ s n, Handler.convertKey s n = keySession s ++ ("_" ++ n) := fun _ _ => rfl
  simp only [keyOf, LineUp, ← String.toList_inj, String.append_assoc, toList_underscore,
    split_underscore]
  exact or_congr_right (or_congr
    (exists_string (p := fun t => (keySession sessionId').toList =
      (keySession sessionId).toList ++ '_' :: t ∧ name.toList = t ++ '_' :: name'.toList)).symm
    (exists_string (p := fun t => (keySession sessionId).toList =
      (keySession sessionId').toList ++ '_' :: t ∧ name'.toList = t ++ '_' :: name.toList)).symm)

/-! ## One operation -/

/-- Every handler is kept under its own key and has a name. -/
def Keyed (self : Handlers) : Prop :=
  ∀ key handler, self.find? key = some handler → handler.getKey = key ∧ handler.hasName = true

/-- A handler of another pair is kept under the string of the operation's pair. -/
def Clash (self : Handlers) : StoreOp → Prop
  | .add handler _ => ∃ other ∈ self.values,
      ¬ (other.sessionId = handler.sessionId ∧ other.name = handler.name) ∧
        LineUp handler.sessionId handler.name other.sessionId other.name
  | .remove sessionId name => ∃ other ∈ self.values,
      ¬ (other.sessionId = sessionId ∧ other.name = name) ∧
        LineUp sessionId name other.sessionId other.name
  | .removeBySessionId _ => False

theorem keyed_empty : Keyed ∅ := by
  intro key handler found
  simp at found

theorem Keyed.apply {self : Handlers} (keyed : Keyed self) (op : StoreOp) : Keyed (op.apply self) := by
  cases op with
  | add handler named =>
      simp only [StoreOp.apply, Handlers.add]
      split
      · exact keyed
      · split
        · exact keyed
        · intro key other found
          rw [OrderedMap.find?_insert] at found
          split at found
          next same =>
            cases found
            exact ⟨same.symm, named⟩
          next => exact keyed key other found
  | remove sessionId name =>
      intro key other found
      exact keyed key other (OrderedMap.find?_filter_eq_some.mp found).1
  | removeBySessionId sessionId =>
      intro key other found
      exact keyed key other (OrderedMap.find?_filter_eq_some.mp found).1

theorem keyed_run (ops : List StoreOp) : Keyed (StoreOp.run ops) := by
  induction ops using List.reverseRecOn with
  | nil => exact keyed_empty
  | append_singleton ops op ih => simpa only [StoreOp.run, state_snoc] using ih.apply op

theorem view_eq_some {self : Handlers} (keyed : Keyed self) {sessionId name : String}
    {handler : Handler} :
    view self sessionId name = some handler ↔
      self.find? (Handler.convertKey sessionId name) = some handler ∧
        handler.sessionId = sessionId ∧ handler.name = name := by
  simp only [view, OrderedMap.find?_values_eq_some, decide_eq_true_eq, decide_eq_false_iff_not]
  constructor
  · rintro ⟨key, found, ⟨rfl, rfl⟩, _⟩
    have same : handler.getKey = key := (keyed key handler found).1
    exact ⟨by rw [← same] at found; exact found, rfl, rfl⟩
  · rintro ⟨found, rfl, rfl⟩
    refine ⟨_, found, ⟨rfl, rfl⟩, ?_⟩
    rintro key other stored below ⟨sameSession, sameName⟩
    have same : other.getKey = key := (keyed key other stored).1
    rw [Handler.getKey, sameSession, sameName] at same
    exact absurd below (same ▸ lt_irrefl _)

theorem lineUp_stored_iff {self : Handlers} (keyed : Keyed self) {sessionId name : String} :
    (∃ other ∈ self.values, ¬ (other.sessionId = sessionId ∧ other.name = name) ∧
        LineUp sessionId name other.sessionId other.name) ↔
      ∃ other, self.find? (Handler.convertKey sessionId name) = some other ∧
        ¬ (other.sessionId = sessionId ∧ other.name = name) := by
  simp only [OrderedMap.mem_values, ← convertKey_eq_iff]
  constructor
  · rintro ⟨other, ⟨key, found⟩, different, same⟩
    have kept : other.getKey = key := (keyed key other found).1
    refine ⟨other, ?_, different⟩
    rw [same, ← found, ← kept]
    rfl
  · rintro ⟨other, found, different⟩
    exact ⟨other, ⟨_, found⟩, different, (keyed _ other found).1.symm⟩

/-- Under the string of a pair there is nothing, its own handler, or a clash. -/
theorem view_of_find? {self : Handlers} (keyed : Keyed self) (sessionId name : String)
    (clear : ¬ ∃ other, self.find? (Handler.convertKey sessionId name) = some other ∧
      ¬ (other.sessionId = sessionId ∧ other.name = name)) :
    view self sessionId name = self.find? (Handler.convertKey sessionId name) := by
  apply Option.ext
  intro handler
  rw [view_eq_some keyed]
  refine ⟨fun h => h.1, fun found => ⟨found, ?_⟩⟩
  by_contra different
  exact clear ⟨handler, found, different⟩

theorem view_insert {self : Handlers} (keyed : Keyed self) {handler : Handler}
    (named : handler.hasName = true) (absent : self.find? handler.getKey = none) :
    view (self.insert handler.getKey handler) = (view self).apply (.add handler named) := by
  have inserted : Keyed (self.insert handler.getKey handler) := by
    have kept := keyed.apply (.add handler named)
    simpa [StoreOp.apply, Handlers.add, named, Handlers.hasHandler,
      OrderedMap.contains_eq_false.mpr absent] using kept
  funext sessionId name
  apply Option.ext
  intro other
  simp only [PairMap.apply, view_eq_some inserted, OrderedMap.find?_insert]
  by_cases own : handler.sessionId = sessionId ∧ handler.name = name
  · obtain ⟨rfl, rfl⟩ := own
    have missing : view self handler.sessionId handler.name = none := by
      rw [view_of_find? keyed]
      · exact absent
      · rintro ⟨other, found, _⟩
        exact absurd (absent.symm.trans found) (by simp)
    rw [if_pos (show Handler.convertKey _ _ = handler.getKey from rfl), if_pos ⟨rfl, rfl, missing⟩]
    constructor
    · exact fun h => h.1
    · rintro ⟨⟩
      exact ⟨rfl, rfl, rfl⟩
  · rw [if_neg (c := _ ∧ _ ∧ _) (fun h => own ⟨h.1, h.2.1⟩), view_eq_some keyed]
    constructor
    · rintro ⟨found, rfl, rfl⟩
      split at found
      · cases found
        exact absurd ⟨rfl, rfl⟩ own
      · exact ⟨found, rfl, rfl⟩
    · rintro ⟨found, rfl, rfl⟩
      refine ⟨?_, rfl, rfl⟩
      split
      next same =>
        rw [same, absent] at found
        cases found
      next => exact found

theorem view_remove {self : Handlers} (keyed : Keyed self) (sessionId name : String)
    (clear : ¬ Clash self (.remove sessionId name)) :
    view (self.remove (Handler.convertKey sessionId name)) =
      (view self).apply (.remove sessionId name) := by
  simp only [Clash, lineUp_stored_iff keyed] at clear
  have removed : Keyed (self.remove (Handler.convertKey sessionId name)) :=
    keyed.apply (.remove sessionId name)
  funext otherSession otherName
  apply Option.ext
  intro other
  rw [view_eq_some removed]
  simp only [PairMap.apply, Handlers.remove, OrderedMap.find?_erase]
  by_cases own : sessionId = otherSession ∧ name = otherName
  · obtain ⟨rfl, rfl⟩ := own
    simp
  · rw [if_neg own, view_eq_some keyed]
    constructor
    · rintro ⟨found, rfl, rfl⟩
      split at found
      · cases found
      · exact ⟨found, rfl, rfl⟩
    · rintro ⟨found, rfl, rfl⟩
      refine ⟨?_, rfl, rfl⟩
      split
      next same =>
        rw [same] at found
        exact absurd ⟨other, found, fun h => own ⟨h.1.symm, h.2.symm⟩⟩ clear
      next => exact found

theorem view_removeBySessionId {self : Handlers} (keyed : Keyed self) (sessionId : String) :
    view (self.removeBySessionId sessionId) = (view self).apply (.removeBySessionId sessionId) := by
  have removed : Keyed (self.removeBySessionId sessionId) := keyed.apply (.removeBySessionId sessionId)
  funext otherSession otherName
  apply Option.ext
  intro other
  rw [view_eq_some removed]
  simp only [PairMap.apply, Handlers.removeBySessionId, OrderedMap.find?_filter_eq_some, bne_iff_ne]
  by_cases own : sessionId = otherSession
  · subst own
    rw [if_pos rfl]
    constructor
    · rintro ⟨⟨_, different⟩, same, _⟩
      exact absurd same different
    · simp
  · rw [if_neg own, view_eq_some keyed]
    constructor
    · rintro ⟨⟨found, _⟩, rest⟩
      exact ⟨found, rest⟩
    · rintro ⟨found, rfl, rfl⟩
      exact ⟨⟨found, fun same => own same.symm⟩, rfl, rfl⟩

/-- The operation leaves what it leaves on the pairs, and returns what it returns there. -/
def RefinesStep (self : Handlers) (pairs : PairMap) (op : StoreOp) : Prop :=
  view (op.apply self) = pairs.apply op ∧ op.succeeds self = pairs.succeeds op

theorem view_of_clear {self : Handlers} (keyed : Keyed self) {handler : Handler}
    {named : handler.hasName = true} (clear : ¬ Clash self (.add handler named)) :
    view self handler.sessionId handler.name = self.find? handler.getKey :=
  view_of_find? keyed _ _ ((lineUp_stored_iff keyed).not.mp clear)

theorem refines_add_free {self : Handlers} (keyed : Keyed self) {handler : Handler}
    (named : handler.hasName = true) (free : self.find? handler.getKey = none) :
    RefinesStep self (view self) (.add handler named) ∧ ¬ Clash self (.add handler named) := by
  have clear : ¬ Clash self (.add handler named) := by
    refine (lineUp_stored_iff keyed).not.mpr ?_
    rintro ⟨other, found, _⟩
    cases free.symm.trans found
  have added : self.add handler = (true, self.insert handler.getKey handler) := by
    simp [Handlers.add, named, Handlers.hasHandler, OrderedMap.contains_eq_false.mpr free]
  have missing : view self handler.sessionId handler.name = none := (view_of_clear keyed clear).trans free
  refine ⟨⟨?_, ?_⟩, clear⟩
  · rw [StoreOp.apply, added]
    exact view_insert keyed named free
  · rw [StoreOp.succeeds, PairMap.succeeds, added, missing]
    rfl

/-- An `add` under a taken key is refused, as it should be exactly if the handler
    there is one of the pair. -/
theorem refines_add_taken {self : Handlers} (keyed : Keyed self) {handler other : Handler}
    (named : handler.hasName = true) (taken : self.find? handler.getKey = some other) :
    RefinesStep self (view self) (.add handler named) ↔ ¬ Clash self (.add handler named) := by
  have rejected : self.add handler = (false, self) := by
    simp [Handlers.add, named, Handlers.hasHandler, OrderedMap.contains_iff.mpr ⟨other, taken⟩]
  constructor
  · rintro ⟨_, succeeds⟩ clash
    obtain ⟨another, found, different⟩ := (lineUp_stored_iff keyed).mp clash
    cases taken.symm.trans found
    have missing : view self handler.sessionId handler.name = none := by
      rw [Option.eq_none_iff_forall_ne_some]
      intro stored present
      obtain ⟨found, own⟩ := (view_eq_some keyed).mp present
      cases taken.symm.trans found
      exact different own
    rw [StoreOp.succeeds, PairMap.succeeds, rejected, missing] at succeeds
    cases succeeds
  · intro clear
    have present : view self handler.sessionId handler.name = some other :=
      (view_of_clear keyed clear).trans taken
    refine ⟨?_, ?_⟩
    · rw [StoreOp.apply, rejected]
      funext sessionId name
      simp only [PairMap.apply]
      rw [if_neg]
      rintro ⟨rfl, rfl, missing⟩
      cases present.symm.trans missing
    · rw [StoreOp.succeeds, PairMap.succeeds, rejected, present]
      rfl

theorem not_clash_of_view_remove {self : Handlers} (keyed : Keyed self) {sessionId name : String}
    (refines : view (self.remove (Handler.convertKey sessionId name)) =
      (view self).apply (.remove sessionId name)) :
    ¬ Clash self (.remove sessionId name) := by
  intro clash
  obtain ⟨other, found, different⟩ := (lineUp_stored_iff keyed).mp clash
  have kept : Handler.convertKey other.sessionId other.name = Handler.convertKey sessionId name :=
    (keyed _ _ found).1
  have before : view self other.sessionId other.name = some other :=
    (view_eq_some keyed).mpr ⟨by rw [kept, found], rfl, rfl⟩
  have after : view (self.remove (Handler.convertKey sessionId name)) other.sessionId other.name =
      some other := by
    rw [refines]
    simp only [PairMap.apply]
    rw [if_neg (fun same => different ⟨same.1.symm, same.2.symm⟩), before]
  have removed : Keyed (self.remove (Handler.convertKey sessionId name)) :=
    keyed.apply (.remove sessionId name)
  have still := ((view_eq_some removed).mp after).1
  rw [kept, Handlers.remove, OrderedMap.find?_erase_self] at still
  cases still

/-- One operation does on the pairs what it should, exactly when it meets no clash. -/
theorem step_refines_iff {self : Handlers} (keyed : Keyed self) (op : StoreOp) :
    RefinesStep self (view self) op ↔ ¬ Clash self op := by
  cases op with
  | add handler named =>
      cases stored : self.find? handler.getKey with
      | none =>
          obtain ⟨refines, clear⟩ := refines_add_free keyed named stored
          exact iff_of_true refines clear
      | some other => exact refines_add_taken keyed named stored
  | remove sessionId name =>
      constructor
      · intro refines
        exact not_clash_of_view_remove keyed refines.1
      · intro clear
        exact ⟨view_remove keyed sessionId name clear, rfl⟩
  | removeBySessionId sessionId => exact iff_of_true ⟨view_removeBySessionId keyed sessionId, rfl⟩ id

/-! ## Whole sequences -/

/-- Along the sequence the store shows what the map over pairs holds, and every
    operation returns what it returns there. -/
def Refines (ops : List StoreOp) : Prop :=
  Historically (fun pre op => RefinesStep (StoreOp.run pre) (PairMap.run pre) op) ops

theorem view_empty : view ∅ = fun _ _ => none := rfl

theorem view_run {ops : List StoreOp}
    (clear : Historically (fun pre op => ¬ Clash (StoreOp.run pre) op) ops) :
    view (StoreOp.run ops) = PairMap.run ops := by
  refine invariant (fun ops => view (StoreOp.run ops) = PairMap.run ops) ?_ ?_ clear
  · exact view_empty
  · intro ops op _ last ih
    have step := ((step_refines_iff (keyed_run ops) op).mpr last).1
    rw [ih] at step
    simpa only [StoreOp.run, PairMap.run, state_snoc] using step

/-- The store refines a map over pairs along exactly the sequences that never
    use a pair while a handler of another pair that lines up with it is stored. -/
theorem handlers_refine_pairs_iff (ops : List StoreOp) :
    Refines ops ↔ Historically (fun pre op => ¬ Clash (StoreOp.run pre) op) ops := by
  refine historically_iff (fun pre op clear => ?_)
  rw [← step_refines_iff (keyed_run pre) op, view_run clear]

/-- `c` of session `a_b` is refused because `b_c` of session `a` is stored. -/
theorem handlers_refuse_aligned_pair :
    ¬ Refines [.add { name := "b_c", sessionId := "a" } rfl,
        .add { name := "c", sessionId := "a_b" } rfl] := by
  intro refines
  have last := refines [.add { name := "b_c", sessionId := "a" } rfl]
    (.add { name := "c", sessionId := "a_b" } rfl) [] rfl
  exact absurd last.2 (by decide)

end IntentService.Registry
