import IntentService.Broker
import IntentService.Identity

/-! # Mailboxes of clients that leave the choice to the service

When no `start` names an id, an id stands for one intent for good. So whoever is
answered as a subscriber gets everything that is ever posted under the id
afterwards, whether the intent is still stored or not.
-/

namespace IntentService.Mailbox

open History Broker Delivery Identity

variable {setup : Setup}

theorem about_absent {enableSession : Bool} {self : Service} {e : Event} {done : List Op} {after : Intents}
    {posted : List Post} (change : Change enableSession self e done after posted) (keyed : Keyed self.intents)
    (object : ∀ reply, e = .onLaunch reply → reply.payload.isObject = true) {i : Int}
    (absent : self.intents.find? i = none) : about i posted = [] := by
  cases change with
  | idle | started | joined | missed | unheard | departed => rfl
  | @answered request j x result stored =>
      have other : j ≠ i := by
        rintro rfl
        cases absent.symm.trans stored
      simp [about, resultPost_intentId, other]
  | @failed reply j x stored =>
      have other : x.intentId ≠ i := by
        rintro rfl
        cases absent.symm.trans (keyed j x stored ▸ stored)
      simp [about, launchFailure_intentId (object reply rfl) x, other]

/-- No `start` of the stretch stores an intent under the id. -/
def Unused (setup : Setup) (i : Int) (pre rest : List Event) : Prop :=
  ∀ mid request bus post token y, rest = mid ++ .start request bus :: post →
    Started setup.enableSession (setup.service (pre ++ mid)) request bus token y → y.intentId ≠ i

theorem Unused.tail {i : Int} {pre rest : List Event} {e : Event} (unused : Unused setup i pre (e :: rest)) :
    Unused setup i (pre ++ [e]) rest := by
  rintro mid request bus post token y rfl start
  exact unused (e :: mid) request bus post token y rfl (by simpa using start)

/-- What the events after `pre` post about an intent. -/
def told (setup : Setup) (i : Int) (pre rest : List Event) : List JValue :=
  emitted (fun before e => about i (posts (setup.effects before e))) pre rest

theorem absent_snoc {i : Int} {pre rest : List Event} {e : Event} (unused : Unused setup i pre (e :: rest))
    (absent : (setup.intents pre).find? i = none) : (setup.intents (pre ++ [e])).find? i = none := by
  rw [Option.eq_none_iff_forall_ne_some]
  intro y found
  rcases (change_snoc setup pre e).grown found with ⟨x, stored, _⟩ | ⟨request, bus, token, rfl, key, start⟩
  · cases absent.symm.trans stored
  · exact unused [] request bus rest token y rfl (by simpa using start) key

theorem told_of_absent {i : Int} {pre rest : List Event} (numbered : Historically Numbered (pre ++ rest))
    (unused : Unused setup i pre rest) (absent : (setup.intents pre).find? i = none) :
    told setup i pre rest = [] := by
  induction rest generalizing pre with
  | nil => rfl
  | cons e rest ih =>
      have silent := about_absent (change_event setup pre e) (keyed setup pre)
        (numbered pre e rest rfl).object absent
      rw [List.append_cons] at numbered
      have later := ih numbered unused.tail (absent_snoc unused absent)
      rw [told, emitted, silent, List.nil_append]
      exact later

theorem absent_of_not_keeps {i : Int} {pre rest : List Event} {e : Event} {x : Intent}
    (unused : Unused setup i pre (e :: rest)) (stored : (setup.intents pre).find? i = some x)
    (left : ¬ keeps setup i pre e = true) : (setup.intents (pre ++ [e])).find? i = none := by
  rw [Option.eq_none_iff_forall_ne_some]
  intro y found
  rcases (change_snoc setup pre e).grown found with
    ⟨z, before, grown⟩ | ⟨request, bus, token, rfl, key, start⟩
  · cases stored.symm.trans before
    refine left (decide_eq_true ?_)
    rw [stored, found, Option.map_some, Option.map_some, grown.object_eq]
  · exact unused [] request bus rest token y rfl (by simpa using start) key

theorem followed_eq_told {i : Int} {pre rest : List Event} {x : Intent}
    (numbered : Historically Numbered (pre ++ rest)) (unused : Unused setup i pre rest)
    (stored : (setup.intents pre).find? i = some x) : followed setup i pre rest = told setup i pre rest := by
  induction rest generalizing pre x with
  | nil => rfl
  | cons e rest ih =>
      rw [List.append_cons] at numbered
      rw [followed, told, emitted]
      congr 1
      by_cases keep : keeps setup i pre e = true
      · obtain ⟨y, found, _⟩ := owner_of_keeps stored keep
        rw [if_pos keep]
        exact ih numbered unused.tail found
      · rw [if_neg keep]
        exact (told_of_absent numbered unused.tail (absent_of_not_keeps unused stored keep)).symm

theorem unused_of_unnamed {pre rest : List Event} {i : Int} {x : Intent} (unnamed : Unnamed (pre ++ rest))
    (few : (pre ++ rest).countP Event.builds ≤ 2 ^ 32) (stored : (setup.intents pre).find? i = some x) :
    Unused setup i pre rest := by
  rintro mid request bus post token y rfl start same
  obtain ⟨key, ⟨origin⟩⟩ := stored_origin setup pre stored
  obtain ⟨before, request', bus', since, token', z, rfl, started, grown⟩ := origin
  rw [grown.intentId_eq, started.intentId_eq, chosenId_of_unnamed setup unnamed bus' (by simp)] at key
  rw [start.intentId_eq, chosenId_of_unnamed setup unnamed bus (by simp)] at same
  have counted :
      (before ++ .start request' bus' :: (since ++ mid) ++ .start request bus :: post).countP Event.builds ≤
        2 ^ 32 := by simpa using few
  have later := number_ne counted rfl
  exact later (key.trans (by simpa using same.symm))

variable (setup)

/-- A request that is answered as a subscriber of an intent gets exactly what is
    ever posted under its id afterwards, in order and once, and nothing else. -/
theorem mailbox_complete (before since : List Event) (joining : Event) {r : Nat} {i : Int}
    (numbered : Historically Numbered (before ++ joining :: since))
    (unnamed : Unnamed (before ++ joining :: since))
    (few : (before ++ joining :: since).countP Event.builds ≤ 2 ^ 32)
    (answered : Answered setup r i before joining) :
    Topics.mailbox r (log setup [] (before ++ joining :: since)) = told setup i
        (before ++ [joining]) since := by
  obtain ⟨x, join⟩ := join_of_answered answered
  rw [mailbox_of_join numbered join]
  rw [List.append_cons] at numbered unnamed few
  exact followed_eq_told numbered (unused_of_unnamed unnamed few join.stored) join.stored

/-- The second client hears of the result and of the failure. -/
theorem sampleRun_complete :
    Topics.mailbox 2 (log Sample.host [] sampleRun) = told Sample.host 1 (sampleRun.take 4)
        (sampleRun.drop 4) := by
  refine mailbox_complete Sample.host (sampleRun.take 3) (sampleRun.drop 4) _ sampleRun_numbered ?_
    (by decide) ?_
  · intro request bus member
    simp [sampleRun, Sample.up, Sample.listed] at member
    rw [member.1]
    rfl
  · exact ⟨_, joinedReply, .inr rfl, rfl, by decide, by decide, by decide⟩

end IntentService.Mailbox
