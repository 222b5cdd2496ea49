import IntentService.Isolation
import IntentService.Orphans

/-! # What is left after the account service went

When the account service is reported up or down, the account forgets its
sessions, and they take their handlers with them. As long as no handler was
orphaned, the part of the clients goes on as that of a process just started.
-/

namespace IntentService.Reset

open History Isolation Orphans

/-- The account service is reported up or down. -/
def Resets (e : Event) : Prop :=
  ∃ notice bus connected, e = .accountStatus notice bus ∧ clientStatus "" notice = some connected

theorem ClientsChange.statusCall_eq {enableSession : Bool} {self : Service} {e : Event} {account : Account}
    {handlers : Handlers} {effects : List Effect}
    (change : ClientsChange enableSession self e account handlers effects) :
    account.statusCall = self.account.statusCall := by
  cases change with
  | other | sam | apps => rfl
  | account ended => cases ended <;> rfl
  | sync ended => cases ended <;> rfl

variable {bus : Bus} {database : JValue}

theorem statusCall_eq (history : List Event) :
    ((Setup.withSessions bus database).service history).account.statusCall =
      ((Setup.withSessions bus database).service []).account.statusCall := by
  induction history using List.reverseRecOn with
  | nil => rfl
  | append_singleton history e ih =>
      exact (ClientsChange.statusCall_eq (clients_snoc (Setup.withSessions bus database) history e)).trans ih

theorem database_eq (history : List Event) :
    ((Setup.withSessions bus database).service history).database = database := by
  induction history using List.reverseRecOn with
  | nil => rfl
  | append_singleton history e ih => rw [Setup.service_snoc, dispatch_database, ih]

theorem sweep_owned {self : Account} {handlers : Handlers} (keyed : SessionsKeyed self.sessions)
    (owned : Owned self handlers) : (Session.destroyAll self.sessions.values handlers).1 = ∅ := by
  apply OrderedMap.ext
  intro key
  rw [OrderedMap.find?_empty, Option.eq_none_iff_forall_ne_some]
  intro h found
  obtain ⟨stored, apart⟩ := (destroyAll_handlers _ _ key h).mp found
  obtain ⟨session, known, _⟩ := owned key h stored
  exact apart session (OrderedMap.mem_values.mpr ⟨_, known⟩) (keyed _ session known).1.symm

/-- The reset does not depend on what was there. -/
theorem same_of_reset {one other : Service} {e : Event} (resets : Resets e)
    (keyed : SessionsKeyed one.account.sessions) (keyed' : SessionsKeyed other.account.sessions)
    (owned : Owned one.account one.handlers) (owned' : Owned other.account other.handlers)
    (watched : one.account.statusCall = other.account.statusCall) (database : one.database = other.database) :
    Same (one.dispatch true e).1 (other.dispatch true e).1 := by
  obtain ⟨notice, bus, connected, rfl, status⟩ := resets
  have swept := sweep_owned keyed owned
  have swept' := sweep_owned keyed' owned'
  refine ⟨?_, ?_, database⟩
  · simp only [Service.dispatch, Account.onStatus, status, Account.onServerStatusChanged]
    cases connected <;> simp [watched]
  · simp only [Service.dispatch, Account.onStatus, status, Account.onServerStatusChanged]
    cases connected <;> simp [swept, swept']

/-- After a reset the part of the clients is that of a process that was started
    just before it, and goes on as that does, whatever comes. -/
theorem reset_forgets (history rest : List Event) (e : Event)
    (answered : Historically (AppsBus bus database) history)
    (silent : Historically (HostSilent bus database) history) (resets : Resets e) :
    Same ((Setup.withSessions bus database).service (history ++ [e] ++ rest))
        ((Setup.withSessions bus database).service ([e] ++ rest)) ∧
      clientEffects (.withSessions bus database) (history ++ [e]) rest =
        clientEffects (.withSessions bus database) [e] rest := by
  refine same_run _ ?_ rest
  have started : Owned ((Setup.withSessions bus database).service []).account
      ((Setup.withSessions bus database).service []).handlers := by
    intro key h found
    cases found
  have fresh : (Setup.withSessions bus database).service [e] =
      (((Setup.withSessions bus database).service []).dispatch true e).1 := Setup.service_snoc _ [] e
  rw [fresh, Setup.service_snoc]
  exact same_of_reset resets (sessionsKeyed _ history) (sessionsKeyed _ [])
    (owned_of_silent answered silent) started
    (statusCall_eq history) (database_eq history)

theorem twoSessions_forgotten :
    let setup := Setup.withSessions (Sample.bus 10 20 Sample.first_tokens) .emptyObject
    let down := Event.accountStatus (Sample.status false "") (Sample.bus 10 20 Sample.first_tokens)
    Same (setup.service (Sample.twoSessions ++ [down] ++ Sample.twoSessions))
        (setup.service ([down] ++ Sample.twoSessions)) ∧
      clientEffects setup (Sample.twoSessions ++ [down]) Sample.twoSessions =
        clientEffects setup [down] Sample.twoSessions := by
  refine reset_forgets Sample.twoSessions Sample.twoSessions _ ?_ ?_ ⟨_, _, false, rfl, rfl⟩
  · simp only [Sample.twoSessions, historically_cons, historically_nil, and_true]
    refine ⟨by simp [AppsBus], by simp [AppsBus], by simp [AppsBus], ?_, by simp [AppsBus], ?_⟩
    · rintro reply ⟨⟩
      exact ⟨_, List.mem_of_getElem? (i := 4) rfl, rfl, rfl, rfl⟩
    · rintro reply ⟨⟩
      exact ⟨_, List.mem_of_getElem? (i := 5) rfl, rfl, rfl, rfl⟩
  · intro pre e post split reply same addressed
    have member : e ∈ Sample.twoSessions := split ▸ List.mem_append_right pre List.mem_cons_self
    subst same
    simp [Sample.twoSessions, Sample.apps] at member
    rcases member with rfl | rfl <;> exact absurd addressed (by decide)

end IntentService.Reset
