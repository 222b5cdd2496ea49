import IntentService.Ownership

/-! # The end of the process

`MainDaemon::finalize` takes the account and its sessions down when the main
loop has stopped, and the destructor of the account follows at exit. After any
run that closes every call of the clients and removes the handlers of every
session.
-/

namespace IntentService

/-- `MainDaemon::finalize`: the other singletons have nothing to finalize. -/
def MainDaemon.finalize (self : Service) : Service × List Effect :=
  let (account, handlers, effects) := self.account.onFinalization self.handlers
  ({ self with account := account, handlers := handlers }, effects)

/-- The process at exit: the finalization, and then the destructor of the account. -/
def MainDaemon.exit (self : Service) : Service × List Effect :=
  let (self, finalized) := MainDaemon.finalize self
  let (handlers, destroyed) := self.account.destroy self.handlers
  ({ self with handlers := handlers }, finalized ++ destroyed)

/-- The world after the process is gone. -/
def World.exit (self : World) : World :=
  let (service, effects) := MainDaemon.exit self.service
  { self with service := service, live := effects.foldl World.applyEffect self.live }

namespace Shutdown

open Ownership

theorem exit_handlers (self : Service) (key : String) (h : Handler) :
    (MainDaemon.exit self).1.handlers.find? key = some h ↔
      self.handlers.find? key = some h ∧ ∀ session ∈ self.account.sessions.values,
          h.sessionId ≠ session.sessionId :=
  destroyAll_handlers self.account.sessions.values self.handlers key h

theorem cancel_exit {self : Service} {slot : Slot} {token : UInt64}
    (held : kept self.account slot = some token) :
    .cancel token ∈ (MainDaemon.exit self).2 := by
  simp only [MainDaemon.exit, MainDaemon.finalize, Account.onFinalization, Account.destroy, List.mem_append]
  cases slot with
  | status => exact .inl (.inr (cancel_mem_cancelOpen.mpr held))
  | getSessions => exact .inr (.inl (.inl (cancel_mem_cancelOpen.mpr held)))
  | samStatus s => exact .inl (.inl (swept _ (.inl held)))
  | listApps s => exact .inl (.inl (swept _ (.inr held)))

theorem call_not_mem_exit (self : Service) (call : LSCall) (answer : Option UInt64) :
    .call call answer ∉ (MainDaemon.exit self).2 := by
  simp [MainDaemon.exit, MainDaemon.finalize, Account.onFinalization, Account.destroy,
    call_not_mem_cancelOpen, call_not_mem_destroyAll]

/-- What is left when the process is gone. -/
structure Clean (before after : World) : Prop where
  /-- Only calls of `start` are still open. -/
  calls : ∀ entry ∈ after.live, entry ∈ before.live ∧ entry.call.callback.ofStart
  sessions : after.service.account.sessions = ∅
  /-- No handler of a session that was there is left, and no other one is removed. -/
  handlers : ∀ key h, after.service.handlers.find? key = some h ↔
    before.service.handlers.find? key = some h ∧ before.service.account.sessions.find? h.sessionId = none

/-- Whatever the bus did, the process leaves no call of a client behind when it ends. -/
theorem exit_clean (setup : Setup) (history : List Event) :
    Clean (setup.after history) (setup.after history).exit := by
  constructor
  · intro entry live
    rcases mem_applyEffects live with ⟨before, left⟩ | made
    · refine ⟨before, ?_⟩
      by_contra own
      obtain ⟨slot, _, held⟩ := covered setup history entry.call entry.token ⟨before, own⟩
      exact left (cancel_exit held)
    · exact absurd made (call_not_mem_exit _ _ _)
  · rfl
  · intro key h
    have keyed := sessionsKeyed setup history
    refine (exit_handlers _ _ _).trans (and_congr_right (fun _ => ?_))
    rw [Option.eq_none_iff_forall_ne_some]
    constructor
    · intro other session known
      exact other session (OrderedMap.mem_values.mpr ⟨_, known⟩) (keyed _ _ known).1.symm
    · rintro gone session member same
      obtain ⟨s, known⟩ := OrderedMap.mem_values.mp member
      rw [same, (keyed _ _ known).1] at gone
      exact gone session known

end Shutdown

end IntentService
