import IntentService.Sessions

/-! # Which session launches an application

A `start` launches through the `SAM` of the session it is for, but it looks for
the handler before the intent is told that session, and an intent without a
session matches the handlers of all of them.
-/

namespace IntentService.Confinement

open History

variable (bus : Bus) (database : JValue)

/-- Whatever is launched in a session was registered by that session. -/
def Confined (history : List Event) (e : Event) : Prop :=
  ∀ call answer s a, .call call answer ∈ (Setup.withSessions bus database).effects history e →
    call.callback = .onLaunch → call.sessionId = some s → call.payload.get "id" = .string a →
    ∃ handler ∈ ((Setup.withSessions bus database).service history).handlers.values,
      handler.sessionId = s ∧ handler.name = a

/-- For a `start` with a session and a valid intent: the first stored handler,
    whatever its session, that matches the intent has the name of a handler of
    the session of the request. -/
def PicksOwn (history : List Event) (e : Event) : Prop :=
  ∀ request answers session intent handler, e = .start request answers →
    ((Setup.withSessions bus database).service history).account.sessions.find?
      (IntentManager.requestSession true request) = some session →
    ((Setup.withSessions bus database).service history).freshIntent.fromJson (request.payload.get "intent") =
      (true, intent) →
    intent.isValid = true →
    ((Setup.withSessions bus database).service history).handlers.First intent handler →
    ∃ own ∈ ((Setup.withSessions bus database).service history).handlers.values,
      own.sessionId = IntentManager.requestSession true request ∧ own.name = handler.name

variable {bus database}

theorem launchCall_id (enableSession : Bool) (sam : Sam) (intent : Intent) (handler : Handler) :
    (sam.launchCall enableSession intent handler).payload.get "id" = .string handler.name := by
  rw [Sam.launchCall, JValue.get_put (by rfl), if_pos rfl]

theorem launchCall_eq {history : List Event} {request : Message} {session : Session} (intent : Intent)
    (handler : Handler) (found : ((Setup.withSessions bus database).service history).account.sessions.find?
      (IntentManager.requestSession true request) = some session) :
    (session.sam.launchCall true intent handler).sessionId =
        some (IntentManager.requestSession true request) ∧
      (session.sam.launchCall true intent handler).payload.get "id" = .string handler.name := by
  have keyed := (sessionsKeyed (Setup.withSessions bus database) history _ _ found).2
  exact ⟨congrArg some keyed, launchCall_id true session.sam intent handler⟩

theorem confined_iff (history : List Event) (e : Event) :
    Confined bus database history e ↔ PicksOwn bus database history e := by
  constructor
  · rintro confined request answers session intent handler rfl found parsed valid first
    have target := startTarget_eq_ok.mpr ⟨found, parsed, valid, Handlers.getHandler_eq_some.mpr first⟩
    obtain ⟨inSession, app⟩ := launchCall_eq intent handler found
    have launched := (launch_iff (Setup.withSessions bus database)).mpr
      ⟨request, answers, session, intent, handler, rfl, target, rfl, rfl⟩
    exact confined _ _ _ _ launched.1 launched.2 inSession app
  · intro picks call answer s a member launch inSession app
    obtain ⟨request, answers, session, intent, handler, rfl, target, rfl, _⟩ :=
      (launch_iff (Setup.withSessions bus database)).mp ⟨member, launch⟩
    obtain ⟨found, parsed, valid, picked⟩ := startTarget_eq_ok.mp target
    obtain ⟨own, registered⟩ := launchCall_eq intent handler found
    cases own.symm.trans inSession
    cases registered.symm.trans app
    exact picks request answers session intent handler rfl found parsed valid
      (Handlers.getHandler_eq_some.mp picked)

variable (bus database)

/-- Launches stay in their session along exactly the runs in which every `start`
    finds first a handler whose name its own session registered too. -/
theorem launches_confined_iff (history : List Event) :
    Historically (Confined bus database) history ↔ Historically (PicksOwn bus database) history :=
  historically_congr confined_iff

/-- Session `b` launches the application that only session `a` registered. -/
theorem other_session_launches :
    ¬ Historically (Confined (Sample.bus 10 20 Sample.first_tokens) .emptyObject)
      [.accountStatus (Sample.status true "") (Sample.bus 10 20 Sample.first_tokens),
        .onGetSessions (Sample.sessionList ["a", "b"]) (Sample.bus 10 20 Sample.first_tokens),
        .samStatus "a" (Sample.status true "a") (Sample.bus 10 20 Sample.first_tokens),
        .onListApps (Sample.apps "viewer" (some "a")),
        .start { Sample.starting 1 "client" "viewer" [] with sessionId := some "b" }
          (Sample.bus 10 20 Sample.first_tokens)] := by
  intro confined
  have last := confined [_, _, _, _] _ [] rfl _ _ "b" "viewer" (.head _) rfl rfl rfl
  exact absurd last (by decide)

end IntentService.Confinement
