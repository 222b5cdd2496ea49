import IntentService.Confinement
import IntentService.Encoding

/-! # The handler that `start` picks and those that `query` shows

Both walk the same store in key order, but `query` tells the intent its session
before it asks who matches, and `start` only afterwards.
-/

namespace IntentService.Choice

open Encoding IntentManager

/-! ## What `query` shows -/

/-- An intent without a session matches the handlers of all sessions. -/
theorem isMatched_setSessionId {intent : Intent} (none : intent.sessionId = "") (sessionId : String)
    (handler : Handler) :
    handler.isMatched (intent.setSessionId sessionId) =
      ((sessionId.isEmpty || handler.sessionId == sessionId) && handler.isMatched intent) := by
  have sessionless : intent.hasSessionId = false := by
    rw [Intent.hasSessionId, none]
    rfl
  have named : (intent.setSessionId sessionId).hasName = intent.hasName := rfl
  have same : ∀ f, Handler.compareIntentFilter f (intent.setSessionId sessionId) =
      Handler.compareIntentFilter f intent := fun _ => rfl
  have asked : (intent.setSessionId sessionId).hasSessionId = !sessionId.isEmpty := rfl
  unfold Handler.isMatched
  rw [sessionless, asked, named]
  simp only [same]
  by_cases empty : sessionId.isEmpty = true
  · simp [empty]
    rfl
  · by_cases own : handler.sessionId = sessionId <;> simp [empty, own, Intent.setSessionId]

/-! ## The two requests -/

/-- The launch calls among the effects. -/
def launches (effects : List Effect) : List LSCall :=
  effects.filterMap fun
    | .call call _ => if call.callback = .onLaunch then some call else none
    | .cancel _ | .respond _ _ | .post _ _ => none

theorem query_handlers {enableSession : Bool} {self : Service} {request : Message} {intent : Intent}
    (asks : request.payload.hasKey "intent" = true)
    (parsed : self.freshIntent.fromJson (request.payload.get "intent") = (true, intent))
    (valid : intent.isValid = true) :
    (query enableSession self request).2 = [done request (JValue.emptyObject.put "handlers"
      (.array (self.handlers.shown (fun handler =>
        handler.isMatched (intent.setSessionId (requestSession enableSession request)))))) ""] := by
  have usable : request.payload.isNull = false := by
    cases json : request.payload with
    | invalid | null =>
        rw [json] at asks
        cases asks
    | bool | number | string | array | object => rfl
  unfold query
  simp [usable, asks, parsed, valid, Handlers.toJsonMatched_eq, Service.built]

section Requests

variable {enableSession : Bool} {bus : Bus} {self : Service} {request : Message} {session : Session}
  {intent : Intent}

variable (found : self.account.getSession (requestSession enableSession request) = some session)
  (parsed : self.freshIntent.fromJson (request.payload.get "intent") = (true, intent))
  (valid : intent.isValid = true)
include found parsed valid

end Requests

/-! ## When they agree -/

/-- Session `a` lists the application, and session `b` none. -/
private def onlyFirst : List Event :=
  [.accountStatus (Sample.status true "") (Sample.bus 10 20 Sample.first_tokens),
    .onGetSessions (Sample.sessionList ["a", "b"]) (Sample.bus 10 20 Sample.first_tokens),
    .samStatus "a" (Sample.status true "a") (Sample.bus 10 20 Sample.first_tokens),
    .onListApps (Sample.apps "viewer" (some "a"))]

private def stored : Service :=
  (Setup.withSessions (Sample.bus 10 20 Sample.first_tokens) .emptyObject).service onlyFirst

private def asking (sessionId : String) : Message :=
  { Sample.starting 1 "client" "viewer" [] with sessionId := some sessionId }

end IntentService.Choice
