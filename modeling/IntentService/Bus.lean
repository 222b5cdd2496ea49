import IntentService.Handler

/-! # Messages and bus calls

The luna bus as the service sees it: the messages it is given, the calls it
makes and what the bus answers to each, and the effects of one handler run. A
message stands for its `LSMessage` object together with the parsed payload.
-/

namespace IntentService

/-- A request from a client, or a reply to a call of the service. -/
structure Message where
  /-- Which `LSMessage` this is. -/
  id : Nat := 0
  payload : JValue := .invalid
  /-- `LSMessageGetSessionId`. -/
  sessionId : Option String := none
  applicationID : Option String := none
  senderServiceName : Option String := none
  isSubscription : Bool := false
  isHubError : Bool := false
  /-- The token of the message itself. -/
  messageToken : UInt64 := 0
  /-- The token of the call this message replies to. -/
  responseToken : UInt64 := 0

/-- A client object that watches the status of one service. -/
inductive Client where
  | account
  | sam (sessionId : String)
  deriving DecidableEq

/-- The function, and its context, that a call names for its replies. -/
inductive Callback where
  /-- `IntentManager::_onServerStatusChanged`. -/
  | ownerStatus
  /-- `AbsLunaClient::_onServerStatusChanged`. -/
  | clientStatus (client : Client)
  /-- `SAM::onLaunch`. -/
  | onLaunch
  /-- `SAM::onListApps`. -/
  | onListApps
  /-- `Account::onGetSessions`. -/
  | onGetSessions
  deriving DecidableEq

/-- A call to the bus; the session is the argument of the `LSCallSession` family. -/
structure LSCall where
  uri : String
  payload : JValue
  sessionId : Option String := none
  callback : Callback
  deriving DecidableEq

/-- How the bus behaves during one event: each call is rejected, or accepted
    with a nonzero token. -/
structure Bus where
  answer : LSCall → Option UInt64
  nonzero : ∀ {call token}, answer call = some token → token ≠ 0

/-- `(int) token`. -/
def toInt (token : UInt64) : Int := wrapInt token.toNat

/-- What a handler does to the outside. -/
inductive Effect where
  /-- A call, and what the bus answered. -/
  | call (call : LSCall) (answer : Option UInt64)
  | cancel (token : UInt64)
  /-- The reply to a request. -/
  | respond (request : Nat) (payload : JValue)
  /-- A post to the subscribers of an intent. -/
  | post (subscribers : List Nat) (payload : JValue)
  deriving DecidableEq

/-- `AbsLunaClient::getSessionId`, in a build with or without `ENABLE_SESSION`. -/
def getSessionId (enableSession : Bool) (message : Message) : String :=
  if enableSession then
    match message.sessionId with
    | none => ""
    | some sessionId => if sessionId == "host" then "" else sessionId
  else ""

/-- `IntentManager::getName`. -/
def getName (request : Message) : String :=
  match request.applicationID with
  | some applicationID => applicationID
  | none =>
      match request.senderServiceName with
      | some senderServiceName => senderServiceName
      | none => ""

end IntentService
