import IntentService.Account

/-! # The intent manager

The four methods of the service and the notification that an owner left. Each
handler maps the state of the process, the message and the behaviour of the bus
to the new state and the effects, in the order the source performs them.
-/

namespace IntentService

open JValueUtil

/-- The singletons of the process. -/
structure Service where
  /-- `Intent::s_counter`. -/
  counter : Int := 0
  /-- How many `Intent` objects were built. -/
  objects : Nat := 0
  intents : Intents := ∅
  handlers : Handlers := ∅
  account : Account := {}
  /-- `ConfFile::m_database`. -/
  database : JValue := .emptyObject

namespace Service

/-- The intent `make_shared<Intent>()` builds next. -/
def freshIntent (self : Service) : Intent := Intent.new self.counter self.objects

/-- The process after that. -/
def built (self : Service) : Service :=
  { self with counter := Intent.nextId self.counter, objects := self.objects + 1 }

end Service

namespace IntentManager

/-- The `Done:` part of a handler: the verdict goes into the reply. -/
def done (request : Message) (responsePayload : JValue) (errorText : String) : Effect :=
  .respond request.id
    (if errorText.isEmpty then responsePayload.put "returnValue" (.bool true)
     else (responsePayload.put "returnValue" (.bool false)).put "errorText" (.string errorText))

/-- The session a request is for: the one it came from, unless the payload names one. -/
def requestSession (enableSession : Bool) (request : Message) : String :=
  (getValue string request.payload "sessionId" (getSessionId enableSession request)).2

def query (enableSession : Bool) (self : Service) (request : Message) : Service × List Effect :=
  let requestPayload := request.payload
  let responsePayload := JValue.emptyObject
  let intent := self.freshIntent
  let self := self.built
  if requestPayload.isNull then (self, [done request responsePayload "Invalid parameter"])
  else
    let sessionId := requestSession enableSession request
    if requestPayload.hasKey "intent" then
      let (parsed, intent) := intent.fromJson (requestPayload.get "intent")
      if !parsed || !intent.isValid then
        (self, [done request responsePayload "Failed to parse intent"])
      else
        let handlers := self.handlers.toJsonMatched .emptyArray (intent.setSessionId sessionId)
        (self, [done request (responsePayload.put "handlers" handlers) ""])
    else
      let handlers := self.handlers.toJson .emptyArray sessionId
      (self, [done request (responsePayload.put "handlers" handlers) ""])

/-- The watch `subscribeStatus` opens. -/
def statusCall (name sessionId : String) : LSCall :=
  let requestPayload := JValue.emptyObject.put "serviceName" (.string name)
  let requestPayload := requestPayload.put "subscribe" (.bool true)
  { uri := registerServerStatus
    payload :=
      if sessionId.isEmpty then requestPayload else requestPayload.put "sessionId" (.string sessionId)
    callback := .ownerStatus }

def subscribeStatus (bus : Bus) (name sessionId : String) : Effect :=
  .call (statusCall name sessionId) (bus.answer (statusCall name sessionId))

/-- The checks of `start` before the launch, with the error text of the one that
    fails: the session, the intent and the handler to launch. -/
def startTarget (enableSession : Bool) (self : Service) (request : Message) :
    Except String (Session × Intent × Handler) :=
  match self.account.getSession (requestSession enableSession request) with
  | none => .error "Cannot find session"
  | some session =>
      let (parsed, intent) := self.freshIntent.fromJson (request.payload.get "intent")
      if !parsed || !intent.isValid then .error "Invalid parameter"
      else
        match self.handlers.getHandler intent with
        | none => .error "Cannot find handler"
        | some handler => .ok (session, intent, handler)

/-- The reply to a request that started an intent. -/
def startedReply (request : Message) (sessionId : String) (intent : Intent) : JValue :=
  let responsePayload := JValue.emptyObject.put "intentId" (.number intent.intentId)
  let responsePayload :=
    if sessionId.isEmpty then responsePayload else responsePayload.put "sessionId" (.string sessionId)
  if request.isSubscription then responsePayload.put "subscribed" (.bool true) else responsePayload

/-- What `start` adds to the intent once it is launched. -/
def startedIntent (request : Message) (sessionId : String) (intent : Intent) : Intent :=
  let intent := (intent.setSessionId sessionId).setOwner (getName request)
  if request.isSubscription then intent.addSubscriber request.id else intent

def start (enableSession : Bool) (bus : Bus) (self : Service) (request : Message) :
    Service × List Effect :=
  let responsePayload := JValue.emptyObject
  let sessionId := requestSession enableSession request
  match startTarget enableSession self request with
  | .error errorText => (self.built, [done request responsePayload errorText])
  | .ok (session, intent, handler) =>
      let (code, intent, launched) := session.sam.launch enableSession bus intent handler
      if code = -1 then
        (self.built, launched ++ [done request responsePayload "Failed to start intent"])
      else
        let stored := startedIntent request sessionId intent
        -- server status is monitored where the requester is, not in `sessionId`
        let watch := subscribeStatus bus stored.owner (getSessionId enableSession request)
        ({ self.built with intents := self.intents.add stored },
          launched ++ [watch, done request (startedReply request sessionId intent) ""])

/-- The post of a result. -/
def resultPost (request : Message) (intentId : Int) (result : String) : JValue :=
  let payload := JValue.emptyObject.put "result" (.string result)
  let payload :=
    match getValue jvalue request.payload "intent" .emptyObject with
    | (true, intent) => payload.put "intent" intent
    | (false, _) => payload
  let payload := payload.put "returnValue" (.bool true)
  let payload := payload.put "subscribed" (.bool true)
  let payload := payload.put "intentId" (.number intentId)
  payload.put "from" (.string (getName request))

/-- The `Done:` part of `sendResult`. -/
def sendResultDone (request : Message) (intentId : Int) (errorText : String) : Effect :=
  .respond request.id
    ((if errorText.isEmpty then JValue.emptyObject.put "returnValue" (.bool true)
      else (JValue.emptyObject.put "returnValue" (.bool false)).put "errorText" (.string errorText)).put
        "intentId" (.number intentId))

def sendResult (self : Service) (request : Message) : Service × List Effect :=
  match getValue int request.payload "intentId" (-1) with
  | (false, intentId) => (self, [sendResultDone request intentId "'intentId' is required parameter"])
  | (true, intentId) =>
      match self.intents.getById intentId with
      | none => (self, [sendResultDone request intentId "Cannot find intent"])
      | some requestIntent =>
          match getValue string request.payload "result" "" with
          | (false, _) => (self, [sendResultDone request intentId "Cannot find 'result'"])
          | (true, result) =>
              (self, [.post requestIntent.subscribers (resultPost request intentId result),
                sendResultDone request intentId ""])

/-- The `Done:` part of `subscribeResult`. -/
def subscribeResultDone (request : Message) (intentId : Int) (errorText : String) : Effect :=
  .respond request.id
    ((if errorText.isEmpty then
        (JValue.emptyObject.put "subscribed" (.bool true)).put "returnValue" (.bool true)
      else
        ((JValue.emptyObject.put "returnValue" (.bool false)).put "errorText" (.string errorText)).put
          "subscribed" (.bool false)).put
        "intentId" (.number intentId))

def subscribeResult (self : Service) (request : Message) : Service × List Effect :=
  match getValue int request.payload "intentId" (-1) with
  | (false, intentId) =>
      (self, [subscribeResultDone request intentId "'intentId' is required parameter"])
  | (true, intentId) =>
      match self.intents.getById intentId with
      | none => (self, [subscribeResultDone request intentId "Cannot find intent"])
      | some intent =>
          if !request.isSubscription then
            (self, [subscribeResultDone request intentId "'subscribe' should be 'true'"])
          else
            ({ self with intents := self.intents.insert intentId (intent.addSubscriber request.id) },
              [subscribeResultDone request intentId ""])

/-- The service name of a notification that says a watched owner left. -/
def departed (notice : Message) : Option String :=
  if notice.payload.isNull then none
  else
    match getValue bool notice.payload "connected" false,
        getValue string notice.payload "serviceName" "" with
    | (true, connected), (true, serviceName) => if connected = false then some serviceName else none
    | _, _ => none

def onServerStatusChanged (self : Service) (notice : Message) : Service × List Effect :=
  match departed notice with
  | none => (self, [])
  | some serviceName =>
      ({ self with intents := self.intents.removeByOwner serviceName }, [.cancel notice.messageToken])

end IntentManager

end IntentService
