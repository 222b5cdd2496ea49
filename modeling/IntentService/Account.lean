import IntentService.Bus

/-! # Session managers, sessions and accounts

The clients of the two webOS services. A `SAM` follows the application manager
of one session and keeps its `listApps` subscription; a `Session` owns a `SAM`;
`Account` keeps the sessions the account service reports.
-/

namespace IntentService

open JValueUtil

def registerServerStatus : String := "luna://com.webos.service.bus/signal/registerServerStatus"

/-- `getSubscriptionPayload()`. -/
def subscriptionPayload : JValue := JValue.emptyObject.put "subscribe" (.bool true)

/-- The token a successful call stores; a failed one leaves the variable alone. -/
def storeToken (answer : Option UInt64) (token : UInt64) : UInt64 := answer.getD token

/-- `LSCallCancel` on a token that is kept while the call is open. -/
def cancelOpen (token : UInt64) : List Effect := if token ≠ 0 then [.cancel token] else []

/-- The call `AbsLunaClient::onInitialization` makes. -/
def clientStatusCall (serviceName sessionId : String) (client : Client) : LSCall :=
  let requestPayload := JValue.emptyObject.put "serviceName" (.string serviceName)
  { uri := registerServerStatus
    payload :=
      if sessionId.isEmpty then requestPayload else requestPayload.put "sessionId" (.string sessionId)
    callback := .clientStatus client }

/-- What a status notification says to a client of a session: `none` if it is
    malformed or about another session. -/
def clientStatus (sessionId : String) (notice : Message) : Option Bool :=
  if notice.payload.isNull then none
  else
    match getValue bool notice.payload "connected" false with
    | (false, _) => none
    | (true, connected) =>
        if sessionId.isEmpty then some connected
        else
          match getValue string notice.payload "sessionId" "" with
          | (false, _) => none
          | (true, named) => if named ≠ sessionId then none else some connected

/-! ## `SAM` -/

structure Sam where
  sessionId : String
  isConnected : Bool := false
  statusCall : UInt64 := 0
  listApps : UInt64 := 0

namespace Sam

def serviceName : String := "com.webos.service.applicationmanager"

/-- The session argument of the `LSCallSession` family, absent from the plain calls. -/
def callSession (enableSession : Bool) (self : Sam) : Option String :=
  if enableSession then some self.sessionId else none

def listAppsCall (enableSession : Bool) (self : Sam) : LSCall :=
  { uri := "luna://" ++ serviceName ++ "/listApps"
    payload := subscriptionPayload
    sessionId := self.callSession enableSession
    callback := .onListApps }

/-- `AbsLunaClient::onInitialization`. -/
def onInitialization (bus : Bus) (self : Sam) : Sam × List Effect :=
  let call := clientStatusCall serviceName self.sessionId (.sam self.sessionId)
  let answer := bus.answer call
  ({ self with statusCall := storeToken answer self.statusCall }, [.call call answer])

/-- `AbsLunaClient::onFinalization`. -/
def onFinalization (self : Sam) : Sam × List Effect :=
  ({ self with statusCall := 0 }, cancelOpen self.statusCall)

/-- `SAM::~SAM`. -/
def destroy (self : Sam) : List Effect := cancelOpen self.listApps

def onServerStatusChanged (enableSession : Bool) (bus : Bus) (self : Sam) (handlers : Handlers)
    (isConnected : Bool) : Sam × Handlers × List Effect :=
  if isConnected then
    if self.listApps = 0 then
      let call := self.listAppsCall enableSession
      let answer := bus.answer call
      ({ self with listApps := storeToken answer self.listApps }, handlers, [.call call answer])
    else (self, handlers, [])
  else
    ({ self with listApps := 0 }, handlers.removeBySessionId self.sessionId, cancelOpen self.listApps)

/-- `AbsLunaClient::_onServerStatusChanged` on a `SAM`. -/
def onStatus (enableSession : Bool) (bus : Bus) (self : Sam) (handlers : Handlers) (notice : Message) :
    Sam × Handlers × List Effect :=
  match clientStatus self.sessionId notice with
  | none => (self, handlers, [])
  | some connected =>
      { self with isConnected := connected }.onServerStatusChanged enableSession bus handlers connected

/-- The handler an app entry registers. -/
def appHandler (id sessionId : String) (intentFilters : JValue) : Handler :=
  ({ name := id, sessionId := sessionId } : Handler).setIntentFilters intentFilters

/-- The filters of an app entry at `json`, or those of the database; the
    variable keeps its value if there are neither. -/
def lookupFilters (database : JValue) (found : Bool × JValue) (id : String) : JValue :=
  if !found.1 then (ConfFile.getIntentFilter database id found.2).2 else found.2

/-- The loop over `apps`: `id` and `intentFilters` live across the entries. -/
def addApps (database : JValue) (sessionId : String) :
    List JValue → (id : String) → (intentFilters : JValue) → Handlers → Handlers
  | [], _, _, handlers => handlers
  | app :: rest, id, intentFilters, handlers =>
      match getValue string app "id" id with
      | (false, id) => addApps database sessionId rest id intentFilters handlers
      | (true, id) =>
          let intentFilters := lookupFilters database (getValue jvalue app "intentFilters" intentFilters) id
          addApps database sessionId rest id intentFilters
            (handlers.add (appHandler id sessionId intentFilters)).2

def onListApps (enableSession : Bool) (database : JValue) (handlers : Handlers) (reply : Message) :
    Handlers :=
  let sessionId := getSessionId enableSession reply
  let returnValue := (getValue bool reply.payload "returnValue" false).2
  if reply.isHubError || !returnValue then handlers
  else
    match getValue string reply.payload "change" "" with
    | (true, change) =>
        match getValue₂ string reply.payload "app" "id" "" with
        | (false, _) => handlers
        | (true, id) =>
            let intentFilters :=
              lookupFilters database (getValue₂ jvalue reply.payload "app" "intentFilters" .null) id
            if change = "added" then (handlers.add (appHandler id sessionId intentFilters)).2
            else if change = "removed" then handlers.remove (Handler.convertKey sessionId id)
            else handlers
    | (false, _) =>
        match getValue jvalue reply.payload "apps" .null with
        | (false, _) => handlers
        | (true, apps) =>
            if apps.isArray then addApps database sessionId apps.items "" .null handlers else handlers

def launchCall (enableSession : Bool) (self : Sam) (intent : Intent) (handler : Handler) : LSCall :=
  let params := intent.toJson .emptyObject
  let params := params.put "from" (.string intent.owner)
  let params := params.put "intentId" (.number intent.intentId)
  let requestPayload := JValue.emptyObject.put "params" params
  { uri := "luna://" ++ serviceName ++ "/launch"
    payload := requestPayload.put "id" (.string handler.name)
    sessionId := self.callSession enableSession
    callback := .onLaunch }

/-- The result of `launch`, and the intent afterwards: the token is kept only if
    the call was accepted. -/
def launch (enableSession : Bool) (bus : Bus) (self : Sam) (intent : Intent) (handler : Handler) :
    Int × Intent × List Effect :=
  let call := self.launchCall enableSession intent handler
  match bus.answer call with
  | none => (-1, intent, [.call call none])
  | some token => (toInt token, intent.setToken (toInt token), [.call call (some token)])

/-- The failure notice of `onLaunch`. -/
def launchFailure (reply : Message) (intent : Intent) : JValue :=
  let payload := reply.payload.put "returnValue" (.bool false)
  let payload := payload.put "subscribed" (.bool true)
  let payload := payload.put "intentId" (.number intent.intentId)
  payload.put "errorText" (.string "Failed to start intent")

def onLaunch (intents : Intents) (reply : Message) : Intents × List Effect :=
  match intents.getByToken (toInt reply.responseToken) with
  | none => (intents, [])
  | some intent =>
      let returnValue := (getValue bool reply.payload "returnValue" false).2
      if !returnValue then
        (intents.removeById intent.intentId, [.post intent.subscribers (launchFailure reply intent)])
      else (intents, [])

end Sam

/-! ## `Session` -/

structure Session where
  sessionId : String
  sam : Sam
  isRunning : Bool := true

namespace Session

/-- `Session::Session`. -/
def new (bus : Bus) (sessionId : String) : Session × List Effect :=
  let (sam, effects) := ({ sessionId := sessionId } : Sam).onInitialization bus
  ({ sessionId := sessionId, sam := sam }, effects)

/-- `Session::~Session`, and the `~SAM` of its member after it. -/
def destroy (self : Session) (handlers : Handlers) : Handlers × List Effect :=
  let (sam, effects) := self.sam.onFinalization
  (handlers.removeBySessionId self.sessionId, effects ++ sam.destroy)

/-- Destroy sessions one after the other. -/
def destroyAll : List Session → Handlers → Handlers × List Effect
  | [], handlers => (handlers, [])
  | session :: rest, handlers =>
      let (handlers, effects) := session.destroy handlers
      let (handlers, more) := destroyAll rest handlers
      (handlers, effects ++ more)

end Session

/-! ## `Account` -/

structure Account where
  isConnected : Bool := false
  statusCall : UInt64 := 0
  getSessions : UInt64 := 0
  sessions : OrderedMap String Session := ∅

namespace Account

def serviceName : String := "com.webos.service.account"

def getSession (self : Account) (sessionId : String) : Option Session := self.sessions.find? sessionId

def getSessionsCall : LSCall :=
  { uri := "luna://" ++ serviceName ++ "/getSessions"
    payload := subscriptionPayload
    callback := .onGetSessions }

/-- `onInitialization`: the empty session stands for the host where sessions are
    not built in. -/
def onInitialization (enableSession : Bool) (bus : Bus) (self : Account) : Account × List Effect :=
  if enableSession then
    let call := clientStatusCall serviceName "" .account
    let answer := bus.answer call
    ({ self with statusCall := storeToken answer self.statusCall }, [.call call answer])
  else
    let (session, effects) := Session.new bus ""
    ({ self with sessions := self.sessions.insert "" session }, effects)

def onServerStatusChanged (bus : Bus) (self : Account) (handlers : Handlers) (isConnected : Bool) :
    Account × Handlers × List Effect :=
  let cancelled := cancelOpen self.getSessions
  let (handlers, destroyed) := Session.destroyAll self.sessions.values handlers
  let account := { self with getSessions := 0, sessions := ∅ }
  if isConnected then
    let answer := bus.answer getSessionsCall
    ({ account with getSessions := storeToken answer 0 }, handlers,
      cancelled ++ destroyed ++ [.call getSessionsCall answer])
  else (account, handlers, cancelled ++ destroyed)

/-- `AbsLunaClient::_onServerStatusChanged` on the `Account`. -/
def onStatus (bus : Bus) (self : Account) (handlers : Handlers) (notice : Message) :
    Account × Handlers × List Effect :=
  match clientStatus "" notice with
  | none => (self, handlers, [])
  | some connected => { self with isConnected := connected }.onServerStatusChanged bus handlers connected

/-- The update loop of `onGetSessions`: `sessionId` lives across the entries. -/
def updateSessions (bus : Bus) :
    List JValue → (sessionId : String) → OrderedMap String Session →
      OrderedMap String Session × List Effect
  | [], _, sessions => (sessions, [])
  | item :: rest, sessionId, sessions =>
      match getValue string item "sessionId" sessionId with
      | (false, sessionId) => updateSessions bus rest sessionId sessions
      | (true, sessionId) =>
          match sessions.find? sessionId with
          | some session =>
              updateSessions bus rest sessionId
                (sessions.insert sessionId { session with isRunning := true })
          | none =>
              let (session, effects) := Session.new bus sessionId
              let (sessions, more) := updateSessions bus rest sessionId
                (sessions.insert sessionId { session with isRunning := true })
              (sessions, effects ++ more)

def onGetSessions (bus : Bus) (self : Account) (handlers : Handlers) (reply : Message) :
    Account × Handlers × List Effect :=
  match getValue bool reply.payload "returnValue" false with
  | (false, _) | (true, false) => (self, handlers, [])
  | (true, true) =>
      match getValue jvalue reply.payload "sessions" .null with
      | (false, _) => (self, handlers, [])
      | (true, sessions) =>
          if sessions.isArray then
            -- mark as removed
            let marked := self.sessions.mapValues (fun _ session => { session with isRunning := false })
            -- update current status
            let (updated, created) := updateSessions bus sessions.items "" marked
            -- handle removed session
            let dropped := (updated.filter (fun _ session => !session.isRunning)).values
            let (handlers, destroyed) := Session.destroyAll dropped handlers
            ({ self with sessions := updated.filter (fun _ session => session.isRunning) }, handlers,
              created ++ destroyed)
          else (self, handlers, [])

/-- `onFinalization`: the sessions go before the status call. -/
def onFinalization (self : Account) (handlers : Handlers) : Account × Handlers × List Effect :=
  let (handlers, destroyed) := Session.destroyAll self.sessions.values handlers
  ({ self with sessions := ∅, statusCall := 0 }, handlers, destroyed ++ cancelOpen self.statusCall)

/-- `Account::~Account`, with the destructors of its sessions and of `AbsLunaClient` after it. -/
def destroy (self : Account) (handlers : Handlers) : Handlers × List Effect :=
  let (handlers, destroyed) := Session.destroyAll self.sessions.values handlers
  (handlers, cancelOpen self.getSessions ++ destroyed ++ cancelOpen self.statusCall)

end Account

end IntentService
