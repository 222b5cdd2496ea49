import IntentService.IntentManager
import IntentService.Library.History

/-! # Runs of the service on the bus

The system around the process: the calls the bus still answers, and the
notices of owners that left which it has not delivered yet. An event is one
callback of the main loop with everything the bus contributes to it, or a
client leaving the bus. Nothing here restricts what may be delivered when; the
results name the bus behaviour they rely on.
-/

namespace IntentService

/-- One turn of the main loop, or a client that leaves. -/
inductive Event where
  | query (request : Message)
  | start (request : Message) (bus : Bus)
  | sendResult (request : Message)
  | subscribeResult (request : Message)
  /-- A reply to a launch call. -/
  | onLaunch (reply : Message)
  /-- A notification on a watch that `start` opened. -/
  | ownerStatus (notice : Message)
  | accountStatus (notice : Message) (bus : Bus)
  /-- A notification to the `SAM` of a session. -/
  | samStatus (sessionId : String) (notice : Message) (bus : Bus)
  | onGetSessions (reply : Message) (bus : Bus)
  | onListApps (reply : Message)
  /-- A client leaves the bus; the service hears of it through its watches. -/
  | disconnect (name sessionId : String)

/-- The request a client sent. -/
def Event.request? : Event → Option Message
  | .query request | .start request _ | .sendResult request | .subscribeResult request => some request
  | _ => none

namespace Service

/-- The handler an event runs. -/
def dispatch (enableSession : Bool) (self : Service) : Event → Service × List Effect
  | .query request => IntentManager.query enableSession self request
  | .start request bus => IntentManager.start enableSession bus self request
  | .sendResult request => IntentManager.sendResult self request
  | .subscribeResult request => IntentManager.subscribeResult self request
  | .onLaunch reply =>
      let (intents, effects) := Sam.onLaunch self.intents reply
      ({ self with intents := intents }, effects)
  | .ownerStatus notice => IntentManager.onServerStatusChanged self notice
  | .accountStatus notice bus =>
      let (account, handlers, effects) := self.account.onStatus bus self.handlers notice
      ({ self with account := account, handlers := handlers }, effects)
  | .samStatus sessionId notice bus =>
      match self.account.sessions.find? sessionId with
      | none => (self, [])
      | some session =>
          let (sam, handlers, effects) := session.sam.onStatus enableSession bus self.handlers notice
          let sessions := self.account.sessions.insert sessionId { session with sam := sam }
          ({ self with account := { self.account with sessions := sessions }, handlers := handlers }, effects)
  | .onGetSessions reply bus =>
      let (account, handlers, effects) := self.account.onGetSessions bus self.handlers reply
      ({ self with account := account, handlers := handlers }, effects)
  | .onListApps reply =>
      ({ self with handlers := Sam.onListApps enableSession self.database self.handlers reply }, [])
  | .disconnect _ _ => (self, [])

end Service

/-- A message posted to the subscribers of an intent. -/
structure Post where
  subscribers : List Nat
  payload : JValue
  deriving DecidableEq

/-- The posts among the effects of an event. -/
def posts (effects : List Effect) : List Post :=
  effects.filterMap fun
    | .post subscribers payload => some ⟨subscribers, payload⟩
    | .call _ _ | .cancel _ | .respond _ _ => none

/-- An accepted call and its token. -/
structure LiveCall where
  token : UInt64
  call : LSCall

/-- A notice that a watched owner left, on its way to the watch with the token. -/
structure Notice where
  token : UInt64
  name : String
  deriving DecidableEq

/-- The message that delivers a notice: it answers the watch, and has a token of its own. -/
def Notice.message (self : Notice) (messageToken : UInt64) : Message :=
  { payload := .object [("connected", .bool false), ("serviceName", .string self.name)]
    messageToken := messageToken
    responseToken := self.token }

structure World where
  service : Service
  /-- The accepted calls that were not cancelled, and not answered if they get
      one reply. -/
  live : List LiveCall := []
  undelivered : List Notice := []

namespace World

/-- The open calls after an effect. -/
def applyEffect (live : List LiveCall) : Effect → List LiveCall
  | .call call (some token) => live ++ [⟨token, call⟩]
  | .cancel token => live.filter (fun entry => entry.token != token)
  | .call _ none | .respond _ _ | .post _ _ => live

/-- The open calls when an event arrives: a launch reply is the last one. -/
def receive (live : List LiveCall) : Event → List LiveCall
  | .onLaunch reply =>
      live.filter (fun entry => !(entry.call.callback == .onLaunch && entry.token == reply.responseToken))
  | _ => live

/-- The notices under way: one more for each watch on a client that leaves, one
    less when it is delivered. -/
def exchange (live : List LiveCall) (undelivered : List Notice) : Event → List Notice
  | .disconnect name sessionId =>
      undelivered ++
        (live.filter (fun entry => entry.call = IntentManager.statusCall name sessionId)).map
          (fun entry => ⟨entry.token, name⟩)
  | .ownerStatus notice =>
      match IntentManager.departed notice with
      | some name => undelivered.erase ⟨notice.responseToken, name⟩
      | none => undelivered
  | _ => undelivered

def step (enableSession : Bool) (self : World) (e : Event) : World :=
  let (service, effects) := self.service.dispatch enableSession e
  let live := effects.foldl applyEffect (receive self.live e)
  { service := service
    live := live
    -- a cancelled watch hears nothing more
    undelivered := (exchange self.live self.undelivered e).filter
      (fun notice => live.any (fun entry => entry.token == notice.token)) }

end World

/-- How the process is built and started. -/
structure Setup where
  enableSession : Bool
  bus : Bus
  database : JValue

/-- A build with `ENABLE_SESSION`. -/
abbrev Setup.withSessions (bus : Bus) (database : JValue) : Setup := ⟨true, bus, database⟩

namespace Setup

variable (self : Setup)

/-- The process after `MainDaemon::initialize`. -/
def initial : World :=
  let (account, effects) := ({} : Account).onInitialization self.enableSession self.bus
  { service := { account := account, database := self.database }
    live := effects.foldl World.applyEffect [] }

/-- The world after a history of events. -/
def after (history : List Event) : World :=
  History.state (World.step self.enableSession) self.initial history

/-- The process after a history of events. -/
def service (history : List Event) : Service := (self.after history).service

/-- What the handler of the next event does. -/
def effects (history : List Event) (e : Event) : List Effect :=
  ((self.service history).dispatch self.enableSession e).2

/-- The started intents after a history of events. -/
def intents (history : List Event) : Intents := (self.service history).intents

@[simp] theorem after_nil : self.after [] = self.initial := rfl

@[simp] theorem after_snoc (history : List Event) (e : Event) :
    self.after (history ++ [e]) = (self.after history).step self.enableSession e :=
  History.state_snoc _ _ _ _

theorem service_snoc (history : List Event) (e : Event) :
    self.service (history ++ [e]) = ((self.service history).dispatch self.enableSession e).1 := by
  simp only [service, after_snoc]
  rfl

theorem live_snoc (history : List Event) (e : Event) :
    (self.after (history ++ [e])).live =
      (self.effects history e).foldl World.applyEffect (World.receive (self.after history).live e) := by
  simp only [after_snoc]
  rfl

@[simp] theorem intents_nil : self.intents [] = ∅ := rfl

end Setup

/-! ## Sample messages -/

namespace Sample

open JValue

/-- The token a call gets: the two calls of a session have their own in session
    `a` and in the other one of a run. -/
def token (launch watch : UInt64) (call : LSCall) : UInt64 :=
  match call.callback with
  | .onLaunch => launch
  | .ownerStatus => watch
  | .clientStatus .account => 1
  | .onGetSessions => 2
  | .clientStatus (.sam sessionId) => if sessionId = "a" then 3 else 4
  | .onListApps => if call.sessionId = some "a" then 5 else 6

/-- A bus that accepts every call. -/
def bus (launch watch : UInt64) (nonzero : launch ≠ 0 ∧ watch ≠ 0) : Bus where
  answer call := some (token launch watch call)
  nonzero := by
    intro call given accepted
    cases accepted
    unfold token
    split
    · exact nonzero.1
    · exact nonzero.2
    · decide
    · decide
    · split <;> decide
    · split <;> decide

theorem first_tokens : (10 : UInt64) ≠ 0 ∧ (20 : UInt64) ≠ 0 := by decide

theorem second_tokens : (11 : UInt64) ≠ 0 ∧ (21 : UInt64) ≠ 0 := by decide

/-- A build without sessions. -/
def host : Setup := ⟨false, bus 10 20 first_tokens, .emptyObject⟩

/-- The application manager of a session is up, or down. -/
def status (connected : Bool) (sessionId : String) : Message :=
  { payload := object [("connected", .bool connected), ("sessionId", .string sessionId)] }

def sessionList (ids : List String) : Message :=
  { payload := object [("returnValue", .bool true),
      ("sessions", .array (ids.map (fun id => object [("sessionId", .string id)])))] }

/-- The list of one application. -/
def apps (id : String) (sessionId : Option String) : Message :=
  { payload := object [("returnValue", .bool true),
      ("apps", .array [object [("id", .string id), ("intentFilters", .array [])]])]
    sessionId := sessionId
    responseToken := if sessionId = some "a" then 5 else 6 }

/-- A request to start an application by name, with subscription. -/
def starting (id : Nat) (owner app : String) (more : List (String × JValue)) : Message :=
  { id := id
    payload := object [("intent", object (("name", .string app) :: more))]
    applicationID := some owner
    isSubscription := true }

/-- The application manager of the host comes up and lists an application. -/
def up : Event := .samStatus "" (status true "") (bus 10 20 first_tokens)

def listed : Event := .onListApps (apps "viewer" none)

/-- A client starts the application, with the tokens of the launch and of the watch. -/
def start (id : Nat) (owner : String) (launch watch : UInt64) (nonzero : launch ≠ 0 ∧ watch ≠ 0) : Event :=
  .start (starting id owner "viewer" []) (bus launch watch nonzero)

/-- The account service reports two sessions, and both list the application. -/
def twoSessions : List Event :=
  [.accountStatus (status true "") (bus 10 20 first_tokens),
    .onGetSessions (sessionList ["a", "b"]) (bus 10 20 first_tokens),
    .samStatus "a" (status true "a") (bus 10 20 first_tokens), .onListApps (apps "viewer" (some "a")),
    .samStatus "b" (status true "b") (bus 10 20 first_tokens), .onListApps (apps "viewer" (some "b"))]

end Sample

end IntentService
