import IntentService.Uri
import IntentService.Library.OrderedMap

/-! # Intents and their store

An `Intent` is what a client wants done, together with what the service keeps
about the request: its id, its owner, the token of its launch call and the
subscribers of its result. `Intents` holds the started ones by id.
-/

namespace IntentService

open JValueUtil

/-- `int` arithmetic: the value that is left in 32 bits. -/
def wrapInt (n : Int) : Int := n.bmod (2 ^ 32)

structure Intent where
  name : String := ""
  action : String := ""
  mimeType : String := ""
  uri : Uri := {}
  extra : JValue := .emptyObject
  intentId : Int
  result : String := ""
  sessionId : String := ""
  owner : String := ""
  token : Int := -1
  /-- The requests in `m_subscriptionPoint`, in the order they joined. -/
  subscribers : List Nat := []
  /-- Which `Intent` object this is: objects are numbered as they are built. -/
  object : Nat

namespace Intent

/-- The counter after one more `Intent` was built. -/
def nextId (counter : Int) : Int := wrapInt (counter + 1)

/-- `make_shared<Intent>()`. -/
def new (counter : Int) (object : Nat) : Intent := { intentId := nextId counter, object := object }

def hasName (self : Intent) : Bool := !self.name.isEmpty
def hasAction (self : Intent) : Bool := !self.action.isEmpty
def hasMimeType (self : Intent) : Bool := !self.mimeType.isEmpty
def hasUri (self : Intent) : Bool := !self.uri.empty
def hasSessionId (self : Intent) : Bool := !self.sessionId.isEmpty

def setSessionId (self : Intent) (sessionId : String) : Intent := { self with sessionId := sessionId }
def setOwner (self : Intent) (owner : String) : Intent := { self with owner := owner }
def setToken (self : Intent) (token : Int) : Intent := { self with token := token }

def addSubscriber (self : Intent) (request : Nat) : Intent :=
  { self with subscribers := self.subscribers ++ [request] }

def isValid (self : Intent) : Bool :=
  if !self.name.isEmpty then true
  else if !self.action.isEmpty then true
  else false

def fromJson (self : Intent) (json : JValue) : Bool × Intent :=
  if json.isNull || !json.isValid then (false, self)
  else
    (true, { self with
      intentId := (getValue int json "intentId" self.intentId).2
      name := (getValue string json "name" self.name).2
      action := (getValue string json "action" self.action).2
      mimeType := (getValue string json "mimeType" self.mimeType).2
      result := (getValue string json "result" self.result).2
      extra := (getValue jvalue json "extra" self.extra).2
      uri := if json.hasKey "uri" then (self.uri.parse (json.get "uri").asString).2 else self.uri })

def toJson (self : Intent) (json : JValue) : JValue :=
  let json := if json.isNull || !json.isValid then .emptyObject else json
  let json := if self.intentId ≠ -1 then json.put "intentId" (.number self.intentId) else json
  let json := if self.name.isEmpty then json else json.put "name" (.string self.name)
  let json := if self.action.isEmpty then json else json.put "action" (.string self.action)
  let json := if self.mimeType.isEmpty then json else json.put "mimeType" (.string self.mimeType)
  let json := if self.result.isEmpty then json else json.put "result" (.string self.result)
  let json := if self.extra.objectSize ≠ 0 then json.put "extra" self.extra else json
  if self.uri.empty then json
  else
    (json.put "parsedUri" (self.uri.toJson .emptyObject)).put "uri" (.string self.uri.uri)

/-! What the parser leaves alone, and what the setters touch. -/

section Fields

variable (self : Intent) (json : JValue) (text : String) (token : Int) (request : Nat)

@[simp] theorem fromJson_object : (self.fromJson json).2.object = self.object := by
  unfold fromJson; split <;> rfl

theorem fromJson_intentId : (self.fromJson json).2.intentId =
    (getValue int json "intentId" self.intentId).2 := by
  cases json <;> rfl

@[simp] theorem fromJson_subscribers : (self.fromJson json).2.subscribers = self.subscribers := by
  unfold fromJson; split <;> rfl

@[simp] theorem setToken_subscribers : (self.setToken token).subscribers = self.subscribers := rfl
@[simp] theorem setToken_intentId : (self.setToken token).intentId = self.intentId := rfl
@[simp] theorem setToken_object : (self.setToken token).object = self.object := rfl
@[simp] theorem setToken_token : (self.setToken token).token = token := rfl

end Fields

end Intent

/-! ## `Intents` -/

/-- `m_intents`, in key order. -/
abbrev Intents := OrderedMap Int Intent

namespace Intents

def add (self : Intents) (intent : Intent) : Intents := self.insert intent.intentId intent

def getById (self : Intents) (intentId : Int) : Option Intent := self.find? intentId

/-- The first stored intent, in id order, that carries the token. -/
def getByToken (self : Intents) (token : Int) : Option Intent :=
  self.values.find? (fun intent => intent.token == token)

def removeById (self : Intents) (intentId : Int) : Intents :=
  match self.getById intentId with
  | none => self
  | some _ => self.erase intentId

def removeByOwner (self : Intents) (owner : String) : Intents :=
  self.filter (fun _ intent => intent.owner != owner)

theorem removeById_eq_erase (self : Intents) (intentId : Int) :
    self.removeById intentId = self.erase intentId := by
  unfold removeById getById
  cases found : self.find? intentId with
  | none => exact (OrderedMap.erase_eq_self found).symm
  | some _ => rfl

theorem find?_removeByOwner (self : Intents) (owner : String) (i : Int) (x : Intent) :
    (self.removeByOwner owner).find? i = some x ↔ self.find? i = some x ∧ x.owner ≠ owner := by
  simp [removeByOwner, OrderedMap.find?_filter_eq_some]

theorem removeByOwner_owner {self : Intents} {i : Int} {x : Intent} (stored : self.find? i = some x) :
    (self.removeByOwner x.owner).find? i = none := by
  rw [Option.eq_none_iff_forall_ne_some]
  intro y kept
  obtain ⟨same, other⟩ := (find?_removeByOwner self x.owner i y).mp kept
  cases stored.symm.trans same
  exact other rfl

theorem getByToken_mem {self : Intents} {token : Int} {x : Intent}
    (found : self.getByToken token = some x) : ∃ i, self.find? i = some x ∧ x.token = token := by
  obtain ⟨i, stored, accepted, _⟩ := OrderedMap.find?_values_eq_some.mp found
  exact ⟨i, stored, by simpa using accepted⟩

theorem getByToken_eq_none {self : Intents} {token : Int} :
    self.getByToken token = none ↔ ∀ i x, self.find? i = some x → x.token ≠ token := by
  simp only [getByToken, List.find?_eq_none, OrderedMap.mem_values, beq_iff_eq]
  exact ⟨fun h i x stored => h x ⟨i, stored⟩, fun h x ⟨i, stored⟩ => h i x stored⟩

end Intents

end IntentService
