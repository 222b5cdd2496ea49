import IntentService.Intent
import Mathlib.Data.String.Basic

/-! # Handlers and their store

A `Handler` is an application registered by the session manager of one
session. `Handlers` keeps them in one map whose key is a single string made of
the session and the name, and both `start` and `query` walk it in key order.
-/

namespace IntentService

open JValueUtil

structure Handler where
  name : String := ""
  sessionId : String := ""
  intentFilters : JValue := .emptyArray

namespace Handler

def convertKey (sessionId name : String) : String :=
  (if sessionId.isEmpty then "host" else sessionId) ++ ("_" ++ name)

def getKey (self : Handler) : String := convertKey self.sessionId self.name

def hasName (self : Handler) : Bool := !self.name.isEmpty

def setIntentFilters (self : Handler) (intentFilters : JValue) : Handler :=
  if !intentFilters.isNull && intentFilters.isValid then { self with intentFilters := intentFilters }
  else self

def compareString (array : JValue) (target : String) : Bool :=
  array.items.any (fun item => item.asString == target)

/-- The loop of `compareUri`: the pattern object is reused from item to item. -/
def compareUriItems (a b : Uri) : List JValue → Bool
  | [] => false
  | item :: rest =>
      let (parsed, a) := a.parse item.asString
      if parsed == false then compareUriItems a b rest
      else if a.compare b then true
      else compareUriItems a b rest

def compareUri (uris : JValue) (b : Uri) : Bool :=
  if b.empty then true else compareUriItems {} b uris.items

/-- `getValue(filter, key, value)` with an array as the outcome. -/
def filterArray (intentFilter : JValue) (key : String) : Option JValue :=
  match getValue jvalue intentFilter key .null with
  | (true, value) => if value.isArray then some value else none
  | (false, _) => none

def compareIntentFilter (intentFilter : JValue) (intent : Intent) : Bool :=
  let action :=
    if intent.hasAction then
      match filterArray intentFilter "actions" with
      | none => false
      | some actions => compareString actions intent.action
    else true
  let target :=
    if intent.hasUri && intent.hasMimeType then
      match filterArray intentFilter "uris", filterArray intentFilter "mimeTypes" with
      | some uris, some mimeTypes => compareUri uris intent.uri && compareString mimeTypes intent.mimeType
      | _, _ => false
    else if intent.hasUri && !intent.hasMimeType then
      if intentFilter.hasKey "mimeTypes" then false
      else
        match filterArray intentFilter "uris" with
        | none => false
        | some uris => compareUri uris intent.uri
    else if !intent.hasUri && intent.hasMimeType then
      if intentFilter.hasKey "uris" then false
      else
        match filterArray intentFilter "mimeTypes" with
        | none => false
        | some mimeTypes => compareString mimeTypes intent.mimeType
    else !(intentFilter.hasKey "uris" || intentFilter.hasKey "mimeTypes")
  action && target

def isMatched (self : Handler) (intent : Intent) : Bool :=
  if intent.hasSessionId && self.sessionId != intent.sessionId then false
  else if intent.hasName then self.name == intent.name
  else self.intentFilters.items.any (fun intentFilter => compareIntentFilter intentFilter intent)

def toJson (self : Handler) (json : JValue) : JValue :=
  let json := json.put "name" (.string self.name)
  let json := if self.sessionId.isEmpty then json else json.put "sessionId" (.string self.sessionId)
  json.put "intentFilters" self.intentFilters

end Handler

/-! ## `Handlers` -/

/-- `m_handlers`, in key order. -/
abbrev Handlers := OrderedMap String Handler

namespace Handlers

def hasHandler (self : Handlers) (key : String) : Bool := self.contains key

def add (self : Handlers) (handler : Handler) : Bool × Handlers :=
  if !handler.hasName then (false, self)
  else if self.hasHandler handler.getKey then (false, self)
  else (true, self.insert handler.getKey handler)

def remove (self : Handlers) (key : String) : Handlers := self.erase key

def removeBySessionId (self : Handlers) (sessionId : String) : Handlers :=
  self.filter (fun _ handler => handler.sessionId != sessionId)

/-- The first handler in key order that matches. -/
def getHandler (self : Handlers) (intent : Intent) : Option Handler :=
  self.values.find? (fun handler => handler.isMatched intent)

/-- `toJson(array, sessionId)`: the handlers of a session, all of them for the
    empty session. -/
def toJson (self : Handlers) (array : JValue) (sessionId : String) : JValue :=
  self.values.foldl (fun array handler =>
      if !sessionId.isEmpty && sessionId != handler.sessionId then array
      else array.append (handler.toJson .emptyObject))
    (if array.isArray then array else .emptyArray)

/-- `toJson(array, intent)`: the handlers that match an intent. -/
def toJsonMatched (self : Handlers) (array : JValue) (intent : Intent) : JValue :=
  self.values.foldl (fun array handler =>
      if !handler.isMatched intent then array
      else array.append (handler.toJson .emptyObject))
    (if array.isArray then array else .emptyArray)

/-- The handlers that pass a test, as JSON. -/
def shown (self : Handlers) (keep : Handler → Bool) : List JValue :=
  (self.values.filter keep).map (fun handler => handler.toJson .emptyObject)

/-- The loop of both `toJson` writes the handlers that it does not skip. -/
theorem foldl_shown {skip keep : Handler → Bool} (opposite : ∀ handler, skip handler = !keep handler)
    (list : List Handler) (items : List JValue) :
    list.foldl (fun (array : JValue) handler =>
        if skip handler then array else array.append (handler.toJson .emptyObject)) (.array items) =
      .array (items ++ (list.filter keep).map (fun handler => handler.toJson .emptyObject)) := by
  induction list generalizing items with
  | nil => simp
  | cons handler rest ih =>
      cases kept : keep handler with
      | false => simpa [opposite, kept] using ih items
      | true => simpa [opposite, kept, JValue.append] using ih (items ++ [handler.toJson .emptyObject])

theorem toJson_eq (self : Handlers) (sessionId : String) :
    self.toJson .emptyArray sessionId =
      .array (self.shown (fun handler => sessionId.isEmpty || sessionId == handler.sessionId)) :=
  foldl_shown (fun handler => by simp [bne]) self.values []

theorem toJsonMatched_eq (self : Handlers) (intent : Intent) :
    self.toJsonMatched .emptyArray intent = .array (self.shown (fun handler => handler.isMatched intent)) :=
  foldl_shown (fun _ => rfl) self.values []

/-- The handler matches an intent, and none before it in key order does. -/
def First (self : Handlers) (intent : Intent) (handler : Handler) : Prop :=
  ∃ key, self.find? key = some handler ∧ handler.isMatched intent = true ∧
    ∀ earlier other, self.find? earlier = some other → earlier < key → other.isMatched intent = false

theorem getHandler_eq_some {self : Handlers} {intent : Intent} {handler : Handler} :
    self.getHandler intent = some handler ↔ self.First intent handler :=
  OrderedMap.find?_values_eq_some

end Handlers

/-! ## `ConfFile` -/

namespace ConfFile

/-- The filters the configuration database holds for an application. -/
def getIntentFilter (database : JValue) (appId : String) (intentFilter : JValue) : Bool × JValue :=
  if !database.hasKey "handlers" || !(database.get "handlers").hasKey appId then (false, intentFilter)
  else if !((database.get "handlers").get appId).isArray then (false, intentFilter)
  else (true, (database.get "handlers").get appId)

end ConfFile

end IntentService
