import IntentService.Handler

/-! # Intents as JSON

`fromJson` reads seven members and `toJson` writes those that are set, so an
intent that was read from JSON comes back from what is written. A member that
is blank is as good as absent, except that a blank `uri` is a URI.
-/

namespace IntentService.Encoding

open JValueUtil

/-! ## Reading -/

/-- The URI after the member `uri` was looked up. -/
def readUri (uri : Uri) : Option JValue → Uri
  | none => uri
  | some found => (uri.parse found.asString).2

theorem fromJson_eq (self : Intent) {json : JValue} (object : json.isObject = true) :
    self.fromJson json = (true, { self with
      intentId := int.read self.intentId (json.member? "intentId")
      name := string.read self.name (json.member? "name")
      action := string.read self.action (json.member? "action")
      mimeType := string.read self.mimeType (json.member? "mimeType")
      result := string.read self.result (json.member? "result")
      extra := jvalue.read self.extra (json.member? "extra")
      uri := readUri self.uri (json.member? "uri") }) := by
  have uri : (if json.hasKey "uri" then (self.uri.parse (json.get "uri").asString).2 else self.uri) =
      readUri self.uri (json.member? "uri") := by
    cases found : json.member? "uri" <;> simp [JValue.hasKey, JValue.get, found, readUri]
  cases json with
  | object members =>
      rw [Intent.fromJson, if_neg (by simp [JValue.isNull, JValue.isValid]), uri]
      simp only [getValue_snd]
  | invalid | null | bool | number | string | array => cases object

/-- The intent that a request makes of a JSON value. -/
def decode (counter : Int) (object : Nat) (json : JValue) : Intent :=
  ((Intent.new counter object).fromJson json).2

/-- An intent as `fromJson` makes it of a fresh one: the id fits into an `int`,
    and a URI is what its own text is parsed to. -/
structure Decoded (i : Intent) : Prop where
  intentId : (JValue.number i.intentId).asInt = some i.intentId
  uri : i.uri.empty = false → (({} : Uri).parse i.uri.uri).2 = i.uri
  sessionId : i.sessionId = ""
  owner : i.owner = ""
  token : i.token = -1
  subscribers : i.subscribers = []

def FitsInt (n : Int) : Prop := -2 ^ 31 ≤ n ∧ n < 2 ^ 31

theorem asInt_number {n : Int} (fits : FitsInt n) : (JValue.number n).asInt = some n := by
  have range : -2 ^ 31 ≤ n ∧ n < 2 ^ 31 := fits
  simpa [JValue.asInt] using range

theorem asInt_fits {json : JValue} {n : Int} (read : json.asInt = some n) : FitsInt n := by
  cases json with
  | number q =>
      simp only [JValue.asInt] at read
      split at read
      next fits =>
        cases read
        exact fits.2
      next => cases read
  | invalid | null | bool | string | array | object => cases read

theorem wrapInt_fits (n : Int) : FitsInt (wrapInt n) :=
  ⟨@Int.le_bmod n (2 ^ 32) (by decide), @Int.bmod_lt n (2 ^ 32) (by decide)⟩

theorem readInt_fits {value : Int} (fits : FitsInt value) (found : Option JValue) :
    FitsInt (int.read value found) := by
  cases found with
  | none => exact fits
  | some found =>
      rw [Output.read]
      split
      · cases read : int.convert found with
        | none => exact ⟨by decide, by decide⟩
        | some n => exact asInt_fits read
      · exact fits

theorem parse_uri (self : Uri) (str : String) : (self.parse str).2.uri = str := by
  simp only [Uri.parse]
  split <;> rfl

theorem decode_decoded (counter : Int) (object : Nat) (json : JValue) :
    Decoded (decode counter object json) := by
  have fresh : Decoded (Intent.new counter object) := by
    refine ⟨asInt_number (wrapInt_fits _), ?_, rfl, rfl, rfl, rfl⟩
    intro some
    cases some
  cases json with
  | object members =>
      rw [decode, fromJson_eq _ rfl]
      refine { fresh with intentId := asInt_number (readInt_fits (wrapInt_fits _) _), uri := ?_ }
      intro some
      cases found : (JValue.object members).member? "uri" with
      | none =>
          rw [found] at some
          cases some
      | some value => simp only [readUri, parse_uri, Uri.parse_eq (Intent.new counter object).uri]
  | invalid | null => exact fresh
  | bool | number | string | array => exact fresh

theorem Decoded.of_parsed {counter : Int} {object : Nat} {json : JValue} {intent : Intent}
    (parsed : (Intent.new counter object).fromJson json = (true, intent)) : Decoded intent := by
  have decoded := decode_decoded counter object json
  rw [decode, parsed] at decoded
  exact decoded

/-! ## Writing -/

def textMember (text : String) : Option JValue := if text.isEmpty then none else some (.string text)

/-- The members that `toJson` writes, in its order. -/
def members (i : Intent) : List (String × Option JValue) :=
  [("intentId", if i.intentId ≠ -1 then some (.number i.intentId) else none),
    ("name", textMember i.name),
    ("action", textMember i.action),
    ("mimeType", textMember i.mimeType),
    ("result", textMember i.result),
    ("extra", if i.extra.objectSize ≠ 0 then some i.extra else none),
    ("parsedUri", if i.uri.empty then none else some (i.uri.toJson .emptyObject)),
    ("uri", if i.uri.empty then none else some (.string i.uri.uri))]

section Put

variable (json : JValue) (key : String) (value : JValue) (text : String) (c : Prop) [Decidable c]

theorem putSome_if :
    json.putSome (key, if c then some value else none) = if c then json.put key value else json := by
  split <;> rfl

theorem putSome_unless :
    json.putSome (key, if c then none else some value) = if c then json else json.put key value := by
  split <;> rfl

theorem putSome_text :
    json.putSome (key, textMember text) = if text.isEmpty then json else json.put key (.string text) :=
  putSome_unless json key (.string text) _

end Put

theorem toJson_eq (i : Intent) {json : JValue} (notNull : json.isNull = false) :
    i.toJson json = json.putAll (members i) := by
  unfold Intent.toJson
  extract_lets start intentId name action mimeType result extra
  have start_eq : start = json := by
    cases json with
    | bool | number | string | array | object => rfl
    | invalid | null => cases notNull
  have extra_eq : extra = json.putAll ((members i).take 6) := by
    simp only [members, List.take, JValue.putAll, List.foldl]
    rw [putSome_if, putSome_text, putSome_text, putSome_text, putSome_text, putSome_if, ← start_eq]
  rw [← List.take_append_drop 6 (members i), JValue.putAll_append, ← extra_eq]
  simp only [members, List.drop, JValue.putAll, List.foldl]
  cases i.uri.empty <;> rfl

theorem toJson_congr {i i' : Intent} (same : members i = members i') (json : JValue) :
    i.toJson json = i'.toJson json := by
  cases empty : json.isNull with
  | false => rw [toJson_eq i empty, toJson_eq i' empty, same]
  | true =>
      have fresh : ∀ i : Intent, i.toJson json = i.toJson .emptyObject := by
        intro i
        rw [Intent.toJson, empty]
        rfl
      rw [fresh i, fresh i', toJson_eq i rfl, toJson_eq i' rfl, same]

theorem member?_toJson {i : Intent} {key : String} {value : Option JValue}
    (member : (key, value) ∈ members i) :
    (i.toJson .emptyObject).member? key = value := by
  rw [toJson_eq i rfl, JValue.member?_putAll_of_mem rfl (by simp [members]) member]
  exact Option.or_none

theorem isObject_toJson (i : Intent) : (i.toJson .emptyObject).isObject = true := by
  rw [toJson_eq i rfl, JValue.isObject_putAll, JValue.isObject_emptyObject]

/-! ## Writing and reading back -/

/-- What is lost: an `extra` without members, and what is left of a URI that did not parse. -/
def canonical (i : Intent) : Intent :=
  { i with
    extra := if i.extra.objectSize ≠ 0 then i.extra else .emptyObject
    uri := if i.uri.empty then {} else i.uri }

theorem read_textMember (text : String) : string.read "" (textMember text) = text := by
  unfold textMember
  split
  next empty => exact (String.isEmpty_iff.mp empty).symm
  next => rfl

theorem decode_toJson {i : Intent} (decoded : Decoded i) (named : i.intentId ≠ -1) (counter : Int)
    (object : Nat) :
    decode counter object (i.toJson .emptyObject) = { canonical i with object := object } := by
  have intentId : int.read (Intent.nextId counter) ((i.toJson .emptyObject).member? "intentId") =
      i.intentId := by
    rw [member?_toJson List.mem_cons_self, if_pos named, Output.read]
    simp [int, JValue.isNumber, decoded.intentId]
  have text : ∀ {key text}, (key, textMember text) ∈ members i →
      string.read "" ((i.toJson .emptyObject).member? key) = text := by
    intro key text member
    rw [member?_toJson member, read_textMember]
  have extra : jvalue.read .emptyObject ((i.toJson .emptyObject).member? "extra") = (canonical i).extra := by
    have member : ("extra", if i.extra.objectSize ≠ 0 then some i.extra else none) ∈ members i := by
      simp [members]
    rw [member?_toJson member, canonical]
    dsimp only
    split <;> rfl
  have uri : readUri {} ((i.toJson .emptyObject).member? "uri") = (canonical i).uri := by
    have member : ("uri", if i.uri.empty then none else some (.string i.uri.uri)) ∈ members i := by
      simp [members]
    rw [member?_toJson member, canonical]
    cases empty : i.uri.empty with
    | true => rfl
    | false => exact decoded.uri empty
  rw [decode, fromJson_eq _ (isObject_toJson i)]
  simp only [Intent.new, intentId, extra, uri,
    text (by simp [members] : ("name", textMember i.name) ∈ members i),
    text (by simp [members] : ("action", textMember i.action) ∈ members i),
    text (by simp [members] : ("mimeType", textMember i.mimeType) ∈ members i),
    text (by simp [members] : ("result", textMember i.result) ∈ members i)]
  simp only [canonical, decoded.sessionId, decoded.owner, decoded.token, decoded.subscribers]

theorem canonical_members (i : Intent) (object : Nat) :
    members { canonical i with object := object } = members i := by
  have lost : JValue.emptyObject.objectSize = 0 := rfl
  unfold members canonical
  cases empty : i.uri.empty <;> by_cases none : i.extra.objectSize = 0 <;> simp [empty, none, lost]

theorem isMatched_congr {i i' : Intent} (name : i.name = i'.name) (action : i.action = i'.action)
    (mimeType : i.mimeType = i'.mimeType) (sessionId : i.sessionId = i'.sessionId)
    (hasUri : i.hasUri = i'.hasUri) (uri : i.hasUri = true → i.uri = i'.uri) (handler : Handler) :
    handler.isMatched i = handler.isMatched i' := by
  have filter : ∀ f, Handler.compareIntentFilter f i = Handler.compareIntentFilter f i' := by
    intro f
    unfold Handler.compareIntentFilter Intent.hasAction Intent.hasMimeType
    rw [← hasUri, ← action, ← mimeType]
    cases has : i.hasUri with
    | true => rw [uri has]
    | false => rfl
  unfold Handler.isMatched Intent.hasSessionId Intent.hasName
  simp only [filter, name, sessionId]

/-- Nobody can tell an intent from what it is read back as. -/
theorem round_trip (counter counter' : Int) (object object' : Nat) (json : JValue)
    (named : (decode counter object json).intentId ≠ -1) :
    let i := decode counter object json
    let i' := decode counter' object' (i.toJson .emptyObject)
    (∀ json, i'.toJson json = i.toJson json) ∧ i'.isValid = i.isValid ∧
      ∀ (handler : Handler) (sessionId : String),
        handler.isMatched (i'.setSessionId sessionId) = handler.isMatched (i.setSessionId sessionId) := by
  intro i i'
  have same : i' = { canonical i with object := object' } :=
    decode_toJson (decode_decoded counter object json) named counter' object'
  rw [same]
  refine ⟨toJson_congr (canonical_members i object'), rfl, fun handler sessionId => ?_⟩
  have uri : i.hasUri = true → (canonical i).uri = i.uri := by
    intro has
    have some : i.uri.empty = false := by simpa [Intent.hasUri] using has
    rw [canonical, some]
    rfl
  have hasUri : (canonical i).hasUri = i.hasUri := by
    cases has : i.hasUri with
    | true => rw [Intent.hasUri, uri has, ← Intent.hasUri, has]
    | false =>
        have empty : i.uri.empty = true := by simpa [Intent.hasUri] using has
        rw [Intent.hasUri, canonical, empty]
        rfl
  apply isMatched_congr
  case hasUri => exact hasUri
  case uri =>
    intro has
    exact uri (hasUri.symm.trans has)
  all_goals rfl

theorem wrong_types_come_back :
    let i := decode 0 0 (.object [("name", .number 3), ("uri", .string "http://youtube.com/a?b#c"),
      ("extra", .array [.null]), ("intentId", .bool true)])
    let i' := decode 7 4 (i.toJson .emptyObject)
    ∀ json, i'.toJson json = i.toJson json :=
  (round_trip 0 7 0 4 _ (by decide)).1

/-! ## Blank members -/

/-- The members that hold text. -/
def textFields : List String := ["name", "action", "mimeType", "result", "uri"]

/-- An empty text, or no text at all. -/
def Blank (value : JValue) : Prop := value = .string "" ∨ value.isString = false

def remove (key : String) : JValue → JValue
  | .object members => .object (members.filter (fun member => member.1 != key))
  | other => other

def putFields (fields : List String) (value : String → JValue) (json : JValue) : JValue :=
  fields.foldl (fun json field => json.put field (value field)) json

def removeFields (fields : List String) (json : JValue) : JValue :=
  fields.foldl (fun json field => remove field json) json

/-- What clients and the handlers can see of an intent. -/
structure Indistinguishable (i i' : Intent) : Prop where
  isValid : i.isValid = i'.isValid
  isMatched : ∀ handler : Handler, handler.isMatched i = handler.isMatched i'
  toJson : ∀ json, i.toJson json = i'.toJson json

theorem member?_remove (json : JValue) (key other : String) :
    (remove key json).member? other = if other = key then none else json.member? other := by
  cases json with
  | object members =>
      simp only [remove, JValue.member?, JValue.members]
      induction members with
      | nil => simp [JValue.findMember]
      | cons head tail ih =>
          by_cases removed : head.1 = key
          · rw [List.filter_cons_of_neg (by simpa using removed), ih, JValue.findMember]
            by_cases same : other = key
            · rw [if_pos same, if_pos same]
            · rw [if_neg same, if_neg same, if_neg (fun found => same (found.symm.trans removed))]
          · rw [List.filter_cons_of_pos (by simpa using removed), JValue.findMember, JValue.findMember, ih]
            by_cases found : head.1 = other
            · rw [if_pos found, if_pos found, if_neg (fun same => removed (found.trans same))]
            · rw [if_neg found, if_neg found]
  | invalid | null | bool | number | string | array =>
      simp [remove, JValue.member?, JValue.members, JValue.findMember]

theorem isObject_remove (key : String) (json : JValue) : (remove key json).isObject = json.isObject := by
  cases json <;> rfl

theorem putFields_object (fields : List String) (value : String → JValue) {json : JValue}
    (object : json.isObject = true) : (putFields fields value json).isObject = true ∧
      ∀ key, (putFields fields value json).member? key =
        if key ∈ fields then some (value key) else json.member? key := by
  induction fields generalizing json with
  | nil => exact ⟨object, fun key => by simp [putFields]⟩
  | cons field rest ih =>
      obtain ⟨object', members⟩ := @ih (json.put field (value field)) (by rwa [JValue.isObject_put])
      refine ⟨object', fun key => (members key).trans ?_⟩
      rw [JValue.member?_put object]
      by_cases same : key = field
      · subst same
        simp
      · simp [same]

theorem removeFields_object (fields : List String) {json : JValue} (object : json.isObject = true) :
    (removeFields fields json).isObject = true ∧
      ∀ key, (removeFields fields json).member? key = if key ∈ fields then none else json.member? key := by
  induction fields generalizing json with
  | nil => exact ⟨object, fun key => by simp [removeFields]⟩
  | cons field rest ih =>
      obtain ⟨object', members⟩ := @ih (remove field json) (by rwa [isObject_remove])
      refine ⟨object', fun key => (members key).trans ?_⟩
      rw [member?_remove]
      by_cases same : key = field
      · subst same
        simp
      · simp [same]

theorem Blank.read {value : JValue} (blank : Blank value) : string.read "" (some value) = "" := by
  cases blank with
  | inl empty =>
      subst empty
      rfl
  | inr other => rw [Output.read, if_neg (by simpa [string] using other)]

theorem Blank.parse {value : JValue} (blank : Blank value) (uri : Uri) :
    uri.parse value.asString = (true, { empty := false }) := by
  have empty : value.asString = "" := by
    cases blank with
    | inl same =>
        subst same
        rfl
    | inr other => exact JValue.asString_of_other other
  rw [empty, Uri.parse_empty]

section Fields

variable {json : JValue} (object : json.isObject = true) {fields : List String} {value : String → JValue}
  (counter : Int) (number : Nat)
include object

theorem uri_of_put (listed : "uri" ∈ fields) (blank : ∀ field ∈ fields, Blank (value field)) :
    (decode counter number (putFields fields value json)).uri.empty = false := by
  obtain ⟨putObject, put⟩ := putFields_object fields value object
  rw [decode, fromJson_eq _ putObject, put "uri", if_pos listed]
  exact congrArg (fun outcome => outcome.2.empty) ((blank _ listed).parse _)

theorem uri_of_removed (listed : "uri" ∈ fields) :
    (decode counter number (removeFields fields json)).uri.empty = true := by
  obtain ⟨removeObject, removed⟩ := removeFields_object fields object
  rw [decode, fromJson_eq _ removeObject, removed "uri", if_pos listed]
  rfl

/-- Without the URI, blank members are read like absent ones. -/
theorem decode_blank_eq (unlisted : "uri" ∉ fields) (known : ∀ field ∈ fields, field ∈ textFields)
    (blank : ∀ field ∈ fields, Blank (value field)) :
    decode counter number (putFields fields value json) = decode counter number
        (removeFields fields json) := by
  obtain ⟨putObject, put⟩ := putFields_object fields value object
  obtain ⟨removeObject, removed⟩ := removeFields_object fields object
  have other : ∀ key, key ∉ fields →
      (putFields fields value json).member? key = (removeFields fields json).member? key := by
    intro key absent
    rw [put, removed, if_neg absent, if_neg absent]
  have text : ∀ key, string.read "" ((putFields fields value json).member? key) =
      string.read "" ((removeFields fields json).member? key) := by
    intro key
    by_cases listed : key ∈ fields
    · rw [put, removed, if_pos listed, if_pos listed, (blank key listed).read]
      rfl
    · rw [other key listed]
  unfold decode
  rw [fromJson_eq _ putObject, fromJson_eq _ removeObject]
  simp only [Intent.new, text, other "uri" unlisted,
    other "intentId" (fun listed => absurd (known _ listed) (by decide)),
    other "extra" (fun listed => absurd (known _ listed) (by decide))]

end Fields

/-- Only the URI of a blank member is told from that of an absent one. -/
theorem blank_iff (json : JValue) (object : json.isObject = true) (fields : List String)
    (known : ∀ field ∈ fields, field ∈ textFields) (value : String → JValue)
    (blank : ∀ field ∈ fields, Blank (value field)) (counter : Int) (number : Nat) :
    Indistinguishable (decode counter number (putFields fields value json))
        (decode counter number (removeFields fields json)) ↔ "uri" ∉ fields := by
  constructor
  · intro same listed
    have present := uri_of_put object counter number listed blank
    have absent := @uri_of_removed json object fields counter number listed
    have written := congrArg (JValue.member? · "uri") (same.toJson .emptyObject)
    have member : ∀ i : Intent, ("uri", if i.uri.empty then none else some (.string i.uri.uri)) ∈
        members i := by
      simp [members]
    simp only [member?_toJson (member _), present, absent] at written
    cases written
  · intro unlisted
    rw [decode_blank_eq object counter number unlisted known blank]
    exact ⟨rfl, fun _ => rfl, fun _ => rfl⟩

theorem number_as_mime_type :
    Indistinguishable (decode 0 0 (.object [("action", .string "view"), ("mimeType", .number 3)]))
      (decode 0 0 (.object [("action", .string "view")])) :=
  (blank_iff (.object [("action", .string "view"), ("mimeType", .string "text/html")]) rfl ["mimeType"]
    (by decide) (fun _ => .number 3) (fun _ _ => .inr rfl) 0 0).mpr (by decide)

/-- A handler that asks for no URI takes the intent without one, and not the one
    with an empty one. -/
theorem empty_uri_is_present :
    ¬ Indistinguishable (decode 0 0 (putFields ["uri"] (fun _ => .string "")
      (.object [("action", .string "view")])))
      (decode 0 0 (removeFields ["uri"] (.object [("action", .string "view")]))) := by
  intro same
  have alike := same.isMatched { intentFilters := .array [.object [("actions", .array [.string "view"])]] }
  exact absurd alike (by decide)

end IntentService.Encoding
