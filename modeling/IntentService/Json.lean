import Mathlib.Algebra.Group.Int.Defs
import Mathlib.Algebra.Group.Nat.Defs
import Mathlib.Data.Rat.Defs

/-! # JSON values and `JValueUtil`

`JValue` follows pbnjson's untyped value: reading a missing key, or a key of a
value that is no object, gives the invalid value, and so does parsing a broken
payload. The `getValue` overloads take the output variable as an argument and
return it, because callers ignore the result and rely on what the variable
holds after a failed lookup.
-/

namespace IntentService

/-- A JSON value, or pbnjson's invalid value. -/
inductive JValue where
  | invalid
  | null
  | bool (b : Bool)
  | number (q : ℚ)
  | string (s : String)
  | array (items : List JValue)
  | object (members : List (String × JValue))

namespace JValue

instance : Inhabited JValue := ⟨.invalid⟩

mutual
def decEq : (a b : JValue) → Decidable (a = b)
  | .invalid, .invalid => isTrue rfl
  | .null, .null => isTrue rfl
  | .bool a, .bool b => decidable_of_iff (a = b) (by simp)
  | .number a, .number b => decidable_of_iff (a = b) (by simp)
  | .string a, .string b => decidable_of_iff (a = b) (by simp)
  | .array a, .array b =>
      match decEqItems a b with
      | isTrue h => isTrue (by rw [h])
      | isFalse h => isFalse (by simpa using h)
  | .object a, .object b =>
      match decEqMembers a b with
      | isTrue h => isTrue (by rw [h])
      | isFalse h => isFalse (by simpa using h)
  | .invalid, .null | .invalid, .bool _ | .invalid, .number _ | .invalid, .string _
  | .invalid, .array _ | .invalid, .object _ | .null, .invalid | .null, .bool _
  | .null, .number _ | .null, .string _ | .null, .array _ | .null, .object _
  | .bool _, .invalid | .bool _, .null | .bool _, .number _ | .bool _, .string _
  | .bool _, .array _ | .bool _, .object _ | .number _, .invalid | .number _, .null
  | .number _, .bool _ | .number _, .string _ | .number _, .array _ | .number _, .object _
  | .string _, .invalid | .string _, .null | .string _, .bool _ | .string _, .number _
  | .string _, .array _ | .string _, .object _ | .array _, .invalid | .array _, .null
  | .array _, .bool _ | .array _, .number _ | .array _, .string _ | .array _, .object _
  | .object _, .invalid | .object _, .null | .object _, .bool _ | .object _, .number _
  | .object _, .string _ | .object _, .array _ => isFalse (by simp)

def decEqItems : (a b : List JValue) → Decidable (a = b)
  | [], [] => isTrue rfl
  | [], _ :: _ | _ :: _, [] => isFalse (by simp)
  | a :: as, b :: bs =>
      match decEq a b, decEqItems as bs with
      | isTrue h, isTrue hs => isTrue (by rw [h, hs])
      | isFalse h, _ => isFalse (by simp [h])
      | _, isFalse hs => isFalse (by simp [hs])

def decEqMembers : (a b : List (String × JValue)) → Decidable (a = b)
  | [], [] => isTrue rfl
  | [], _ :: _ | _ :: _, [] => isFalse (by simp)
  | (k, a) :: as, (j, b) :: bs =>
      match decEq a b, decEqMembers as bs with
      | isTrue h, isTrue hs => decidable_of_iff (k = j) (by simp [h, hs])
      | isFalse h, _ => isFalse (by simp [h])
      | _, isFalse hs => isFalse (by simp [hs])
end

instance : DecidableEq JValue := decEq

/-- A value that failed to parse counts as null as well. -/
def isNull : JValue → Bool
  | .invalid | .null => true
  | _ => false

def isValid : JValue → Bool
  | .invalid => false
  | _ => true

def isBoolean : JValue → Bool
  | .bool _ => true
  | _ => false

def isNumber : JValue → Bool
  | .number _ => true
  | _ => false

def isString : JValue → Bool
  | .string _ => true
  | _ => false

def isArray : JValue → Bool
  | .array _ => true
  | _ => false

def isObject : JValue → Bool
  | .object _ => true
  | _ => false

def members : JValue → List (String × JValue)
  | .object members => members
  | _ => []

/-- The items of an array; nothing to iterate over in any other value. -/
def items : JValue → List JValue
  | .array items => items
  | _ => []

def objectSize (json : JValue) : Nat := json.members.length

def findMember (key : String) : List (String × JValue) → Option JValue
  | [] => none
  | (k, v) :: rest => if k = key then some v else findMember key rest

/-- The value under a key of an object. -/
def member? (json : JValue) (key : String) : Option JValue := findMember key json.members

def hasKey (json : JValue) (key : String) : Bool := (json.member? key).isSome

/-- `json[key]`. -/
def get (json : JValue) (key : String) : JValue := (json.member? key).getD .invalid

/-- `asString()`, empty for a value that is no string. -/
def asString : JValue → String
  | .string s => s
  | _ => ""

/-- `asNumber<int>`, with a result exactly when the conversion is `CONV_OK`. -/
def asInt : JValue → Option Int
  | .number q => if q.den = 1 ∧ -2 ^ 31 ≤ q.num ∧ q.num < 2 ^ 31 then some q.num else none
  | _ => none

def asBool : JValue → Option Bool
  | .bool b => some b
  | _ => none

def putMember (key : String) (value : JValue) : List (String × JValue) → List (String × JValue)
  | [] => [(key, value)]
  | (k, v) :: rest =>
      if k = key then (key, value) :: rest else (k, v) :: putMember key value rest

/-- `put` replaces or adds a member of an object and leaves any other value alone. -/
def put (json : JValue) (key : String) (value : JValue) : JValue :=
  match json with
  | .object members => .object (putMember key value members)
  | other => other

def append (json : JValue) (item : JValue) : JValue :=
  match json with
  | .array items => .array (items ++ [item])
  | other => other

/-- `pbnjson::Object()`. -/
def emptyObject : JValue := .object []

/-- `pbnjson::Array()`. -/
def emptyArray : JValue := .array []

theorem asString_of_other {json : JValue} (other : json.isString = false) : json.asString = "" := by
  cases json with
  | string => cases other
  | invalid | null | bool | number | array | object => rfl

theorem findMember_putMember (key other : String) (value : JValue)
    (members : List (String × JValue)) :
    findMember other (putMember key value members) =
      if other = key then some value else findMember other members := by
  induction members with
  | nil => simp [putMember, findMember, eq_comm]
  | cons head tail ih =>
      rcases head with ⟨k, v⟩
      by_cases found : k = key
      · subst found
        by_cases same : other = k
        · simp [putMember, findMember, same]
        · simp [putMember, findMember, same, Ne.symm same]
      · by_cases same : k = other
        · subst same
          simp [putMember, findMember, found]
        · simp [putMember, findMember, found, same, ih]

theorem putMember_putMember (key : String) (value other : JValue) (members : List (String × JValue)) :
    putMember key other (putMember key value members) = putMember key other members := by
  induction members with
  | nil => simp [putMember]
  | cons head tail ih =>
      by_cases found : head.1 = key
      · simp [putMember, found]
      · simp [putMember, found, ih]

theorem putMember_findMember {key : String} {value : JValue} {members : List (String × JValue)}
    (found : findMember key members = some value) : putMember key value members = members := by
  induction members with
  | nil => cases found
  | cons head tail ih =>
      obtain ⟨k, v⟩ := head
      by_cases same : k = key
      · subst same
        simp only [findMember, if_true, Option.some.injEq] at found
        simp [putMember, found]
      · rw [findMember, if_neg same] at found
        rw [putMember, if_neg same, ih found]

@[simp] theorem isObject_put (json : JValue) (key : String) (value : JValue) :
    (json.put key value).isObject = json.isObject := by
  cases json <;> rfl

@[simp] theorem isObject_emptyObject : emptyObject.isObject = true := rfl

theorem member?_put {json : JValue} (object : json.isObject = true) (key other : String)
    (value : JValue) :
    (json.put key value).member? other = if other = key then some value else json.member? other := by
  cases json with
  | object members => exact findMember_putMember key other value members
  | invalid | null | bool | number | string | array => simp [isObject] at object

theorem get_put {json : JValue} (object : json.isObject = true) (key other : String)
    (value : JValue) :
    (json.put key value).get other = if other = key then value else json.get other := by
  simp only [get, member?_put object]
  split <;> rfl

/-- Put a member that may be missing. -/
def putSome (json : JValue) (member : String × Option JValue) : JValue :=
  match member.2 with
  | none => json
  | some value => json.put member.1 value

theorem isObject_putSome (json : JValue) (member : String × Option JValue) :
    (json.putSome member).isObject = json.isObject := by
  unfold putSome
  split
  · rfl
  · exact isObject_put json _ _

theorem member?_putSome {json : JValue} (object : json.isObject = true) (key other : String)
    (value : Option JValue) :
    (json.putSome (key, value)).member? other =
      if other = key then value.or (json.member? other) else json.member? other := by
  cases value with
  | none => simp [putSome]
  | some value =>
      rw [putSome, member?_put object]
      rfl

def putAll (json : JValue) (members : List (String × Option JValue)) : JValue := members.foldl putSome json

theorem putAll_append (json : JValue) (front back : List (String × Option JValue)) :
    json.putAll (front ++ back) = (json.putAll front).putAll back :=
  List.foldl_append

theorem isObject_putAll (json : JValue) (members : List (String × Option JValue)) :
    (json.putAll members).isObject = json.isObject := by
  induction members generalizing json with
  | nil => rfl
  | cons head rest ih => exact (ih _).trans (isObject_putSome json head)

theorem member?_putAll_of_not_mem {json : JValue} (object : json.isObject = true)
    {members : List (String × Option JValue)} {key : String} (absent : key ∉ members.map Prod.fst) :
    (json.putAll members).member? key = json.member? key := by
  induction members generalizing json with
  | nil => rfl
  | cons head rest ih =>
      obtain ⟨other, later⟩ := not_or.mp (mt List.mem_cons.mpr absent)
      exact (ih (by rwa [isObject_putSome]) later).trans ((member?_putSome object _ _ _).trans (if_neg other))

theorem member?_putAll_of_mem {json : JValue} (object : json.isObject = true)
    {members : List (String × Option JValue)} {key : String} {value : Option JValue}
    (distinct : (members.map Prod.fst).Nodup) (member : (key, value) ∈ members) :
    (json.putAll members).member? key = value.or (json.member? key) := by
  induction members generalizing json with
  | nil => cases member
  | cons head rest ih =>
      obtain ⟨fresh, distinct⟩ := List.nodup_cons.mp distinct
      have object' : (json.putSome head).isObject = true := by rwa [isObject_putSome]
      cases List.mem_cons.mp member with
      | inl same =>
          subst same
          exact (member?_putAll_of_not_mem object' fresh).trans
            ((member?_putSome object _ _ _).trans (if_pos rfl))
      | inr member =>
          have other : key ≠ head.1 := fun same => fresh (same ▸ List.mem_map_of_mem member)
          refine (ih object' distinct member).trans (congrArg value.or ?_)
          exact (member?_putSome object _ _ _).trans (if_neg other)

theorem put_put (json : JValue) (key : String) (value other : JValue) :
    (json.put key value).put key other = json.put key other := by
  cases json with
  | object members => exact congrArg object (putMember_putMember key value other members)
  | invalid | null | bool | number | string | array => rfl

/-- Writing back what is there changes nothing. -/
theorem put_get {json : JValue} {key : String} (present : json.hasKey key = true) :
    json.put key (json.get key) = json := by
  obtain ⟨value, found⟩ := Option.isSome_iff_exists.mp present
  cases json with
  | object members =>
      rw [get, found, Option.getD_some]
      exact congrArg object (putMember_findMember found)
  | invalid | null | bool | number | string | array => rfl

end JValue

/-! ## `JValueUtil` -/

namespace JValueUtil

/-- What a `getValue` overload does with the value it finds: the type it asks
    for, the conversion to the output type, and what it stores when that fails. -/
structure Output (α : Type) where
  accepts : JValue → Bool
  convert : JValue → Option α
  onFailure : α

/-- The overload for one key: its result, and the output variable afterwards. -/
def getValue {α : Type} (output : Output α) (json : JValue) (key : String) (value : α) : Bool × α :=
  if !json.isValid then (false, value)
  else if !json.hasKey key then (false, value)
  else if !output.accepts (json.get key) then (false, value)
  else
    match output.convert (json.get key) with
    | some converted => (true, converted)
    | none => (false, output.onFailure)

/-- The overload for a key path of two: the first key must name an object. -/
def getValue₂ {α : Type} (output : Output α) (json : JValue) (mainKey subKey : String) (value : α) :
    Bool × α :=
  if !json.isValid then (false, value)
  else if !json.hasKey mainKey then (false, value)
  else if !(json.get mainKey).isObject then (false, value)
  else getValue output (json.get mainKey) subKey value

/-- The overload for a key path of three. -/
def getValue₃ {α : Type} (output : Output α) (json : JValue) (firstKey secondKey thirdKey : String)
    (value : α) : Bool × α :=
  if !json.isValid then (false, value)
  else if !json.hasKey firstKey then (false, value)
  else if !(json.get firstKey).isObject then (false, value)
  else getValue₂ output (json.get firstKey) secondKey thirdKey value

/-- The output variable after a lookup. -/
def Output.read {α : Type} (output : Output α) (value : α) : Option JValue → α
  | none => value
  | some found => if output.accepts found then (output.convert found).getD output.onFailure else value

/-- What a lookup makes of the value it leads to. -/
def Output.fetch {α : Type} (output : Output α) (value : α) : Option JValue → Bool × α
  | none => (false, value)
  | some found =>
      if output.accepts found then ((output.convert found).isSome,
        (output.convert found).getD output.onFailure)
      else (false, value)

theorem getValue_eq {α : Type} (output : Output α) (json : JValue) (key : String) (value : α) :
    getValue output json key value = output.fetch value (json.member? key) := by
  cases json with
  | object members =>
      cases found : (JValue.object members).member? key with
      | none => simp [getValue, JValue.hasKey, found, Output.fetch]
      | some kept =>
          rw [Output.fetch]
          cases accepted : output.accepts kept with
          | false => simp [getValue, JValue.isValid, JValue.hasKey, JValue.get, found, accepted]
          | true =>
              cases converted : output.convert kept <;>
                simp [getValue, JValue.isValid, JValue.hasKey, JValue.get, found, accepted, converted]
  | invalid | null | bool | number | string | array => rfl

theorem getValue_eq_true {α : Type} {output : Output α} {json : JValue} {key : String} {value converted : α} :
    getValue output json key value = (true, converted) ↔
      ∃ found, json.member? key = some found ∧ output.accepts found = true ∧
        output.convert found = some converted := by
  rw [getValue_eq]
  cases json.member? key with
  | none => simp [Output.fetch]
  | some found =>
      rw [Output.fetch]
      cases accepted : output.accepts found <;> cases converted : output.convert found <;>
      simp [accepted, converted]

theorem getValue_snd {α : Type} (output : Output α) (json : JValue) (key : String) (value : α) :
    (getValue output json key value).2 = output.read value (json.member? key) := by
  rw [getValue_eq]
  cases json.member? key with
  | none => rfl
  | some found =>
      rw [Output.fetch, Output.read]
      split <;> rfl

def jvalue : Output JValue := ⟨fun _ => true, some, .invalid⟩
def string : Output String := ⟨JValue.isString, fun json => some json.asString, ""⟩
def int : Output Int := ⟨JValue.isNumber, JValue.asInt, 0⟩
def bool : Output Bool := ⟨JValue.isBoolean, JValue.asBool, false⟩

theorem getValue_jvalue_eq_true {json : JValue} {key : String} (value : JValue) {items : List JValue} :
    getValue jvalue json key value = (true, .array items) ↔ json.get key = .array items := by
  rw [getValue_eq_true, JValue.get]
  cases json.member? key <;> simp [JValueUtil.jvalue]

theorem getValue_string_eq_true {json : JValue} {key : String} (value : String) {text : String} :
    getValue string json key value = (true, text) ↔ json.get key = .string text := by
  rw [getValue_eq_true, JValue.get]
  cases json.member? key with
  | none => simp
  | some found => cases found <;> simp [JValueUtil.string, JValue.isString, JValue.asString]

theorem getValue_bool_eq_true {json : JValue} {key : String} (value : Bool) {given : Bool} :
    getValue bool json key value = (true, given) ↔ json.get key = .bool given := by
  rw [getValue_eq_true, JValue.get]
  cases json.member? key with
  | none => simp
  | some found => cases found <;> simp [JValueUtil.bool, JValue.isBoolean, JValue.asBool]

end JValueUtil

end IntentService
