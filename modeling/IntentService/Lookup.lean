import IntentService.IntentManager

/-! # What a failed lookup leaves behind

The callers of `getValue` ignore its result and go on with the variable. A key
that is missing and a value of another type leave the variable alone; an `int`
that does not convert is the one failure that writes to it.
-/

namespace IntentService.Lookup

open JValueUtil

/-! ## The overloads -/

/-- The types of the output variable that `getValue` is overloaded for. -/
inductive OutputType where
  | jvalue
  | string
  | int
  | bool

namespace OutputType

/-- What the variable holds. -/
abbrev Var : OutputType → Type
  | .jvalue => JValue
  | .string => String
  | .int => Int
  | .bool => Bool

def output : (type : OutputType) → Output type.Var
  | .jvalue => JValueUtil.jvalue
  | .string => JValueUtil.string
  | .int => JValueUtil.int
  | .bool => JValueUtil.bool

end OutputType

/-- The keys of an overload. -/
inductive KeyPath where
  | one (key : String)
  | two (mainKey subKey : String)
  | three (firstKey secondKey thirdKey : String)

/-- The twelve overloads of `getValue`. -/
def lookup (type : OutputType) (json : JValue) (path : KeyPath) (value : type.Var) : Bool × type.Var :=
  match path with
  | .one key => getValue type.output json key value
  | .two mainKey subKey => getValue₂ type.output json mainKey subKey value
  | .three firstKey secondKey thirdKey => getValue₃ type.output json firstKey secondKey thirdKey value

/-- The value that a path leads to. -/
def KeyPath.find? (json : JValue) : KeyPath → Option JValue
  | .one key => json.member? key
  | .two mainKey subKey => (json.member? mainKey).bind (·.member? subKey)
  | .three firstKey secondKey thirdKey =>
      ((json.member? firstKey).bind (·.member? secondKey)).bind (·.member? thirdKey)

/-! ## One equation for all of them -/

section Paths

variable {α : Type} (output : Output α) (value : α)

/-- What is no object has no members, so the lookup fails as if the key were missing. -/
theorem fetch_of_not_object {json : JValue} (other : json.isObject = false) (key : String) :
    output.fetch value (json.member? key) = (false, value) := by
  cases json with
  | object => cases other
  | invalid | null | bool | number | string | array => rfl

theorem enter_eq {json : JValue} {key : String} {inner : JValue → Bool × α}
    (refused : ∀ found : JValue, found.isObject = false → inner found = (false, value)) :
    (if !json.isValid then (false, value)
      else if !json.hasKey key then (false, value)
      else if !(json.get key).isObject then (false, value)
      else inner (json.get key)) = ((json.member? key).map inner).getD (false, value) := by
  cases json with
  | object members =>
      cases found : (JValue.object members).member? key with
      | none => simp [JValue.hasKey, found]
      | some kept =>
          cases object : kept.isObject with
          | false => simp [JValue.isValid, JValue.hasKey, JValue.get, found, object, refused kept object]
          | true => simp [JValue.isValid, JValue.hasKey, JValue.get, found, object]
  | invalid | null | bool | number | string | array => rfl

theorem fetch_bind (found : Option JValue) (next : JValue → Option JValue) :
    output.fetch value (found.bind next) =
      (found.map (fun json => output.fetch value (next json))).getD (false, value) := by
  cases found <;> rfl

theorem getValue₂_eq (json : JValue) (mainKey subKey : String) :
    getValue₂ output json mainKey subKey value =
      output.fetch value ((json.member? mainKey).bind (·.member? subKey)) := by
  rw [getValue₂, fetch_bind]
  simp only [getValue_eq]
  exact enter_eq value (fun _ other => fetch_of_not_object output value other subKey)

theorem getValue₃_eq (json : JValue) (firstKey secondKey thirdKey : String) :
    getValue₃ output json firstKey secondKey thirdKey value =
      output.fetch value
        (((json.member? firstKey).bind (·.member? secondKey)).bind (·.member? thirdKey)) := by
  rw [getValue₃, Option.bind_assoc, fetch_bind]
  simp only [getValue₂_eq]
  have refused : ∀ found : JValue, found.isObject = false →
      output.fetch value ((found.member? secondKey).bind (·.member? thirdKey)) = (false, value) := by
    intro found other
    cases found with
    | object => cases other
    | invalid | null | bool | number | string | array => rfl
  exact enter_eq value refused

end Paths

theorem lookup_eq (type : OutputType) (json : JValue) (path : KeyPath) (value : type.Var) :
    lookup type json path value = type.output.fetch value (path.find? json) := by
  cases path with
  | one key => exact getValue_eq type.output json key value
  | two mainKey subKey => exact getValue₂_eq type.output value json mainKey subKey
  | three firstKey secondKey thirdKey => exact getValue₃_eq type.output value json firstKey secondKey thirdKey

/-! ## Failures -/

/-- A number that is not exactly an `int`. -/
def Unfit (found : Option JValue) : Prop :=
  ∃ q, found = some (.number q) ∧ ¬ (q.den = 1 ∧ -2 ^ 31 ≤ q.num ∧ q.num < 2 ^ 31)

theorem asInt_unfit {q : ℚ} (unfit : ¬ (q.den = 1 ∧ -2 ^ 31 ≤ q.num ∧ q.num < 2 ^ 31)) :
    (JValue.number q).asInt = none := if_neg unfit

theorem fetch_unfit {found : Option JValue} (unfit : Unfit found) (value : Int) :
    JValueUtil.int.fetch value found = (false, 0) := by
  obtain ⟨q, rfl, range⟩ := unfit
  have converted : JValueUtil.int.convert (.number q) = none := asInt_unfit range
  rw [Output.fetch, converted]
  rfl

theorem fetch_failed {type : OutputType} {found : Option JValue} {value : type.Var}
    (fits : ¬ (type = .int ∧ Unfit found)) (failed : (type.output.fetch value found).1 = false) :
    (type.output.fetch value found).2 = value := by
  cases found with
  | none => rfl
  | some json =>
      rw [Output.fetch] at failed ⊢
      cases accepted : type.output.accepts json with
      | false => rfl
      | true =>
          rw [accepted, if_pos rfl, Option.isSome_eq_false_iff, Option.isNone_iff_eq_none] at failed
          cases type with
          | jvalue | string => cases failed
          | bool =>
              cases json with
              | bool => cases failed
              | invalid | null | number | string | array | object => cases accepted
          | int =>
              cases json with
              | number q =>
                  refine absurd ⟨rfl, q, rfl, fun range => ?_⟩ fits
                  have converted : (JValue.number q).asInt = some q.num := if_pos range
                  cases converted.symm.trans failed
              | invalid | null | bool | string | array | object => cases accepted

theorem lookup_kept {type : OutputType} {json : JValue} {path : KeyPath} {value : type.Var}
    (fits : ¬ (type = .int ∧ Unfit (path.find? json))) (failed : (lookup type json path value).1 = false) :
    (lookup type json path value).2 = value := by
  rw [lookup_eq] at failed ⊢
  exact fetch_failed fits failed

theorem lookup_unfit {json : JValue} {path : KeyPath} (unfit : Unfit (path.find? json)) (value : Int) :
    lookup .int json path value = (false, (0 : Int)) := by
  rw [lookup_eq]
  exact fetch_unfit unfit value

/-! ## The callers -/

/-- A lookup that fails leaves the variable as it was, unless it finds a number
    where it looks for an `int`: a number that does not fit makes it zero. So a
    request stays in the session it came from, and an intent keeps the id the
    counter gave it or gets zero. -/
theorem failed_lookup_keeps :
    (∀ (type : OutputType) (json : JValue) (path : KeyPath) (value : type.Var),
      ¬ (type = .int ∧ Unfit (path.find? json)) → (lookup type json path value).1 = false →
        (lookup type json path value).2 = value) ∧
    (∀ (json : JValue) (path : KeyPath) (value : Int), Unfit (path.find? json) →
      lookup .int json path value = (false, (0 : Int))) ∧
    (∀ (self : Intent) (json : JValue), (getValue int json "intentId" self.intentId).1 = false →
      (¬ Unfit (json.member? "intentId") → (self.fromJson json).2.intentId = self.intentId) ∧
        (Unfit (json.member? "intentId") → (self.fromJson json).2.intentId = 0)) ∧
    ∀ (enableSession : Bool) (request : Message),
      (getValue string request.payload "sessionId" (getSessionId enableSession request)).1 = false →
        IntentManager.requestSession enableSession request = getSessionId enableSession request := by
  refine ⟨fun _ _ _ _ => lookup_kept, fun _ _ value unfit => lookup_unfit unfit value, ?_, ?_⟩
  · intro self json failed
    rw [Intent.fromJson_intentId]
    constructor
    · intro fits
      exact @lookup_kept .int json (.one "intentId") _ (fun unfit => fits unfit.2) failed
    · intro unfit
      exact congrArg Prod.snd (@lookup_unfit json (.one "intentId") unfit self.intentId)
  · intro enableSession request failed
    exact @lookup_kept .string request.payload (.one "sessionId") _ (fun unfit => nomatch unfit.1) failed

/-- A text is no id, so the intent keeps the one it was built with. -/
theorem text_id_keeps_counter :
    ((Intent.new 6 0).fromJson
      (.object [("name", .string "viewer"), ("intentId", .string "3")])).2.intentId = 7 := by
  refine (failed_lookup_keeps.2.2.1 (Intent.new 6 0) _ (by decide)).1 ?_
  intro unfit
  obtain ⟨q, found, _⟩ := unfit
  cases found

/-- A number that is too large is no id either, but the variable is zero then. -/
theorem large_id_overwrites :
    ¬ ∀ (type : OutputType) (json : JValue) (path : KeyPath) (value : type.Var),
      (lookup type json path value).1 = false → (lookup type json path value).2 = value := by
  intro keeps
  have kept := keeps .int (.object [("intentId", .number 2147483648)]) (.one "intentId") (7 : Int) (by decide)
  exact absurd kept (by decide)

end IntentService.Lookup
