import IntentService.Handler
import IntentService.UriSyntax
import Mathlib.Logic.Relation

/-! # What a filter matches

The loops of `Handler::isMatched` as statements about the arrays of a filter.
Each loop asks for one item that fits, so more items, more filters and wider
patterns only match more. Only the `uris` loop takes an item for a pattern
without asking whether it is a string.
-/

namespace IntentService.Matching

open JValueUtil

/-! ## The loops -/

theorem compareString_iff {array : JValue} {target : String} :
    Handler.compareString array target = true ↔ ∃ item ∈ array.items, item.asString = target := by
  simp [Handler.compareString]

/-- The object that is reused from item to item carries nothing over. -/
theorem compareUriItems_iff {a b : Uri} {items : List JValue} :
    Handler.compareUriItems a b items = true ↔
      ∃ item ∈ items, (({} : Uri).parse item.asString).1 = true ∧
        Uri.compare (({} : Uri).parse item.asString).2 b = true := by
  induction items generalizing a with
  | nil => simp [Handler.compareUriItems]
  | cons item rest ih =>
      rw [List.exists_mem_cons_iff, Handler.compareUriItems, Uri.parse_eq]
      rcases ({} : Uri).parse item.asString with ⟨parsed, pattern⟩
      cases parsed with
      | false => simp [ih]
      | true =>
          cases covers : Uri.compare pattern b with
          | true => simp [covers]
          | false => simp [ih, covers]

theorem compareUri_iff {uris : JValue} {b : Uri} (some : b.empty = false) :
    Handler.compareUri uris b = true ↔
      ∃ item ∈ uris.items, (({} : Uri).parse item.asString).1 = true ∧
        Uri.compare (({} : Uri).parse item.asString).2 b = true := by
  rw [Handler.compareUri, some, if_neg Bool.false_ne_true]
  exact compareUriItems_iff

theorem filterArray_eq_some {f : JValue} {key : String} {array : JValue} :
    Handler.filterArray f key = some array ↔ f.get key = array ∧ array.isArray = true := by
  rw [Handler.filterArray, getValue_eq, JValue.get]
  cases f.member? key with
  | none =>
      constructor
      · intro none
        cases none
      · rintro ⟨rfl, array⟩
        cases array
  | some value =>
      change (if value.isArray then some value else none) = some array ↔ value = array ∧ array.isArray = true
      by_cases kind : value.isArray = true
      · rw [if_pos kind, Option.some.injEq]
        exact ⟨fun same => ⟨same, same ▸ kind⟩, fun same => same.1⟩
      · rw [if_neg kind]
        constructor
        · intro none
          cases none
        · rintro ⟨rfl, other⟩
          exact absurd other kind

/-- The value under a key is an array, with an item of some kind. -/
def HasItem (f : JValue) (key : String) (p : JValue → Prop) : Prop :=
  ∃ items, f.get key = .array items ∧ ∃ item ∈ items, p item

theorem filterArray_cases (f : JValue) (key : String) :
    (Handler.filterArray f key = none ∧ ∀ p, ¬ HasItem f key p) ∨
      ∃ items, Handler.filterArray f key = some (.array items) ∧ f.hasKey key = true ∧
        ∀ p, HasItem f key p ↔ ∃ item ∈ items, p item := by
  cases found : Handler.filterArray f key with
  | none =>
      refine .inl ⟨rfl, ?_⟩
      rintro p ⟨items, array, _⟩
      cases (filterArray_eq_some.mpr ⟨array, rfl⟩).symm.trans found
  | some array =>
      obtain ⟨read, kind⟩ := filterArray_eq_some.mp found
      cases array with
      | array items =>
          refine .inr ⟨items, rfl, ?_, fun p => ?_⟩
          · cases present : f.member? key with
            | none =>
                rw [JValue.get, present] at read
                cases read
            | some value => rw [JValue.hasKey, present, Option.isSome_some]
          · simp [HasItem, read]
      | invalid | null | bool | number | string | object => cases kind

theorem HasItem.hasKey {f : JValue} {key : String} {p : JValue → Prop} (has : HasItem f key p) :
    f.hasKey key = true := by
  rcases filterArray_cases f key with ⟨_, missing⟩ | ⟨_, _, present, _⟩
  · exact absurd has (missing p)
  · exact present

theorem HasItem.congr {f : JValue} {key : String} {p q : JValue → Prop} (same : ∀ item, p item ↔ q item) :
    HasItem f key p ↔ HasItem f key q := by
  simp only [HasItem, same]

/-! ## One filter -/

/-- The filter asks for the action of the intent, if it has one. -/
def AsksAction (f : JValue) (intent : Intent) : Prop :=
  intent.hasAction = true → HasItem f "actions" (fun item => item.asString = intent.action)

/-- The filter asks for a mime type exactly if the intent has one, and for that one. -/
def AsksMimeType (f : JValue) (intent : Intent) : Prop :=
  if intent.hasMimeType then HasItem f "mimeTypes" (fun item => item.asString = intent.mimeType)
  else f.hasKey "mimeTypes" = false

/-- The same for the URI, with an item that is read as a pattern. -/
def AsksUri (f : JValue) (intent : Intent) : Prop :=
  if intent.hasUri then
    HasItem f "uris" (fun item => (({} : Uri).parse item.asString).1 = true ∧
      Uri.compare (({} : Uri).parse item.asString).2 intent.uri = true)
  else f.hasKey "uris" = false

theorem compareIntentFilter_iff {f : JValue} {intent : Intent} :
    Handler.compareIntentFilter f intent = true ↔
      AsksAction f intent ∧ AsksMimeType f intent ∧ AsksUri f intent := by
  unfold Handler.compareIntentFilter
  rw [Bool.and_eq_true]
  refine and_congr ?_ ?_
  · unfold AsksAction
    cases intent.hasAction with
    | false => simp
    | true =>
        rcases filterArray_cases f "actions" with ⟨none, missing⟩ | ⟨items, some, _, has⟩
        · simp [none, missing]
        · simp [some, has, compareString_iff, JValue.items]
  · unfold AsksMimeType AsksUri
    cases hasUri : intent.hasUri with
    | false =>
        cases intent.hasMimeType with
        | false => simp [and_comm]
        | true =>
            rcases filterArray_cases f "mimeTypes" with ⟨none, missing⟩ | ⟨items, some, _, has⟩
            · simp [none, missing]
            · simp [some, has, compareString_iff, JValue.items, and_comm]
    | true =>
        have present : intent.uri.empty = false := by simpa [Intent.hasUri] using hasUri
        cases intent.hasMimeType with
        | false =>
            rcases filterArray_cases f "uris" with ⟨none, missing⟩ | ⟨items, some, _, has⟩
            · simp [none, missing]
            · simp [some, has, compareUri_iff present, JValue.items]
        | true =>
            rcases filterArray_cases f "uris" with ⟨none, missing⟩ | ⟨uris, some, _, has⟩
            · simp [none, missing]
            · rcases filterArray_cases f "mimeTypes" with ⟨none, missing⟩ | ⟨items, some', _, has'⟩
              · simp [none, missing]
              · simp [some, some', has, has', compareString_iff, compareUri_iff present, JValue.items,
                  and_comm]

/-! ## The meaning of implicit matching -/

/-- Every component that the pattern names is that of the URI. -/
def Covers (pattern uri : Uri) : Prop :=
  (pattern.scheme ≠ "" → pattern.scheme = uri.scheme) ∧ (pattern.host ≠ "" → pattern.host = uri.host) ∧
    (pattern.path ≠ "" → pattern.path = uri.path)

/-- What a filter says of the action and the mime type. -/
structure Suits (f : JValue) (intent : Intent) : Prop where
  action : HasItem f "actions" (· = .string intent.action)
  mimeKey : f.hasKey "mimeTypes" = true ↔ intent.hasMimeType = true
  mimeType : intent.hasMimeType = true → HasItem f "mimeTypes" (· = .string intent.mimeType)

/-- What a filter says of an intent that it matches. -/
structure Meets (f : JValue) (intent : Intent) : Prop extends Suits f intent where
  uriKey : f.hasKey "uris" = true ↔ intent.hasUri = true
  uri : intent.hasUri = true → HasItem f "uris" (fun item =>
    ∃ p, item = .string p ∧ (({} : Uri).parse p).1 = true ∧ Covers (({} : Uri).parse p).2 intent.uri)

/-- The filter suits an intent with a URI, and lists something that is no string among its URIs. -/
structure Stray (f : JValue) (intent : Intent) : Prop extends Suits f intent where
  hasUri : intent.hasUri = true
  other : HasItem f "uris" (fun item => item.isString = false)

theorem compare_iff {a b : Uri} : Uri.compare a b = true ↔ Covers a b := by
  have component : ∀ x y : String, (!x.isEmpty && x != y) = false ↔ (x ≠ "" → x = y) := by
    intro x y
    by_cases empty : x = "" <;> simp [empty]
  simp only [Uri.compare, Covers, ← component]
  cases (!a.scheme.isEmpty && a.scheme != b.scheme) <;> cases (!a.host.isEmpty && a.host != b.host) <;>
    cases (!a.path.isEmpty && a.path != b.path) <;> simp

theorem asString_eq_iff {item : JValue} {target : String} (nonempty : target.isEmpty = false) :
    item.asString = target ↔ item = .string target := by
  have different : "" ≠ target := by
    rintro rfl
    cases nonempty
  cases item <;> simp [JValue.asString, different]

theorem isString_iff {item : JValue} : item.isString = true ↔ ∃ text, item = .string text := by
  cases item <;> simp [JValue.isString]

theorem suits_iff {f : JValue} {intent : Intent} (action : intent.hasAction = true) :
    AsksAction f intent ∧ AsksMimeType f intent ↔ Suits f intent := by
  have actions : AsksAction f intent ↔ HasItem f "actions" (· = .string intent.action) := by
    rw [AsksAction, forall_prop_of_true action]
    exact HasItem.congr (fun item => asString_eq_iff (by simpa [Intent.hasAction] using action))
  unfold AsksMimeType
  rw [actions]
  cases hasMimeType : intent.hasMimeType with
  | false =>
      simp only [Bool.false_eq_true, if_false]
      constructor
      · rintro ⟨item, absent⟩
        exact ⟨item, by simp [absent, hasMimeType], by simp [hasMimeType]⟩
      · intro suits
        exact ⟨suits.action, by simpa [hasMimeType] using suits.mimeKey⟩
  | true =>
      have nonempty : intent.mimeType.isEmpty = false := by simpa [Intent.hasMimeType] using hasMimeType
      have mimeTypes : HasItem f "mimeTypes" (fun item => item.asString = intent.mimeType) ↔
          HasItem f "mimeTypes" (· = .string intent.mimeType) :=
        HasItem.congr (fun _ => asString_eq_iff nonempty)
      simp only [if_true, mimeTypes]
      constructor
      · rintro ⟨item, listed⟩
        exact ⟨item, by simp [listed.hasKey, hasMimeType], fun _ => listed⟩
      · intro suits
        exact ⟨suits.action, suits.mimeType hasMimeType⟩

/-- What is no string is read as the empty text, which is a pattern for everything. -/
theorem other_is_wildcard {item : JValue} (other : item.isString = false) (uri : Uri) :
    (({} : Uri).parse item.asString).1 = true ∧
    Uri.compare (({} : Uri).parse item.asString).2 uri = true := by
  rw [JValue.asString_of_other other, Uri.parse_empty]
  exact ⟨rfl, rfl⟩

theorem Meets.of_item {f : JValue} {intent : Intent} (suits : Suits f intent) (hasUri : intent.hasUri = true)
    {items : List JValue} (array : f.get "uris" = .array items) {p : String} (mem : .string p ∈ items)
    (parsed : (({} : Uri).parse p).1 = true) (covers : Uri.compare (({} : Uri).parse p).2 intent.uri = true) :
    Meets f intent := by
  have listed : HasItem f "uris" (fun item => ∃ p, item = .string p ∧
      (({} : Uri).parse p).1 = true ∧ Covers (({} : Uri).parse p).2 intent.uri) :=
    ⟨items, array, .string p, mem, p, rfl, parsed, compare_iff.mp covers⟩
  exact { suits with
    uriKey := by simp [listed.hasKey, hasUri]
    uri := fun _ => listed }

theorem asksUri_iff {f : JValue} {intent : Intent} (suits : Suits f intent) :
    AsksUri f intent ↔ Meets f intent ∨ Stray f intent := by
  unfold AsksUri
  cases hasUri : intent.hasUri with
  | false =>
      simp only [Bool.false_eq_true, if_false]
      constructor
      · intro absent
        exact .inl { suits with
          uriKey := by simp [absent, hasUri]
          uri := by simp [hasUri] }
      · intro meets
        cases meets with
        | inl meets => simpa [hasUri] using meets.uriKey
        | inr stray => cases stray.hasUri.symm.trans hasUri
  | true =>
      simp only [if_true]
      constructor
      · intro asks
        obtain ⟨items, array, item, mem, parsed, covers⟩ := asks
        cases kind : item.isString with
        | false => exact .inr { suits with hasUri := hasUri, other := ⟨items, array, item, mem, kind⟩ }
        | true =>
            obtain ⟨p, rfl⟩ := isString_iff.mp kind
            exact .inl (.of_item suits hasUri array mem parsed covers)
      · intro meets
        cases meets with
        | inl meets =>
            obtain ⟨items, array, item, mem, p, rfl, parsed, covers⟩ := meets.uri hasUri
            exact ⟨items, array, .string p, mem, parsed, compare_iff.mpr covers⟩
        | inr stray =>
            obtain ⟨items, array, item, mem, other⟩ := stray.other
            exact ⟨items, array, item, mem, other_is_wildcard other intent.uri⟩

theorem compareIntentFilter_meets {f : JValue} {intent : Intent} (action : intent.hasAction = true) :
    Handler.compareIntentFilter f intent = true ↔ Meets f intent ∨ Stray f intent := by
  rw [compareIntentFilter_iff, ← and_assoc, suits_iff action]
  constructor
  · intro matched
    exact (asksUri_iff matched.1).mp matched.2
  · intro meets
    have suits : Suits f intent := by
      cases meets with
      | inl meets => exact meets.toSuits
      | inr stray => exact stray.toSuits
    exact ⟨suits, (asksUri_iff suits).mpr meets⟩

/-- An implicit intent is matched by the filters that say so exactly if no filter
    that suits its action and mime type lists something that is no string among
    its URIs, or a filter meets it anyway, or it has no URI. -/
theorem implicit_matching_iff (handler : Handler) (intent : Intent) (filters : List JValue)
    (array : handler.intentFilters = .array filters) (implicit : intent.hasName = false)
    (action : intent.hasAction = true)
    (session : intent.hasSessionId = true → handler.sessionId = intent.sessionId) :
    (handler.isMatched intent = true ↔ ∃ f ∈ filters, Meets f intent) ↔
      ((∃ f ∈ filters, Stray f intent) → ∃ f ∈ filters, Meets f intent) := by
  have matched : handler.isMatched intent = true ↔
      (∃ f ∈ filters, Meets f intent) ∨ ∃ f ∈ filters, Stray f intent := by
    have own : (intent.hasSessionId && handler.sessionId != intent.sessionId) = false := by
      cases has : intent.hasSessionId with
      | false => rfl
      | true => simp [session has]
    rw [Handler.isMatched, own, implicit, array]
    simp only [Bool.false_eq_true, if_false, JValue.items, List.any_eq_true, compareIntentFilter_meets action,
      and_or_left, exists_or]
  rw [matched]
  exact or_iff_left_iff_imp

/-- A handler for pages of one host. -/
private def pages : JValue :=
  .object [("actions", .array [.string "view"]), ("uris", .array [.string "http://youtube.com"])]

/-- The same with a number among the URIs. -/
private def numbered : JValue := .object [("actions", .array [.string "view"]), ("uris", .array [.number 5])]

private def viewing : Intent :=
  { action := "view", uri := (({} : Uri).parse "http://example.com/a").2, intentId := 1, object := 0 }

theorem implicit_matching_of_strings :
    let handler : Handler := { name := "browser", intentFilters := .array [pages] }
    handler.isMatched viewing = true ↔ ∃ f ∈ [pages], Meets f viewing := by
  refine (implicit_matching_iff _ viewing [pages] rfl rfl rfl (by decide)).mpr ?_
  rintro ⟨f, mem, stray⟩
  obtain rfl := List.mem_singleton.mp mem
  obtain ⟨items, array, item, listed, other⟩ := stray.other
  cases array
  cases List.mem_singleton.mp listed
  cases other

/-- A filter that lists the number 5 among its URIs takes the intent, though no
    string of it does. -/
theorem number_matches_uri :
    let handler : Handler := { name := "browser", intentFilters := .array [numbered] }
    viewing.hasName = false ∧ viewing.hasAction = true ∧ viewing.hasSessionId = false ∧
      handler.isMatched viewing = true ∧ ¬ ∃ f ∈ [numbered], Meets f viewing := by
  refine ⟨by decide, by decide, by decide, by decide, ?_⟩
  rintro ⟨f, mem, meets⟩
  obtain rfl := List.mem_singleton.mp mem
  obtain ⟨items, array, item, listed, p, rfl, _⟩ := meets.uri (by decide)
  cases array
  cases List.mem_singleton.mp listed

end IntentService.Matching
