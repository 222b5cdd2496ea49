import IntentService.Matching

/-! # What a match does not depend on

A wider filter matches at least as much, because every loop of `isMatched` asks
for one item that fits and the wildcards order the patterns. Queries and
fragments are not looked at, on either side.
-/

namespace IntentService.Matching

/-! ## The order on patterns -/

theorem covers_refl (u : Uri) : Covers u u := ⟨fun _ => rfl, fun _ => rfl, fun _ => rfl⟩

theorem Covers.trans {a b c : Uri} (ab : Covers a b) (bc : Covers b c) : Covers a c := by
  have component : ∀ {x y z : String}, (x ≠ "" → x = y) → (y ≠ "" → y = z) → x ≠ "" → x = z := by
    intro x y z xy yz nonempty
    have same := xy nonempty
    exact same.trans (yz (same ▸ nonempty))
  exact ⟨component ab.1 bc.1, component ab.2.1 bc.2.1, component ab.2.2 bc.2.2⟩

/-! ## Wider filters -/

/-- The arrays of a filter. -/
def arrayKeys : List String := ["actions", "mimeTypes", "uris"]

/-- One change of an array of a filter that only widens it. -/
inductive Widens (f : JValue) : JValue → Prop where
  | insertItem {key : String} {front back : List JValue} (text : String) (known : key ∈ arrayKeys)
      (array : f.get key = .array (front ++ back)) :
      Widens f (f.put key (.array (front ++ .string text :: back)))
  | reorderItems {key : String} {items items' : List JValue} (known : key ∈ arrayKeys)
      (array : f.get key = .array items) (perm : items.Perm items') : Widens f (f.put key (.array items'))
  | widenUri {front back : List JValue} {p p' : String}
      (array : f.get "uris" = .array (front ++ .string p :: back))
      (parsed : (({} : Uri).parse p').1 = true)
      (general : Uri.compare (({} : Uri).parse p').2 (({} : Uri).parse p).2 = true) :
      Widens f (f.put "uris" (.array (front ++ .string p' :: back)))

/-- One change of the filters of a handler that only widens them. -/
inductive Generalizes : List JValue → List JValue → Prop where
  | insertFilter (front : List JValue) (f : JValue) (back : List JValue) :
      Generalizes (front ++ back) (front ++ f :: back)
  | reorder {filters filters' : List JValue} (perm : filters.Perm filters') : Generalizes filters filters'
  | changeFilter (front : List JValue) {f f' : JValue} (back : List JValue) (widens : Widens f f') :
      Generalizes (front ++ f :: back) (front ++ f' :: back)

theorem isObject_of_get {f : JValue} {key : String} {items : List JValue} (array : f.get key = .array items) :
    f.isObject = true ∧ f.hasKey key = true := by
  cases f with
  | object members =>
      refine ⟨rfl, ?_⟩
      cases found : (JValue.object members).member? key with
      | none =>
          rw [JValue.get, found] at array
          cases array
      | some value => rw [JValue.hasKey, found, Option.isSome_some]
  | invalid | null | bool | number | string | array => cases array

theorem hasKey_put {f : JValue} {key : String} {items : List JValue} (array : f.get key = .array items)
    (value : JValue) (other : String) : (f.put key value).hasKey other = f.hasKey other := by
  obtain ⟨object, present⟩ := isObject_of_get array
  rw [JValue.hasKey, JValue.member?_put object]
  split
  next same => rw [same, present, Option.isSome_some]
  next => rfl

theorem HasItem.put {f : JValue} {key other : String} {items items' : List JValue} {p : JValue → Prop}
    (array : f.get key = .array items)
    (kept : key = other → (∃ item ∈ items, p item) → ∃ item ∈ items', p item) (has : HasItem f other p) :
    HasItem (f.put key (.array items')) other p := by
  obtain ⟨listed, read, found⟩ := has
  rw [HasItem, JValue.get_put (isObject_of_get array).1]
  by_cases same : other = key
  · subst same
    cases array.symm.trans read
    rw [if_pos rfl]
    exact ⟨items', rfl, kept rfl found⟩
  · rw [if_neg same]
    exact ⟨listed, read, found⟩

theorem Widens.hasKey {f f' : JValue} (widens : Widens f f') (key : String) :
    f'.hasKey key = f.hasKey key := by
  cases widens with
  | insertItem text known array => exact hasKey_put array _ key
  | reorderItems known array perm => exact hasKey_put array _ key
  | widenUri array parsed general => exact hasKey_put array _ key

/-- What an item of an array may be replaced by: under `uris`, a wider pattern. -/
def Upward (key : String) (p : JValue → Prop) : Prop :=
  key = "uris" → ∀ q q' : String, (({} : Uri).parse q').1 = true →
    Uri.compare (({} : Uri).parse q').2 (({} : Uri).parse q).2 = true → p (.string q) → p (.string q')

theorem Widens.hasItem {f f' : JValue} {key : String} {p : JValue → Prop} (widens : Widens f f')
    (upward : Upward key p) (has : HasItem f key p) : HasItem f' key p := by
  cases widens with
  | insertItem text known array =>
      refine has.put array (fun _ found => ?_)
      obtain ⟨item, mem, fits⟩ := found
      exact ⟨item, by grind, fits⟩
  | reorderItems known array perm =>
      refine has.put array (fun _ found => ?_)
      obtain ⟨item, mem, fits⟩ := found
      exact ⟨item, perm.mem_iff.mp mem, fits⟩
  | @widenUri front back q q' array parsed general =>
      refine has.put array (fun same found => ?_)
      obtain ⟨item, mem, fits⟩ := found
      by_cases replaced : item = .string q
      · subst replaced
        exact ⟨.string q', by simp, upward same.symm q q' parsed general fits⟩
      · exact ⟨item, by grind, fits⟩

theorem compareIntentFilter_mono {f f' : JValue} {intent : Intent} (widens : Widens f f')
    (matched : Handler.compareIntentFilter f intent = true) :
    Handler.compareIntentFilter f' intent = true := by
  obtain ⟨action, mimeType, uri⟩ := compareIntentFilter_iff.mp matched
  refine compareIntentFilter_iff.mpr ⟨?_, ?_, ?_⟩
  · intro has
    exact widens.hasItem (fun uris => absurd uris (by decide)) (action has)
  · unfold AsksMimeType at mimeType ⊢
    rw [widens.hasKey]
    cases has : intent.hasMimeType with
    | true =>
        rw [has, if_pos rfl] at mimeType
        exact widens.hasItem (fun uris => absurd uris (by decide)) mimeType
    | false =>
        rw [has] at mimeType
        exact mimeType
  · unfold AsksUri at uri ⊢
    rw [widens.hasKey]
    cases has : intent.hasUri with
    | true =>
        rw [has, if_pos rfl] at uri
        rw [if_pos rfl]
        refine widens.hasItem (fun _ q q' parsed general fits => ?_) uri
        exact ⟨parsed, compare_iff.mpr ((compare_iff.mp general).trans (compare_iff.mp fits.2))⟩
    | false =>
        rw [has] at uri
        exact uri

/-- A change of the filters keeps one of a kind that survives every change of a filter. -/
theorem Generalizes.any {filters filters' : List JValue} {p : JValue → Bool}
    (change : Generalizes filters filters') (kept : ∀ {f f'}, Widens f f' → p f = true → p f' = true)
    (found : filters.any p = true) : filters'.any p = true := by
  cases change with
  | insertFilter front f back => grind
  | reorder perm => rwa [← perm.any_eq]
  | @changeFilter front f f' back widens =>
      have better := @kept f f' widens
      grind

/-- Widening the filters of a handler loses no match, and the wildcards make the
    patterns a preorder. -/
theorem generality_mono :
    (∀ u : Uri, u.compare u = true) ∧
      (∀ a b c : Uri, a.compare b = true → b.compare c = true → a.compare c = true) ∧
        ∀ (handler : Handler) (intent : Intent) (filters filters' : List JValue),
          handler.intentFilters = .array filters → Relation.ReflTransGen Generalizes filters filters' →
            handler.isMatched intent = true →
              { handler with intentFilters := .array filters' }.isMatched intent = true := by
  refine ⟨fun u => compare_iff.mpr (covers_refl u), fun a b c ab bc => ?_, ?_⟩
  · exact compare_iff.mpr ((compare_iff.mp ab).trans (compare_iff.mp bc))
  · intro handler intent filters filters' array changes matched
    have widened : filters.any (fun f => Handler.compareIntentFilter f intent) = true →
        filters'.any (fun f => Handler.compareIntentFilter f intent) = true := by
      intro found
      clear array
      induction changes with
      | refl => exact found
      | tail _ change ih => exact change.any compareIntentFilter_mono ih
    unfold Handler.isMatched at matched ⊢
    rw [array] at matched
    dsimp only [JValue.items] at matched ⊢
    split at matched
    next => cases matched
    next own =>
      rw [if_neg own]
      split at matched
      next named => rwa [if_pos named]
      next implicit =>
        rw [if_neg implicit]
        exact widened matched

/-- A handler for all pages of a host, and the same for a single one of them. -/
private def pageFilter (uri : String) : JValue :=
  .object [("actions", .array [.string "view"]), ("uris", .array [.string uri])]

theorem whole_host_matches :
    ({ name := "browser", intentFilters := .array [pageFilter "//youtube.com"] } : Handler).isMatched
      { action := "view", uri := (({} : Uri).parse "http://youtube.com/a").2, intentId := 1, object := 0 } =
        true := by
  refine generality_mono.2.2 { name := "browser", intentFilters := .array [pageFilter "//youtube.com/a"] } _
    [pageFilter "//youtube.com/a"] _ rfl (.single ?_) (by decide)
  exact .changeFilter [] [] (@Widens.widenUri _ [] [] _ _ rfl (by decide) (by decide))

/-! ## Queries and fragments -/

/-- The components that `compare` looks at agree. -/
structure SameTarget (a b : Uri) : Prop where
  scheme : a.scheme = b.scheme
  host : a.host = b.host
  path : a.path = b.path

theorem SameTarget.covers {a b : Uri} (same : SameTarget a b) : Covers a b :=
  ⟨fun _ => same.scheme, fun _ => same.host, fun _ => same.path⟩

theorem SameTarget.symm {a b : Uri} (same : SameTarget a b) : SameTarget b a :=
  ⟨same.scheme.symm, same.host.symm, same.path.symm⟩

theorem SameTarget.compare_eq {a b : Uri} (same : SameTarget a b) (pattern : Uri) :
    pattern.compare a = pattern.compare b := by
  simp only [Uri.compare, same.scheme, same.host, same.path]

/-- A text without a query, a fragment and a zero symbol. -/
def Plain (u : String) : Prop := ∀ c ∈ u.toList, c ≠ '?' ∧ c ≠ '#' ∧ c ≠ '\x00'

section Suffixes

variable {u t : String} (plain : Plain u) (noNul : '\x00' ∉ t.toList) (suffix : GenericUri.Suffix t.toList)
include plain noNul

theorem noNul_append : '\x00' ∉ (u ++ t).toList := by
  rw [String.toList_append, List.mem_append]
  intro member
  cases member with
  | inl member => exact (plain _ member).2.2 rfl
  | inr member => exact noNul member

theorem parse_append_some (self : Uri) :
    (self.parse u).1 = true ∧ (self.parse (u ++ t)).1 = true ∧
      (self.parse u).2.empty = false ∧ (self.parse (u ++ t)).2.empty = false := by
  rw [Uri.parse_eq_split self u (fun member => (plain _ member).2.2 rfl),
    Uri.parse_eq_split self (u ++ t) (noNul_append plain noNul)]
  exact ⟨rfl, rfl, rfl, rfl⟩

include suffix

theorem parse_append_target (self : Uri) : SameTarget (self.parse u).2 (self.parse (u ++ t)).2 := by
  rw [Uri.parse_eq_split self u (fun member => (plain _ member).2.2 rfl),
    Uri.parse_eq_split self (u ++ t) (noNul_append plain noNul), String.toList_append]
  obtain ⟨scheme, host, path⟩ := @GenericUri.split_append ['\\'] _ suffix u.toList
  exact ⟨congrArg String.ofList scheme.symm, congrArg String.ofList host.symm,
    congrArg String.ofList path.symm⟩

theorem compareIntentFilter_append (f : JValue) (intent : Intent) :
    Handler.compareIntentFilter f { intent with uri := (intent.uri.parse u).2 } =
      Handler.compareIntentFilter f { intent with uri := (intent.uri.parse (u ++ t)).2 } := by
  have target := parse_append_target plain noNul suffix intent.uri
  obtain ⟨_, _, some, some'⟩ := parse_append_some plain noNul intent.uri
  rw [Bool.eq_iff_iff, compareIntentFilter_iff, compareIntentFilter_iff]
  refine and_congr_right fun _ => and_congr_right fun _ => ?_
  simp only [AsksUri, Intent.hasUri, some, some', target.compare_eq]

theorem isMatched_append (handler : Handler) (intent : Intent) :
    handler.isMatched { intent with uri := (intent.uri.parse u).2 } =
      handler.isMatched { intent with uri := (intent.uri.parse (u ++ t)).2 } := by
  simp only [Handler.isMatched, compareIntentFilter_append plain noNul suffix]
  rfl

/-- Each of the two patterns is as wide as the other. -/
theorem compareIntentFilter_put_append {f : JValue} {front back : List JValue}
    (array : f.get "uris" = .array (front ++ .string u :: back)) (intent : Intent) :
    Handler.compareIntentFilter (f.put "uris" (.array (front ++ .string (u ++ t) :: back))) intent =
      Handler.compareIntentFilter f intent := by
  obtain ⟨object, present⟩ := isObject_of_get array
  have target := parse_append_target plain noNul suffix {}
  obtain ⟨parsed, parsed', _⟩ := parse_append_some plain noNul {}
  rw [Bool.eq_iff_iff]
  constructor
  · intro matched
    have array' := JValue.get_put object "uris" "uris" (.array (front ++ .string (u ++ t) :: back))
    have back := compareIntentFilter_mono (.widenUri array' parsed (compare_iff.mpr target.covers)) matched
    rwa [JValue.put_put, ← array, JValue.put_get present] at back
  · exact compareIntentFilter_mono (.widenUri array parsed' (compare_iff.mpr target.symm.covers))

end Suffixes

/-- A query or fragment at the end of a URI matters neither in an intent nor in a filter. -/
theorem suffix_irrelevant (u t : String) (plain : Plain u) (noNul : '\x00' ∉ t.toList)
    (suffix : GenericUri.Suffix t.toList) :
    (∀ self : Uri, SameTarget (self.parse u).2 (self.parse (u ++ t)).2) ∧
      (∀ (handler : Handler) (intent : Intent),
        handler.isMatched { intent with uri := (intent.uri.parse u).2 } =
          handler.isMatched { intent with uri := (intent.uri.parse (u ++ t)).2 }) ∧
        ∀ (f : JValue) (front back : List JValue), f.get "uris" = .array (front ++ .string u :: back) →
          ∀ intent, Handler.compareIntentFilter
            (f.put "uris" (.array (front ++ .string (u ++ t) :: back))) intent =
            Handler.compareIntentFilter f intent :=
  ⟨parse_append_target plain noNul suffix, isMatched_append plain noNul suffix,
    fun _ _ _ array => compareIntentFilter_put_append plain noNul suffix array⟩

theorem query_irrelevant :
    (({} : Uri).parse "http://youtube.com/a").2.path =
    (({} : Uri).parse "http://youtube.com/a?b=//c:d#e").2.path :=
  ((suffix_irrelevant "http://youtube.com/a" "?b=//c:d#e" (by simp [Plain]) (by decide)
    (by intro c rest same; cases same; exact .inl rfl)).1 {}).path

end IntentService.Matching
