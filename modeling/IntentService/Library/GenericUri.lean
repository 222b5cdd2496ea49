import Mathlib.Data.List.TakeWhile

/-! # The generic syntax of URI references

A reference splits at its delimiters alone: a scheme in front of a colon, an
authority behind two slashes, a path, a query and a fragment. `more` lists
symbols that end a scheme or an authority besides the standard ones, so that the
standard split is `split []`.
-/

namespace GenericUri

/-- The components of a reference; an absent one is empty. -/
structure Parts where
  scheme : List Char
  host : List Char
  path : List Char
  query : List Char
  fragment : List Char
  deriving DecidableEq

variable (more : List Char)

def inScheme (c : Char) : Bool := !(':' :: '/' :: '?' :: '#' :: more).contains c

def inHost (c : Char) : Bool := !('/' :: '?' :: '#' :: more).contains c

def inPath (c : Char) : Bool := ! ['?', '#'].contains c

def inQuery (c : Char) : Bool := ! ['#'].contains c

/-- The scheme, and what follows its colon: the text before the first delimiter,
    if it is not empty and that delimiter is a colon. -/
def scheme (s : List Char) : List Char × List Char :=
  match s.takeWhile (inScheme more), s.dropWhile (inScheme more) with
  | c :: front, ':' :: rest => (c :: front, rest)
  | _, _ => ([], s)

/-- The authority behind two slashes, and what follows it. -/
def authority : List Char → List Char × List Char
  | '/' :: '/' :: rest => (rest.takeWhile (inHost more), rest.dropWhile (inHost more))
  | s => ([], s)

/-- What follows the path is the query if a question mark comes first. -/
def query (s : List Char) : List Char :=
  match s.dropWhile inPath with
  | '?' :: rest => rest.takeWhile inQuery
  | _ => []

/-- The text after the first `#`. -/
def fragment (s : List Char) : List Char := (s.dropWhile inQuery).tail

def split (s : List Char) : Parts :=
  let (scheme, rest) := scheme more s
  let (host, rest) := authority more rest
  { scheme := scheme
    host := host
    path := rest.takeWhile inPath
    query := query rest
    fragment := fragment rest }

example : split [] "a:b//c?d?e#f#?".toList =
    ⟨"a".toList, [], "b//c".toList, "d?e".toList, "f#?".toList⟩ := by
  decide

variable {more}

/-! ## Where scanning stops -/

theorem scan_append {p : Char → Bool} {t : List Char} (stop : ∀ c rest, t = c :: rest → p c = false)
    (s : List Char) :
    (s ++ t).takeWhile p = s.takeWhile p ∧ (s ++ t).dropWhile p = s.dropWhile p ++ t := by
  induction s with
  | nil =>
      cases t with
      | nil => exact ⟨rfl, rfl⟩
      | cons c rest => simp [stop c rest rfl]
  | cons c s ih =>
      by_cases passes : p c = true
      · simp [passes, ih.1, ih.2]
      · simp [passes]

/-- A stricter scan of a text that passes it altogether sees the same. -/
theorem scan_eq_of_forall {p q : Char → Bool} {s : List Char} (weaker : ∀ c, q c = true → p c = true)
    (all : ∀ c ∈ s.takeWhile p, q c = true) :
    s.takeWhile q = s.takeWhile p ∧ s.dropWhile q = s.dropWhile p := by
  induction s with
  | nil => exact ⟨rfl, rfl⟩
  | cons c s ih =>
      by_cases passes : p c = true
      · rw [List.takeWhile_cons_of_pos passes] at all ⊢
        rw [List.dropWhile_cons_of_pos passes]
        have strict := all c List.mem_cons_self
        obtain ⟨front, rest⟩ := ih (fun d member => all d (List.mem_cons_of_mem _ member))
        rw [List.takeWhile_cons_of_pos strict, List.dropWhile_cons_of_pos strict]
        exact ⟨congrArg (c :: ·) front, rest⟩
      · have strict : ¬ q c = true := fun passed => passes (weaker c passed)
        simp [passes, strict]

theorem scan_stop {p q : Char → Bool} {s : List Char} {c : Char} (inside : c ∈ s.takeWhile p)
    (fails : q c = false) : ∃ d rest, s.dropWhile q = d :: rest ∧ p d = true := by
  induction s with
  | nil => cases inside
  | cons d s ih =>
      by_cases passes : p d = true
      · by_cases strict : q d = true
        · rw [List.takeWhile_cons_of_pos passes] at inside
          rw [List.dropWhile_cons_of_pos strict]
          rcases List.mem_cons.mp inside with rfl | inside
          · rw [strict] at fails
            cases fails
          · exact ih inside
        · exact ⟨d, s, List.dropWhile_cons_of_neg strict, passes⟩
      · rw [List.takeWhile_cons_of_neg passes] at inside
        cases inside

theorem forall_takeWhile {p : Char → Bool} {s : List Char} {c : Char} (member : c ∈ s.takeWhile p) :
    p c = true := List.mem_takeWhile_imp member

theorem head_dropWhile {p : Char → Bool} {s rest : List Char} {c : Char}
    (stopped : s.dropWhile p = c :: rest) : p c = false := by
  have head := List.head?_dropWhile_not p s
  rw [stopped] at head
  simpa using head

theorem dropWhile_dropWhile {p q : Char → Bool} (weaker : ∀ c, p c = true → q c = true) (s : List Char) :
    (s.dropWhile p).dropWhile q = s.dropWhile q := by
  induction s with
  | nil => rfl
  | cons c s ih =>
      by_cases inside : p c = true
      · rw [List.dropWhile_cons_of_pos inside, List.dropWhile_cons_of_pos (weaker c inside), ih]
      · rw [List.dropWhile_cons_of_neg inside]

theorem query_behind_path (s : List Char) : query (s.dropWhile inPath) = query s := by
  rw [query, query, dropWhile_dropWhile (fun _ passes => passes)]

theorem fragment_behind_path (s : List Char) : fragment (s.dropWhile inPath) = fragment s := by
  rw [fragment, fragment, dropWhile_dropWhile]
  intro c inside
  simp only [inPath, inQuery, List.contains_cons, Bool.not_or, Bool.and_eq_true] at inside ⊢
  exact inside.2

/-! ## Additional delimiters -/

theorem inScheme_iff {c : Char} : inScheme more c = true ↔ inScheme [] c = true ∧ c ∉ more := by
  simp [inScheme, and_assoc]

theorem inHost_iff {c : Char} : inHost more c = true ↔ inHost [] c = true ∧ c ∉ more := by
  simp [inHost, and_assoc]

theorem scheme_of_colon {s front rest : List Char} {c : Char}
    (scanned : s.takeWhile (inScheme more) = c :: front)
    (stopped : s.dropWhile (inScheme more) = ':' :: rest) : scheme more s = (c :: front, rest) := by
  simp only [scheme, scanned, stopped]

theorem scheme_of_other {s : List Char}
    (other : s.takeWhile (inScheme more) = [] ∨ ∀ rest, s.dropWhile (inScheme more) ≠ ':' :: rest) :
    scheme more s = ([], s) := by
  unfold scheme
  split
  next rest scanned stopped =>
    rcases other with none | other
    · cases none.symm.trans scanned
    · exact absurd stopped (other rest)
  next => rfl

theorem scheme_cases (more s : List Char) :
    (∃ c front rest, s.takeWhile (inScheme more) = c :: front ∧
      s.dropWhile (inScheme more) = ':' :: rest) ∨
    s.takeWhile (inScheme more) = [] ∨ ∀ rest, s.dropWhile (inScheme more) ≠ ':' :: rest := by
  by_cases colon : ∃ rest, s.dropWhile (inScheme more) = ':' :: rest
  · obtain ⟨rest, stopped⟩ := colon
    cases scanned : s.takeWhile (inScheme more) with
    | nil => exact .inr (.inl rfl)
    | cons c front => exact .inl ⟨c, front, rest, rfl, stopped⟩
  · exact .inr (.inr (fun rest stopped => colon ⟨rest, stopped⟩))

theorem not_mem_scheme {s : List Char} {c : Char} (member : c ∈ (scheme more s).1) : c ∉ more := by
  rcases scheme_cases more s with ⟨d, front, rest, scanned, stopped⟩ | other
  · rw [scheme_of_colon scanned stopped, ← scanned] at member
    exact (inScheme_iff.mp (forall_takeWhile member)).2
  · rw [scheme_of_other other] at member
    cases member

theorem not_mem_authority {s : List Char} {c : Char} (member : c ∈ (authority more s).1) : c ∉ more := by
  unfold authority at member
  split at member
  next => exact (inHost_iff.mp (forall_takeWhile member)).2
  next => cases member

/-- The additional delimiters change nothing if the scheme has none of them. -/
theorem scheme_eq_of_not_mem {s : List Char} (clean : ∀ c ∈ (scheme [] s).1, c ∉ more) :
    scheme more s = scheme [] s := by
  by_cases all : ∀ c ∈ s.takeWhile (inScheme []), c ∉ more
  · obtain ⟨front, rest⟩ := scan_eq_of_forall (q := inScheme more)
      (fun _ passes => (inScheme_iff.mp passes).1)
      (fun c member => inScheme_iff.mpr ⟨forall_takeWhile member, all c member⟩)
    rw [scheme, front, rest, scheme]
  · obtain ⟨c, inside, extra⟩ : ∃ c ∈ s.takeWhile (inScheme []), c ∈ more := by
      simpa only [not_forall, not_not, exists_prop] using all
    -- both leave the text alone: here a delimiter comes first, there no colon follows
    have noColon : ∀ rest, s.dropWhile (inScheme more) ≠ ':' :: rest := by
      intro rest stopped
      obtain ⟨d, behind, first, passes⟩ := scan_stop inside
        (by simp [inScheme, extra] : inScheme more c = false)
      cases stopped.symm.trans first
      simp [inScheme] at passes
    rw [scheme_of_other (.inr noColon)]
    rcases scheme_cases [] s with ⟨d, front, rest, scanned, stopped⟩ | other
    · rw [scheme_of_colon scanned stopped, ← scanned] at clean
      exact absurd extra (clean c inside)
    · rw [scheme_of_other other]

theorem authority_of_other {s : List Char} (other : ∀ rest, s ≠ '/' :: '/' :: rest) :
    authority more s = ([], s) := by
  unfold authority
  split
  · exact absurd rfl (other _)
  · rfl

theorem authority_eq_of_not_mem {s : List Char} (clean : ∀ c ∈ (authority [] s).1, c ∉ more) :
    authority more s = authority [] s := by
  unfold authority at clean ⊢
  split
  next rest =>
    obtain ⟨front, behind⟩ := scan_eq_of_forall (s := rest) (q := inHost more)
      (fun _ passes => (inHost_iff.mp passes).1)
      (fun c member => inHost_iff.mpr ⟨forall_takeWhile member, clean c member⟩)
    rw [front, behind]
  next => rfl

/-- Splitting with additional delimiters agrees with the standard split exactly
    if neither the scheme nor the authority contains one. -/
theorem split_eq_iff {s : List Char} :
    split more s = split [] s ↔
      (∀ c ∈ (split [] s).scheme, c ∉ more) ∧ ∀ c ∈ (split [] s).host, c ∉ more := by
  constructor
  · intro same
    rw [← same]
    exact ⟨fun c member => not_mem_scheme member, fun c member => not_mem_authority member⟩
  · intro clean
    have front := scheme_eq_of_not_mem clean.1
    have host := authority_eq_of_not_mem clean.2
    simp only [split, front]
    rw [show authority more (scheme [] s).2 = authority [] (scheme [] s).2 from host]

/-! ## Queries and fragments -/

/-- A text that is empty or begins with a query or a fragment. -/
def Suffix (t : List Char) : Prop := ∀ c rest, t = c :: rest → c = '?' ∨ c = '#'

theorem Suffix.stop {t : List Char} (suffix : Suffix t) {p : Char → Bool}
    (fails : p '?' = false ∧ p '#' = false) : ∀ c rest, t = c :: rest → p c = false := by
  intro c rest same
  rcases suffix c rest same with rfl | rfl
  · exact fails.1
  · exact fails.2

theorem scheme_append {t : List Char} (suffix : Suffix t) (s : List Char) :
    scheme more (s ++ t) = ((scheme more s).1, (scheme more s).2 ++ t) := by
  obtain ⟨front, behind⟩ := scan_append (p := inScheme more)
    (suffix.stop ⟨by simp [inScheme], by simp [inScheme]⟩) s
  rcases scheme_cases more s with ⟨c, scheme, rest, scanned, stopped⟩ | other
  · rw [scheme_of_colon scanned stopped]
    exact scheme_of_colon (front.trans scanned) (by rw [behind, stopped, List.cons_append])
  · rw [scheme_of_other other]
    refine scheme_of_other ?_
    rw [front, behind]
    refine other.imp_right (fun noColon rest colon => ?_)
    cases stopped : s.dropWhile (inScheme more) with
    | nil =>
        rw [stopped, List.nil_append] at colon
        have fails := suffix ':' rest colon
        simp at fails
    | cons d more =>
        rw [stopped] at colon
        cases colon
        exact noColon more stopped

theorem authority_append {t : List Char} (suffix : Suffix t) (s : List Char) :
    authority more (s ++ t) = ((authority more s).1, (authority more s).2 ++ t) := by
  have stop : ∀ c rest, t = c :: rest → inHost more c = false :=
    suffix.stop ⟨by simp [inHost], by simp [inHost]⟩
  by_cases slashes : ∃ rest, s = '/' :: '/' :: rest
  · obtain ⟨rest, rfl⟩ := slashes
    obtain ⟨front, behind⟩ := scan_append stop rest
    simp only [List.cons_append, authority, front, behind]
  · rw [authority_of_other (fun rest same => slashes ⟨rest, same⟩), authority_of_other]
    intro rest same
    match s with
    | [] => simpa using suffix '/' _ same
    | [c] =>
        cases same
        simpa using suffix '/' _ rfl
    | c :: d :: s =>
        cases same
        exact slashes ⟨s, rfl⟩

theorem split_append {t : List Char} (suffix : Suffix t) (s : List Char) :
    (split more (s ++ t)).scheme = (split more s).scheme ∧
      (split more (s ++ t)).host = (split more s).host ∧
        (split more (s ++ t)).path = (split more s).path := by
  have stop : ∀ c rest, t = c :: rest → inPath c = false := suffix.stop ⟨by decide, by decide⟩
  simp only [split, scheme_append suffix, authority_append suffix, (scan_append stop _).1, and_self]

end GenericUri
