import IntentService.Json
import IntentService.Library.GenericUri
import IntentService.Library.Regex

/-! # URIs

`Uri::parse` splits a string with one POSIX extended regular expression.
Matching ignores the query and the fragment; an empty component of the pattern
stands for any value.
-/

namespace IntentService

structure Uri where
  uri : String := ""
  scheme : String := ""
  host : String := ""
  path : String := ""
  query : String := ""
  fragment : String := ""
  empty : Bool := true
  deriving DecidableEq

namespace Uri

/-- Whether the pattern `a` covers `b`. -/
def compare (a b : Uri) : Bool :=
  if !a.scheme.isEmpty && a.scheme != b.scheme then false
  else if !a.host.isEmpty && a.host != b.host then false
  else if !a.path.isEmpty && a.path != b.path then false
  else true

/-- `[^…]`: a bracket expression is not escaped in this grammar, so a
    backslash written in one is a member of it. -/
private def noneOf (excluded : List Char) (c : Char) : Bool := !excluded.contains c

open Regex in
/-- `^(([^:\/?#]+):)?(//([^\/?#]*))?([^?#]*)(\?([^#]*))?(#(.*))?` -/
def URL : Regex Char :=
  .seq (.opt (.group 1 (.seq (.group 2 (some1 (noneOf [':', '\\', '/', '?', '#']))) (.one (· == ':')))))
    (.seq (.opt (.group 3 (.seq (.one (· == '/')) (.seq (.one (· == '/'))
        (.group 4 (.many (noneOf ['\\', '/', '?', '#'])))))))
      (.seq (.group 5 (.many (noneOf ['?', '#'])))
        (.seq (.opt (.group 6 (.seq (.one (· == '?')) (.group 7 (.many (noneOf ['#']))))))
          (.opt (.group 8 (.seq (.one (· == '#')) (.group 9 (.many (· != '\x00')))))))))

def parse (self : Uri) (str : String) : Bool × Uri :=
  let cleared := { self with
    empty := true, uri := str, scheme := "", host := "", path := "", query := "", fragment := "" }
  match URL.fullMatch str.toList with
  | some result =>
      (true, { cleared with
        scheme := String.ofList (result.text 2)
        host := String.ofList (result.text 4)
        path := String.ofList (result.text 5)
        query := String.ofList (result.text 7)
        fragment := String.ofList (result.text 9)
        empty := false })
  | none => (false, cleared)

def toJson (self : Uri) (json : JValue) : JValue :=
  if self.empty then json
  else
    let json := if self.scheme.isEmpty then json else json.put "scheme" (.string self.scheme)
    let json := if self.host.isEmpty then json else json.put "host" (.string self.host)
    let json := if self.path.isEmpty then json else json.put "path" (.string self.path)
    let json := if self.query.isEmpty then json else json.put "query" (.string self.query)
    if self.fragment.isEmpty then json else json.put "fragment" (.string self.fragment)

theorem parse_eq (self : Uri) (str : String) : self.parse str = ({} : Uri).parse str := by
  simp only [parse]

/-- The empty text parses: it is the URI without any component. -/
theorem parse_empty (self : Uri) : self.parse "" = (true, { empty := false }) := by
  rw [parse_eq]
  decide

example : ({} : Uri).parse "http://youtube.com/watch?v=1#t" =
    (true, { uri := "http://youtube.com/watch?v=1#t", scheme := "http", host := "youtube.com",
             path := "/watch", query := "v=1", fragment := "t", empty := false }) := by
  decide

/-! ## The split that the expression makes -/

section Match

open Regex GenericUri

/-- The end of `regex_match`: the whole text must be used up. -/
def atEnd (kept : Captures Char) (rest : List Char) : Option (Captures Char) :=
  if rest.isEmpty then some kept else none

variable {kept : Captures Char} {s : List Char}

private theorem not_mem_dropWhile {p : Char → Bool} {c : Char} (absent : c ∉ s) : c ∉ s.dropWhile p :=
  fun member => absent (List.dropWhile_sublist p |>.subset member)

/-- `(#(.*))?` -/
private def fragmentPart : Regex Char :=
  .opt (.group 8 (.seq (.one (· == '#')) (.group 9 (.many (· != '\x00')))))

/-- `(\?([^#]*))?` -/
private def queryPart : Regex Char :=
  .opt (.group 6 (.seq (.one (· == '?')) (.group 7 (.many (noneOf ['#'])))))

private def pathPart : Regex Char := .group 5 (.many (noneOf ['?', '#']))

private def hostPart : Regex Char :=
  .opt (.group 3 (.seq (.one (· == '/'))
    (.seq (.one (· == '/')) (.group 4 (.many (noneOf ['\\', '/', '?', '#']))))))

private def schemePart : Regex Char :=
  .opt (.group 1 (.seq (.group 2 (some1 (noneOf [':', '\\', '/', '?', '#']))) (.one (· == ':'))))

theorem URL_eq : URL = .seq schemePart (.seq hostPart (.seq pathPart (.seq queryPart fragmentPart))) := rfl

theorem match_fragment (noNul : '\x00' ∉ s) (start : ∀ c rest, s = c :: rest → c = '#')
    (clean : kept.text 9 = []) :
    ∃ result, fragmentPart.matchPrefix kept s atEnd = some result ∧
      result.text 9 = s.tail ∧ ∀ i < 8, result.text i = kept.text i := by
  cases s with
  | nil => exact ⟨kept, rfl, clean, fun i _ => rfl⟩
  | cons c rest =>
      cases start c rest rfl
      have all : ∀ c ∈ rest, (c != '\x00') = true := by
        intro c member
        simp only [bne_iff_ne, ne_eq]
        rintro rfl
        exact noNul (List.mem_cons_of_mem _ member)
      refine ⟨(8, '#' :: rest) :: (9, rest) :: kept, matchPrefix_marked rfl ?_, by simp, ?_⟩
      · rw [List.takeWhile_eq_self_iff.mpr all, List.dropWhile_eq_nil_iff.mpr all]
        rfl
      · intro i small
        rw [Captures.text_cons_of_lt (by omega), Captures.text_cons_of_lt (by omega)]

theorem match_query (noNul : '\x00' ∉ s) (start : ∀ c rest, s = c :: rest → c = '?' ∨ c = '#')
    (clean : kept.text 7 = [] ∧ kept.text 9 = []) :
    ∃ result, (queryPart.seq fragmentPart).matchPrefix kept s atEnd = some result ∧
      result.text 7 = GenericUri.query s ∧ result.text 9 = GenericUri.fragment s ∧
        ∀ i < 6, result.text i = kept.text i := by
  by_cases marked : ∃ rest, s = '?' :: rest
  · obtain ⟨rest, rfl⟩ := marked
    have stop : ∀ c behind, rest.dropWhile inQuery = c :: behind → c = '#' := by
      intro c behind stopped
      simpa [inQuery] using head_dropWhile stopped
    obtain ⟨result, matched, text, same⟩ := @match_fragment
      ((6, '?' :: rest.takeWhile inQuery) :: (7, rest.takeWhile inQuery) :: kept) _
      (not_mem_dropWhile (fun member => noNul (List.mem_cons_of_mem _ member))) stop (by simp [clean.2])
    refine ⟨result, matchPrefix_marked rfl matched, ?_, text, ?_⟩
    · rw [same 7 (by decide)]
      rfl
    · intro i small
      rw [same i (by omega), Captures.text_cons_of_lt (by omega), Captures.text_cons_of_lt (by omega)]
  · have hash : ∀ c rest, s = c :: rest → c = '#' := by
      intro c rest same
      refine (start c rest same).resolve_left ?_
      rintro rfl
      exact marked ⟨rest, same⟩
    obtain ⟨result, matched, text, same⟩ := match_fragment noNul hash clean.2
    have unmarked : ∀ c rest, s = c :: rest → (c == '?') = false := by
      intro c rest split
      rw [hash c rest split]
      rfl
    refine ⟨result, ?_, ?_, ?_, fun i small => same i (by omega)⟩
    · rw [matchPrefix_seq, queryPart, matchPrefix_unmarked unmarked]
      exact matched
    · rw [same 7 (by decide), clean.1]
      cases s with
      | nil => rfl
      | cons c rest =>
          cases hash c rest rfl
          rfl
    · rw [text]
      cases s with
      | nil => rfl
      | cons c rest =>
          cases hash c rest rfl
          rfl

theorem match_path (noNul : '\x00' ∉ s)
    (clean : kept.text 5 = [] ∧ kept.text 7 = [] ∧ kept.text 9 = []) :
    ∃ result, (pathPart.seq (queryPart.seq fragmentPart)).matchPrefix kept s atEnd = some result ∧
      result.text 5 = s.takeWhile inPath ∧ result.text 7 = GenericUri.query s ∧
        result.text 9 = GenericUri.fragment s ∧ ∀ i < 5, result.text i = kept.text i := by
  have stop : ∀ c rest, s.dropWhile inPath = c :: rest → c = '?' ∨ c = '#' := by
    intro c rest stopped
    have fails := head_dropWhile stopped
    simp only [inPath, Bool.not_eq_false', List.contains_cons, List.contains_nil, Bool.or_false,
      Bool.or_eq_true, beq_iff_eq] at fails
    exact fails
  obtain ⟨result, matched, query, fragment, same⟩ := @match_query
    ((5, s.takeWhile inPath) :: kept) _ (not_mem_dropWhile noNul) stop (by simp [clean.2])
  refine ⟨result, ?_, ?_, ?_, ?_, ?_⟩
  · rw [matchPrefix_seq, pathPart]
    exact matchPrefix_group_many_of_some matched
  · rw [same 5 (by decide), Captures.text_cons, if_pos rfl]
  · rw [query, query_behind_path]
  · rw [fragment, fragment_behind_path]
  · intro i small
    rw [same i (by omega), Captures.text_cons_of_lt (by omega)]

/-- The components behind a scheme. -/
structure Behind (result : Captures Char) (s : List Char) : Prop where
  host : result.text 4 = (authority ['\\'] s).1
  path : result.text 5 = (authority ['\\'] s).2.takeWhile inPath
  query : result.text 7 = GenericUri.query (authority ['\\'] s).2
  fragment : result.text 9 = GenericUri.fragment (authority ['\\'] s).2

private theorem matchPrefix_slashes_of_other {body : Regex Char} {next : Captures Char → List Char → Option β}
    (other : ∀ rest, s ≠ '/' :: '/' :: rest) :
    (Regex.seq (.one (· == '/')) (.seq (.one (· == '/')) body)).matchPrefix kept s next = none := by
  rw [matchPrefix_seq]
  by_cases first : ∃ rest, s = '/' :: rest
  · obtain ⟨rest, rfl⟩ := first
    rw [matchPrefix_one_of_pos rfl, matchPrefix_seq]
    exact matchPrefix_one_of_ne (fun behind split => other behind (by rw [split]))
  · exact matchPrefix_one_of_ne (fun rest split => first ⟨rest, split⟩)

theorem match_host (noNul : '\x00' ∉ s) (clean : ∀ i > 2, kept.text i = []) :
    ∃ result, (hostPart.seq (pathPart.seq (queryPart.seq fragmentPart))).matchPrefix kept s atEnd =
      some result ∧ Behind result s ∧ ∀ i < 3, result.text i = kept.text i := by
  have inside : noneOf ['\\', '/', '?', '#'] = inHost ['\\'] := by
    funext c
    exact congrArg (!·) (List.Perm.contains_eq (by decide))
  rw [matchPrefix_seq, hostPart, inside]
  by_cases slashes : ∃ rest, s = '/' :: '/' :: rest
  · obtain ⟨rest, rfl⟩ := slashes
    obtain ⟨result, matched, path, query, fragment, same⟩ := @match_path
      ((3, '/' :: '/' :: rest.takeWhile (inHost ['\\'])) :: (4, rest.takeWhile (inHost ['\\'])) :: kept)
      (rest.dropWhile (inHost ['\\']))
      (not_mem_dropWhile (fun member => noNul (List.mem_cons_of_mem _ (List.mem_cons_of_mem _ member))))
      (by simp [clean])
    refine ⟨result, matchPrefix_opt_of_some ?_, ⟨?_, path, query, fragment⟩, ?_⟩
    · rw [matchPrefix_group, matchPrefix_seq, matchPrefix_one_of_pos rfl, matchPrefix_seq,
        matchPrefix_one_of_pos rfl]
      refine matchPrefix_group_many_of_some ?_
      have consumed := take_length_sub ('/' :: '/' :: rest.takeWhile (inHost ['\\']))
        (rest.dropWhile (inHost ['\\']))
      rw [List.cons_append, List.cons_append, List.takeWhile_append_dropWhile] at consumed
      rw [consumed]
      exact matched
    · rw [same 4 (by decide)]
      rfl
    · intro i small
      rw [same i (by omega), Captures.text_cons_of_lt (by omega), Captures.text_cons_of_lt (by omega)]
  · have alone : authority ['\\'] s = ([], s) := authority_of_other (fun rest same => slashes ⟨rest, same⟩)
    obtain ⟨result, matched, path, query, fragment, same⟩ := match_path noNul
      ⟨clean 5 (by decide), clean 7 (by decide), clean 9 (by decide)⟩
    refine ⟨result, ?_, ⟨?_, ?_, ?_, ?_⟩, fun i small => same i (by omega)⟩
    · refine (matchPrefix_opt_of_none ?_).trans matched
      rw [matchPrefix_group]
      exact matchPrefix_slashes_of_other (fun rest same => slashes ⟨rest, same⟩)
    · rw [same 4 (by decide), clean 4 (by decide), alone]
    · rw [path, alone]
    · rw [query, alone]
    · rw [fragment, alone]

private theorem matchPrefix_scheme_of_other {next : Captures Char → List Char → Option β}
    (other : s.takeWhile (inScheme ['\\']) = [] ∨ ∀ rest, s.dropWhile (inScheme ['\\']) ≠ ':' :: rest) :
    (Regex.group 1 (.seq (.group 2 (some1 (inScheme ['\\']))) (.one (· == ':')))).matchPrefix kept s next =
      none := by
  rw [matchPrefix_group, matchPrefix_seq, matchPrefix_group, some1, matchPrefix_seq]
  match s with
  | [] => rfl
  | c :: rest =>
      by_cases passes : inScheme ['\\'] c = true
      · rw [List.takeWhile_cons_of_pos passes, List.dropWhile_cons_of_pos passes] at other
        have noColon := other.resolve_left (List.cons_ne_nil _ _)
        rw [matchPrefix_one_of_pos passes]
        refine (matchMany_of_disjoint ?_ rest).trans (matchPrefix_one_of_ne noColon)
        -- a colon is no symbol of a scheme
        intro d behind inside
        refine matchPrefix_one_of_ne (fun more split => ?_)
        cases split
        simp [inScheme] at inside
      · refine matchPrefix_one_of_neg (fun d behind split => ?_)
        cases split
        simpa using passes

theorem match_url (noNul : '\x00' ∉ s) :
    ∃ result, URL.fullMatch s = some result ∧ result.text 2 = (GenericUri.scheme ['\\'] s).1 ∧
      Behind result (GenericUri.scheme ['\\'] s).2 := by
  have inside : noneOf [':', '\\', '/', '?', '#'] = inScheme ['\\'] := by
    funext c
    exact congrArg (!·) (List.Perm.contains_eq (by decide))
  have whole : URL.fullMatch s = schemePart.matchPrefix [] s (fun kept rest =>
      (hostPart.seq (pathPart.seq (queryPart.seq fragmentPart))).matchPrefix kept rest atEnd) := by
    rw [URL_eq]
    rfl
  rw [whole, schemePart, inside]
  rcases scheme_cases ['\\'] s with ⟨c, front, rest, scanned, stopped⟩ | other
  · rw [scheme_of_colon scanned stopped]
    have split : c :: (front ++ ':' :: rest) = s := by
      rw [← List.cons_append, ← scanned, ← stopped, List.takeWhile_append_dropWhile]
    obtain ⟨result, matched, behind, same⟩ := @match_host [(1, c :: front ++ [':']), (2, c :: front)] rest
      (fun member => noNul (by rw [← split]; simp [member]))
      (fun i large => by
        rw [Captures.text_cons, if_neg (by omega), Captures.text_cons, if_neg (by omega)]
        rfl)
    refine ⟨result, matchPrefix_opt_of_some ?_, same 2 (by decide), behind⟩
    subst split
    have passes : inScheme ['\\'] c = true :=
      forall_takeWhile (by rw [scanned]; exact List.mem_cons_self)
    rw [List.dropWhile_cons_of_pos passes] at stopped
    rw [matchPrefix_group, matchPrefix_seq, matchPrefix_group, some1, matchPrefix_seq,
      matchPrefix_one_of_pos passes]
    refine matchMany_of_some ?_
    dsimp only
    have named := take_length_sub (c :: front) (':' :: rest)
    have whole := take_length_sub (c :: front ++ [':']) rest
    simp only [List.cons_append, List.append_assoc, List.nil_append] at named whole
    rw [stopped, matchPrefix_one_of_pos rfl, named, whole]
    exact matched
  · rw [scheme_of_other other]
    obtain ⟨result, matched, behind, same⟩ := @match_host [] s noNul (fun i _ => rfl)
    refine ⟨result, (matchPrefix_opt_of_none ?_).trans matched, same 2 (by decide), behind⟩
    exact matchPrefix_scheme_of_other other

end Match

open GenericUri in
/-- A text without a zero symbol is split at its delimiters, and at backslashes. -/
theorem parse_eq_split (self : Uri) (str : String) (noNul : '\x00' ∉ str.toList) :
    self.parse str = (true,
      { uri := str
        scheme := String.ofList (split ['\\'] str.toList).scheme
        host := String.ofList (split ['\\'] str.toList).host
        path := String.ofList (split ['\\'] str.toList).path
        query := String.ofList (split ['\\'] str.toList).query
        fragment := String.ofList (split ['\\'] str.toList).fragment
        empty := false }) := by
  obtain ⟨result, matched, scheme, behind⟩ := match_url noNul
  simp only [parse, matched, scheme, behind.host, behind.path, behind.query, behind.fragment, split]

end Uri

end IntentService
