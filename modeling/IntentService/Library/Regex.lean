import Mathlib.Data.List.Basic

/-! # Regular expressions with captures

Sequences, greedy repetitions of one symbol class, greedy optional parts and
numbered capture groups, matched by backtracking: the first match in greedy
order wins. Groups record the text they consumed; a group inside an optional
part that was skipped records nothing.
-/

/-- A pattern over symbols `α`. -/
inductive Regex (α : Type*) where
  /-- One symbol of a class. -/
  | one (accepts : α → Bool)
  /-- Any number of symbols of a class, as many as possible first. -/
  | many (accepts : α → Bool)
  /-- One pattern after another. -/
  | seq (first second : Regex α)
  /-- A pattern or nothing, the pattern first. -/
  | opt (body : Regex α)
  /-- A pattern whose text is kept under a number. -/
  | group (index : Nat) (body : Regex α)

namespace Regex

variable {α β : Type*}

/-- The texts kept so far, latest first. -/
abbrev Captures (α : Type*) := List (Nat × List α)

/-- At least one symbol of a class. -/
def some1 (accepts : α → Bool) : Regex α := .seq (.one accepts) (.many accepts)

/-- Repetition of a class, longest first. -/
def matchMany (accepts : α → Bool) (next : List α → Option β) : List α → Option β
  | [] => next []
  | c :: rest =>
      if accepts c then
        match matchMany accepts next rest with
        | some result => some result
        | none => next (c :: rest)
      else next (c :: rest)

/-- Match a prefix of the input and hand the rest to `next`, backtracking into
    the pattern while `next` fails. -/
def matchPrefix : Regex α → Captures α → List α →
    (Captures α → List α → Option β) → Option β
  | .one accepts, kept, input, next =>
      match input with
      | [] => none
      | c :: rest => if accepts c then next kept rest else none
  | .many accepts, kept, input, next => matchMany accepts (next kept) input
  | .seq first second, kept, input, next =>
      first.matchPrefix kept input (fun kept rest => second.matchPrefix kept rest next)
  | .opt body, kept, input, next =>
      match body.matchPrefix kept input next with
      | some result => some result
      | none => next kept input
  | .group index body, kept, input, next =>
      body.matchPrefix kept input (fun kept rest =>
        next ((index, input.take (input.length - rest.length)) :: kept) rest)

/-- Match the whole input. -/
def fullMatch (r : Regex α) (input : List α) : Option (Captures α) :=
  r.matchPrefix [] input (fun kept rest => if rest.isEmpty then some kept else none)

/-- The text a group kept, empty if it took no part in the match. -/
def Captures.text (kept : Captures α) (index : Nat) : List α :=
  match kept.find? (fun entry => entry.1 == index) with
  | some entry => entry.2
  | none => []

/-! ## What a match keeps -/

@[simp] theorem Captures.text_nil (index : Nat) : Captures.text ([] : Captures α) index = [] := rfl

@[simp] theorem Captures.text_cons (index other : Nat) (text : List α) (kept : Captures α) :
    Captures.text ((index, text) :: kept) other = if index = other then text else kept.text other := by
  by_cases same : index = other <;> simp [Captures.text, same]

theorem Captures.text_cons_of_lt {index other : Nat} (small : other < index) (text : List α)
    (kept : Captures α) :
    Captures.text ((index, text) :: kept) other = kept.text other := by
  rw [Captures.text_cons, if_neg (by omega)]

/-! ## Greedy matching -/

/-- If the rest matches behind the longest repetition, that is the match. -/
theorem matchMany_of_some {accepts : α → Bool} {next : List α → Option β} {result : β} {input : List α}
    (matched : next (input.dropWhile accepts) = some result) :
    matchMany accepts next input = some result := by
  induction input with
  | nil => exact matched
  | cons c rest ih =>
      by_cases accepted : accepts c = true
      · rw [List.dropWhile_cons_of_pos accepted] at matched
        rw [matchMany, if_pos accepted, ih matched]
      · rw [List.dropWhile_cons_of_neg accepted] at matched
        rw [matchMany, if_neg accepted, matched]

/-- If the rest cannot begin with a repeated symbol, there is nothing to backtrack to. -/
theorem matchMany_of_disjoint {accepts : α → Bool} {next : List α → Option β}
    (disjoint : ∀ c rest, accepts c = true → next (c :: rest) = none) (input : List α) :
    matchMany accepts next input = next (input.dropWhile accepts) := by
  induction input with
  | nil => rfl
  | cons c rest ih =>
      by_cases accepted : accepts c = true
      · rw [List.dropWhile_cons_of_pos accepted, matchMany, if_pos accepted, ih, disjoint c rest accepted]
        cases next (rest.dropWhile accepts) <;> rfl
      · rw [List.dropWhile_cons_of_neg accepted, matchMany, if_neg accepted]

variable {kept : Captures α} {next : Captures α → List α → Option β}

theorem matchPrefix_one_of_pos {accepts : α → Bool} {c : α} {rest : List α} (accepted : accepts c = true) :
    (one accepts).matchPrefix kept (c :: rest) next = next kept rest := if_pos accepted

theorem matchPrefix_one_of_neg {accepts : α → Bool} {input : List α}
    (other : ∀ c rest, input = c :: rest → accepts c = false) :
    (one accepts).matchPrefix kept input next = none := by
  cases input with
  | nil => rfl
  | cons c rest => exact if_neg (by rw [other c rest rfl]; exact Bool.false_ne_true)

theorem matchPrefix_one_of_ne [BEq α] [LawfulBEq α] {d : α} {input : List α}
    (other : ∀ rest, input ≠ d :: rest) :
    (one (· == d)).matchPrefix kept input next = none := by
  refine matchPrefix_one_of_neg (fun c rest split => ?_)
  rw [beq_eq_false_iff_ne]
  rintro rfl
  exact other rest split

theorem matchPrefix_group {index : Nat} {body : Regex α} {input : List α} :
    (group index body).matchPrefix kept input next =
      body.matchPrefix kept input (fun kept rest =>
        next ((index, input.take (input.length - rest.length)) :: kept) rest) := rfl

theorem matchPrefix_seq {first second : Regex α} {input : List α} :
    (seq first second).matchPrefix kept input next =
      first.matchPrefix kept input (fun kept rest => second.matchPrefix kept rest next) := rfl

theorem matchPrefix_opt_of_some {body : Regex α} {input : List α} {result : β}
    (matched : body.matchPrefix kept input next = some result) :
    (opt body).matchPrefix kept input next = some result := by
  rw [matchPrefix, matched]

theorem matchPrefix_opt_of_none {body : Regex α} {input : List α}
    (failed : body.matchPrefix kept input next = none) :
    (opt body).matchPrefix kept input next = next kept input := by
  rw [matchPrefix, failed]

theorem take_length_sub (front rest : List α) :
    (front ++ rest).take ((front ++ rest).length - rest.length) = front := by
  simp

theorem matchPrefix_group_many_of_some {index : Nat} {accepts : α → Bool} {input : List α} {result : β}
    (matched : next ((index, input.takeWhile accepts) :: kept) (input.dropWhile accepts) = some result) :
    (group index (many accepts)).matchPrefix kept input next = some result := by
  have consumed : input.take (input.length - (input.dropWhile accepts).length) = input.takeWhile accepts := by
    have whole := take_length_sub (input.takeWhile accepts) (input.dropWhile accepts)
    rwa [List.takeWhile_append_dropWhile] at whole
  refine matchMany_of_some ?_
  dsimp only
  rw [consumed]
  exact matched

/-- A part that begins with a mark keeps its text with the mark in one group and without it in another. -/
theorem matchPrefix_marked {index inner : Nat} {mark accepts : α → Bool} {c : α} {rest : List α} {result : β}
    (marked : mark c = true)
    (matched : next ((index, c :: rest.takeWhile accepts) :: (inner, rest.takeWhile accepts) :: kept)
      (rest.dropWhile accepts) = some result) :
    (opt (group index (seq (one mark) (group inner (many accepts))))).matchPrefix kept (c :: rest) next =
      some result := by
  refine matchPrefix_opt_of_some ?_
  rw [matchPrefix_group, matchPrefix_seq, matchPrefix_one_of_pos marked]
  refine matchPrefix_group_many_of_some ?_
  have consumed := take_length_sub (c :: rest.takeWhile accepts) (rest.dropWhile accepts)
  rw [List.cons_append, List.takeWhile_append_dropWhile] at consumed
  rw [consumed]
  exact matched

theorem matchPrefix_unmarked {index : Nat} {mark : α → Bool} {body : Regex α} {input : List α}
    (unmarked : ∀ c rest, input = c :: rest → mark c = false) :
    (opt (group index (seq (one mark) body))).matchPrefix kept input next = next kept input := by
  refine matchPrefix_opt_of_none ?_
  rw [matchPrefix_group, matchPrefix_seq]
  exact matchPrefix_one_of_neg unmarked

end Regex
