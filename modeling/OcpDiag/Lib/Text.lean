import Mathlib.Algebra.Order.Ring.Nat
import Mathlib.Data.List.Basic
import Mathlib.Data.List.Forall2

set_option autoImplicit false

/- Splitting a text at a separator, with a limit on the number of splits. -/
namespace Text

variable {α : Type*} [DecidableEq α]

/-- The pieces of a text cut at its first `limit` separators; the last piece keeps the others. -/
def splitMax (separator : α) : Nat → List α → List (List α)
  | _, [] => [[]]
  | 0, char :: rest => [char :: rest]
  | limit + 1, char :: rest =>
      if char = separator then [] :: splitMax separator limit rest
      else (splitMax separator (limit + 1) rest).modifyHead (char :: ·)

@[simp] theorem splitMax_zero (separator : α) (text : List α) :
    splitMax separator 0 text = [text] := by
  cases text <;> rfl

theorem splitMax_length (separator : α) (limit : Nat) (text : List α) :
    (splitMax separator limit text).length = min limit (text.count separator) + 1 := by
  induction text generalizing limit with
  | nil => simp [splitMax]
  | cons char rest ih =>
      cases limit with
      | zero => simp
      | succ limit =>
          by_cases same : char = separator
          · subst same
            simp only [splitMax, if_true, List.length_cons, ih, List.count_cons_self]
            omega
          · simp only [splitMax, if_neg same, List.length_modifyHead, ih,
              List.count_cons_of_ne same]

/-- A text with no more separators than the limit is cut at all of them. -/
theorem splitMax_eq_splitOn (separator : α) (limit : Nat) (text : List α)
    (few : text.count separator ≤ limit) :
    splitMax separator limit text = text.splitOn separator := by
  induction text generalizing limit with
  | nil => simp [splitMax]
  | cons char rest ih =>
      rw [List.splitOn_cons_eq_if_modifyHead]
      by_cases same : char = separator
      · subst same
        rw [List.count_cons_self] at few
        obtain ⟨limit, rfl⟩ : ∃ lower, limit = lower + 1 := ⟨limit - 1, by omega⟩
        simp only [splitMax, if_true, beq_self_eq_true]
        rw [ih limit (by omega)]
      · rw [List.count_cons_of_ne same] at few
        simp only [beq_iff_eq, if_neg same]
        cases limit with
        | zero =>
            have absent : separator ∉ rest := List.count_eq_zero.mp (by omega)
            rw [splitMax_zero, List.splitOn_eq_singleton absent]
            rfl
        | succ limit =>
            simp only [splitMax, if_neg same]
            rw [ih (limit + 1) few]

theorem not_mem_of_mem_splitOn (separator : α) (text piece : List α)
    (member : piece ∈ text.splitOn separator) : separator ∉ piece := by
  induction text generalizing piece with
  | nil =>
      rw [List.splitOn_nil, List.mem_singleton] at member
      simp [member]
  | cons char rest ih =>
      rw [List.splitOn_cons_eq_if_modifyHead] at member
      by_cases same : char = separator
      · simp only [same, beq_self_eq_true, if_true, List.mem_cons] at member
        cases member with
        | inl empty => simp [empty]
        | inr later => exact ih piece later
      · simp only [beq_iff_eq, if_neg same] at member
        cases pieces : rest.splitOn separator with
        | nil => exact absurd pieces (List.splitOn_ne_nil separator rest)
        | cons first others =>
            rw [pieces, List.modifyHead_cons, List.mem_cons] at member
            rw [pieces] at ih
            cases member with
            | inl head =>
                subst head
                simp only [List.mem_cons, not_or]
                exact ⟨fun equal => same equal.symm, ih first List.mem_cons_self⟩
            | inr later => exact ih piece (List.mem_cons_of_mem first later)

theorem count_intercalate (separator : α) (pieces : List (List α)) (nonempty : pieces ≠ []) :
    ([separator].intercalate pieces).count separator + 1 =
      pieces.length + (pieces.map (List.count separator)).sum := by
  induction pieces with
  | nil => exact absurd rfl nonempty
  | cons piece rest ih =>
      cases rest with
      | nil => simp [List.intercalate, Nat.add_comm]
      | cons next rest =>
          have later := ih (List.cons_ne_nil next rest)
          simp only [List.intercalate_cons_cons, List.count_append, List.count_singleton_self,
            List.length_cons, List.map_cons, List.sum_cons] at later ⊢
          omega

/-- Joined pieces are cut apart again when none of them has the separator. -/
theorem splitMax_intercalate (separator : α) (limit : Nat) (pieces : List (List α))
    (nonempty : pieces ≠ []) (few : pieces.length ≤ limit + 1)
    (free : ∀ piece ∈ pieces, separator ∉ piece) :
    splitMax separator limit ([separator].intercalate pieces) = pieces := by
  have within : (pieces.map (List.count separator)).sum = 0 := by
    apply List.sum_eq_zero_iff_forall_eq_nat.mpr
    intro count counted
    obtain ⟨piece, member, rfl⟩ := List.mem_map.mp counted
    exact List.count_eq_zero.mpr (free piece member)
  have joined := count_intercalate separator pieces nonempty
  rw [splitMax_eq_splitOn separator limit _ (by omega),
    List.splitOn_intercalate separator free nonempty]

/-- Lines that each end in a separator are cut apart, with an empty piece after the last. -/
theorem splitOn_terminated (separator : α) (lines : List (List α))
    (free : ∀ line ∈ lines, separator ∉ line) :
    (lines.flatMap (fun line => line ++ [separator])).splitOn separator = lines ++ [[]] := by
  have joined : lines.flatMap (fun line => line ++ [separator]) =
      [separator].intercalate (lines ++ [[]]) := by
    induction lines with
    | nil => rfl
    | cons line rest ih =>
        have more : rest ++ [[]] ≠ [] := by simp
        rw [List.flatMap_cons, ih (fun other member => free other (List.mem_cons_of_mem line member)),
          List.cons_append, List.intercalate_cons_of_ne_nil more, List.append_assoc]
  rw [joined]
  refine List.splitOn_intercalate separator ?_ (by simp)
  intro line member
  rcases List.mem_append.mp member with inLines | last
  · exact free line inLines
  · simp [List.mem_singleton.mp last]

/-- The place of the first element that is the given one. -/
def findFirstOf (char : α) : List α → Option Nat
  | [] => none
  | first :: rest => if first = char then some 0 else (findFirstOf char rest).map (· + 1)

/-- The place of the last element that is the given one. -/
def findLastOf (char : α) : List α → Option Nat
  | [] => none
  | first :: rest =>
      match findLastOf char rest with
      | some found => some (found + 1)
      | none => if first = char then some 0 else none

theorem findFirstOf_some (char : α) (text : List α) (found : Nat)
    (first : findFirstOf char text = some found) :
    ∃ before after, text = before ++ char :: after ∧ char ∉ before ∧ before.length = found := by
  induction text generalizing found with
  | nil => cases first
  | cons next rest ih =>
      rw [findFirstOf] at first
      split_ifs at first with same
      · obtain rfl := Option.some.inj first
        exact ⟨[], rest, by rw [same]; rfl, by simp, rfl⟩
      · obtain ⟨later, inRest, rfl⟩ := Option.map_eq_some_iff.mp first
        obtain ⟨before, after, rfl, absent, rfl⟩ := ih later inRest
        refine ⟨next :: before, after, rfl, ?_, rfl⟩
        rw [List.mem_cons, not_or]
        exact ⟨fun equal => same equal.symm, absent⟩

theorem findFirstOf_append (char : α) (before after : List α) (free : char ∉ before) :
    findFirstOf char (before ++ char :: after) = some before.length := by
  induction before with
  | nil => simp [findFirstOf]
  | cons next before ih =>
      rw [List.mem_cons, not_or] at free
      rw [List.cons_append, findFirstOf, if_neg (Ne.symm free.1), ih free.2]
      rfl

theorem findFirstOf_none (char : α) (text : List α) (nothing : findFirstOf char text = none) :
    char ∉ text := by
  induction text with
  | nil => simp
  | cons next rest ih =>
      rw [findFirstOf] at nothing
      split_ifs at nothing with same
      rw [List.mem_cons, not_or]
      exact ⟨fun equal => same equal.symm, ih (Option.map_eq_none_iff.mp nothing)⟩

theorem findLastOf_none (char : α) (text : List α) (nothing : findLastOf char text = none) :
    char ∉ text := by
  induction text with
  | nil => simp
  | cons next rest ih =>
      rw [findLastOf] at nothing
      split at nothing
      next => cases nothing
      next last =>
          split_ifs at nothing with same
          rw [List.mem_cons, not_or]
          exact ⟨fun equal => same equal.symm, ih last⟩

theorem findLastOf_some (char : α) (text : List α) (found : Nat)
    (last : findLastOf char text = some found) :
    ∃ before after, text = before ++ char :: after ∧ char ∉ after ∧ before.length = found := by
  induction text generalizing found with
  | nil => cases last
  | cons next rest ih =>
      rw [findLastOf] at last
      split at last
      next later inRest =>
          obtain rfl := Option.some.inj last
          obtain ⟨before, after, rfl, absent, rfl⟩ := ih later inRest
          exact ⟨next :: before, after, rfl, absent, rfl⟩
      next absent =>
          split_ifs at last with same
          obtain rfl := Option.some.inj last
          exact ⟨[], rest, by rw [same]; rfl, findLastOf_none char rest absent, rfl⟩

section Occurrence

variable {α : Type*} {first : α} {rest : List α}

theorem append_cons_of_longer (before after other rest : List α)
    (same : before ++ first :: after = other ++ rest) (longer : before.length < other.length) :
    ∃ extra, other = before ++ first :: extra ∧ after = extra ++ rest := by
  rcases List.append_eq_append_iff.mp same with ⟨extra, rfl, shifted⟩ | ⟨extra, rfl, -⟩
  · cases extra with
    | nil => simp at longer
    | cons char extra =>
        obtain ⟨rfl, later⟩ := List.cons.inj shifted
        exact ⟨extra, rfl, later⟩
  · rw [List.length_append] at longer
    omega

/-- Two occurrences of a marker that holds its first element only once do not overlap. -/
theorem occurrence_apart (own : first ∉ rest) (after extra otherAfter : List α)
    (nonempty : extra ≠ [])
    (same : first :: (rest ++ after) = extra ++ first :: (rest ++ otherAfter)) :
    ∃ middle, extra = first :: rest ++ middle ∧
      after = middle ++ first :: (rest ++ otherAfter) := by
  cases extra with
  | nil => exact absurd rfl nonempty
  | cons char extra =>
      obtain ⟨rfl, shifted⟩ := List.cons.inj same
      rcases List.append_eq_append_iff.mp shifted with
        ⟨middle, rfl, inside⟩ | ⟨middle, rfl, inside⟩
      · exact ⟨middle, rfl, inside⟩
      · cases middle with
        | nil => exact ⟨[], by simp, inside.symm⟩
        | cons next middle =>
            obtain ⟨rfl, -⟩ := List.cons.inj inside
            exact absurd (by simp) own

/-- Such a marker occurs at one place of a text that has it neither before nor after. -/
theorem occurrence_unique (own : first ∉ rest) (before after otherBefore otherAfter : List α)
    (same : before ++ first :: (rest ++ after) = otherBefore ++ first :: (rest ++ otherAfter))
    (notBefore : ¬ first :: rest <:+: before) (notAfter : ¬ first :: rest <:+: after) :
    before = otherBefore ∧ after = otherAfter := by
  rcases List.append_eq_append_iff.mp same with ⟨extra, rfl, shifted⟩ | ⟨extra, rfl, shifted⟩
  · by_cases nothing : extra = []
    · subst nothing
      exact ⟨(List.append_nil before).symm, by simpa using shifted⟩
    · obtain ⟨middle, -, rfl⟩ := occurrence_apart own _ _ _ nothing shifted
      exact absurd ⟨middle, otherAfter, by simp⟩ notAfter
  · by_cases nothing : extra = []
    · subst nothing
      exact ⟨List.append_nil otherBefore, by simpa using shifted.symm⟩
    · obtain ⟨middle, rfl, -⟩ := occurrence_apart own _ _ _ nothing shifted
      exact absurd ⟨otherBefore, middle, by simp⟩ notBefore

end Occurrence

end Text

/- Texts that are made of one piece for each test of a list. -/
namespace Concatenation

variable {α : Type*}

/-- The text can be cut into pieces that pass the tests, one after the other. -/
def fullMatch : List (List α → Bool) → List α → Bool
  | [], text => text.isEmpty
  | test :: tests, text =>
      (List.range (text.length + 1)).any fun cut =>
        test (text.take cut) && fullMatch tests (text.drop cut)

theorem fullMatch_cons_iff (test : List α → Bool) (tests : List (List α → Bool)) (text : List α) :
    fullMatch (test :: tests) text = true ↔
      ∃ piece rest, text = piece ++ rest ∧ test piece = true ∧ fullMatch tests rest = true := by
  simp only [fullMatch, List.any_eq_true, List.mem_range, Bool.and_eq_true]
  constructor
  · rintro ⟨cut, -, passes, matched⟩
    exact ⟨text.take cut, text.drop cut, (List.take_append_drop cut text).symm, passes, matched⟩
  · rintro ⟨piece, rest, rfl, passes, matched⟩
    refine ⟨piece.length, ?_, ?_, ?_⟩
    · rw [List.length_append]
      omega
    · rwa [List.take_left]
    · rwa [List.drop_left]

/-- A match is a list of pieces that make up the text. -/
theorem fullMatch_iff (tests : List (List α → Bool)) (text : List α) :
    fullMatch tests text = true ↔
      ∃ pieces, List.Forall₂ (fun test piece => test piece = true) tests pieces ∧
        text = pieces.flatten := by
  induction tests generalizing text with
  | nil =>
      rw [fullMatch, List.isEmpty_iff]
      constructor
      · rintro rfl
        exact ⟨[], .nil, rfl⟩
      · rintro ⟨pieces, each, rfl⟩
        cases each
        rfl
  | cons test tests ih =>
      rw [fullMatch_cons_iff]
      constructor
      · rintro ⟨piece, rest, rfl, passes, matched⟩
        obtain ⟨pieces, each, rfl⟩ := (ih rest).mp matched
        exact ⟨piece :: pieces, .cons passes each, rfl⟩
      · rintro ⟨pieces, each, rfl⟩
        cases each with
        | @cons _ piece _ pieces passes each =>
            exact ⟨piece, pieces.flatten, rfl, passes, (ih _).mpr ⟨pieces, each, rfl⟩⟩

end Concatenation
