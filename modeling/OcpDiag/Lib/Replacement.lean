import Mathlib.Data.List.Infix

set_option autoImplicit false

/- Replacing a pattern wherever it stands in a text. -/
namespace Replacement

variable {α : Type*} [DecidableEq α]

/-- Occurrences are found from the left and do not overlap: the first `skip` elements belong to the
one before. -/
def replaceFrom (pattern replacement : List α) : Nat → List α → List α
  | _, [] => []
  | skip + 1, _ :: rest => replaceFrom pattern replacement skip rest
  | 0, first :: rest =>
      if pattern <+: first :: rest then
        replacement ++ replaceFrom pattern replacement (pattern.length - 1) rest
      else first :: replaceFrom pattern replacement 0 rest

def replaceAll (pattern replacement text : List α) : List α :=
  replaceFrom pattern replacement 0 text

variable (pattern replacement : List α)

@[simp] theorem replaceAll_nil : replaceAll pattern replacement [] = [] := rfl

theorem replaceFrom_append (skipped rest : List α) :
    replaceFrom pattern replacement skipped.length (skipped ++ rest) =
      replaceAll pattern replacement rest := by
  induction skipped with
  | nil => rfl
  | cons first skipped ih => exact ih

theorem replaceAll_occurrence (first : α) (more rest : List α) :
    replaceAll (first :: more) replacement (first :: (more ++ rest)) =
      replacement ++ replaceAll (first :: more) replacement rest := by
  have stands : first :: more <+: first :: (more ++ rest) := List.prefix_append _ _
  rw [replaceAll, replaceFrom, if_pos stands, List.length_cons, Nat.add_sub_cancel,
    replaceFrom_append]

theorem replaceAll_other (first : α) (rest : List α) (absent : ¬ pattern <+: first :: rest) :
    replaceAll pattern replacement (first :: rest) =
      first :: replaceAll pattern replacement rest := by
  rw [replaceAll, replaceFrom, if_neg absent]
  rfl

-- Two of a mark before a letter are made one, and then one is made two.
section Doubling

variable (mark letter : α)

/-- A mark is put before those marks that stand before the letter and after no mark. -/
def doubleLone (marked : Bool) : List α → List α
  | [] => []
  | first :: rest =>
      if first = mark ∧ marked = false ∧ rest.head? = some letter then
        mark :: mark :: doubleLone true rest
      else first :: doubleLone (first = mark) rest

/-- What stands before the text matters only where the text begins with a mark and the letter. -/
theorem doubleLone_marked (marked : Bool) (text : List α) (other : ¬ [mark, letter] <+: text) :
    doubleLone mark letter marked text = doubleLone mark letter false text := by
  cases text with
  | nil => rfl
  | cons first rest =>
      have single : ¬ (first = mark ∧ rest.head? = some letter) := by
        rintro ⟨rfl, next⟩
        obtain ⟨others, rfl⟩ := List.head?_eq_some_iff.mp next
        exact other (List.prefix_append [first, letter] others)
      rw [doubleLone, doubleLone, if_neg fun both => single ⟨both.1, both.2.2⟩,
        if_neg fun both => single ⟨both.1, both.2.2⟩]

theorem doubleLone_other (marked : Bool) (first : α) (rest : List α) (differs : first ≠ mark) :
    doubleLone mark letter marked (first :: rest) = first :: doubleLone mark letter false rest := by
  rw [doubleLone, if_neg fun all => differs all.1, decide_eq_false differs]

theorem doubleLone_others (front rest : List α) (differ : ∀ item ∈ front, item ≠ mark) :
    doubleLone mark letter false (front ++ rest) = front ++ doubleLone mark letter false rest := by
  induction front with
  | nil => rfl
  | cons first front ih =>
      rw [List.forall_mem_cons] at differ
      rw [List.cons_append, doubleLone_other _ _ _ _ _ differ.1, ih differ.2, List.cons_append]

/-- A text can be cut before an element that is neither the mark nor the letter. -/
theorem doubleLone_append (marked : Bool) (front rest : List α) (first : α)
    (notMark : first ≠ mark) (notLetter : first ≠ letter) :
    doubleLone mark letter marked (front ++ first :: rest) =
      doubleLone mark letter marked front ++ first :: doubleLone mark letter false rest := by
  induction front generalizing marked with
  | nil => exact doubleLone_other mark letter marked first rest notMark
  | cons item front ih =>
      have next : (front ++ first :: rest).head? = some letter ↔ front.head? = some letter := by
        cases front with
        | nil => simp [notLetter]
        | cons other front => rfl
      simp only [List.cons_append, doubleLone, next]
      split
      · rw [ih, List.cons_append, List.cons_append]
      · rw [ih, List.cons_append]

theorem head?_halved (text : List α) :
    (replaceAll [mark, mark, letter] [mark, letter] text).head? = text.head? := by
  cases text with
  | nil => rfl
  | cons first rest =>
      by_cases stands : [mark, mark, letter] <+: first :: rest
      · obtain ⟨rfl, others, rfl⟩ := List.cons_prefix_cons.mp stands
        rw [replaceAll_occurrence [mark, letter] mark [mark, letter] others]
        rfl
      · rw [replaceAll_other _ _ _ _ stands]
        rfl

theorem replaceAll_start (start : List α) (first : α) (rest : List α) (differs : mark ≠ first) :
    replaceAll (mark :: start) replacement (first :: rest) =
      first :: replaceAll (mark :: start) replacement rest :=
  replaceAll_other _ _ _ _ fun stands => differs (List.cons_prefix_cons.mp stands).1

/-- The letter after a mark and a mark is left as it was, for one of the two is taken away and put
back. -/
theorem doubled_halved (distinct : mark ≠ letter) (text : List α) :
    replaceAll [mark, letter] [mark, mark, letter]
        (replaceAll [mark, mark, letter] [mark, letter] text) =
      doubleLone mark letter false text := by
  induction length : text.length using Nat.strongRecOn generalizing text with
  | ind size ih =>
      cases text with
      | nil => rfl
      | cons first rest =>
          rw [List.length_cons] at length
          by_cases same : first = mark
          · subst same
            by_cases two : [first, letter] <+: rest
            · obtain ⟨others, rfl⟩ := two
              rw [List.length_append] at length
              have halved := replaceAll_occurrence [first, letter] first [first, letter] others
              have doubled := replaceAll_occurrence [first, first, letter] first [letter]
                (replaceAll [first, first, letter] [first, letter] others)
              rw [halved, List.cons_append, doubled, ih others.length (by omega) others rfl]
              simp [doubleLone, distinct, distinct.symm]
            by_cases one : rest.head? = some letter
            · obtain ⟨others, rfl⟩ := List.head?_eq_some_iff.mp one
              rw [List.length_cons] at length
              have kept : ¬ [first, first, letter] <+: first :: letter :: others := by
                simp [List.cons_prefix_cons, distinct]
              have doubled := replaceAll_occurrence [first, first, letter] first [letter]
                (replaceAll [first, first, letter] [first, letter] others)
              rw [replaceAll_other _ _ _ _ kept, replaceAll_start _ first _ letter _ distinct]
              rw [List.singleton_append] at doubled
              rw [doubled, ih others.length (by omega) others rfl]
              simp [doubleLone, distinct.symm]
            · have kept : ¬ [first, first, letter] <+: first :: rest := by
                intro stands
                exact two (List.cons_prefix_cons.mp stands).2
              have lone : ¬ [first, letter] <+:
                  first :: replaceAll [first, first, letter] [first, letter] rest := by
                intro stands
                obtain ⟨others, begins⟩ := (List.cons_prefix_cons.mp stands).2
                apply one
                rw [← head?_halved first letter rest, ← begins]
                rfl
              rw [replaceAll_other _ _ _ _ kept, replaceAll_other _ _ _ _ lone,
                ih rest.length (by omega) rest rfl, doubleLone, if_neg fun all => one all.2.2,
                doubleLone_marked first letter (first = first) rest two]
          · have differs : mark ≠ first := fun equal => same equal.symm
            rw [replaceAll_start _ mark _ first rest differs,
              replaceAll_start _ mark _ first _ differs, ih rest.length (by omega) rest rfl,
              doubleLone_other mark letter _ first rest same]

end Doubling

end Replacement
