import OcpDiag.Lib.Grouping

set_option autoImplicit false

/- Renumbering keys by the order in which they first appear. -/
namespace Renumbering

variable {κ : Type*} [DecidableEq κ]

/-- The place of a key among the distinct keys, in the order of their first appearance. -/
def place (keys : List κ) (key : κ) : Nat := keys.eraseDups.idxOf key

theorem place_append_of_mem {keys : List κ} {key : κ} (member : key ∈ keys) (more : List κ) :
    place (keys ++ more) key = place keys key := by
  unfold place
  rw [List.eraseDups_append, List.idxOf_append, if_pos (List.mem_eraseDups.mpr member)]

theorem place_snoc_self {keys : List κ} {key : κ} (absent : key ∉ keys) :
    place (keys ++ [key]) key = keys.eraseDups.length := by
  unfold place
  rw [Grouping.eraseDups_snoc, if_neg absent, List.idxOf_append,
    if_neg (fun member => absent (List.mem_eraseDups.mp member)), List.idxOf_cons_self,
    Nat.zero_add]

/-- Distinct keys have distinct places. -/
theorem place_inj {keys : List κ} {first : κ} (member : first ∈ keys) (second : κ) :
    place keys first = place keys second ↔ first = second :=
  List.idxOf_inj (List.mem_eraseDups.mpr member)

/-- A map and a counter that number the keys seen so far. -/
structure Numbered (keys : List κ) (number : κ → Option Int) (next : Int) : Prop where
  seen : ∀ key ∈ keys, number key = some (place keys key : Int)
  unseen : ∀ key, key ∉ keys → number key = none
  next : next = keys.eraseDups.length

variable {keys : List κ} {number : κ → Option Int} {next : Int}

theorem numbered_nil (number : κ → Option Int) (empty : ∀ key, number key = none) :
    Numbered [] number 0 :=
  ⟨fun _ member => absurd member List.not_mem_nil, fun key _ => empty key, rfl⟩

/-- A key that has a number comes again. -/
theorem Numbered.again (numbered : Numbered keys number next) {key : κ} (member : key ∈ keys) :
    Numbered (keys ++ [key]) number next := by
  have same : (keys ++ [key]).eraseDups = keys.eraseDups := by
    rw [Grouping.eraseDups_snoc, if_pos member]
  refine ⟨fun other inside => ?_, fun other outside => ?_, ?_⟩
  · have before : other ∈ keys := by
      rcases List.mem_append.mp inside with before | last
      · exact before
      · rwa [List.mem_singleton.mp last]
    rw [numbered.seen other before, place_append_of_mem before]
  · exact numbered.unseen other (fun before => outside (List.mem_append_left _ before))
  · rw [same, numbered.next]

/-- A new key gets the counter's value. -/
theorem Numbered.add (numbered : Numbered keys number next) {key : κ} (absent : key ∉ keys)
    (extended : κ → Option Int) (here : extended key = some next)
    (others : ∀ other, other ≠ key → extended other = number other) :
    Numbered (keys ++ [key]) extended (next + 1) := by
  refine ⟨fun other inside => ?_, fun other outside => ?_, ?_⟩
  · by_cases same : other = key
    · rw [same, here, place_snoc_self absent, numbered.next]
    · have before : other ∈ keys := by
        rcases List.mem_append.mp inside with before | last
        · exact before
        · exact absurd (List.mem_singleton.mp last) same
      rw [others other same, numbered.seen other before, place_append_of_mem before]
  · have notLast : other ≠ key := by
      rintro rfl
      exact outside (List.mem_append_right _ (List.mem_singleton_self _))
    rw [others other notLast]
    exact numbered.unseen other (fun before => outside (List.mem_append_left _ before))
  · rw [Grouping.eraseDups_snoc, if_neg absent, List.length_append, numbered.next]
    rfl

end Renumbering
