import Mathlib.Data.List.Forall2

set_option autoImplicit false

/- Lists of results with one result for each source, in their order. -/
namespace Pointwise

variable {α β γ : Type*} {relation : α → β → Prop} {sources : List α} {results : List β}

theorem mem_right (related : List.Forall₂ relation sources results) {result : β}
    (member : result ∈ results) : ∃ source ∈ sources, relation source result := by
  induction related with
  | nil => cases member
  | @cons source _ rest _ here _ ih =>
      cases List.mem_cons.mp member with
      | inl same => exact ⟨source, List.mem_cons_self, same ▸ here⟩
      | inr later =>
          obtain ⟨other, inRest, relates⟩ := ih later
          exact ⟨other, List.mem_cons_of_mem source inRest, relates⟩

theorem mem_left (related : List.Forall₂ relation sources results) {source : α}
    (member : source ∈ sources) : ∃ result ∈ results, relation source result :=
  mem_right related.flip member

/-- There are results when there is one for each source. -/
theorem exists_iff :
    (∃ results, List.Forall₂ relation sources results) ↔
      ∀ source ∈ sources, ∃ result, relation source result := by
  constructor
  · rintro ⟨results, related⟩ source member
    obtain ⟨result, -, relates⟩ := mem_left related member
    exact ⟨result, relates⟩
  · intro each
    induction sources with
    | nil => exact ⟨[], .nil⟩
    | cons source rest ih =>
        obtain ⟨⟨result, here⟩, others⟩ := List.forall_mem_cons.mp each
        obtain ⟨results, related⟩ := ih others
        exact ⟨result :: results, .cons here related⟩

/-- What each result has of its source, they have in the same order. -/
theorem map_eq (related : List.Forall₂ relation sources results) (ofSource : α → γ)
    (ofResult : β → γ)
    (same : ∀ source ∈ sources, ∀ result, relation source result →
      ofResult result = ofSource source) :
    results.map ofResult = sources.map ofSource := by
  induction related with
  | nil => rfl
  | cons here _ ih =>
      obtain ⟨first, others⟩ := List.forall_mem_cons.mp same
      rw [List.map_cons, List.map_cons, first _ here, ih others]

/-- What is taken of each result as of its source, is taken in the same order. -/
theorem filterMap_eq (related : List.Forall₂ relation sources results) (ofSource : α → Option γ)
    (ofResult : β → Option γ)
    (same : ∀ source ∈ sources, ∀ result, relation source result →
      ofResult result = ofSource source) :
    results.filterMap ofResult = sources.filterMap ofSource := by
  induction related with
  | nil => rfl
  | cons here _ ih =>
      obtain ⟨first, others⟩ := List.forall_mem_cons.mp same
      rw [List.filterMap_cons, List.filterMap_cons, first _ here, ih others]

end Pointwise
