import Mathlib.Data.List.Forall2

set_option autoImplicit false

/- A step that may fail, taken for each source in turn. -/
namespace OcpDiag.Traversal

variable {ε α β γ : Type} {step : α → Except ε β}

theorem mapM_cons_ok {source : α} {result : β} (here : step source = .ok result)
    (rest : List α) :
    (source :: rest).mapM step = (rest.mapM step).map (result :: ·) := by
  rw [List.mapM_cons, here]
  cases rest.mapM step <;> rfl

theorem mapM_cons_error {source : α} {reason : ε} (here : step source = .error reason)
    (rest : List α) : (source :: rest).mapM step = .error reason := by
  rw [List.mapM_cons, here]
  rfl

/-- It succeeds with one result for each source, in their order. -/
theorem mapM_ok_iff (sources : List α) (results : List β) :
    sources.mapM step = .ok results ↔
      List.Forall₂ (fun source result => step source = .ok result) sources results := by
  induction sources generalizing results with
  | nil =>
      rw [List.forall₂_nil_left_iff]
      exact ⟨fun ok => (Except.ok.inj ok).symm, fun nothing => nothing ▸ rfl⟩
  | cons source rest ih =>
      rw [List.forall₂_cons_left_iff]
      cases here : step source with
      | error reason =>
          rw [mapM_cons_error here]
          constructor
          · intro ok
            cases ok
          · rintro ⟨result, others, ok, -, -⟩
            cases ok
      | ok value =>
          rw [mapM_cons_ok here]
          constructor
          · intro ok
            cases later : rest.mapM step with
            | error reason =>
                rw [later] at ok
                cases ok
            | ok others =>
                rw [later] at ok
                exact ⟨value, others, rfl, (ih others).mp later, (Except.ok.inj ok).symm⟩
          · rintro ⟨result, others, ok, related, rfl⟩
            rw [(ih others).mpr related, Except.ok.inj ok]
            rfl

/-- It fails as the first source whose step fails. -/
theorem mapM_error_iff (sources : List α) (reason : ε) :
    sources.mapM step = .error reason ↔
      ∃ earlier source later, sources = earlier ++ source :: later ∧
        (∀ other ∈ earlier, ∃ result, step other = .ok result) ∧ step source = .error reason := by
  induction sources with
  | nil =>
      constructor
      · intro failed
        cases failed
      · rintro ⟨earlier, source, later, split, -, -⟩
        exact absurd split.symm (by simp)
  | cons first rest ih =>
      cases here : step first with
      | error found =>
          rw [mapM_cons_error here]
          constructor
          · intro failed
            exact ⟨[], first, rest, rfl, fun _ nothing => absurd nothing List.not_mem_nil,
              here.trans (congrArg Except.error (Except.error.inj failed))⟩
          · rintro ⟨earlier, source, later, split, ok, failed⟩
            rcases earlier with _ | ⟨head, earlier⟩
            · obtain ⟨rfl, rfl⟩ := List.cons.inj split
              exact congrArg Except.error (Except.error.inj (here.symm.trans failed))
            · obtain ⟨rfl, rfl⟩ := List.cons.inj split
              obtain ⟨result, isOk⟩ := ok first List.mem_cons_self
              rw [here] at isOk
              cases isOk
      | ok value =>
          have tail : (first :: rest).mapM step = .error reason ↔
              rest.mapM step = .error reason := by
            rw [mapM_cons_ok here]
            cases rest.mapM step with
            | error found => exact Iff.rfl
            | ok others => simp [Except.map]
          rw [tail, ih]
          constructor
          · rintro ⟨earlier, source, later, rfl, ok, failed⟩
            exact ⟨first :: earlier, source, later, rfl,
              List.forall_mem_cons.mpr ⟨⟨value, here⟩, ok⟩, failed⟩
          · rintro ⟨earlier, source, later, split, ok, failed⟩
            rcases earlier with _ | ⟨head, earlier⟩
            · obtain ⟨rfl, rfl⟩ := List.cons.inj split
              rw [here] at failed
              cases failed
            · obtain ⟨rfl, rfl⟩ := List.cons.inj split
              exact ⟨earlier, source, later, rfl, (List.forall_mem_cons.mp ok).2, failed⟩

theorem exists_forall₂_iff {relates : α → β → Prop} (sources : List α) :
    (∃ results, List.Forall₂ relates sources results) ↔
      ∀ source ∈ sources, ∃ result, relates source result := by
  induction sources with
  | nil => exact iff_of_true ⟨[], .nil⟩ fun _ absent => absurd absent List.not_mem_nil
  | cons source rest ih =>
      rw [List.forall_mem_cons, ← ih]
      constructor
      · rintro ⟨results, related⟩
        obtain ⟨result, others, here, later, rfl⟩ := List.forall₂_cons_left_iff.mp related
        exact ⟨⟨result, here⟩, others, later⟩
      · rintro ⟨⟨result, here⟩, others, later⟩
        exact ⟨result :: others, .cons here later⟩

/-- What is made of all the results, when there are all. -/
theorem map_mapM_ok_iff (make : List β → γ) (sources : List α) (made : γ) :
    (sources.mapM step).map make = .ok made ↔
      ∃ results, List.Forall₂ (fun source result => step source = .ok result) sources results ∧
        make results = made := by
  simp only [← mapM_ok_iff]
  cases sources.mapM step <;> simp [Except.map]

theorem map_mapM_error_iff (make : List β → γ) (sources : List α) (reason : ε) :
    (sources.mapM step).map make = .error reason ↔
      ∃ earlier source later, sources = earlier ++ source :: later ∧
        (∀ other ∈ earlier, ∃ result, step other = .ok result) ∧ step source = .error reason := by
  rw [← mapM_error_iff]
  cases sources.mapM step <;> simp [Except.map]

end OcpDiag.Traversal
