import Mathlib.Data.List.AList
import Mathlib.Data.List.Induction

set_option autoImplicit false

/- Maps that a loop fills with an entry for each item, under the key of the item. -/
namespace OcpDiag.MapFill

variable {ι κ β ε : Type} [DecidableEq κ] (key : ι → κ)

/-- The last item with a key. -/
def last (items : List ι) (wanted : κ) : Option ι :=
  items.reverse.find? fun item => key item = wanted

@[simp] theorem last_nil (wanted : κ) : last key [] wanted = none := rfl

theorem last_append_singleton (items : List ι) (item : ι) (wanted : κ) :
    last key (items ++ [item]) wanted =
      if key item = wanted then some item else last key items wanted := by
  unfold last
  rw [List.reverse_append, List.reverse_singleton, List.singleton_append, List.find?_cons]
  by_cases same : key item = wanted <;> simp [same]

theorem key_of_last {items : List ι} {wanted : κ} {item : ι}
    (found : last key items wanted = some item) : key item = wanted := by
  unfold last at found
  simpa only [decide_eq_true_eq] using List.find?_some found

/-- Each key of the items has an entry, which the last item with the key has made. -/
def Filled (Entry : ι → β → Prop) (items : List ι) (entries : AList fun _ : κ => β) : Prop :=
  ∀ wanted, Option.Rel Entry (last key items wanted) (entries.lookup wanted)

variable {key} {Entry : ι → β → Prop}

theorem Filled.empty : Filled key Entry [] (∅ : AList fun _ : κ => β) := by
  intro wanted
  rw [last_nil, AList.lookup_empty]
  exact .none

theorem Filled.insert {items : List ι} {entries : AList fun _ : κ => β}
    (filled : Filled key Entry items entries) {item : ι} {value : β} (made : Entry item value) :
    Filled key Entry (items ++ [item]) (entries.insert (key item) value) := by
  intro wanted
  rw [last_append_singleton]
  by_cases same : key item = wanted
  · rw [if_pos same, ← same, AList.lookup_insert]
    exact .some made
  · rw [if_neg same, AList.lookup_insert_ne (Ne.symm same)]
    exact filled wanted

/-- An entry that is there was made by an item. -/
theorem Filled.lookup {items : List ι} {entries : AList fun _ : κ => β}
    (filled : Filled key Entry items entries) {wanted : κ} {value : β}
    (found : entries.lookup wanted = some value) : ∃ item, Entry item value := by
  have related := filled wanted
  rw [found] at related
  cases made : last key items wanted with
  | none => rw [made] at related; cases related
  | some item =>
      rw [made] at related
      cases related with
      | some entry => exact ⟨item, entry⟩

/-- A loop whose body makes the entry of its item. -/
theorem filled_foldl {fill : AList (fun _ : κ => β) → ι → AList fun _ : κ => β}
    (step : ∀ items entries item, Filled key Entry items entries →
      ∃ value, fill entries item = entries.insert (key item) value ∧ Entry item value)
    (items : List ι) : Filled key Entry items (items.foldl fill ∅) := by
  induction items using List.reverseRecOn with
  | nil => exact Filled.empty
  | append_singleton items item ih =>
      obtain ⟨value, inserted, made⟩ := step items _ item ih
      rw [List.foldl_append, List.foldl_cons, List.foldl_nil, inserted]
      exact ih.insert made

/-- The same of a loop that may stop with an error. -/
theorem filled_foldlM {fill : AList (fun _ : κ => β) → ι → Except ε (AList fun _ : κ => β)}
    (step : ∀ items entries item next, Filled key Entry items entries →
      fill entries item = .ok next →
      ∃ value, next = entries.insert (key item) value ∧ Entry item value)
    (items : List ι) (entries : AList fun _ : κ => β)
    (ended : items.foldlM fill ∅ = .ok entries) : Filled key Entry items entries := by
  induction items using List.reverseRecOn generalizing entries with
  | nil =>
      cases ended
      exact Filled.empty
  | append_singleton items item ih =>
      rw [List.foldlM_append] at ended
      cases before : items.foldlM fill ∅ with
      | error reason => rw [before] at ended; cases ended
      | ok middle =>
          rw [before] at ended
          simp only [bind, Except.bind, List.foldlM_cons, List.foldlM_nil] at ended
          cases filled : fill middle item with
          | error reason => rw [filled] at ended; cases ended
          | ok next =>
              rw [filled] at ended
              cases ended
              obtain ⟨value, rfl, made⟩ := step items middle item _ (ih middle before) filled
              exact (ih middle before).insert made

theorem Filled.isSome_last {items : List ι} {entries : AList fun _ : κ => β}
    (filled : Filled key Entry items entries) (wanted : κ) :
    (last key items wanted).isSome = (entries.lookup wanted).isSome := by
  have related := filled wanted
  cases made : last key items wanted with
  | none =>
      rw [made] at related
      cases entry : entries.lookup wanted with
      | none => rfl
      | some value => rw [entry] at related; cases related
  | some item =>
      rw [made] at related
      cases entry : entries.lookup wanted with
      | none => rw [entry] at related; cases related
      | some value => rfl

/-- Two maps filled by the same items have the same keys. -/
theorem Filled.isSome_eq {γ : Type} {items : List ι} {entries : AList fun _ : κ => β}
    {OtherEntry : ι → γ → Prop} {others : AList fun _ : κ => γ}
    (filled : Filled key Entry items entries) (otherFilled : Filled key OtherEntry items others)
    (wanted : κ) : (entries.lookup wanted).isSome = (others.lookup wanted).isSome :=
  (filled.isSome_last wanted).symm.trans (otherFilled.isSome_last wanted)

/-- Where the entries of two maps are functions of the item, and one a function of the other, the
second map can be computed from the first. -/
theorem Filled.lookup_eq_map {γ : Type} {make : ι → β} {other : ι → γ}
    {items : List ι} {entries : AList fun _ : κ => β} {others : AList fun _ : κ => γ}
    (convert : κ → β → γ)
    (filled : Filled key (fun item value => value = make item) items entries)
    (otherFilled : Filled key (fun item value => value = other item) items others)
    (converts : ∀ item, other item = convert (key item) (make item)) (wanted : κ) :
    others.lookup wanted = (entries.lookup wanted).map (convert wanted) := by
  have related := filled wanted
  have otherRelated := otherFilled wanted
  cases made : last key items wanted with
  | none =>
      have absent := filled.isSome_last wanted
      have otherAbsent := otherFilled.isSome_last wanted
      rw [made, Option.isSome_none, eq_comm, Option.isSome_eq_false_iff,
        Option.isNone_iff_eq_none] at absent otherAbsent
      rw [absent, otherAbsent, Option.map_none]
  | some item =>
      rw [made] at related otherRelated
      cases entry : entries.lookup wanted with
      | none => rw [entry] at related; cases related
      | some value =>
          cases otherEntry : others.lookup wanted with
          | none => rw [otherEntry] at otherRelated; cases otherRelated
          | some otherValue =>
              rw [entry] at related
              rw [otherEntry] at otherRelated
              cases related with
              | some isMade =>
                  cases otherRelated with
                  | some isOther =>
                      rw [isOther, isMade, converts, key_of_last key made, Option.map_some]

end OcpDiag.MapFill
