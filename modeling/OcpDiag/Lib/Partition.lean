import Mathlib.Data.List.Perm.Basic
import OcpDiag.Lib.Grouping

set_option autoImplicit false

/- A list put back together from its groups. -/
namespace OcpDiag.Partition

variable {α β κ : Type*} [DecidableEq κ]

/-- The groups of some different keys, one after the other, are the list in another order. -/
theorem groups_perm (key : α → Option κ) (keys : List κ) (distinct : keys.Nodup) (items : List α)
    (covered : ∀ item ∈ items, ∃ found ∈ keys, key item = some found) :
    (keys.flatMap fun found => items.filter fun item => key item == some found).Perm items := by
  induction keys generalizing items with
  | nil =>
      have nothing : items = [] := List.eq_nil_iff_forall_not_mem.mpr fun item member => by
        obtain ⟨found, absent, _⟩ := covered item member
        exact absurd absent List.not_mem_nil
      rw [nothing]
      rfl
  | cons first rest ih =>
      obtain ⟨new, others⟩ := List.nodup_cons.mp distinct
      let here := fun item => key item == some first
      have apart : (rest.flatMap fun found => items.filter fun item => key item == some found) =
          rest.flatMap fun found =>
            (items.filter fun item => !here item).filter fun item => key item == some found := by
        refine List.flatMap_congr fun found member => ?_
        rw [List.filter_filter]
        refine List.filter_congr fun item _ => ?_
        by_cases same : key item = some found
        · have different : found ≠ first := fun equal => new (equal ▸ member)
          simp [here, same, different]
        · simp [same]
      have later := ih others (items.filter fun item => !here item) fun item member => by
        obtain ⟨inItems, elsewhere⟩ := List.mem_filter.mp member
        obtain ⟨found, inKeys, same⟩ := covered item inItems
        refine ⟨found, (List.mem_cons.mp inKeys).resolve_left fun equal => ?_, same⟩
        simp [here, same, equal] at elsewhere
      rw [List.flatMap_cons, apart]
      exact (later.append_left _).trans (List.filter_append_perm here items)

/-- What is taken from the groups is what is taken from the list, when nothing is taken from an item
without a key. -/
theorem filterMap_groups_perm (key : α → Option κ) (select : α → Option β) (items : List α)
    (keyed : ∀ item, (select item).isSome = true → (key item).isSome = true) :
    ((items.filterMap key).eraseDups.flatMap fun found =>
      (items.filter fun item => key item == some found).filterMap select).Perm
      (items.filterMap select) := by
  let withKey := items.filter fun item => (key item).isSome
  have grouped := groups_perm key (items.filterMap key).eraseDups (Grouping.eraseDups_nodup _)
    withKey fun item member => by
      obtain ⟨inItems, hasKey⟩ := List.mem_filter.mp member
      obtain ⟨found, same⟩ := Option.isSome_iff_exists.mp hasKey
      exact ⟨found, List.mem_eraseDups.mpr (List.mem_filterMap.mpr ⟨item, inItems, same⟩), same⟩
  have kept : withKey.filterMap select = items.filterMap select := by
    rw [List.filterMap_filter]
    refine List.filterMap_congr fun item _ => ?_
    cases hasKey : (key item).isSome with
    | true => rfl
    | false =>
        cases selected : select item with
        | none => rfl
        | some value =>
            have found := keyed item (by rw [selected]; rfl)
            rw [hasKey] at found
            cases found
  have inGroup : ∀ found, withKey.filter (fun item => key item == some found) =
      items.filter fun item => key item == some found := by
    intro found
    rw [List.filter_filter]
    refine List.filter_congr fun item _ => ?_
    by_cases same : key item = some found <;> simp [same]
  simp only [inGroup] at grouped
  rw [← kept]
  have taken := grouped.filterMap select
  rwa [List.filterMap_flatMap] at taken

end OcpDiag.Partition
