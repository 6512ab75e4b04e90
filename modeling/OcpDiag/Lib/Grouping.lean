import Mathlib.Data.List.Basic
import Mathlib.Data.List.Induction
import Mathlib.Data.List.Nodup
import Mathlib.Logic.Function.Basic

set_option autoImplicit false

/- A list of groups with one entry for each key, in the order in which the keys first appear,
and an index from the keys to the places of their entries. -/
namespace Grouping

variable {κ β : Type*} [DecidableEq κ]

theorem eraseDups_snoc (keys : List κ) (key : κ) :
    (keys ++ [key]).eraseDups =
      if key ∈ keys then keys.eraseDups else keys.eraseDups ++ [key] := by
  rw [List.eraseDups_append]
  by_cases member : key ∈ keys <;> simp [member, List.removeAll, List.eraseDups_cons]

theorem eraseDups_nodup (keys : List κ) : keys.eraseDups.Nodup := by
  induction keys using List.reverseRecOn with
  | nil => exact List.nodup_nil
  | append_singleton before key ih =>
      rw [eraseDups_snoc]
      split
      · exact ih
      · rename_i absent
        apply List.nodup_append.mpr
        refine ⟨ih, List.nodup_singleton key, fun other member last isLast => ?_⟩
        obtain rfl := List.mem_singleton.mp isLast
        rintro rfl
        exact absent (List.mem_eraseDups.mp member)

theorem idxOf?_snoc (keys : List κ) (key other : κ) :
    (keys ++ [key]).idxOf? other =
      (keys.idxOf? other).or (if other = key then some keys.length else none) := by
  simp only [List.idxOf?, List.findIdx?_append, List.findIdx?_singleton, beq_iff_eq, @eq_comm κ key]
  by_cases same : other = key <;> simp [same]

theorem lookup_cons_of_ne {value : β} {entries : List (κ × β)} {key other : κ}
    (different : other ≠ key) : ((key, value) :: entries).lookup other = entries.lookup other := by
  have apart : (other == key) = false := by simpa using different
  simp only [List.lookup_cons, apart]

/-- The table of the groups of some keys. -/
structure Table (keys : List κ) (group : κ → β) (index : κ → Option Nat) (entries : List β) :
    Prop where
  entries : entries = keys.eraseDups.map group
  index : ∀ key, index key = keys.eraseDups.idxOf? key

variable {keys : List κ} {group : κ → β} {index : κ → Option Nat} {entries : List β}

theorem table_nil (group : κ → β) (index : κ → Option Nat) (empty : ∀ key, index key = none) :
    Table [] group index [] :=
  ⟨rfl, empty⟩

theorem Table.absent (table : Table keys group index entries) (key : κ)
    (missing : index key = none) : key ∉ keys := by
  rw [table.index, List.idxOf?_eq_none_iff, List.mem_eraseDups] at missing
  exact missing

theorem Table.found (table : Table keys group index entries) {key : κ} {idx : Nat}
    (found : index key = some idx) : key ∈ keys ∧ entries[idx]? = some (group key) := by
  rw [table.index, List.idxOf?_eq_some_iff] at found
  obtain ⟨below, here, _⟩ := found
  refine ⟨List.mem_eraseDups.mp (here ▸ List.getElem_mem below), ?_⟩
  rw [table.entries, List.getElem?_map, List.getElem?_eq_getElem below, here]
  rfl

/-- A key that has an entry comes again. -/
theorem Table.again (table : Table keys group index entries) {key : κ} (member : key ∈ keys) :
    Table (keys ++ [key]) group index entries := by
  have same : (keys ++ [key]).eraseDups = keys.eraseDups := by rw [eraseDups_snoc, if_pos member]
  exact ⟨same ▸ table.entries, same ▸ table.index⟩

/-- A new key gets an entry at the end. -/
theorem Table.add (table : Table keys group index entries) {key : κ} (absent : key ∉ keys)
    (next : κ → Option Nat) (here : next key = some entries.length)
    (others : ∀ other, other ≠ key → next other = index other) :
    Table (keys ++ [key]) group next (entries ++ [group key]) := by
  have longer : (keys ++ [key]).eraseDups = keys.eraseDups ++ [key] := by
    rw [eraseDups_snoc, if_neg absent]
  refine ⟨?_, fun other => ?_⟩
  · rw [longer, List.map_append, table.entries]
    rfl
  · have missing : keys.eraseDups.idxOf? key = none := by
      rwa [List.idxOf?_eq_none_iff, List.mem_eraseDups]
    rw [longer, idxOf?_snoc]
    by_cases same : other = key
    · subst same
      rw [here, missing, table.entries, List.length_map, if_pos rfl, Option.none_or]
    · rw [others other same, table.index, if_neg same, Option.or_none]

/-- The entry of a key is replaced. -/
theorem Table.set (table : Table keys group index entries) {key : κ} {idx : Nat}
    (found : index key = some idx) (value : β) :
    Table keys (Function.update group key value) index (entries.set idx value) := by
  refine ⟨?_, table.index⟩
  rw [table.index, List.idxOf?_eq_some_iff] at found
  obtain ⟨below, here, _⟩ := found
  apply List.ext_getElem
  · rw [List.length_set, table.entries, List.length_map, List.length_map]
  · intro place inside inKeys
    simp only [List.length_map] at inKeys
    simp only [table.entries, List.getElem_set, List.getElem_map]
    by_cases same : idx = place
    · subst same
      rw [if_pos rfl, here, Function.update_self]
    · have different : keys.eraseDups[place] ≠ key := by
        intro again
        exact same ((eraseDups_nodup keys).getElem_inj_iff.mp (here.trans again.symm))
      rw [if_neg same, Function.update_of_ne different]

end Grouping
