import Mathlib.Data.Finset.Max
import Mathlib.Data.List.AList
import Mathlib.Order.Partition.Finpartition

set_option autoImplicit false

/- Counting the members, the keys and the classes of a list. -/
namespace Counting

section Lists

variable {α κ ι : Type*} [DecidableEq κ] [DecidableEq ι]

/-- The members of a list without repetition, counted in its set. -/
theorem countP_eq_card_filter (items : List α) (key : α → κ) (distinct : (items.map key).Nodup)
    (chosen : κ → Prop) [DecidablePred chosen] :
    items.countP (fun item => chosen (key item)) =
      ((items.map key).toFinset.filter chosen).card := by
  have filtered : (items.map key).toFinset.filter chosen =
      ((items.map key).filter (fun key => chosen key)).toFinset := by
    ext key
    simp
  rw [filtered, List.toFinset_card_of_nodup (distinct.filter _), ← List.countP_eq_length_filter,
    List.countP_map]
  rfl

/-- Keys that tell the same items apart have equally many values. -/
theorem card_keys_congr (items : List α) (key : α → κ) (other : α → ι)
    (same : ∀ first ∈ items, ∀ second ∈ items,
      key first = key second ↔ other first = other second) :
    (items.map key).toFinset.card = (items.map other).toFinset.card := by
  induction items with
  | nil => rfl
  | cons item rest ih =>
      have inRest := ih fun first firstMember second secondMember =>
        same first (List.mem_cons_of_mem item firstMember) second
          (List.mem_cons_of_mem item secondMember)
      have again : key item ∈ rest.map key ↔ other item ∈ rest.map other := by
        simp only [List.mem_map]
        constructor
        · rintro ⟨second, member, equal⟩
          exact ⟨second, member, (same second (List.mem_cons_of_mem item member) item
            List.mem_cons_self).mp equal⟩
        · rintro ⟨second, member, equal⟩
          exact ⟨second, member, (same second (List.mem_cons_of_mem item member) item
            List.mem_cons_self).mpr equal⟩
      rw [List.map_cons, List.map_cons, List.toFinset_cons, List.toFinset_cons]
      by_cases member : key item ∈ rest.map key
      · rw [Finset.insert_eq_of_mem (List.mem_toFinset.mpr member),
          Finset.insert_eq_of_mem (List.mem_toFinset.mpr (again.mp member)), inRest]
      · rw [Finset.card_insert_of_notMem (fun inSet => member (List.mem_toFinset.mp inSet)),
          Finset.card_insert_of_notMem
            (fun inSet => member (again.mpr (List.mem_toFinset.mp inSet))), inRest]

/-- A running maximum is the number that the same bounds hold for. -/
theorem foldl_max_eq (items : List α) (size : α → Nat) (largest : Nat)
    (bounds : ∀ bound, largest ≤ bound ↔ ∀ item ∈ items, size item ≤ bound) :
    items.foldl (fun longest item => max longest (size item : Int)) 0 = largest := by
  have below (start bound : Nat) :
      items.foldl (fun longest item => max longest (size item)) start ≤ bound ↔
        start ≤ bound ∧ ∀ item ∈ items, size item ≤ bound := by
    clear bounds
    induction items generalizing start with
    | nil => simp
    | cons item rest ih =>
        rw [List.foldl_cons, ih, max_le_iff, List.forall_mem_cons, and_assoc]
  have natural (start : Nat) :
      items.foldl (fun longest item => max longest (size item : Int)) start =
        (items.foldl (fun longest item => max longest (size item)) start : Nat) := by
    clear bounds below
    induction items generalizing start with
    | nil => rfl
    | cons item rest ih =>
        rw [List.foldl_cons, List.foldl_cons, ← ih]
        congr 1
        omega
  have same : items.foldl (fun longest item => max longest (size item)) 0 = largest :=
    eq_of_forall_ge_iff fun bound => by
      rw [below, bounds]
      exact and_iff_right (Nat.zero_le bound)
  rw [← same]
  exact natural 0

end Lists

section Least

variable {α : Type*} [LinearOrder α]

/-- The first of an increasing list is the least of it. -/
theorem idxOf?_eq_zero_iff {items : List α} (increasing : items.Pairwise (· < ·)) {item : α}
    {place : Nat} (found : items.idxOf? item = some place) :
    place = 0 ↔ ∀ other ∈ items, item ≤ other := by
  obtain ⟨below, rfl, -⟩ := List.idxOf?_eq_some_iff.mp found
  cases items with
  | nil => cases below
  | cons first rest =>
      obtain ⟨later, -⟩ := List.pairwise_cons.mp increasing
      cases place with
      | zero =>
          refine iff_of_true rfl fun other member => ?_
          rcases List.mem_cons.mp member with rfl | inRest
          · exact le_refl _
          · exact le_of_lt (later other inRest)
      | succ place =>
          refine iff_of_false (Nat.succ_ne_zero place) fun least => ?_
          have inside : place < rest.length := Nat.lt_of_succ_lt_succ below
          have after : first < rest[place] := later _ (List.getElem_mem _)
          exact absurd (least first List.mem_cons_self) (not_le.mpr after)

/-- The element is the least of its class. -/
def Leads {members : Finset α} (classes : Finpartition members) (item : α) : Prop :=
  ∀ part ∈ classes.parts, item ∈ part → ∀ other ∈ part, item ≤ other

instance {members : Finset α} (classes : Finpartition members) :
    DecidablePred (Leads classes) := fun _ =>
  inferInstanceAs (Decidable (∀ part ∈ classes.parts, _))

theorem leads_iff {members : Finset α} (classes : Finpartition members) {part : Finset α}
    (member : part ∈ classes.parts) {item : α} (inside : item ∈ part) :
    Leads classes item ↔ ∀ other ∈ part, item ≤ other := by
  constructor
  · intro leads
    exact leads part member inside
  · intro least other otherMember inOther
    obtain rfl := classes.eq_of_mem_parts otherMember member inOther inside
    exact least

/-- There are as many classes as elements that lead one. -/
theorem card_leads {members : Finset α} (classes : Finpartition members) :
    (members.filter (Leads classes)).card = classes.parts.card := by
  refine Finset.card_bij (fun item _ => classes.part item) ?_ ?_ ?_
  · intro item member
    exact classes.part_mem.mpr (Finset.mem_filter.mp member).1
  · intro first firstMember second secondMember same
    obtain ⟨inside, firstLeads⟩ := Finset.mem_filter.mp firstMember
    obtain ⟨otherInside, secondLeads⟩ := Finset.mem_filter.mp secondMember
    have inFirst : second ∈ classes.part first := by
      rw [same]
      exact classes.mem_part otherInside
    have inSecond : first ∈ classes.part second := by
      rw [← same]
      exact classes.mem_part inside
    exact le_antisymm
      ((leads_iff classes (classes.part_mem.mpr inside) (classes.mem_part inside)).mp firstLeads
        second inFirst)
      ((leads_iff classes (classes.part_mem.mpr otherInside) (classes.mem_part otherInside)).mp
        secondLeads first inSecond)
  · intro part member
    have nonempty := classes.nonempty_of_mem_parts member
    have least := part.min'_mem nonempty
    refine ⟨part.min' nonempty, Finset.mem_filter.mpr ⟨classes.subset member least, ?_⟩,
      classes.part_eq_of_mem member least⟩
    exact (leads_iff classes member least).mpr fun item inside => part.min'_le item inside

end Least

section Buckets

variable {α β κ : Type*} [DecidableEq κ]

/-- The value is put at the end of the bucket of the key. -/
def put (buckets : AList (fun _ : κ => List β)) (key : κ) (value : β) :
    AList (fun _ : κ => List β) :=
  buckets.insert key ((buckets.lookup key).getD [] ++ [value])

/-- Each item is put in the bucket of its key. -/
def fill (key : α → κ) (value : α → β) (items : List α) : AList (fun _ : κ => List β) :=
  items.foldl (fun buckets item => put buckets (key item) (value item)) ∅

variable (key : α → κ) (value : α → β)

theorem fill_snoc (items : List α) (item : α) :
    fill key value (items ++ [item]) = put (fill key value items) (key item) (value item) := by
  simp only [fill, List.foldl_append, List.foldl_cons, List.foldl_nil]

theorem mem_fill (items : List α) (wanted : κ) :
    wanted ∈ fill key value items ↔ wanted ∈ items.map key := by
  induction items using List.reverseRecOn with
  | nil => exact iff_of_false (AList.notMem_empty wanted) List.not_mem_nil
  | append_singleton before item ih =>
      rw [fill_snoc, put, AList.mem_insert, ih, List.map_append, List.mem_append,
        List.map_singleton, List.mem_singleton, or_comm]

theorem lookup_fill (items : List α) (wanted : κ) :
    ((fill key value items).lookup wanted).getD [] =
      (items.filter (fun item => key item = wanted)).map value := by
  induction items using List.reverseRecOn with
  | nil => rfl
  | append_singleton before item ih =>
      rw [fill_snoc, put, List.filter_append, List.map_append, ← ih]
      by_cases same : key item = wanted
      · subst same
        simp [AList.lookup_insert]
      · rw [AList.lookup_insert_ne (Ne.symm same)]
        simp [same]

/-- There are as many buckets as keys. -/
theorem length_fill (items : List α) :
    (fill key value items).entries.length = (items.map key).toFinset.card := by
  have keys : (fill key value items).keys.toFinset = (items.map key).toFinset := by
    ext wanted
    rw [List.mem_toFinset, List.mem_toFinset, ← AList.mem_keys, mem_fill]
  rw [← keys, List.toFinset_card_of_nodup (AList.keys_nodup _), AList.keys, List.keys,
    List.length_map]

/-- No bucket is longer than a bound just when no key has more items. -/
theorem fill_le_iff (items : List α) (bound : Nat) :
    (∀ entry ∈ (fill key value items).entries, entry.2.length ≤ bound) ↔
      ∀ item ∈ items, items.countP (fun other => key other = key item) ≤ bound := by
  have length (wanted : κ) (bucket : List β)
      (found : (fill key value items).lookup wanted = some bucket) :
      bucket.length = items.countP (fun other => key other = wanted) := by
    have contents := lookup_fill key value items wanted
    rw [found, Option.getD_some] at contents
    rw [contents, List.length_map, List.countP_eq_length_filter]
  constructor
  · intro short item member
    have here := (mem_fill key value items (key item)).mpr (List.mem_map_of_mem member)
    obtain ⟨bucket, found⟩ := Option.isSome_iff_exists.mp (AList.lookup_isSome.mpr here)
    rw [← length _ bucket found]
    exact short ⟨key item, bucket⟩ (AList.mem_lookup_iff.mp found)
  · rintro few ⟨wanted, bucket⟩ member
    have found := AList.mem_lookup_iff.mpr member
    have here := (mem_fill key value items wanted).mp
      (AList.lookup_isSome.mp (Option.isSome_iff_exists.mpr ⟨bucket, found⟩))
    obtain ⟨item, inside, rfl⟩ := List.mem_map.mp here
    rw [length _ bucket found]
    exact few item inside

end Buckets

end Counting
