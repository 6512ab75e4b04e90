import Mathlib.Data.List.Infix
import Mathlib.Data.List.Nodup
import Mathlib.Data.List.Range
import Mathlib.Data.List.NodupEquivFin

set_option autoImplicit false

/- Lists that grow at their end: what holds of each element when it is added, and tables whose
entries carry keys from a counter. -/
namespace Trace

variable {α : Type*} {P : List α → α → Prop}

/-- `P` holds of every element with those before it. -/
def EachAfter (P : List α → α → Prop) (trace : List α) : Prop :=
  ∀ before item after, trace = before ++ item :: after → P before item

theorem eachAfter_nil : EachAfter P [] := by
  intro before item after same
  simp at same

theorem EachAfter.mono {Q : List α → α → Prop} {trace : List α} (each : EachAfter P trace)
    (weaker : ∀ before item, P before item → Q before item) : EachAfter Q trace :=
  fun before item after same => weaker before item (each before item after same)

theorem eachAfter_snoc (trace : List α) (item : α) :
    EachAfter P (trace ++ [item]) ↔ EachAfter P trace ∧ P trace item := by
  constructor
  · intro each
    refine ⟨fun before earlier after same => ?_, each trace item [] rfl⟩
    exact each before earlier (after ++ [item]) (by simp [same])
  · rintro ⟨each, last⟩ before other after same
    rcases List.eq_nil_or_concat after with rfl | ⟨rest, final, rfl⟩
    · obtain ⟨init, final⟩ := List.append_inj' same rfl
      cases init
      cases final
      exact last
    · rw [List.concat_eq_append, ← List.cons_append, ← List.append_assoc] at same
      obtain ⟨init, _⟩ := List.append_inj' same rfl
      exact each before other rest init

end Trace

namespace Registry

variable {κ α : Type*} {key : Nat → κ} {keyOf : α → κ}

/-- The keys of the table are `key 0` to `key (count - 1)`, in this order. -/
def Numbered (key : Nat → κ) (keyOf : α → κ) (entries : List α) (count : Nat) : Prop :=
  entries.map keyOf = (List.range count).map key

theorem numbered_nil : Numbered key keyOf [] 0 := rfl

theorem Numbered.snoc {entries : List α} {count : Nat} (numbered : Numbered key keyOf entries count)
    (entry : α) (next : keyOf entry = key count) :
    Numbered key keyOf (entries ++ [entry]) (count + 1) := by
  simp only [Numbered, List.map_append, List.map_cons, List.map_nil, List.range_succ, next]
  rw [numbered]

theorem Numbered.nodup {entries : List α} {count : Nat} (numbered : Numbered key keyOf entries count)
    (injective : Function.Injective key) : (entries.map keyOf).Nodup := by
  rw [numbered]
  exact List.nodup_range.map injective

end Registry
