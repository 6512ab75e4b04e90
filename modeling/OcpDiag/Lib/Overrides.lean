import OcpDiag.Lib.Grouping

set_option autoImplicit false

/- Overrides applied one after another to a list of entries: an override updates the entries that
match its key, or adds an entry where none does. -/
namespace Overrides

variable {ε ο κ : Type*}

/-- How the overrides act: their keys, which entries match a key, and the two effects. -/
structure Actions (ε ο κ : Type*) where
  key : ο → κ
  isMatch : κ → ε → Bool
  update : ο → ε → ε
  create : ο → ε

variable (actions : Actions ε ο κ)

/-- What one override does to one entry. -/
def Actions.apply (override : ο) (entry : ε) : ε :=
  if actions.isMatch (actions.key override) entry then actions.update override entry else entry

/-- What the overrides do to one entry, one after another. -/
def Actions.settle (overrides : List ο) (entry : ε) : ε :=
  overrides.foldl (fun entry override => actions.apply override entry) entry

def Actions.step (entries : List ε) (override : ο) : List ε :=
  entries.map (actions.apply override) ++
    if entries.any (actions.isMatch (actions.key override)) then []
    else [actions.create override]

/-- The keys that match none of the entries, in the order in which they first come. -/
def Actions.newKeys [DecidableEq κ] (overrides : List ο) (entries : List ε) : List κ :=
  ((overrides.filter (fun override =>
    !entries.any (actions.isMatch (actions.key override)))).map actions.key).eraseDups

/-- The overrides whose key the entry matches. -/
def Actions.matching (overrides : List ο) (entry : ε) : List ο :=
  overrides.filter (fun override => actions.isMatch (actions.key override) entry)

/-- An update moves no entry to another key, and a new entry has its override's key alone. -/
structure Actions.Lawful (actions : Actions ε ο κ) (valid : ο → Prop) : Prop where
  update : ∀ override, valid override → ∀ entry,
    actions.isMatch (actions.key override) entry = true →
    ∀ key, actions.isMatch key (actions.update override entry) = actions.isMatch key entry
  create : ∀ override, valid override → ∀ other, valid other →
    (actions.isMatch (actions.key other) (actions.create override) = true ↔
      actions.key other = actions.key override)

variable {actions} {valid : ο → Prop}

theorem apply_isMatch (lawful : actions.Lawful valid) {override : ο} (isValid : valid override)
    (entry : ε) (key : κ) :
    actions.isMatch key (actions.apply override entry) = actions.isMatch key entry := by
  unfold Actions.apply
  split
  · rename_i matched
    exact lawful.update override isValid entry matched key
  · rfl

theorem settle_snoc (overrides : List ο) (override : ο) (entry : ε) :
    actions.settle (overrides ++ [override]) entry =
      actions.apply override (actions.settle overrides entry) := by
  simp [Actions.settle, List.foldl_append]

theorem settle_isMatch (lawful : actions.Lawful valid) {overrides : List ο}
    (allValid : ∀ override ∈ overrides, valid override) (entry : ε) (key : κ) :
    actions.isMatch key (actions.settle overrides entry) = actions.isMatch key entry := by
  induction overrides generalizing entry with
  | nil => rfl
  | cons override rest ih =>
      have later := ih (fun other member => allValid other (List.mem_cons_of_mem _ member))
        (actions.apply override entry)
      exact later.trans (apply_isMatch lawful (allValid override List.mem_cons_self) entry key)

/-- An entry that no override matches is left as it was. -/
theorem settle_unmatched {overrides : List ο} {entry : ε}
    (unmatched : actions.matching overrides entry = []) :
    actions.settle overrides entry = entry := by
  induction overrides with
  | nil => rfl
  | cons override rest ih =>
      have nothing := List.filter_eq_nil_iff.mp unmatched
      have same : actions.apply override entry = entry := by
        unfold Actions.apply
        rw [if_neg (nothing override List.mem_cons_self)]
      have later : actions.matching rest entry = [] :=
        List.filter_eq_nil_iff.mpr fun other member => nothing other (List.mem_cons_of_mem _ member)
      change actions.settle rest (actions.apply override entry) = entry
      rw [same, ih later]

/-- What an update sets is set by the last override that matches. -/
theorem settle_last {β : Type*} (lawful : actions.Lawful valid) {overrides : List ο}
    (allValid : ∀ override ∈ overrides, valid override) (entry : ε) (field : ε → β)
    (value : ο → β)
    (sets : ∀ override entry, field (actions.update override entry) = value override) :
    field (actions.settle overrides entry) =
      ((actions.matching overrides entry).getLast?.map value).getD (field entry) := by
  induction overrides using List.reverseRecOn with
  | nil => rfl
  | append_singleton earlier override ih =>
      have earlierValid : ∀ other ∈ earlier, valid other :=
        fun other member => allValid other (List.mem_append_left _ member)
      rw [settle_snoc, Actions.apply, settle_isMatch lawful earlierValid]
      unfold Actions.matching
      rw [List.filter_append]
      by_cases matched : actions.isMatch (actions.key override) entry = true
      · rw [if_pos matched, sets, List.filter_singleton, matched]
        simp
      · rw [if_neg matched, List.filter_singleton, eq_false_of_ne_true matched, cond_false,
          List.append_nil]
        exact ih earlierValid

/-- What updates leave alone stays. -/
theorem settle_keeps {β : Type*} {overrides : List ο}
    (allValid : ∀ override ∈ overrides, valid override) (entry : ε) (field : ε → β)
    (keeps : ∀ override, valid override → ∀ entry,
      actions.isMatch (actions.key override) entry = true →
        field (actions.update override entry) = field entry) :
    field (actions.settle overrides entry) = field entry := by
  induction overrides generalizing entry with
  | nil => rfl
  | cons override rest ih =>
      have later := ih (fun other member => allValid other (List.mem_cons_of_mem _ member))
        (actions.apply override entry)
      refine later.trans ?_
      unfold Actions.apply
      split
      · rename_i matched
        exact keeps override (allValid override List.mem_cons_self) entry matched
      · rfl

/-- An entry that the overrides have added for a key. -/
def Actions.Added (actions : Actions ε ο κ) (overrides : List ο) (key : κ) (entry : ε) : Prop :=
  ∃ before override after, overrides = before ++ override :: after ∧
    actions.key override = key ∧ entry = actions.settle after (actions.create override)

theorem Actions.Added.snoc {overrides : List ο} {key : κ} {entry : ε}
    (added : actions.Added overrides key entry) (override : ο) :
    actions.Added (overrides ++ [override]) key (actions.apply override entry) := by
  obtain ⟨before, creator, after, rfl, isKey, rfl⟩ := added
  exact ⟨before, creator, after ++ [override], by simp, isKey, (settle_snoc after override _).symm⟩

theorem Actions.Added.isMatch_iff (lawful : actions.Lawful valid) {overrides : List ο} {key : κ}
    {entry : ε} (added : actions.Added overrides key entry)
    (allValid : ∀ override ∈ overrides, valid override) {other : ο} (otherValid : valid other) :
    actions.isMatch (actions.key other) entry = true ↔ actions.key other = key := by
  obtain ⟨before, creator, after, rfl, rfl, rfl⟩ := added
  rw [settle_isMatch lawful (fun override member => allValid override (by simp [member]))]
  exact lawful.create creator (allValid creator (by simp)) other otherValid

variable [DecidableEq κ]

theorem newKeys_snoc (overrides : List ο) (override : ο) (entries : List ε) :
    actions.newKeys (overrides ++ [override]) entries =
      if entries.any (actions.isMatch (actions.key override)) = true ∨
          actions.key override ∈ actions.newKeys overrides entries then
        actions.newKeys overrides entries
      else actions.newKeys overrides entries ++ [actions.key override] := by
  unfold Actions.newKeys
  rw [List.filter_append, List.filter_singleton]
  by_cases found : entries.any (actions.isMatch (actions.key override)) = true
  · simp [found]
  · simp only [eq_false_of_ne_true found, Bool.not_false, cond_true, List.map_append, List.map_cons,
      List.map_nil, Grouping.eraseDups_snoc, List.mem_eraseDups, Bool.false_eq_true, false_or]

/-- After any overrides the list has the settled entries and, behind them, one for each new key. -/
theorem run_entries (lawful : actions.Lawful valid) (entries : List ε) (overrides : List ο)
    (allValid : ∀ override ∈ overrides, valid override) :
    ∃ added, overrides.foldl actions.step entries =
        entries.map (actions.settle overrides) ++ added ∧
      List.Forall₂ (actions.Added overrides) (actions.newKeys overrides entries) added := by
  induction overrides using List.reverseRecOn with
  | nil =>
      have same : entries.map (actions.settle []) = entries := List.map_id'' (fun _ => rfl) entries
      exact ⟨[], by rw [same, List.append_nil]; rfl, List.Forall₂.nil⟩
  | append_singleton earlier override ih =>
      have earlierValid : ∀ other ∈ earlier, valid other :=
        fun other member => allValid other (List.mem_append_left _ member)
      have isValid : valid override := allValid override (by simp)
      obtain ⟨added, run, each⟩ := ih earlierValid
      have kept : entries.any (fun entry =>
          actions.isMatch (actions.key override) (actions.settle earlier entry)) =
          entries.any (actions.isMatch (actions.key override)) := by
        simp only [settle_isMatch lawful earlierValid]
      have present : added.any (actions.isMatch (actions.key override)) = true ↔
          actions.key override ∈ actions.newKeys earlier entries := by
        clear run
        generalize actions.newKeys earlier entries = keys at each
        induction each with
        | nil => simp
        | cons isAdded _ ih =>
            rw [List.any_cons, Bool.or_eq_true, List.mem_cons, ih,
              isAdded.isMatch_iff lawful earlierValid isValid]
      have moved : List.Forall₂ (actions.Added (earlier ++ [override]))
          (actions.newKeys earlier entries) (added.map (actions.apply override)) := by
        rw [List.forall₂_map_right_iff]
        exact each.imp fun _ _ isAdded => isAdded.snoc override
      rw [List.foldl_append, run, List.foldl_cons, List.foldl_nil, newKeys_snoc]
      unfold Actions.step
      simp only [List.any_append, List.any_map, Function.comp_def, kept, Bool.or_eq_true, present,
        List.map_append, List.map_map, List.append_assoc]
      have settled : entries.map (fun entry => actions.apply override (actions.settle earlier entry)) =
          entries.map (actions.settle (earlier ++ [override])) :=
        List.map_congr_left fun entry _ => (settle_snoc earlier override entry).symm
      rw [settled]
      split
      · exact ⟨_, rfl, by rwa [List.append_nil]⟩
      · refine ⟨_, rfl, List.rel_append moved (List.Forall₂.cons ?_ List.Forall₂.nil)⟩
        exact ⟨earlier, override, [], rfl, rfl, rfl⟩

end Overrides
