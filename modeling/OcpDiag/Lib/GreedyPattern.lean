import Mathlib.Data.List.Basic

set_option autoImplicit false

/- Full matches of a sequence of greedy items, as a backtracking matcher finds them. -/
namespace GreedyPattern

variable {α : Type*}

/-- The repetitions capture what they match. -/
inductive Item (α : Type*) where
  | plus (within : α → Bool)
  | optionalPlus (within : α → Bool)
  | literal (text : List α)
  | optional (char : α)
  /-- The opening and a repetition, or neither. -/
  | optionalGroup (opening : List α) (within : α → Bool)

/-- The nonempty prefixes of members, longest first, with what each leaves. -/
def takes (within : α → Bool) : List α → List (List α × List α)
  | [] => []
  | char :: rest =>
      if within char then
        (takes within rest).map (fun way => (char :: way.1, way.2)) ++ [([char], rest)]
      else []

theorem mem_takes (within : α → Bool) (text taken left : List α) :
    (taken, left) ∈ takes within text ↔
      text = taken ++ left ∧ taken ≠ [] ∧ ∀ char ∈ taken, within char = true := by
  induction text generalizing taken with
  | nil =>
      simp only [takes, List.not_mem_nil, false_iff]
      rintro ⟨parts, nonempty, -⟩
      exact nonempty (List.append_eq_nil_iff.mp parts.symm).1
  | cons first rest ih =>
      by_cases member : within first = true
      · have absent : ([], left) ∉ takes within rest := by simp [ih]
        cases taken with
        | nil => simp [takes, member]
        | cons char taken =>
            cases taken with
            | nil =>
                simp only [takes, member, if_true, List.mem_append, List.mem_map]
                grind
            | cons next taken =>
                simp only [takes, member, if_true, List.mem_append, List.mem_map]
                grind
      · simp only [takes, if_neg member, List.not_mem_nil, false_iff]
        rintro ⟨parts, nonempty, members⟩
        cases taken with
        | nil => exact nonempty rfl
        | cons char taken =>
            obtain ⟨rfl, -⟩ := List.cons.inj parts
            exact member (members first List.mem_cons_self)

theorem takes_longest_first (within : α → Bool) (text : List α) :
    (takes within text).Pairwise (fun way next => next.1.length < way.1.length) := by
  induction text with
  | nil => exact List.Pairwise.nil
  | cons char rest ih =>
      unfold takes
      split
      · refine List.pairwise_append.mpr ⟨?_, List.pairwise_singleton _ _, ?_⟩
        · refine List.pairwise_map.mpr (ih.imp ?_)
          intro way next longer
          simp only [List.length_cons]
          omega
        · intro way member last single
          obtain ⟨inner, found, rfl⟩ := List.mem_map.mp member
          obtain rfl := List.mem_singleton.mp single
          have nonempty := ((mem_takes within rest inner.1 inner.2).mp found).2.1
          have positive := List.length_pos_iff.mpr nonempty
          simp only [List.length_cons, List.length_nil]
          omega
      · exact List.Pairwise.nil

variable [DecidableEq α]

/-- What an item may capture and leave, the preferred ways first. -/
def Item.ways : Item α → List α → List (List (List α) × List α)
  | .plus within, text => (takes within text).map (fun way => ([way.1], way.2))
  | .optionalPlus within, text =>
      (takes within text).map (fun way => ([way.1], way.2)) ++ [([[]], text)]
  | .literal expected, text =>
      if expected.isPrefixOf text then [([], text.drop expected.length)] else []
  | .optional _, [] => [([], [])]
  | .optional expected, char :: rest =>
      if char = expected then [([], rest), ([], char :: rest)] else [([], char :: rest)]
  | .optionalGroup opening within, text =>
      (if opening.isPrefixOf text then
        (takes within (text.drop opening.length)).map (fun way => ([way.1], way.2))
      else []) ++ [([[]], text)]

/-- The captures of the first way to match the whole text. -/
def fullMatch : List (Item α) → List α → Option (List (List α))
  | [], text => if text.isEmpty then some [] else none
  | item :: rest, text =>
      (item.ways text).findSome? (fun way => (fullMatch rest way.2).map (way.1 ++ ·))

theorem fullMatch_literal_append (expected : List α) (rest : List (Item α)) (text : List α) :
    fullMatch (.literal expected :: rest) (expected ++ text) = fullMatch rest text := by
  simp [fullMatch, Item.ways]

theorem fullMatch_literal_some (expected : List α) (rest : List (Item α)) (text : List α)
    (captures : List (List α))
    (found : fullMatch (.literal expected :: rest) text = some captures) :
    ∃ left, text = expected ++ left ∧ fullMatch rest left = some captures := by
  by_cases begins : expected <+: text
  · obtain ⟨left, rfl⟩ := begins
    exact ⟨left, rfl, (fullMatch_literal_append expected rest left).symm.trans found⟩
  · have absent : expected.isPrefixOf text = false :=
      Bool.eq_false_iff.mpr (mt List.isPrefixOf_iff_prefix.mp begins)
    simp [fullMatch, Item.ways, absent] at found

/-- A repetition takes the most that lets the rest match. -/
theorem fullMatch_plus_some_iff (within : α → Bool) (rest : List (Item α)) (text : List α)
    (captures : List (List α)) :
    fullMatch (.plus within :: rest) text = some captures ↔
      ∃ taken left found, captures = taken :: found ∧ text = taken ++ left ∧ taken ≠ [] ∧
        (∀ char ∈ taken, within char = true) ∧ fullMatch rest left = some found ∧
        ∀ longer shorter, text = longer ++ shorter → taken.length < longer.length →
          (∀ char ∈ longer, within char = true) → fullMatch rest shorter = none := by
  have ordered := takes_longest_first within text
  simp only [fullMatch, Item.ways, List.findSome?_map]
  constructor
  · intro found
    obtain ⟨before, ⟨taken, left⟩, after, ways, chosen, skipped⟩ :=
      List.findSome?_eq_some_iff.mp found
    obtain ⟨inner, matched, rfl⟩ := Option.map_eq_some_iff.mp chosen
    have member : (taken, left) ∈ takes within text := by simp [ways]
    obtain ⟨parts, nonempty, members⟩ := (mem_takes within text taken left).mp member
    refine ⟨taken, left, inner, rfl, parts, nonempty, members, matched, ?_⟩
    intro longer shorter split exceeds all
    have possible : (longer, shorter) ∈ takes within text :=
      (mem_takes within text longer shorter).mpr
        ⟨split, List.ne_nil_of_length_pos (by omega), all⟩
    rw [ways] at possible ordered
    have later := (List.pairwise_append.mp ordered).2.1
    cases List.mem_append.mp possible with
    | inl earlier => simpa using skipped _ earlier
    | inr rest =>
        cases List.mem_cons.mp rest with
        | inl same =>
            obtain ⟨rfl, rfl⟩ := Prod.mk.inj same
            omega
        | inr afterwards =>
            have shorterThan := (List.pairwise_cons.mp later).1 _ afterwards
            simp only at shorterThan
            omega
  · rintro ⟨taken, left, inner, rfl, parts, nonempty, members, matched, longest⟩
    have member := (mem_takes within text taken left).mpr ⟨parts, nonempty, members⟩
    obtain ⟨before, after, ways⟩ := List.append_of_mem member
    refine List.findSome?_eq_some_iff.mpr ⟨before, (taken, left), after, ways, ?_, ?_⟩
    · simp [matched]
    · intro way earlier
      have possible : way ∈ takes within text := by simp [ways, earlier]
      obtain ⟨split, -, all⟩ := (mem_takes within text way.1 way.2).mp possible
      rw [ways] at ordered
      have exceeds := (List.pairwise_append.mp ordered).2.2 way earlier _ List.mem_cons_self
      simp [longest way.1 way.2 split exceeds all]

/-- Some way to take a repetition is enough for a match. -/
theorem fullMatch_plus_isSome (within : α → Bool) (rest : List (Item α)) (taken left : List α)
    (nonempty : taken ≠ []) (members : ∀ char ∈ taken, within char = true)
    (matched : (fullMatch rest left).isSome) :
    (fullMatch (.plus within :: rest) (taken ++ left)).isSome := by
  simp only [fullMatch, Item.ways, List.findSome?_map, List.findSome?_isSome_iff]
  refine ⟨(taken, left), (mem_takes within _ taken left).mpr ⟨rfl, nonempty, members⟩, ?_⟩
  simpa using matched

/-- Before a delimiter outside of its class, a repetition takes all or there is no match. -/
theorem fullMatch_plus_delimited (within : α → Bool) (delimiter : α) (literal : List α)
    (rest : List (Item α)) (taken left : List α) (outside : within delimiter = false)
    (nonempty : taken ≠ []) (free : delimiter ∉ taken) :
    fullMatch (.plus within :: .literal (delimiter :: literal) :: rest)
        (taken ++ delimiter :: left) =
      if taken.all within then
        (fullMatch (.literal (delimiter :: literal) :: rest) (delimiter :: left)).map (taken :: ·)
      else none := by
  have whole (first second : List α) (split : taken ++ delimiter :: left = first ++ second)
      (all : ∀ char ∈ first, within char = true) (found : List (List α))
      (matched : fullMatch (.literal (delimiter :: literal) :: rest) second = some found) :
      first = taken ∧ second = delimiter :: left := by
    obtain ⟨after, rfl, -⟩ := fullMatch_literal_some _ _ _ _ matched
    rcases List.append_eq_append_iff.mp split with ⟨extra, rfl, same⟩ | ⟨extra, rfl, same⟩
    · cases extra with
      | nil => exact ⟨List.append_nil taken, by simpa using same.symm⟩
      | cons char extra =>
          obtain ⟨rfl, -⟩ := List.cons.inj same
          have member := all delimiter (by simp)
          rw [outside] at member
          cases member
    · cases extra with
      | nil => exact ⟨(List.append_nil first).symm, by simpa using same⟩
      | cons char extra =>
          obtain ⟨rfl, -⟩ := List.cons.inj same
          exact absurd (by simp) free
  apply Option.ext
  intro captures
  rw [fullMatch_plus_some_iff]
  constructor
  · rintro ⟨first, second, found, rfl, split, -, all, matched, -⟩
    obtain ⟨rfl, rfl⟩ := whole first second split all found matched
    rw [if_pos (List.all_eq_true.mpr all), matched]
    rfl
  · intro chosen
    split at chosen
    next all =>
        obtain ⟨found, matched, rfl⟩ := Option.map_eq_some_iff.mp chosen
        refine ⟨taken, _, found, rfl, rfl, nonempty, List.all_eq_true.mp all, matched, ?_⟩
        intro longer shorter split exceeds members
        refine Option.eq_none_iff_forall_ne_some.mpr ?_
        intro other possible
        obtain ⟨rfl, -⟩ := whole longer shorter split members other possible
        exact absurd exceeds (Nat.lt_irrefl _)
    next => cases chosen

/-- The last repetition takes the whole text. -/
theorem fullMatch_plus_last (within : α → Bool) (text : List α) (nonempty : text ≠ [])
    (all : ∀ char ∈ text, within char = true) :
    fullMatch [.plus within] text = some [text] := by
  refine (fullMatch_plus_some_iff _ _ _ _).mpr ⟨text, [], [], rfl, (List.append_nil text).symm,
    nonempty, all, rfl, ?_⟩
  intro longer shorter split exceeds _
  have lengths := congrArg List.length split
  rw [List.length_append] at lengths
  omega

/-- An item that need not match anything leaves the rest to a match. -/
theorem fullMatch_optional_some (expected : α) (rest : List (Item α)) (text : List α)
    (captures : List (List α))
    (found : fullMatch (.optional expected :: rest) text = some captures) :
    ∃ left, (text = left ∨ text = expected :: left) ∧ fullMatch rest left = some captures := by
  cases text with
  | nil => exact ⟨[], .inl rfl, by simpa [fullMatch, Item.ways] using found⟩
  | cons char text =>
      by_cases same : char = expected
      · subst same
        cases following : fullMatch rest text with
        | none =>
            exact ⟨_, .inl rfl, by simpa [fullMatch, Item.ways, following] using found⟩
        | some inner =>
            refine ⟨text, .inr rfl, ?_⟩
            simpa [fullMatch, Item.ways, following] using found
      · exact ⟨_, .inl rfl, by simpa [fullMatch, Item.ways, same] using found⟩

theorem fullMatch_optional_cons (expected : α) (rest : List (Item α)) (text : List α)
    (captures : List (List α)) (found : fullMatch rest text = some captures) :
    fullMatch (.optional expected :: rest) (expected :: text) = some captures := by
  simp [fullMatch, Item.ways, found]

theorem fullMatch_optional_skip (expected : α) (rest : List (Item α)) (text : List α)
    (other : text.head? ≠ some expected) :
    fullMatch (.optional expected :: rest) text = fullMatch rest text := by
  cases text with
  | nil => simp [fullMatch, Item.ways]
  | cons char text =>
      have different : char ≠ expected := by simpa using other
      simp [fullMatch, Item.ways, different]

/-- The last item captures what is left. -/
theorem fullMatch_optionalPlus_last_some (within : α → Bool) (text : List α)
    (captures : List (List α)) (found : fullMatch [.optionalPlus within] text = some captures) :
    captures = [text] := by
  obtain ⟨before, ⟨captured, left⟩, after, ways, chosen, -⟩ := List.findSome?_eq_some_iff.mp found
  have possible : (captured, left) ∈ Item.ways (.optionalPlus within) text := by simp [ways]
  cases left with
  | cons char left => simp [fullMatch] at chosen
  | nil =>
      simp only [fullMatch, List.isEmpty_nil, if_true, Option.map_some, Option.some.injEq,
        List.append_nil] at chosen
      subst chosen
      simp only [Item.ways, List.mem_append, List.mem_map, List.mem_singleton] at possible
      rcases possible with ⟨way, taken, same⟩ | same
      · obtain ⟨parts, -, -⟩ := (mem_takes within text way.1 way.2).mp taken
        obtain ⟨rfl, leftover⟩ := Prod.mk.inj same
        rw [parts, leftover, List.append_nil]
      · obtain ⟨rfl, rfl⟩ := Prod.mk.inj same
        rfl

theorem fullMatch_optionalPlus_last (within : α → Bool) (text : List α)
    (all : ∀ char ∈ text, within char = true) :
    fullMatch [.optionalPlus within] text = some [text] := by
  cases text with
  | nil => rfl
  | cons char text =>
      have longest := fullMatch_plus_last within (char :: text) (List.cons_ne_nil _ _) all
      unfold fullMatch Item.ways at longest ⊢
      rw [List.findSome?_append, longest, Option.some_or]

/-- After its opening an optional group is a repetition. -/
theorem fullMatch_optionalGroup_append (opening : List α) (within : α → Bool)
    (rest : List (Item α)) (text : List α) (captures : List (List α))
    (found : fullMatch (.plus within :: rest) text = some captures) :
    fullMatch (.optionalGroup opening within :: rest) (opening ++ text) = some captures := by
  have begins : opening.isPrefixOf (opening ++ text) = true :=
    List.isPrefixOf_iff_prefix.mpr ⟨text, rfl⟩
  unfold fullMatch at found ⊢
  rw [Item.ways] at found
  rw [Item.ways, if_pos begins, List.drop_left, List.findSome?_append, found, Option.some_or]

/-- The last group captures what follows its opening, or nothing is left. -/
theorem fullMatch_optionalGroup_last_some (opening : List α) (within : α → Bool) (text : List α)
    (captures : List (List α))
    (found : fullMatch [.optionalGroup opening within] text = some captures) :
    (text = [] ∧ captures = [[]]) ∨
      ∃ taken, text = opening ++ taken ∧ taken ≠ [] ∧ (∀ char ∈ taken, within char = true) ∧
        captures = [taken] := by
  obtain ⟨before, ⟨captured, left⟩, after, ways, chosen, -⟩ := List.findSome?_eq_some_iff.mp found
  have possible : (captured, left) ∈ Item.ways (.optionalGroup opening within) text := by
    simp [ways]
  cases left with
  | cons char left => simp [fullMatch] at chosen
  | nil =>
      simp only [fullMatch, List.isEmpty_nil, if_true, Option.map_some, Option.some.injEq,
        List.append_nil] at chosen
      subst chosen
      rw [Item.ways, List.mem_append, List.mem_singleton] at possible
      rcases possible with group | same
      · split_ifs at group with begins
        · obtain ⟨way, taken, same⟩ := List.mem_map.mp group
          obtain ⟨parts, nonempty, all⟩ := (mem_takes within _ way.1 way.2).mp taken
          obtain ⟨rfl, leftover⟩ := Prod.mk.inj same
          obtain ⟨rest, rfl⟩ := List.isPrefixOf_iff_prefix.mp begins
          rw [leftover, List.append_nil, List.drop_left] at parts
          exact .inr ⟨way.1, by rw [parts], nonempty, all, rfl⟩
        · cases group
      · obtain ⟨rfl, rfl⟩ := Prod.mk.inj same
        exact .inl ⟨rfl, rfl⟩

section Separated

variable {within : α → Bool} {separator : α}

theorem fullMatch_separated_some (text : List α) (captures : List (List α))
    (found : fullMatch [.plus within, .literal [separator], .plus within] text = some captures) :
    ∃ first second, captures = [first, second] ∧ text = first ++ separator :: second ∧
      second ≠ [] := by
  obtain ⟨first, left, rest, rfl, rfl, -, -, rest_found, -⟩ :=
    (fullMatch_plus_some_iff _ _ _ _).mp found
  obtain ⟨after, rfl, last_found⟩ := fullMatch_literal_some _ _ _ _ rest_found
  obtain ⟨second, ended, nothing, rfl, rfl, nonempty, -, done, -⟩ :=
    (fullMatch_plus_some_iff _ _ _ _).mp last_found
  cases ended with
  | cons char ended => simp [fullMatch] at done
  | nil =>
      obtain rfl : nothing = [] := by simpa [fullMatch, eq_comm] using done
      exact ⟨first, second, rfl, by simp, nonempty⟩

/-- The text is cut at the last separator that something follows. -/
theorem fullMatch_separated_iff (first second : List α) (firstSome : first ≠ [])
    (secondSome : second ≠ []) (members : ∀ char ∈ first ++ separator :: second, within char = true) :
    fullMatch [.plus within, .literal [separator], .plus within]
        (first ++ separator :: second) = some [first, second] ↔
      separator ∉ second.dropLast := by
  have secondMatch : fullMatch [.literal [separator], .plus within] (separator :: second) =
      some [second] :=
    (fullMatch_literal_append [separator] _ second).trans
      (fullMatch_plus_last within second secondSome fun char member => members char (by simp [member]))
  rw [fullMatch_plus_some_iff]
  constructor
  · rintro ⟨taken, left, found, same, split, -, -, -, longest⟩ member
    obtain ⟨rfl, -⟩ := List.cons.inj same
    obtain ⟨before, after, cut⟩ := List.append_of_mem member
    obtain ⟨last, whole⟩ : ∃ last, second = second.dropLast ++ [last] :=
      ⟨_, (List.dropLast_append_getLast secondSome).symm⟩
    rw [cut] at whole
    have skipped := longest (first ++ separator :: before) (separator :: (after ++ [last]))
      (by rw [whole]; simp) (by simp)
      (by
        intro char inLonger
        refine members char ?_
        rw [whole]
        simp only [List.mem_append, List.mem_cons] at inLonger ⊢
        tauto)
    have possible : fullMatch [.literal [separator], .plus within]
        (separator :: (after ++ [last])) = some [after ++ [last]] := by
      refine (fullMatch_literal_append [separator] _ (after ++ [last])).trans ?_
      refine fullMatch_plus_last within _ (by simp) fun char inLast => members char ?_
      rw [whole]
      simp only [List.mem_append, List.mem_cons] at inLast ⊢
      tauto
    rw [possible] at skipped
    cases skipped
  · intro free
    refine ⟨first, separator :: second, [second], rfl, rfl, firstSome,
      fun char member => members char (List.mem_append_left _ member), secondMatch, ?_⟩
    intro longer shorter split exceeds _
    refine Option.eq_none_iff_forall_ne_some.mpr fun captures possible => ?_
    obtain ⟨left, rfl, last_found⟩ := fullMatch_literal_some _ _ _ _ possible
    obtain ⟨taken, ended, -, -, rfl, nonempty, -⟩ := (fullMatch_plus_some_iff _ _ _ _).mp last_found
    rcases List.append_eq_append_iff.mp split with ⟨extra, rfl, rest⟩ | ⟨extra, rfl, -⟩
    · cases extra with
      | nil => simp at exceeds
      | cons char extra =>
          have whole : second = extra ++ separator :: (taken ++ ended) := (List.cons.inj rest).2
          have after : taken ++ ended ≠ [] := by simp [nonempty]
          rw [whole, List.dropLast_append_of_ne_nil (List.cons_ne_nil _ _),
            List.dropLast_cons_of_ne_nil after] at free
          exact absurd (by simp) free
    · rw [List.length_append] at exceeds
      omega

end Separated

end GreedyPattern
