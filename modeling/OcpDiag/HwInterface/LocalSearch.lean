import OcpDiag.HwInterface.IdTranslation
import Mathlib.Data.List.TakeWhile

set_option autoImplicit false

/- The loop of `UpdateIdToLocal` and the prefixes that it tries. -/
namespace OcpDiag.HwInterface

/-- The loop as it stands, for so many turns; npos is none, and there is no answer before the
loop has ended. -/
def localLoop (idMap : IdMap) (globalId : List Char) :
    Nat → List Char → Option Nat → Option String
  | 0, _, _ => none
  | _ + 1, _, none => some (String.ofList globalId)
  | _ + 1, _, some 0 => some (String.ofList globalId)
  | turns + 1, text, some (found + 1) =>
      let text := text.take (found + 1)
      let remainder := globalId.drop (found + 1)
      match idMap.lookup (String.ofList text) with
      | some localId => some (localId ++ String.ofList remainder)
      | none =>
          match Text.findFirstOf ':' text with
          | some found => localLoop idMap globalId turns text (some found)
          | none => localLoop idMap globalId turns text (Text.findLastOf '/' text)

/-- The prefixes that end just before a slash, the longest first. -/
def slashPrefixes (text : List Char) : List (List Char) :=
  ((List.range text.length).reverse.filter (fun place => text[place]? = some '/')).map text.take

def beforeColon (text : List Char) : List Char := text.takeWhile (· ≠ ':')

/-- The texts that are looked up, in their order. -/
def localCandidates (globalId : List Char) : List (List Char) :=
  (globalId :: ((if ':' ∈ globalId then [beforeColon globalId] else []) ++
    slashPrefixes (beforeColon globalId))).filter (· ≠ [])

example : localCandidates "/phys/a/b/c:d:e".toList =
    ["/phys/a/b/c:d:e", "/phys/a/b/c", "/phys/a/b", "/phys/a", "/phys"].map String.toList := by
  decide

theorem slashPrefixes_none (text : List Char) (free : '/' ∉ text) : slashPrefixes text = [] := by
  unfold slashPrefixes
  rw [List.map_eq_nil_iff, List.filter_eq_nil_iff]
  intro place _ slash
  exact free (List.mem_of_getElem? (of_decide_eq_true slash))

theorem slashPrefixes_last (before after : List Char) (free : '/' ∉ after) :
    slashPrefixes (before ++ '/' :: after) = before :: slashPrefixes before := by
  have length : (before ++ '/' :: after).length = before.length + (after.length + 1) := by
    simp
  have later : ((List.range (after.length + 1)).map (before.length + ·)).reverse.filter
      (fun place => (before ++ '/' :: after)[place]? = some '/') = [before.length] := by
    rw [List.range_succ_eq_map, List.map_cons, List.map_map, List.reverse_cons,
      List.filter_append]
    have nothing : (((List.range after.length).map ((before.length + ·) ∘ Nat.succ)).reverse.filter
        (fun place => (before ++ '/' :: after)[place]? = some '/')) = [] := by
      rw [List.filter_eq_nil_iff]
      intro place member slash
      rw [List.mem_reverse, List.mem_map] at member
      obtain ⟨offset, -, rfl⟩ := member
      have inAfter := of_decide_eq_true slash
      rw [Function.comp_apply, List.getElem?_append_right (by omega), Nat.add_sub_cancel_left,
        List.getElem?_cons_succ] at inAfter
      exact free (List.mem_of_getElem? inAfter)
    rw [nothing]
    simp
  have earlier : (List.range before.length).reverse.filter
      (fun place => (before ++ '/' :: after)[place]? = some '/') =
      (List.range before.length).reverse.filter (fun place => before[place]? = some '/') := by
    apply List.filter_congr
    intro place member
    rw [List.mem_reverse, List.mem_range] at member
    rw [List.getElem?_append_left member]
  unfold slashPrefixes
  rw [length, List.range_add, List.reverse_append, List.filter_append, later, earlier,
    List.map_append, List.map_singleton, List.take_left, List.singleton_append]
  congr 1
  apply List.map_congr_left
  intro place member
  have inside := List.mem_range.mp (List.mem_reverse.mp (List.mem_filter.mp member).1)
  exact List.take_append_of_le_length inside.le

theorem beforeColon_free (text : List Char) (free : ':' ∉ text) : beforeColon text = text := by
  refine List.takeWhile_eq_self_iff.mpr ?_
  intro char member
  refine decide_eq_true ?_
  rintro rfl
  exact free member

theorem beforeColon_append (before after : List Char) (free : ':' ∉ before) :
    beforeColon (before ++ ':' :: after) = before := by
  have whole := beforeColon_free before free
  unfold beforeColon at whole ⊢
  rw [List.takeWhile_append_of_pos (List.takeWhile_eq_self_iff.mp whole)]
  simp

theorem localCandidates_free (text : List Char) (free : ':' ∉ text) :
    localCandidates text = (text :: slashPrefixes text).filter (· ≠ []) := by
  rw [localCandidates, if_neg free, beforeColon_free text free, List.nil_append]

/-- After a text that is not in the map the search goes on with the candidates of the next. -/
theorem localCandidates_shorter (text : List Char) (found : Nat)
    (next : nextFound text = some found) :
    localCandidates text = text :: localCandidates (text.take found) := by
  unfold nextFound at next
  split at next
  next place colon =>
      obtain rfl := Option.some.inj next
      obtain ⟨before, after, rfl, free, rfl⟩ := Text.findFirstOf_some _ _ _ colon
      rw [List.take_left, localCandidates_free before free, localCandidates, if_pos (by simp),
        beforeColon_append before after free, List.filter_cons_of_pos (by simp)]
      rfl
  next colon =>
      have noColon := Text.findFirstOf_none _ _ colon
      obtain ⟨before, after, rfl, free, rfl⟩ := Text.findLastOf_some _ _ _ next
      have noColonBefore : ':' ∉ before := fun member => noColon (List.mem_append_left _ member)
      rw [List.take_left, localCandidates_free before noColonBefore,
        localCandidates_free _ noColon, slashPrefixes_last before after free,
        List.filter_cons_of_pos (by simp)]

theorem localCandidates_last (text : List Char) (nonempty : text ≠ [])
    (next : nextFound text = none) : localCandidates text = [text] := by
  unfold nextFound at next
  split at next
  next => cases next
  next colon =>
      have free := Text.findFirstOf_none _ _ colon
      rw [localCandidates_free text free,
        slashPrefixes_none text (Text.findLastOf_none _ _ next)]
      simp [nonempty]

theorem searchLocal_last (idMap : IdMap) (globalId text : List Char)
    (miss : idMap.lookup (String.ofList text) = none) (next : nextFound text = none) :
    searchLocal idMap globalId text = none := by
  rw [searchLocal]
  split
  next => rfl
  next =>
      rw [miss]
      simp only
      split
      next => rfl
      next found here => rw [next] at here; cases here

/-- The search gives what the first candidate in the map gives; the induction is on the length
of the text. -/
theorem searchLocal_eq (idMap : IdMap) (globalId text : List Char) :
    searchLocal idMap globalId text =
      (localCandidates text).findSome? (fun candidate =>
        (idMap.lookup (String.ofList candidate)).map
          (· ++ String.ofList (globalId.drop candidate.length))) := by
  induction length : text.length using Nat.strongRecOn generalizing text with
  | ind size ih =>
      subst length
      by_cases empty : text = []
      · subst empty
        rw [searchLocal]
        rfl
      · cases lookup : idMap.lookup (String.ofList text) with
        | some localId =>
            obtain ⟨rest, candidates⟩ : ∃ rest, localCandidates text = text :: rest :=
              ⟨_, List.filter_cons_of_pos (by simpa using empty)⟩
            rw [searchLocal_hit idMap globalId text localId empty lookup, candidates,
              List.findSome?_cons, lookup]
            rfl
        | none =>
            cases next : nextFound text with
            | none =>
                rw [searchLocal_last idMap globalId text lookup next,
                  localCandidates_last text empty next, List.findSome?_cons, lookup]
                rfl
            | some found =>
                have shorter := nextFound_lt text found next
                rw [searchLocal_shorter idMap globalId text found lookup next,
                  localCandidates_shorter text found next, List.findSome?_cons, lookup,
                  Option.map_none, ih _ (by rw [List.length_take]; omega) _ rfl]

/-- A turn that finds no entry leaves the place where the next text ends. -/
theorem localLoop_miss (idMap : IdMap) (globalId text : List Char) (turns found : Nat)
    (miss : idMap.lookup (String.ofList (text.take (found + 1))) = none) :
    localLoop idMap globalId (turns + 1) text (some (found + 1)) =
      localLoop idMap globalId turns (text.take (found + 1))
        (nextFound (text.take (found + 1))) := by
  rw [localLoop, miss]
  unfold nextFound
  cases Text.findFirstOf ':' (text.take (found + 1)) <;> rfl

/-- Each turn but the last shortens the text, so it ends in as many turns as it has characters
and one more. -/
theorem localLoop_eq (idMap : IdMap) (globalId text : List Char) (found turns : Nat)
    (within : found ≤ text.length) (enough : found < turns) :
    localLoop idMap globalId turns text (some found) =
      some ((searchLocal idMap globalId (text.take found)).getD (String.ofList globalId)) := by
  induction turns generalizing text found with
  | zero => exact absurd enough (Nat.not_lt_zero found)
  | succ turns ih =>
      cases found with
      | zero =>
          rw [List.take_zero, searchLocal]
          rfl
      | succ found =>
          have length : (text.take (found + 1)).length = found + 1 := List.length_take_of_le within
          have nonempty : text.take (found + 1) ≠ [] := List.ne_nil_of_length_pos (by omega)
          cases lookup : idMap.lookup (String.ofList (text.take (found + 1))) with
          | some localId =>
              rw [localLoop, lookup, searchLocal_hit idMap globalId _ localId nonempty lookup,
                length]
              rfl
          | none =>
              rw [localLoop_miss idMap globalId text turns found lookup]
              cases next : nextFound (text.take (found + 1)) with
              | none =>
                  obtain ⟨fewer, rfl⟩ : ∃ fewer, turns = fewer + 1 := ⟨turns - 1, by omega⟩
                  rw [searchLocal_last idMap globalId _ lookup next]
                  rfl
              | some shorter =>
                  have less := nextFound_lt _ _ next
                  rw [searchLocal_shorter idMap globalId _ shorter lookup next]
                  exact ih _ shorter less.le (by omega)

/-- The search ends; it translates the first candidate that is in the map and keeps the rest of
the id. -/
theorem updateIdToLocal_candidates (idMap : IdMap) (globalId : String) :
    (∀ turns, globalId.toList.length < turns →
      localLoop idMap globalId.toList turns globalId.toList (some globalId.toList.length) =
        some (updateIdToLocal (some idMap) globalId)) ∧
    (∀ before text after localId, localCandidates globalId.toList = before ++ text :: after →
      (∀ earlier ∈ before, idMap.lookup (String.ofList earlier) = none) →
      idMap.lookup (String.ofList text) = some localId →
        updateIdToLocal (some idMap) globalId =
          localId ++ String.ofList (globalId.toList.drop text.length)) ∧
    ((∀ text ∈ localCandidates globalId.toList, idMap.lookup (String.ofList text) = none) →
      updateIdToLocal (some idMap) globalId = globalId) := by
  have search := searchLocal_eq idMap globalId.toList globalId.toList
  refine ⟨?_, ?_, ?_⟩
  · intro turns enough
    rw [localLoop_eq idMap _ _ _ turns (le_refl _) enough, List.take_length, String.ofList_toList]
    rfl
  · intro before text after localId candidates misses hit
    have skipped : before.findSome? (fun candidate =>
        (idMap.lookup (String.ofList candidate)).map
          (· ++ String.ofList (globalId.toList.drop candidate.length))) = none := by
      rw [List.findSome?_eq_none_iff]
      intro earlier member
      rw [misses earlier member, Option.map_none]
    rw [candidates, List.findSome?_append, skipped, Option.none_or, List.findSome?_cons, hit]
      at search
    simp only [updateIdToLocal, search, Option.map_some, Option.getD_some]
  · intro misses
    have nothing : searchLocal idMap globalId.toList globalId.toList = Option.none := by
      rw [search, List.findSome?_eq_none_iff]
      intro text member
      rw [misses text member, Option.map_none]
    simp only [updateIdToLocal, nothing, Option.getD_none]

end OcpDiag.HwInterface
