import OcpDiag.HwInterface.HwInfo

set_option autoImplicit false

/- Local and global ids: `GetReverseIdMap`, `UpdateIdToLocal` and the way back. -/
namespace OcpDiag.HwInterface

/-- One turn of the loop; a stable id has no entry. -/
def addReverse (reverseMap : IdMap) (entry : Sigma (fun _ : String => String)) : IdMap :=
  if "/phys".toList.isPrefixOf entry.1.toList then reverseMap.insert entry.2 entry.1
  else reverseMap

/-- A later entry of the same global id replaces the earlier one. -/
def getReverseIdMap (idMap : IdMap) : IdMap := idMap.entries.foldl addReverse ∅

/-- Where the next shorter text ends: at a colon, else at the last slash. -/
def nextFound (text : List Char) : Option Nat :=
  match Text.findFirstOf ':' text with
  | some found => some found
  | none => Text.findLastOf '/' text

/-- A text that ends a path component of the id, with what is left of it. -/
def Boundary (text left : List Char) : Prop :=
  left = [] ∨ (':' ∉ text ∧ (left.head? = some ':' ∨ left.head? = some '/'))

theorem boundary_append {text rest : List Char} (more : List Char) (nonempty : rest ≠ []) :
    Boundary text (rest ++ more) ↔ Boundary text rest := by
  cases rest with
  | nil => exact absurd rfl nonempty
  | cons char rest => simp [Boundary]

theorem nextFound_some (text : List Char) (found : Nat) (next : nextFound text = some found) :
    ∃ before left, text = before ++ left ∧ before.length = found ∧ left ≠ [] ∧
      Boundary before left ∧
      ∀ other rest, text = other ++ rest → rest ≠ [] → Boundary other rest →
        other.length ≤ found := by
  unfold nextFound at next
  split at next
  next place colon =>
      obtain rfl := Option.some.inj next
      obtain ⟨before, after, rfl, absent, length⟩ := Text.findFirstOf_some _ _ _ colon
      refine ⟨before, ':' :: after, rfl, length, List.cons_ne_nil _ _, .inr ⟨absent, .inl rfl⟩, ?_⟩
      intro other rest split more boundary
      by_contra longer
      obtain ⟨extra, rfl, -⟩ := Text.append_cons_of_longer _ _ _ _ split (by omega)
      exact (boundary.resolve_left more).1 (by simp)
  next colon =>
      have noColon := Text.findFirstOf_none _ _ colon
      obtain ⟨before, after, rfl, absent, length⟩ := Text.findLastOf_some _ _ _ next
      refine ⟨before, '/' :: after, rfl, length, List.cons_ne_nil _ _, ?_, ?_⟩
      · exact .inr ⟨fun member => noColon (List.mem_append_left _ member), .inr rfl⟩
      · intro other rest split more boundary
        by_contra longer
        obtain ⟨extra, rfl, rfl⟩ := Text.append_cons_of_longer _ _ _ _ split (by omega)
        have ends := (boundary.resolve_left more).2
        cases rest with
        | nil => exact more rfl
        | cons char rest =>
            simp only [List.head?_cons, Option.some.injEq] at ends
            rcases ends with rfl | rfl
            · exact noColon (by simp)
            · exact absent (by simp)

theorem nextFound_lt (text : List Char) (found : Nat) (next : nextFound text = some found) :
    found < text.length := by
  obtain ⟨before, left, rfl, rfl, more, -, -⟩ := nextFound_some text found next
  rw [List.length_append]
  have positive := List.length_pos_iff.mpr more
  omega

/-- The loop from a prefix of the id on; it gives the local id with the remainder. -/
def searchLocal (idMap : IdMap) (globalId text : List Char) : Option String :=
  if text.isEmpty then none
  else
    match idMap.lookup (String.ofList text) with
    | some localId => some (localId ++ String.ofList (globalId.drop text.length))
    | none =>
        match _shorter : nextFound text with
        | none => none
        | some found => searchLocal idMap globalId (text.take found)
termination_by text.length
decreasing_by
  have shorter := nextFound_lt text found _shorter
  rw [List.length_take]
  omega

theorem searchLocal_hit (idMap : IdMap) (globalId text : List Char) (localId : String)
    (nonempty : text ≠ []) (hit : idMap.lookup (String.ofList text) = some localId) :
    searchLocal idMap globalId text =
      some (localId ++ String.ofList (globalId.drop text.length)) := by
  rw [searchLocal, if_neg (by rwa [List.isEmpty_iff]), hit]

theorem searchLocal_shorter (idMap : IdMap) (globalId text : List Char) (found : Nat)
    (miss : idMap.lookup (String.ofList text) = none) (next : nextFound text = some found) :
    searchLocal idMap globalId text = searchLocal idMap globalId (text.take found) := by
  have shorter := nextFound_lt text found next
  have nonempty : ¬ text.isEmpty = true := by
    rw [List.isEmpty_iff]
    rintro rfl
    exact absurd shorter (Nat.not_lt_zero found)
  rw [searchLocal, if_neg nonempty, miss]
  simp only
  split
  next absent => rw [next] at absent; cases absent
  next place here =>
      rw [next] at here
      rw [Option.some.inj here]

def updateIdToLocal (idMap : Option IdMap) (globalId : String) : String :=
  match idMap with
  | none => globalId
  | some idMap => (searchLocal idMap globalId.toList globalId.toList).getD globalId

/-- The longest prefix of the id, cut where a path component ends, that is a global id. -/
structure LongestMapped (idMap : IdMap) (globalId text left : List Char) : Prop where
  split : globalId = text ++ left
  nonempty : text ≠ []
  boundary : Boundary text left
  mapped : ∃ localId, idMap.lookup localId = some (String.ofList text)
  longest : ∀ other rest, globalId = other ++ rest → Boundary other rest →
    text.length < other.length → ∀ localId, idMap.lookup localId ≠ some (String.ofList other)

/-- What the search gives is the longest mapped prefix; the induction is on its length. -/
theorem searchLocal_some (idMap : IdMap) (globalId text left : List Char) (localId : String)
    (split : globalId = text ++ left) (found : searchLocal idMap globalId text = some localId) :
    ∃ taken rest inner, text = taken ++ rest ∧ taken ≠ [] ∧ Boundary taken rest ∧
      idMap.lookup (String.ofList taken) = some inner ∧
      localId = inner ++ String.ofList (rest ++ left) ∧
      ∀ other after, text = other ++ after → Boundary other after →
        taken.length < other.length → idMap.lookup (String.ofList other) = none := by
  induction length : text.length using Nat.strongRecOn generalizing text left with
  | ind size ih =>
      subst length
      rw [searchLocal] at found
      split_ifs at found with empty
      have nonempty : text ≠ [] := fun nothing => empty (by rw [nothing]; rfl)
      split at found
      next inner hit =>
          obtain rfl := Option.some.inj found
          refine ⟨text, [], inner, (List.append_nil text).symm, nonempty, .inl rfl, hit, ?_, ?_⟩
          · rw [split, List.drop_left, List.nil_append]
          · intro other after same _ longer
            have lengths := congrArg List.length same
            rw [List.length_append] at lengths
            omega
      next miss =>
          split at found
          next => cases found
          next place next =>
              obtain ⟨before, rest, rfl, rfl, more, boundary, last⟩ := nextFound_some _ _ next
              have shorter := nextFound_lt _ _ next
              rw [List.take_left] at found
              rw [List.append_assoc] at split
              obtain ⟨taken, middle, inner, rfl, present, ends, hit, rfl, nothing⟩ :=
                ih _ shorter before (rest ++ left) split found rfl
              refine ⟨taken, middle ++ rest, inner, List.append_assoc .., present, ?_, hit,
                by rw [List.append_assoc], ?_⟩
              · cases middle with
                | nil => rwa [List.append_nil] at boundary
                | cons char middle => exact (boundary_append rest (List.cons_ne_nil _ _)).mpr ends
              · intro other after same stops longer
                by_cases whole : after = []
                · subst whole
                  rwa [same, List.append_nil] at miss
                · have within := last other after same whole stops
                  obtain ⟨extra, begins⟩ := List.prefix_of_prefix_length_le
                    ⟨after, same.symm⟩ ⟨rest, rfl⟩ within
                  have remains : after = extra ++ rest := by
                    rw [← begins, List.append_assoc] at same
                    exact (List.append_cancel_left same).symm
                  refine nothing other extra begins.symm ?_ longer
                  by_cases ended : extra = []
                  · exact .inl ended
                  · rw [remains] at stops
                    exact (boundary_append rest ended).mp stops

/-- The keys are local paths and no two have the same value. -/
structure LocalPaths (idMap : IdMap) : Prop where
  phys : ∀ localId globalId, idMap.lookup localId = some globalId →
    "/phys".toList <+: localId.toList
  distinct : ∀ localId other globalId, idMap.lookup localId = some globalId →
    idMap.lookup other = some globalId → localId = other

theorem addReverse_lookup (entries : List (Sigma (fun _ : String => String)))
    (phys : ∀ entry ∈ entries, "/phys".toList <+: entry.1.toList)
    (distinct : ∀ entry ∈ entries, ∀ other ∈ entries, entry.2 = other.2 → entry.1 = other.1)
    (localId globalId : String) :
    (entries.foldl addReverse ∅).lookup globalId = some localId ↔
      (⟨localId, globalId⟩ : Sigma (fun _ : String => String)) ∈ entries := by
  induction entries using List.reverseRecOn with
  | nil => simp
  | append_singleton earlier last ih =>
      have earlierIff := ih (fun entry member => phys entry (List.mem_append_left _ member))
        (fun entry member other otherMember => distinct entry (List.mem_append_left _ member) other
          (List.mem_append_left _ otherMember))
      have isLocal : "/phys".toList.isPrefixOf last.1.toList = true :=
        List.isPrefixOf_iff_prefix.mpr (phys last (by simp))
      rw [List.foldl_append, List.foldl_cons, List.foldl_nil, addReverse, if_pos isLocal]
      by_cases same : globalId = last.2
      · subst same
        rw [AList.lookup_insert, Option.some.injEq]
        constructor
        · rintro rfl
          simp
        · intro member
          exact (distinct _ member last (by simp) rfl).symm
      · rw [AList.lookup_insert_ne same, earlierIff, List.mem_append, List.mem_singleton]
        constructor
        · exact .inl
        · rintro (member | isLast)
          · exact member
          · exact absurd (congrArg Sigma.snd isLast) same

theorem getReverseIdMap_lookup (idMap : IdMap) (paths : LocalPaths idMap)
    (localId globalId : String) :
    (getReverseIdMap idMap).lookup globalId = some localId ↔
      idMap.lookup localId = some globalId := by
  have entryOf (entry : Sigma (fun _ : String => String)) (member : entry ∈ idMap.entries) :
      idMap.lookup entry.1 = some entry.2 := AList.mem_lookup_iff.mpr member
  rw [getReverseIdMap, addReverse_lookup]
  · exact AList.mem_lookup_iff.symm
  · exact fun entry member => paths.phys _ _ (entryOf entry member)
  · intro entry member other otherMember same
    refine paths.distinct _ _ _ (entryOf entry member) ?_
    rw [entryOf other otherMember, same]

/-- The prefix that is translated is the longest one that is a global id of the map. -/
theorem searchLocal_reverse (idMap : IdMap) (paths : LocalPaths idMap) (globalId : List Char)
    (localId : String)
    (found : searchLocal (getReverseIdMap idMap) globalId globalId = some localId) :
    ∃ text left inner, LongestMapped idMap globalId text left ∧
      idMap.lookup inner = some (String.ofList text) ∧
      localId = inner ++ String.ofList left := by
  obtain ⟨text, left, inner, split, nonempty, boundary, hit, rfl, nothing⟩ :=
    searchLocal_some _ globalId globalId [] localId (List.append_nil globalId).symm found
  have mapped := (getReverseIdMap_lookup idMap paths _ _).mp hit
  refine ⟨text, left, inner, ⟨split, nonempty, boundary, ⟨inner, mapped⟩, ?_⟩, mapped,
    by rw [List.append_nil]⟩
  intro other rest same stops longer key isKey
  have absent := nothing other rest same stops longer
  rw [(getReverseIdMap_lookup idMap paths _ _).mpr isKey] at absent
  cases absent

theorem LongestMapped.unique {idMap : IdMap} {globalId text left other rest : List Char}
    (first : LongestMapped idMap globalId text left)
    (second : LongestMapped idMap globalId other rest) : text = other ∧ left = rest := by
  have upper : other.length ≤ text.length := by
    by_contra longer
    obtain ⟨localId, isMapped⟩ := second.mapped
    exact first.longest other rest second.split second.boundary (by omega) localId isMapped
  have lower : text.length ≤ other.length := by
    by_contra longer
    obtain ⟨localId, isMapped⟩ := first.mapped
    exact second.longest text left first.split first.boundary (by omega) localId isMapped
  exact List.append_inj (first.split.symm.trans second.split) (by omega)

/-- Translating to a local id and back is the identity. -/
def TranslatesBack (idMap : IdMap) (globalId : String) : Prop :=
  updateIdToGlobal (some idMap) (updateIdToLocal (some (getReverseIdMap idMap)) globalId) = globalId

/-- The way back is the identity exactly when the whole id is a global id of the map, or its
mapped prefix is mapped to itself and the id is no local id. -/
theorem translatesBack_iff (idMap : IdMap) (paths : LocalPaths idMap) (globalId : String)
    (found : (searchLocal (getReverseIdMap idMap) globalId.toList globalId.toList).isSome) :
    TranslatesBack idMap globalId ↔
      (∃ localId, idMap.lookup localId = some globalId) ∨
        (idMap.lookup globalId = none ∧
          ∃ text left, LongestMapped idMap globalId.toList text left ∧
            idMap.lookup (String.ofList text) = some (String.ofList text)) := by
  obtain ⟨localId, given⟩ := Option.isSome_iff_exists.mp found
  obtain ⟨text, left, inner, longest, mapped, rfl⟩ := searchLocal_reverse idMap paths _ _ given
  have whole : globalId = String.ofList text ++ String.ofList left := by
    rw [← String.ofList_append, ← longest.split, String.ofList_toList]
  have translated : updateIdToLocal (some (getReverseIdMap idMap)) globalId =
      inner ++ String.ofList left := by
    simp only [updateIdToLocal, given, Option.getD_some]
  have global (localId : String) : updateIdToGlobal (some idMap) localId =
      (idMap.lookup localId).getD localId := rfl
  unfold TranslatesBack
  rw [translated, global]
  constructor
  · intro back
    cases hit : idMap.lookup (inner ++ String.ofList left) with
    | some value =>
        rw [hit, Option.getD_some] at back
        exact .inl ⟨_, by rw [hit, back]⟩
    | none =>
        rw [hit, Option.getD_none] at back
        have same : inner = String.ofList text :=
          (String.append_left_inj _).mp (back.trans whole)
        refine .inr ⟨by rw [← back, hit], text, left, longest, ?_⟩
        rwa [same] at mapped
  · rintro (⟨key, isKey⟩ | ⟨absent, other, rest, second, itself⟩)
    · have ended : left = [] := by
        by_contra more
        have shorter : text.length < globalId.toList.length := by
          rw [longest.split, List.length_append]
          have positive := List.length_pos_iff.mpr more
          omega
        exact longest.longest globalId.toList [] (List.append_nil _).symm (.inl rfl) shorter key
          (by rw [isKey, String.ofList_toList])
      subst ended
      rw [String.ofList_nil, String.append_empty] at whole ⊢
      rw [mapped, Option.getD_some, whole]
    · obtain ⟨rfl, rfl⟩ := longest.unique second
      obtain rfl := paths.distinct _ _ _ mapped itself
      rw [← whole, absent, Option.getD_none]

/-- One local path with a global id of its own. -/
def sampleIdMap : IdMap := (∅ : IdMap).insert "/phys/x" "/phys/a"

theorem sampleIdMap_lookup (localId globalId : String)
    (found : sampleIdMap.lookup localId = some globalId) :
    localId = "/phys/x" ∧ globalId = "/phys/a" := by
  by_cases same : localId = "/phys/x"
  · subst same
    rw [sampleIdMap, AList.lookup_insert] at found
    exact ⟨rfl, (Option.some.inj found).symm⟩
  · rw [sampleIdMap, AList.lookup_insert_ne same, AList.lookup_empty] at found
    cases found

theorem sampleIdMap_paths : LocalPaths sampleIdMap where
  phys localId globalId found := by
    rw [(sampleIdMap_lookup localId globalId found).1]
    decide
  distinct localId other globalId found otherFound := by
    rw [(sampleIdMap_lookup _ _ found).1, (sampleIdMap_lookup _ _ otherFound).1]

theorem translatesBack_iff_sample : TranslatesBack sampleIdMap "/phys/a" := by
  refine (translatesBack_iff sampleIdMap sampleIdMap_paths "/phys/a" ?_).mpr
    (.inl ⟨"/phys/x", by decide⟩)
  rw [searchLocal_hit _ _ _ "/phys/x" (by decide) (by decide)]
  rfl

theorem searchLocal_suffix :
    searchLocal (getReverseIdMap sampleIdMap) "/phys/a:0".toList "/phys/a:0".toList =
      some "/phys/x:0" := by
  rw [searchLocal_shorter _ _ _ 7 (by decide) (by decide),
    searchLocal_hit _ _ _ "/phys/x" (by decide) (by decide)]
  decide

/-- The way back looks up the whole local id and leaves it as it is. -/
theorem translatesBack_not_suffix :
    ¬ ∀ (idMap : IdMap) (globalId : String), LocalPaths idMap →
      (∀ localId value, idMap.lookup localId = some value → value ≠ "") →
      (searchLocal (getReverseIdMap idMap) globalId.toList globalId.toList).isSome →
      TranslatesBack idMap globalId := by
  intro inverse
  have values : ∀ localId value, sampleIdMap.lookup localId = some value → value ≠ "" := by
    intro localId value found
    rw [(sampleIdMap_lookup localId value found).2]
    decide
  have back := inverse sampleIdMap "/phys/a:0" sampleIdMap_paths values
    (Option.isSome_of_eq_some searchLocal_suffix)
  have translated :
      updateIdToLocal (some (getReverseIdMap sampleIdMap)) "/phys/a:0" = "/phys/x:0" := by
    rw [updateIdToLocal, searchLocal_suffix, Option.getD_some]
  rw [TranslatesBack, translated] at back
  exact absurd back (by decide)

end OcpDiag.HwInterface
