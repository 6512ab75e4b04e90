import OcpDiag.Lib.Text
import OcpDiag.HwInterface.Status

set_option autoImplicit false

/- Finding the ssh binary: `GetSSHPath` and the elements of PATH. -/
namespace OcpDiag.HwInterface

def kBin : String := "/bin/ssh"
def kUsr : String := "/usr/bin/ssh"
def kSshCommand : String := "ssh"

/-- std::filesystem::path::has_filename. -/
def hasFilename (path : List Char) : Bool := path.getLast?.any (· ≠ '/')

/-- `current_path / kSshCommand`. -/
def sshIn (directory : List Char) : String :=
  String.ofList (if hasFilename directory then directory ++ ['/'] else directory) ++ kSshCommand

/-- What std::filesystem::exists throws where it cannot tell: at a loop of symbolic links, in a
directory that may not be searched, for an input error. -/
structure FilesystemError where
  path : String
  reason : String
  deriving DecidableEq, Repr

/-- std::filesystem::exists on the files of a host. -/
abbrev PathExists : Type := String → Except FilesystemError Bool

/-- One of the allowed binaries that is there; no other path is asked for. -/
def isSsh (pathExists : PathExists) (path : String) : Except FilesystemError Bool :=
  if [kBin, kUsr].contains path then pathExists path else .ok false

/-- The loop over what is left of the text from `start` on. -/
def searchSsh (pathExists : PathExists) (rest : List Char) :
    Except FilesystemError (Option String) :=
  match _found : Text.findFirstOf ':' rest with
  | none => .ok none
  | some cur =>
      let currentPath := sshIn (rest.take cur)
      match isSsh pathExists currentPath with
      | .error thrown => .error thrown
      | .ok true => .ok (some currentPath)
      | .ok false => searchSsh pathExists (rest.drop (cur + 1))
termination_by rest.length
decreasing_by
  obtain ⟨before, after, rfl, -, rfl⟩ := Text.findFirstOf_some _ _ _ _found
  simp only [List.length_drop, List.length_append, List.length_cons]
  omega

def sshNotFound : Status := ⟨.notFound, "Unable to find valid SSH Path"⟩

/-- GetSSHPath, where it returns. -/
def getSshPath (pathExists : PathExists) (pathEnv : String) :
    Except FilesystemError (StatusOr String) :=
  match searchSsh pathExists pathEnv.toList with
  | .error thrown => .error thrown
  | .ok (some path) => .ok (.ok path)
  | .ok none => .ok (.error sshNotFound)

def pathElements (pathEnv : String) : List (List Char) := pathEnv.toList.splitOn ':'

section

variable (pathExists : PathExists)

/-- The binary of the element is an allowed one and is there. -/
def Qualifies (element : List Char) : Prop := isSsh pathExists (sshIn element) = .ok true

/-- The binary of the element is an allowed one that cannot be examined. -/
def Throws (element : List Char) : Prop :=
  ∃ thrown, isSsh pathExists (sshIn element) = .error thrown

/-- The loop goes on after every other element. -/
def Stops (element : List Char) : Prop := isSsh pathExists (sshIn element) ≠ .ok false

instance (element : List Char) : Decidable (Qualifies pathExists element) :=
  inferInstanceAs (Decidable (_ = _))

instance (element : List Char) : Decidable (Stops pathExists element) :=
  inferInstanceAs (Decidable (_ ≠ _))

variable {pathExists}

theorem stops_iff (element : List Char) :
    Stops pathExists element ↔ Qualifies pathExists element ∨ Throws pathExists element := by
  unfold Stops Qualifies Throws
  cases isSsh pathExists (sshIn element) with
  | error thrown => simp
  | ok found => cases found <;> simp

/-- What the loop makes of the element that it stops at. -/
def answerAt (pathExists : PathExists) (element : List Char) :
    Except FilesystemError (Option String) :=
  (isSsh pathExists (sshIn element)).map fun _ => some (sshIn element)

theorem searchSsh_last (element : List Char) (free : ':' ∉ element) :
    searchSsh pathExists element = .ok none := by
  unfold searchSsh
  split
  next => rfl
  next cur found =>
      obtain ⟨before, after, rfl, -, -⟩ := Text.findFirstOf_some _ _ _ found
      exact absurd (by simp) free

theorem searchSsh_element (element after : List Char) (free : ':' ∉ element) :
    searchSsh pathExists (element ++ ':' :: after) =
      if Stops pathExists element then answerAt pathExists element
      else searchSsh pathExists after := by
  have found := Text.findFirstOf_append ':' element after free
  rw [searchSsh]
  split
  next absent => rw [found] at absent; cases absent
  next cur here =>
      obtain rfl := Option.some.inj (found.symm.trans here)
      have rest : (element ++ ':' :: after).drop (element.length + 1) = after := by simp
      simp only [List.take_left, rest]
      by_cases stops : Stops pathExists element
      · rw [if_pos stops, answerAt]
        rcases (stops_iff element).mp stops with qualifies | ⟨thrown, throws⟩
        · rw [show isSsh pathExists (sshIn element) = .ok true from qualifies]
          rfl
        · rw [throws]
          rfl
      · rw [if_neg stops, show isSsh pathExists (sshIn element) = .ok false from not_not.mp stops]

/-- The loop looks at the elements that a colon follows; the induction is on the elements. -/
theorem searchSsh_elements (elements : List (List Char)) (nonempty : elements ≠ [])
    (free : ∀ element ∈ elements, ':' ∉ element) :
    searchSsh pathExists ([':'].intercalate elements) =
      match elements.dropLast.find? (fun element => Stops pathExists element) with
      | some element => answerAt pathExists element
      | none => .ok none := by
  induction elements with
  | nil => exact absurd rfl nonempty
  | cons element rest ih =>
      obtain ⟨freeHere, freeRest⟩ := List.forall_mem_cons.mp free
      cases rest with
      | nil =>
          rw [List.intercalate_singleton, searchSsh_last element freeHere]
          rfl
      | cons next rest =>
          have later := ih (List.cons_ne_nil next rest) freeRest
          rw [List.intercalate_cons_cons, List.append_assoc, List.singleton_append,
            searchSsh_element element _ freeHere, later, List.dropLast_cons_cons, List.find?_cons]
          by_cases stops : Stops pathExists element
          · simp only [stops, if_true, decide_true]
          · simp only [stops, if_false, decide_false]

theorem getSshPath_eq (pathExists : PathExists) (pathEnv : String) :
    getSshPath pathExists pathEnv =
      match (pathElements pathEnv).dropLast.find? (fun element => Stops pathExists element) with
      | some element => (isSsh pathExists (sshIn element)).map fun _ => .ok (sshIn element)
      | none => .ok (.error sshNotFound) := by
  have free : ∀ element ∈ pathElements pathEnv, ':' ∉ element :=
    fun element member => Text.not_mem_of_mem_splitOn ':' _ element member
  have joined : searchSsh pathExists _ = _ :=
    searchSsh_elements (pathElements pathEnv) (List.splitOn_ne_nil ':' _) free
  have whole : [':'].intercalate (pathElements pathEnv) = pathEnv.toList :=
    List.intercalate_splitOn ':'
  rw [whole] at joined
  unfold getSshPath
  rw [joined]
  cases (pathElements pathEnv).dropLast.find? (fun element => Stops pathExists element) with
  | none => rfl
  | some element =>
      simp only [answerAt]
      cases isSsh pathExists (sshIn element) <;> rfl

/-- The first element whose binary is there gives the path, and none is found without one. -/
structure FindsSsh (pathExists : PathExists) (pathEnv : String) : Prop where
  first : ∀ before element after, pathElements pathEnv = before ++ element :: after →
    (∀ earlier ∈ before, ¬ Qualifies pathExists earlier) → Qualifies pathExists element →
    getSshPath pathExists pathEnv = .ok (.ok (sshIn element))
  missing : (∃ message, getSshPath pathExists pathEnv = .ok (.error ⟨.notFound, message⟩)) ↔
    ∀ element ∈ pathElements pathEnv, ¬ Qualifies pathExists element

/-- The last element is of no use, and the search meets none whose binary cannot be examined. -/
structure SearchSuffices (pathExists : PathExists) (pathEnv : String) : Prop where
  last : ∀ before last, pathElements pathEnv = before ++ [last] → Qualifies pathExists last →
    ∃ earlier ∈ before, Qualifies pathExists earlier
  examined : ∀ before element after, pathElements pathEnv = before ++ element :: after →
    after ≠ [] → Throws pathExists element → ∃ earlier ∈ before, Qualifies pathExists earlier

variable {pathEnv : String}

/-- The first element that qualifies, if there is one. -/
theorem exists_first_of_qualifies {elements : List (List Char)} {element : List Char}
    (member : element ∈ elements) (qualifies : Qualifies pathExists element) :
    ∃ before first after, elements = before ++ first :: after ∧
      (∀ earlier ∈ before, ¬ Qualifies pathExists earlier) ∧ Qualifies pathExists first := by
  have found : (elements.find? (fun element => Qualifies pathExists element)).isSome :=
    List.find?_isSome.mpr ⟨element, member, decide_eq_true qualifies⟩
  obtain ⟨first, isFirst⟩ := Option.isSome_iff_exists.mp found
  obtain ⟨holds, before, after, split, earlier⟩ := List.find?_eq_some_iff_append.mp isFirst
  exact ⟨before, first, after, split, fun other member => by simpa using earlier other member,
    of_decide_eq_true holds⟩

/-- The first element that the loop stops at gives the path, if it qualifies. -/
theorem getSshPath_found {before after : List (List Char)} {element : List Char}
    (split : (pathElements pathEnv).dropLast = before ++ element :: after)
    (passed : ∀ earlier ∈ before, ¬ Stops pathExists earlier)
    (qualifies : Qualifies pathExists element) :
    getSshPath pathExists pathEnv = .ok (.ok (sshIn element)) := by
  have stops := (stops_iff element).mpr (.inl qualifies)
  have found : (pathElements pathEnv).dropLast.find?
      (fun element => Stops pathExists element) = some element :=
    List.find?_eq_some_iff_append.mpr ⟨decide_eq_true stops, before, after, split,
      fun other member => by simpa using passed other member⟩
  have isThere : isSsh pathExists (sshIn element) = .ok true := qualifies
  rw [getSshPath_eq, found]
  simp only [isThere, Except.map]

/-- An element that throws before any other qualifies makes the search throw. -/
theorem getSshPath_throws {before after : List (List Char)} {element : List Char}
    (split : (pathElements pathEnv).dropLast = before ++ element :: after)
    (unqualified : ∀ earlier ∈ before, ¬ Qualifies pathExists earlier)
    (throws : Throws pathExists element) :
    ∃ thrown, getSshPath pathExists pathEnv = .error thrown := by
  rw [getSshPath_eq]
  have found : ((before ++ [element]).find? (fun element => Stops pathExists element)).isSome :=
    List.find?_isSome.mpr ⟨element, by simp, decide_eq_true ((stops_iff element).mpr (.inr throws))⟩
  obtain ⟨first, isFirst⟩ := Option.isSome_iff_exists.mp found
  have whole : (pathElements pathEnv).dropLast.find? (fun element => Stops pathExists element) =
      some first := by
    rw [split, show before ++ element :: after = (before ++ [element]) ++ after by simp,
      List.find?_append, isFirst]
    rfl
  have throwsFirst : Throws pathExists first := by
    have stops := List.find?_some isFirst
    rcases (stops_iff first).mp (of_decide_eq_true stops) with here | here
    · rcases List.mem_append.mp (List.mem_of_find?_eq_some isFirst) with earlier | last
      · exact absurd here (unqualified first earlier)
      · rwa [List.mem_singleton.mp last]
    · exact here
  obtain ⟨thrown, isThrown⟩ := throwsFirst
  exact ⟨thrown, by rw [whole]; simp only [isThrown, Except.map]⟩

theorem searchSuffices_of_finds (finds : FindsSsh pathExists pathEnv) :
    SearchSuffices pathExists pathEnv := by
  have examined : ∀ before element after, pathElements pathEnv = before ++ element :: after →
      after ≠ [] → Throws pathExists element →
      ∃ earlier ∈ before, Qualifies pathExists earlier := by
    intro before element after split more throws
    by_contra unqualified
    push Not at unqualified
    have kept : (pathElements pathEnv).dropLast = before ++ element :: after.dropLast := by
      rw [split, List.dropLast_append_of_ne_nil (List.cons_ne_nil _ _),
        List.dropLast_cons_of_ne_nil more]
    obtain ⟨thrown, isThrown⟩ := getSshPath_throws kept unqualified throws
    by_cases qualified : ∃ other ∈ pathElements pathEnv, Qualifies pathExists other
    · obtain ⟨other, member, qualifies⟩ := qualified
      obtain ⟨earlier, first, later, split, unqualified, holds⟩ :=
        exists_first_of_qualifies member qualifies
      have found := finds.first earlier first later split unqualified holds
      rw [isThrown] at found
      cases found
    · push Not at qualified
      obtain ⟨message, missing⟩ := finds.missing.mpr qualified
      rw [isThrown] at missing
      cases missing
  refine ⟨fun before last split qualifies => ?_, examined⟩
  by_contra unqualified
  push Not at unqualified
  have found := finds.first before last [] split unqualified qualifies
  rw [getSshPath_eq, split, List.dropLast_concat] at found
  cases stop : before.find? (fun element => Stops pathExists element) with
  | none =>
      rw [stop] at found
      cases found
  | some element =>
      obtain ⟨stops, front, back, parts, earlier⟩ := List.find?_eq_some_iff_append.mp stop
      have throws := ((stops_iff element).mp (of_decide_eq_true stops)).resolve_left
        (unqualified element (parts ▸ by simp))
      obtain ⟨other, member, holds⟩ := examined front element (back ++ [last])
        (by rw [split, parts]; simp) (by simp) throws
      exact unqualified other (parts ▸ List.mem_append_left _ member) holds

/-- Of two first elements that qualify each is the other. -/
theorem first_unique {before other after later : List (List Char)} {element first : List Char}
    (same : before ++ element :: after = other ++ first :: later)
    (unqualified : ∀ earlier ∈ before, ¬ Qualifies pathExists earlier)
    (qualifies : Qualifies pathExists element)
    (otherUnqualified : ∀ earlier ∈ other, ¬ Qualifies pathExists earlier)
    (firstQualifies : Qualifies pathExists first) : element = first := by
  have search (front back : List (List Char)) {here : List Char}
      (absent : ∀ earlier ∈ front, ¬ Qualifies pathExists earlier)
      (holds : Qualifies pathExists here) :
      (front ++ here :: back).find? (fun element => Qualifies pathExists element) = some here :=
    List.find?_eq_some_iff_append.mpr ⟨decide_eq_true holds, front, back, rfl,
      fun earlier member => by simpa using absent earlier member⟩
  have found := search before after unqualified qualifies
  rw [same, search other later otherUnqualified firstQualifies] at found
  exact (Option.some.inj found).symm

theorem finds_of_searchSuffices (enough : SearchSuffices pathExists pathEnv) :
    FindsSsh pathExists pathEnv := by
  obtain ⟨elements, last, split⟩ :=
    (List.eq_nil_or_concat' (pathElements pathEnv)).resolve_left (List.splitOn_ne_nil ':' _)
  cases stop : elements.find? (fun element => Stops pathExists element) with
  | none =>
      have answer : getSshPath pathExists pathEnv = .ok (.error sshNotFound) := by
        rw [getSshPath_eq, split, List.dropLast_concat, stop]
      have unqualified : ∀ element ∈ elements, ¬ Qualifies pathExists element := by
        intro element member qualifies
        have goesOn := List.find?_eq_none.mp stop element member
        exact goesOn (decide_eq_true ((stops_iff element).mpr (.inl qualifies)))
      have all : ∀ element ∈ pathElements pathEnv, ¬ Qualifies pathExists element := by
        intro element member qualifies
        rw [split] at member
        rcases List.mem_append.mp member with earlier | isLast
        · exact unqualified element earlier qualifies
        · obtain rfl := List.mem_singleton.mp isLast
          obtain ⟨earlier, before, holds⟩ := enough.last elements element split qualifies
          exact unqualified earlier before holds
      refine ⟨fun before element after parts _ qualifies => ?_, iff_of_true ⟨_, answer⟩ all⟩
      exact absurd qualifies (all element (by rw [parts]; simp))
  | some element =>
      obtain ⟨stops, before, after, rfl, earlier⟩ := List.find?_eq_some_iff_append.mp stop
      have passed : ∀ other ∈ before, ¬ Stops pathExists other :=
        fun other member => by simpa using earlier other member
      have unqualified : ∀ other ∈ before, ¬ Qualifies pathExists other :=
        fun other member qualifies => passed other member ((stops_iff other).mpr (.inl qualifies))
      have parts : pathElements pathEnv = before ++ element :: (after ++ [last]) := by
        rw [split, List.append_assoc, List.cons_append]
      have qualifies : Qualifies pathExists element := by
        refine ((stops_iff element).mp (of_decide_eq_true stops)).resolve_right fun throws => ?_
        obtain ⟨other, member, holds⟩ := enough.examined before element _ parts (by simp) throws
        exact unqualified other member holds
      have found : getSshPath pathExists pathEnv = .ok (.ok (sshIn element)) :=
        getSshPath_found (by rw [split, List.dropLast_concat]) passed qualifies
      refine ⟨fun other first later otherParts otherUnqualified holds => ?_, iff_of_false ?_ ?_⟩
      · rw [← first_unique (parts.symm.trans otherParts) unqualified qualifies otherUnqualified
          holds]
        exact found
      · rintro ⟨message, missing⟩
        rw [found] at missing
        cases missing
      · intro all
        exact all element (by rw [parts]; simp) qualifies

end

/-- The ssh binary is found wherever PATH names it exactly when the last element does not qualify or
an earlier one does, and no element before the last is met that cannot be examined. -/
theorem findsSsh_iff (pathExists : PathExists) (pathEnv : String) :
    FindsSsh pathExists pathEnv ↔ SearchSuffices pathExists pathEnv :=
  ⟨searchSuffices_of_finds, finds_of_searchSuffices⟩

/-- Without a colon at the end the only directory is not looked at, and what cannot be examined in
one directory hides the binary of the next. -/
theorem findsSsh_not_last :
    ¬ FindsSsh (fun path => .ok (path = "/usr/bin/ssh")) "/usr/bin" ∧
      ¬ FindsSsh (fun path => if path = "/bin/ssh" then
        .error ⟨path, "Too many levels of symbolic links"⟩ else .ok true) "/bin:/usr/bin:" := by
  refine ⟨fun finds => ?_, fun finds => ?_⟩
  · have found := finds.first [] "/usr/bin".toList [] (by decide)
      (fun _ absent => absurd absent List.not_mem_nil) (by decide)
    rw [getSshPath_eq] at found
    exact absurd found (by decide)
  · have found := finds.first ["/bin".toList] "/usr/bin".toList [[]] (by decide) (by decide)
      (by decide)
    rw [getSshPath_eq] at found
    exact absurd found (by decide)

end OcpDiag.HwInterface
