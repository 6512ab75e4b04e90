import OcpDiag.Lib.Text
import OcpDiag.HwInterface.Status
import Mathlib.Data.List.AList
import Mathlib.Data.List.Induction

set_option autoImplicit false

/- The ids of the hardware components: `PopulateId`, `UnmarshalIdentifier` and the host backend's
`GetHwInfo`. -/
namespace OcpDiag.HwInterface

structure Identifier where
  devpath : String := ""
  odataId : String := ""
  name : String := ""
  arena : String := ""
  type : String := ""
  id : String := ""
  deriving DecidableEq, Repr

/-- An absl::flat_hash_map from local ids to global ids. -/
abbrev IdMap : Type := AList (fun _ : String => String)

def updateIdToGlobal (idMap : Option IdMap) (localId : String) : String :=
  match idMap with
  | none => localId
  | some idMap => (idMap.lookup localId).getD localId

/-- The argument of `absl::StrJoin`. -/
def Identifier.components (identifier : Identifier) : List String :=
  [identifier.devpath, identifier.odataId, identifier.name, identifier.arena, identifier.type]

def populateId (identifier : Identifier) (idMap : Option IdMap) : Identifier :=
  let located := { identifier with devpath := updateIdToGlobal idMap identifier.devpath }
  { located with id := String.intercalate "%" located.components }

def identifierComponentsCount : Nat := 5

def unmarshalIdentifier (id : String) : StatusOr Identifier :=
  match (Text.splitMax '%' identifierComponentsCount id.toList).map String.ofList with
  | [devpath, odataId, name, arena, type] =>
      .ok { devpath, odataId, name, arena, type, id }
  | _ => .error ⟨.invalidArgument, "Invalid identifier id format. " ++ id⟩

structure ComponentLocation where
  devpath : String := ""
  odataId : String := ""
  deriving DecidableEq, Repr

structure HardwareInfo where
  name : String := ""
  partType : String := ""
  arena : String := ""
  componentLocation : ComponentLocation := {}
  deriving DecidableEq, Repr

abbrev GetHwInfoResponse : Type := AList (fun _ : String => HardwareInfo)

/-- One turn of the loop; `operator[]` makes an empty entry where there is none. -/
def addHwInfo (hwInfo : GetHwInfoResponse) (id : String) : StatusOr GetHwInfoResponse := do
  let identifier ← unmarshalIdentifier id
  let hardwareInfo := (hwInfo.lookup id).getD {}
  return hwInfo.insert id
    { hardwareInfo with
      name := identifier.name
      partType := identifier.type
      arena := identifier.arena
      componentLocation :=
        { hardwareInfo.componentLocation with
          odataId := identifier.odataId
          devpath := identifier.devpath } }

def getHwInfo (ids : List String) : StatusOr GetHwInfoResponse :=
  ids.foldlM addHwInfo ∅

/-- No component of the identifier has the separator of the ids in it. -/
def Identifier.SeparatorFree (identifier : Identifier) : Prop :=
  ∀ component ∈ identifier.components, '%' ∉ component.toList

instance (identifier : Identifier) : Decidable identifier.SeparatorFree :=
  inferInstanceAs (Decidable (∀ component ∈ identifier.components, '%' ∉ component.toList))

/-- The identifier without an id map, as the backends populate it. -/
def Identifier.populated (identifier : Identifier) : Identifier := populateId identifier none

@[simp] theorem populated_components (identifier : Identifier) :
    identifier.populated.components = identifier.components := rfl

theorem populated_id (identifier : Identifier) :
    identifier.populated.id = String.intercalate "%" identifier.components := rfl

theorem populated_id_toList (identifier : Identifier) :
    identifier.populated.id.toList =
      ['%'].intercalate (identifier.components.map String.toList) := by
  rw [populated_id, String.toList_intercalate]
  rfl

/-- The id shows how many separators the components have. -/
theorem populated_id_count (identifier : Identifier) :
    identifier.populated.id.toList.count '%' =
      4 + (identifier.components.map (fun component => component.toList.count '%')).sum := by
  have joined := Text.count_intercalate '%' (identifier.components.map String.toList) (by
    simp [Identifier.components])
  rw [← populated_id_toList, List.map_map] at joined
  simp only [List.length_map, Function.comp_def] at joined
  have five : identifier.components.length = 5 := rfl
  omega

theorem separatorFree_iff_count (identifier : Identifier) :
    identifier.SeparatorFree ↔ identifier.populated.id.toList.count '%' = 4 := by
  have nothing : identifier.SeparatorFree ↔
      (identifier.components.map (fun component => component.toList.count '%')).sum = 0 := by
    rw [List.sum_eq_zero_iff_forall_eq_nat]
    simp only [List.mem_map, forall_exists_index, and_imp, forall_apply_eq_imp_iff₂,
      List.count_eq_zero]
    rfl
  rw [nothing, populated_id_count]
  omega

/-- An id is well formed when it has exactly the separators between the components. -/
theorem unmarshalIdentifier_isOk (id : String) :
    (∃ identifier, unmarshalIdentifier id = .ok identifier) ↔ id.toList.count '%' = 4 := by
  have pieces := Text.splitMax_length '%' identifierComponentsCount id.toList
  have five : identifierComponentsCount = 5 := rfl
  unfold unmarshalIdentifier
  split
  · rename_i shape
    have length := congrArg List.length shape
    rw [List.length_map, pieces] at length
    simp only [List.length_cons, List.length_nil] at length
    exact ⟨fun _ => by omega, fun _ => ⟨_, rfl⟩⟩
  · rename_i shape
    refine ⟨fun ⟨_, same⟩ => (by cases same), fun count => ?_⟩
    exfalso
    have length : ((Text.splitMax '%' identifierComponentsCount id.toList).map
        String.ofList).length = 5 := by
      rw [List.length_map, pieces]
      omega
    match found : (Text.splitMax '%' identifierComponentsCount id.toList).map String.ofList with
    | [devpath, odataId, name, arena, type] => exact shape devpath odataId name arena type found
    | [] | [_] | [_, _] | [_, _, _] | [_, _, _, _] | _ :: _ :: _ :: _ :: _ :: _ :: _ =>
        rw [found] at length
        simp at length

theorem unmarshalIdentifier_populated (identifier : Identifier)
    (free : identifier.SeparatorFree) :
    unmarshalIdentifier identifier.populated.id = .ok identifier.populated := by
  have pieces : Text.splitMax '%' identifierComponentsCount identifier.populated.id.toList =
      identifier.components.map String.toList := by
    rw [populated_id_toList]
    apply Text.splitMax_intercalate
    · simp [Identifier.components]
    · simp [Identifier.components, identifierComponentsCount]
    · intro piece member
      obtain ⟨component, isComponent, rfl⟩ := List.mem_map.mp member
      exact free component isComponent
  have split : (Text.splitMax '%' identifierComponentsCount
      identifier.populated.id.toList).map String.ofList = identifier.components := by
    rw [pieces, List.map_map]
    exact List.map_id'' (fun _ => String.ofList_toList) identifier.components
  simp only [unmarshalIdentifier, split, Identifier.components]
  rfl

theorem split_at_separator (text : String) (holds : '%' ∈ text.toList) :
    ∃ first second, text = first ++ "%" ++ second := by
  obtain ⟨first, second, same⟩ := List.append_of_mem holds
  refine ⟨String.ofList first, String.ofList second, ?_⟩
  apply String.toList_inj.mp
  simp [same]

theorem ne_append_separator (text more : String) : text ≠ text ++ "%" ++ more := by
  intro same
  have length := congrArg (fun text => text.toList.length) same
  simp only [String.toList_append, List.length_append] at length
  have one : "%".toList.length = 1 := by decide
  omega

/-- The five components agree; the ids need not. -/
def Identifier.SameFields (identifier other : Identifier) : Prop :=
  identifier.devpath = other.devpath ∧ identifier.odataId = other.odataId ∧
    identifier.name = other.name ∧ identifier.arena = other.arena ∧
    identifier.type = other.type

instance (identifier other : Identifier) : Decidable (identifier.SameFields other) :=
  inferInstanceAs (Decidable (_ ∧ _))

theorem sameFields_of_components {identifier other : Identifier}
    (same : identifier.components = other.components) : identifier.SameFields other := by
  simpa [Identifier.components, Identifier.SameFields] using same

/-- The id is decoded to the components it was made from. -/
def Identifier.RoundTrips (identifier : Identifier) : Prop :=
  ∃ decoded, unmarshalIdentifier identifier.populated.id = .ok decoded ∧
    decoded.SameFields identifier

/-- An identifier with other components has another id. -/
def Identifier.UniqueId (identifier : Identifier) : Prop :=
  ∀ other : Identifier, other.populated.id = identifier.populated.id →
    other.SameFields identifier

def HardwareInfo.Describes (hardwareInfo : HardwareInfo) (identifier : Identifier) : Prop :=
  hardwareInfo.componentLocation.devpath = identifier.devpath ∧
    hardwareInfo.componentLocation.odataId = identifier.odataId ∧
    hardwareInfo.name = identifier.name ∧ hardwareInfo.arena = identifier.arena ∧
    hardwareInfo.partType = identifier.type

/-- `GetHwInfo` gives each id of the list an entry with the components the id was made from. -/
def DescribedByHwInfo (identifiers : List Identifier) : Prop :=
  ∃ response,
    getHwInfo (identifiers.map (fun identifier => identifier.populated.id)) = .ok response ∧
    ∀ identifier ∈ identifiers, ∃ hardwareInfo,
      response.lookup identifier.populated.id = some hardwareInfo ∧
        hardwareInfo.Describes identifier

theorem roundTrips_iff (identifier : Identifier) :
    identifier.RoundTrips ↔ identifier.SeparatorFree := by
  constructor
  · intro ⟨decoded, unmarshalled, _⟩
    rw [separatorFree_iff_count]
    exact (unmarshalIdentifier_isOk _).mp ⟨decoded, unmarshalled⟩
  · intro free
    exact ⟨identifier.populated, unmarshalIdentifier_populated identifier free,
      sameFields_of_components (populated_components identifier)⟩

theorem uniqueId_of_separatorFree (identifier : Identifier) (free : identifier.SeparatorFree) :
    identifier.UniqueId := by
  intro other same
  have otherFree : other.SeparatorFree := by
    rw [separatorFree_iff_count] at free ⊢
    rw [same, free]
  have decoded := unmarshalIdentifier_populated identifier free
  rw [← same, unmarshalIdentifier_populated other otherFree] at decoded
  apply sameFields_of_components
  rw [← populated_components other, Except.ok.inj decoded, populated_components]

/-- Where a component has a separator, the boundary to its neighbour can be moved there. -/
theorem separatorFree_of_uniqueId (identifier : Identifier) (unique : identifier.UniqueId) :
    identifier.SeparatorFree := by
  obtain ⟨devpath, odataId, name, arena, type, id⟩ := identifier
  intro component member
  simp only [Identifier.components, List.mem_cons, List.not_mem_nil, or_false] at member
  intro holds
  obtain ⟨first, second, same⟩ := split_at_separator component holds
  rcases member with rfl | rfl | rfl | rfl | rfl <;> subst same
  · have moved := unique ⟨first, second ++ "%" ++ odataId, name, arena, type, ""⟩ (by
      simp [populated_id, Identifier.components, String.append_assoc])
    exact ne_append_separator _ _ moved.1
  · have moved := unique ⟨devpath ++ "%" ++ first, second, name, arena, type, ""⟩ (by
      simp [populated_id, Identifier.components, String.append_assoc])
    exact ne_append_separator _ _ moved.1.symm
  · have moved := unique ⟨devpath, odataId ++ "%" ++ first, second, arena, type, ""⟩ (by
      simp [populated_id, Identifier.components, String.append_assoc])
    exact ne_append_separator _ _ moved.2.1.symm
  · have moved := unique ⟨devpath, odataId, name ++ "%" ++ first, second, type, ""⟩ (by
      simp [populated_id, Identifier.components, String.append_assoc])
    exact ne_append_separator _ _ moved.2.2.1.symm
  · have moved := unique ⟨devpath, odataId, name, arena ++ "%" ++ first, second, ""⟩ (by
      simp [populated_id, Identifier.components, String.append_assoc])
    exact ne_append_separator _ _ moved.2.2.2.1.symm

def HardwareInfo.ofIdentifier (identifier : Identifier) : HardwareInfo where
  name := identifier.name
  partType := identifier.type
  arena := identifier.arena
  componentLocation := ⟨identifier.devpath, identifier.odataId⟩

theorem addHwInfo_eq (hwInfo : GetHwInfoResponse) (id : String) :
    addHwInfo hwInfo id =
      (unmarshalIdentifier id).map
        (fun identifier => hwInfo.insert id (.ofIdentifier identifier)) := by
  unfold addHwInfo
  cases unmarshalIdentifier id <;> rfl

/-- Each entry is what its own id decodes to, also when an id comes again. -/
theorem getHwInfo_lookup (ids : List String) (before after : GetHwInfoResponse)
    (ok : ids.foldlM addHwInfo before = .ok after) (id : String) (member : id ∈ ids) :
    ∃ identifier, unmarshalIdentifier id = .ok identifier ∧
      after.lookup id = some (.ofIdentifier identifier) := by
  induction ids using List.reverseRecOn generalizing after with
  | nil => cases member
  | append_singleton earlier last ih =>
      rw [List.foldlM_append] at ok
      cases done : earlier.foldlM addHwInfo before with
      | error status => rw [done] at ok; cases ok
      | ok middle =>
          rw [done] at ok
          simp only [bind, Except.bind, List.foldlM_cons, List.foldlM_nil, addHwInfo_eq] at ok
          cases decoded : unmarshalIdentifier last with
          | error status => rw [decoded] at ok; cases ok
          | ok identifier =>
              rw [decoded] at ok
              cases ok
              by_cases same : id = last
              · subst same
                exact ⟨identifier, decoded, AList.lookup_insert middle⟩
              · have inEarlier : id ∈ earlier := by
                  simpa [same] using member
                obtain ⟨own, ownDecoded, found⟩ := ih middle done inEarlier
                exact ⟨own, ownDecoded, by rw [AList.lookup_insert_ne same, found]⟩

theorem getHwInfo_isOk (ids : List String) (before : GetHwInfoResponse)
    (decodable : ∀ id ∈ ids, ∃ identifier, unmarshalIdentifier id = .ok identifier) :
    ∃ after, ids.foldlM addHwInfo before = .ok after := by
  induction ids generalizing before with
  | nil => exact ⟨before, rfl⟩
  | cons id rest ih =>
      obtain ⟨identifier, decoded⟩ := decodable id List.mem_cons_self
      rw [List.foldlM_cons, addHwInfo_eq, decoded]
      exact ih _ (fun other member => decodable other (List.mem_cons_of_mem id member))

theorem describedByHwInfo_iff (identifiers : List Identifier) :
    DescribedByHwInfo identifiers ↔
      ∀ identifier ∈ identifiers, identifier.SeparatorFree := by
  constructor
  · intro ⟨response, ok, _⟩ identifier member
    obtain ⟨decoded, unmarshalled, _⟩ :=
      getHwInfo_lookup _ ∅ response ok identifier.populated.id (List.mem_map_of_mem member)
    rw [separatorFree_iff_count]
    exact (unmarshalIdentifier_isOk _).mp ⟨decoded, unmarshalled⟩
  · intro free
    obtain ⟨response, ok⟩ := getHwInfo_isOk
      (identifiers.map (fun identifier => identifier.populated.id)) ∅ (by
        intro id member
        obtain ⟨identifier, isIdentifier, rfl⟩ := List.mem_map.mp member
        exact ⟨_, unmarshalIdentifier_populated identifier (free identifier isIdentifier)⟩)
    refine ⟨response, ok, fun identifier member => ?_⟩
    obtain ⟨decoded, unmarshalled, found⟩ :=
      getHwInfo_lookup _ ∅ response ok identifier.populated.id (List.mem_map_of_mem member)
    rw [unmarshalIdentifier_populated identifier (free identifier member)] at unmarshalled
    cases unmarshalled
    exact ⟨_, found, rfl, rfl, rfl, rfl, rfl⟩

/-- The ids are faithful for the identifiers whose components have no separator. -/
theorem ids_faithful_iff (identifier : Identifier) (identifiers : List Identifier) :
    (identifier.RoundTrips ↔ identifier.SeparatorFree) ∧
    (identifier.UniqueId ↔ identifier.SeparatorFree) ∧
    (DescribedByHwInfo identifiers ↔
      ∀ described ∈ identifiers, described.SeparatorFree) := by
  refine ⟨roundTrips_iff identifier, ⟨?_, ?_⟩, describedByHwInfo_iff identifiers⟩
  · exact separatorFree_of_uniqueId identifier
  · exact uniqueId_of_separatorFree identifier

/-- An OData id with a percent-encoded space. -/
def encodedIdentifier : Identifier where
  devpath := "/phys"
  odataId := "/redfish/DIMM%201"

theorem encodedIdentifier_not_faithful :
    unmarshalIdentifier encodedIdentifier.populated.id =
      .error ⟨.invalidArgument,
        "Invalid identifier id format. /phys%/redfish/DIMM%201%%%"⟩ ∧
    ¬ encodedIdentifier.RoundTrips ∧ ¬ encodedIdentifier.UniqueId ∧
      ¬ DescribedByHwInfo [encodedIdentifier] := by
  have held : ¬ encodedIdentifier.SeparatorFree := by decide
  refine ⟨by decide, ?_, ?_, ?_⟩
  · rwa [roundTrips_iff]
  · exact fun unique => held (separatorFree_of_uniqueId _ unique)
  · rw [describedByHwInfo_iff]
    exact fun free => held (free _ List.mem_cons_self)

/-- An accepted text is the id of what it decodes to. -/
theorem unmarshalIdentifier_id (id : String) (identifier : Identifier)
    (decoded : unmarshalIdentifier id = .ok identifier) :
    identifier.populated.id = id ∧ identifier.id = id := by
  have few : id.toList.count '%' ≤ identifierComponentsCount := by
    have four := (unmarshalIdentifier_isOk id).mp ⟨identifier, decoded⟩
    unfold identifierComponentsCount
    omega
  have whole : ['%'].intercalate (id.toList.splitOn '%') = id.toList :=
    List.intercalate_splitOn '%'
  rw [← Text.splitMax_eq_splitOn '%' identifierComponentsCount _ few] at whole
  unfold unmarshalIdentifier at decoded
  split at decoded
  next devpath odataId name arena type pieces =>
      obtain rfl := Except.ok.inj decoded
      refine ⟨?_, rfl⟩
      have restored : ∀ texts : List (List Char),
          texts.map (String.toList ∘ String.ofList) = texts :=
        List.map_id'' fun _ => String.toList_ofList
      have texts := congrArg (List.map String.toList) pieces
      rw [List.map_map, restored] at texts
      apply String.toList_inj.mp
      rw [populated_id_toList]
      rw [texts] at whole
      exact whole
  next => cases decoded

/-- The texts with four separators are accepted, no others, and each is the id of its own
components. -/
theorem unmarshalIdentifier_reencodes (id : String) :
    ((∃ identifier, unmarshalIdentifier id = .ok identifier) ↔ id.toList.count '%' = 4) ∧
    (∀ identifier, unmarshalIdentifier id = .ok identifier →
      (populateId identifier none).id = id ∧ identifier.id = id) ∧
    (∀ identifier other otherIdentifier, unmarshalIdentifier id = .ok identifier →
      unmarshalIdentifier other = .ok otherIdentifier → id ≠ other →
        ¬ identifier.SameFields otherIdentifier) := by
  refine ⟨unmarshalIdentifier_isOk id, unmarshalIdentifier_id id, ?_⟩
  intro identifier other otherIdentifier decoded otherDecoded different same
  apply different
  have components : identifier.components = otherIdentifier.components := by
    obtain ⟨devpath, odataId, name, arena, type⟩ := same
    simp only [Identifier.components, devpath, odataId, name, arena, type]
  calc id = identifier.populated.id := (unmarshalIdentifier_id id identifier decoded).1.symm
    _ = otherIdentifier.populated.id := by rw [populated_id, components, ← populated_id]
    _ = other := (unmarshalIdentifier_id other otherIdentifier otherDecoded).1

end OcpDiag.HwInterface
