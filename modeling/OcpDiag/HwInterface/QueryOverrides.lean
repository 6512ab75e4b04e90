import OcpDiag.Lib.Text
import OcpDiag.HwInterface.ServiceFlags

set_option autoImplicit false

/- The text of the query overrides, `<resource>:<query_id>` in a list separated by commas. -/
namespace OcpDiag.HwInterface

open GreedyPattern

structure ParsedQueryOverrides where
  accepted : Bool
  overrides : RedfishQueryOverrides
  error : String
  deriving DecidableEq, Repr

namespace RedfishQueryOverrides

/-- kQueryOverrideFormat, for each query that is set. -/
def abslUnparseFlag (overrides : RedfishQueryOverrides) : String :=
  String.intercalate ","
    (if overrides.sensorQuery.isEmpty then []
    else ["sensor_query" ++ ":" ++ overrides.sensorQuery])

/-- kQueryOverrideRegex. -/
def queryOverrideRegex : List (Item Char) := [.plus anyChar, .literal [':'], .plus anyChar]

def matchQueryOverride (piece : List Char) : Option (String × String) :=
  match fullMatch queryOverrideRegex piece with
  | some [resourceType, queryId] => some (String.ofList resourceType, String.ofList queryId)
  | _ => none

/-- The loop over the pieces; another resource is passed over. -/
def parsePieces (overrides : RedfishQueryOverrides) (error : String) :
    List (List Char) → ParsedQueryOverrides
  | [] => ⟨true, overrides, error⟩
  | piece :: rest =>
      match matchQueryOverride piece with
      | none => ⟨false, overrides, error ++ "Failed to parse string \"" ++ String.ofList piece ++
          "\" in flag \"hwinterface_redfish_query_overrides\". " ++
          "Please make sure it's formatted as  <resource>:<query_id>"⟩
      | some (resourceType, queryId) =>
          parsePieces (if resourceType = "sensor_query" then { overrides with sensorQuery := queryId }
            else overrides) error rest

def abslParseFlag (text : String) (overrides : RedfishQueryOverrides) (error : String) :
    ParsedQueryOverrides :=
  if text.isEmpty then ⟨true, overrides, error⟩
  else parsePieces overrides error (text.toList.splitOn ',')

def sensorText (query : String) : String := "sensor_query:" ++ query

/-- A query that fits in a piece of the list. -/
def OnePiece (query : String) : Prop := ',' ∉ query.toList ∧ '\n' ∉ query.toList

instance (query : String) : Decidable (OnePiece query) := inferInstanceAs (Decidable (_ ∧ _))

/-- No colon, except one at the end. -/
def ColonFree (query : String) : Prop := ':' ∉ query.toList.dropLast

instance (query : String) : Decidable (ColonFree query) := inferInstanceAs (Decidable (¬ _))

theorem sensorText_toList (query : String) :
    (sensorText query).toList = "sensor_query".toList ++ ':' :: query.toList := by
  rw [sensorText, String.toList_append]
  rfl

theorem abslUnparseFlag_sensor (query : String) (present : query ≠ "") :
    abslUnparseFlag ⟨query⟩ = sensorText query := by
  have nonempty : query.isEmpty = false := String.isEmpty_eq_false_iff.mpr present
  simp only [abslUnparseFlag, nonempty]
  exact String.intercalate_singleton

theorem anyChar_sensorText (query : String) (piece : OnePiece query) :
    ∀ char ∈ "sensor_query".toList ++ ':' :: query.toList, anyChar char = true := by
  have name : ∀ char ∈ "sensor_query".toList, anyChar char = true :=
    List.all_eq_true.mp (by decide)
  intro char member
  rcases List.mem_append.mp member with inName | inRest
  · exact name char inName
  · rcases List.mem_cons.mp inRest with rfl | inQuery
    · decide
    · refine decide_eq_true ?_
      rintro rfl
      exact piece.2 inQuery

theorem abslParseFlag_piece (query error : String) (piece : OnePiece query) :
    abslParseFlag (sensorText query) {} error =
      parsePieces {} error [(sensorText query).toList] := by
  have nonempty : ¬ (sensorText query).isEmpty = true := by
    intro empty
    have text := sensorText_toList query
    rw [String.isEmpty_iff.mp empty] at text
    cases text
  have free : ',' ∉ (sensorText query).toList := by
    rw [sensorText_toList, List.mem_append, List.mem_cons, not_or, not_or]
    exact ⟨by decide, by decide, piece.1⟩
  rw [abslParseFlag, if_neg nonempty, List.splitOn_eq_singleton free]

/-- The expression cuts at the last colon that has something after it. -/
theorem abslParseFlag_sensor (query error : String) (present : query ≠ "")
    (piece : OnePiece query) :
    abslParseFlag (sensorText query) {} error =
      ⟨true, ⟨if ColonFree query then query else ""⟩, error⟩ := by
  have nonempty : query.toList ≠ [] := fun nothing => present (String.toList_eq_nil_iff.mp nothing)
  have members := anyChar_sensorText query piece
  have cut := fullMatch_separated_iff "sensor_query".toList query.toList (by decide) nonempty members
  rw [abslParseFlag_piece query error piece, parsePieces, matchQueryOverride, sensorText_toList]
  by_cases free : ColonFree query
  · rw [queryOverrideRegex, cut.mpr free]
    simp [parsePieces, free]
  · have possible : (fullMatch queryOverrideRegex
        ("sensor_query".toList ++ ':' :: query.toList)).isSome := by
      refine fullMatch_plus_isSome anyChar _ _ _ (by decide)
        (fun char member => members char (List.mem_append_left _ member)) ?_
      have last := fullMatch_plus_last anyChar query.toList nonempty
        (fun char member => members char (by simp [member]))
      rw [← List.singleton_append (l := query.toList), fullMatch_literal_append, last]
      rfl
    obtain ⟨captures, found⟩ := Option.isSome_iff_exists.mp possible
    obtain ⟨resource, id, rfl, split, -⟩ := fullMatch_separated_some _ _ found
    have other : String.ofList resource ≠ "sensor_query" := by
      intro same
      have name : resource = "sensor_query".toList := by rw [← same, String.toList_ofList]
      subst name
      have rest := (List.cons.inj (List.append_cancel_left split)).2
      rw [← rest] at found
      exact free (cut.mp found)
    rw [found]
    simp [parsePieces, free, other]

/-- The query is stored as it stands, and prints as the text it came from. -/
def Survives (query error : String) : Prop :=
  let parsed := abslParseFlag (sensorText query) {} error
  parsed.accepted = true ∧ parsed.overrides.sensorQuery = query ∧
    abslUnparseFlag parsed.overrides = sensorText query

/-- The printed overrides are read as the overrides. -/
def RoundTrips (overrides : RedfishQueryOverrides) (error : String) : Prop :=
  let parsed := abslParseFlag (abslUnparseFlag overrides) {} error
  parsed.accepted = true ∧ parsed.overrides = overrides

/-- A query survives the flag exactly when it has no colon but at its end. -/
theorem survives_iff_colonFree (query error : String) (piece : OnePiece query) :
    (query ≠ "" → (Survives query error ↔ ColonFree query)) ∧
      (RoundTrips ⟨query⟩ error ↔ ColonFree query) := by
  have stored (nonempty : query ≠ "") :
      (if ColonFree query then query else "") = query ↔ ColonFree query := by
    by_cases free : ColonFree query
    · simp [free]
    · simp [free, nonempty.symm]
  constructor
  · intro nonempty
    simp only [Survives, abslParseFlag_sensor query error nonempty piece, stored nonempty, true_and]
    constructor
    · exact fun survives => survives.1
    · intro free
      refine ⟨free, ?_⟩
      rw [if_pos free, abslUnparseFlag_sensor query nonempty]
  · by_cases nothing : query = ""
    · subst nothing
      exact iff_of_true ⟨rfl, rfl⟩ (by decide)
    · simp only [RoundTrips, abslUnparseFlag_sensor query nothing,
        abslParseFlag_sensor query error nothing piece, true_and, RedfishQueryOverrides.mk.injEq,
        stored nothing]

theorem survives_iff_colonFree_path : Survives "/redfish/v1/Chassis" "" :=
  ((survives_iff_colonFree "/redfish/v1/Chassis" "" (by decide)).1 (by decide)).mpr (by decide)

/-- A namespaced query id is taken for a resource, and is lost. -/
theorem survives_not_colon :
    ¬ ∀ query error, query ≠ "" → OnePiece query → Survives query error := by
  intro survives
  have piece : OnePiece "a:b" := by decide
  have stored := (survives "a:b" "" (by decide) piece).2.1
  rw [abslParseFlag_sensor "a:b" "" (by decide) piece] at stored
  exact absurd stored (by decide)

end RedfishQueryOverrides

end OcpDiag.HwInterface
