import OcpDiag.Lib.JsonStrings
import OcpDiag.Results.MainArgs
import OcpDiag.Results.StructToProto

set_option autoImplicit false

/- The parameters of a test run as the command line gives them. -/
namespace OcpDiag.Results.MainArgs

open JsonStrings

/-- The flags without their dashes, each with the argument after it. -/
def parameters : List (List Char) → List Member
  | flag :: value :: rest => (withoutDashes id flag, value) :: parameters rest
  | _ => []

/-- The parser of protobuf takes the text of an object whose names are distinct. -/
def AcceptsObjects (protobuf : Protobuf) : Prop :=
  ∀ text members, ObjectText text members → (members.map Prod.fst).Nodup →
    ∃ message, protobuf.jsonStringToMessage (String.ofList text) = .ok message

/-- The text is JSON for the parameters, and a test run can be started with it. -/
def DenotesParameters (protobuf : Protobuf) (program : List Char) (args : List (List Char)) : Prop :=
  ∃ text moved, parameterJsonFromMainArgs id (program :: args) = .ok (text, moved) ∧
    (∃ members, ObjectText text members ∧ members.Perm (parameters args)) ∧
    ∀ start : TestRunStart, start.parametersJson = String.ofList text →
      (∃ metadata, jsonToProtoOrDie protobuf start.metadataJson = .ok metadata) →
      ∃ proto, start.structToProto protobuf = .ok proto

theorem parameters_arguments (pairs : List (List Char × List Char)) :
    parameters (arguments pairs) = pairs.map (moveFlag id) := by
  induction pairs with
  | nil => rfl
  | cons pair pairs ih => exact congrArg (moveFlag id pair :: ·) ih

theorem unescaped_args_iff (args : List (List Char)) :
    args.all (·.all unescaped) = true ↔ ∀ arg ∈ args, ∀ char ∈ arg, unescaped char = true := by
  simp only [List.all_eq_true]

/-- The dashes need no escape themselves. -/
theorem unescaped_withoutDashes (flag : List Char) :
    (∀ char ∈ withoutDashes id flag, unescaped char = true) ↔
      ∀ char ∈ flag, unescaped char = true := by
  have dashes : ∀ char ∈ flag.takeWhile (· = id '-'), unescaped char = true := by
    intro char member
    have dash : char = '-' := by simpa using List.mem_takeWhile_imp member
    rw [dash]
    decide
  have parts : flag = flag.takeWhile (· = id '-') ++ withoutDashes id flag :=
    List.takeWhile_append_dropWhile.symm
  constructor
  · intro rest char member
    rw [parts] at member
    exact (List.mem_append.mp member).elim (dashes char) (rest char)
  · intro all char member
    exact all char ((List.dropWhile_sublist _).subset member)

theorem plain_arguments (pairs : List (List Char × List Char)) :
    (∀ member ∈ pairs.map (moveFlag id), PlainMember member) ↔
      ∀ arg ∈ arguments pairs, ∀ char ∈ arg, unescaped char = true := by
  induction pairs with
  | nil => simp [arguments]
  | cons pair pairs ih =>
      have split : arguments (pair :: pairs) = pair.1 :: pair.2 :: arguments pairs := rfl
      rw [List.map_cons, List.forall_mem_cons, ih, split, List.forall_mem_cons,
        List.forall_mem_cons, PlainMember, moveFlag, unescaped_withoutDashes, and_assoc]

theorem parameterJson_text (program : List Char) (pairs : List (List Char × List Char)) :
    parameterJsonFromMainArgs id (program :: arguments pairs) =
      .ok ('\x7b' :: ([','].intercalate ((pairs.map (moveFlag id)).map plainText) ++ ['\x7d']),
        program :: arguments (pairs.map (moveFlag id))) :=
  parameterJsonFromMainArgs_arguments id program pairs

theorem structToProto_of_parameters (protobuf : Protobuf) (start : TestRunStart)
    (message metadata : Pb.Struct)
    (parsed : protobuf.jsonStringToMessage start.parametersJson = .ok message)
    (rest : jsonToProtoOrDie protobuf start.metadataJson = .ok metadata) :
    ∃ proto, start.structToProto protobuf = .ok proto := by
  have parameters : ∃ proto, jsonToProtoOrDie protobuf start.parametersJson = .ok proto := by
    unfold jsonToProtoOrDie
    split
    · exact ⟨_, rfl⟩
    · exact ⟨message, by rw [parsed]⟩
  obtain ⟨proto, converted⟩ := parameters
  unfold TestRunStart.structToProto
  rw [converted, rest]
  exact ⟨_, rfl⟩

theorem plain_of_denoted (protobuf : Protobuf) (program : List Char)
    (pairs : List (List Char × List Char))
    (distinct : ((parameters (arguments pairs)).map Prod.fst).Nodup)
    (denoted : DenotesParameters protobuf program (arguments pairs)) :
    ∀ arg ∈ arguments pairs, ∀ char ∈ arg, unescaped char = true := by
  obtain ⟨text, moved, made, ⟨members, denotes, exactly⟩, -⟩ := denoted
  rw [parameterJson_text] at made
  obtain ⟨rfl, -⟩ := Prod.mk.inj (Outcome.ok.inj made)
  rw [parameters_arguments] at distinct exactly
  rw [← plain_arguments]
  exact plain_of_denotes _ members distinct.of_map denotes fun pair => exactly.mem_iff.mpr

/-- The text says what the command line says exactly when no argument has a character that JSON
escapes. -/
theorem denotesParameters_iff (protobuf : Protobuf) (accepts : AcceptsObjects protobuf)
    (program : List Char) (args : List (List Char)) (even : Even args.length)
    (distinct : ((parameters args).map Prod.fst).Nodup) :
    DenotesParameters protobuf program args ↔ ∀ arg ∈ args, ∀ char ∈ arg, unescaped char = true := by
  obtain ⟨pairs, rfl⟩ := arguments_of_even args even
  refine ⟨plain_of_denoted protobuf program pairs distinct, fun plain => ?_⟩
  have members := objectText_plain _ ((plain_arguments pairs).mpr plain)
  rw [parameters_arguments] at distinct
  obtain ⟨message, parsed⟩ := accepts _ _ members distinct
  refine ⟨_, _, parameterJson_text program pairs, ⟨_, members, ?_⟩, ?_⟩
  · rw [parameters_arguments]
  · intro start given metadata
    obtain ⟨metadata, rest⟩ := metadata
    exact structToProto_of_parameters protobuf start message metadata (given ▸ parsed) rest

/-- A JSON library that reads one object in full. -/
def flagProtobuf : Protobuf where
  jsonStringToMessage text :=
    if text = "\x7b\"verbose\":\"2\"\x7d" then .ok ⟨[("verbose", .stringValue "2")]⟩ else .ok {}
  messageToJsonString := sampleProtobuf.messageToJsonString
  timevalToTimestamp := sampleProtobuf.timevalToTimestamp
  timestampToTimeval := sampleProtobuf.timestampToTimeval

theorem flagProtobuf_accepts : AcceptsObjects flagProtobuf := by
  intro text members _ _
  simp only [flagProtobuf]
  split
  · exact ⟨_, rfl⟩
  · exact ⟨_, rfl⟩

theorem denotesParameters_iff_verbose :
    DenotesParameters flagProtobuf "diag".toList ["--verbose".toList, "2".toList] :=
  (denotesParameters_iff flagProtobuf flagProtobuf_accepts "diag".toList
    ["--verbose".toList, "2".toList] (by decide) (by decide)).mpr ((unescaped_args_iff _).mp (by decide))

/-- A quotation mark is copied as it is. -/
theorem denotesParameters_not_quoted :
    ¬ ∀ (protobuf : Protobuf) (program : List Char) (args : List (List Char)),
      AcceptsObjects protobuf → Even args.length → ((parameters args).map Prod.fst).Nodup →
      DenotesParameters protobuf program args := by
  intro denoted
  have quoted := denoted flagProtobuf "diag".toList ["--label".toList, "a\"b".toList]
    flagProtobuf_accepts (by decide) (by decide)
  have plain := plain_of_denoted flagProtobuf "diag".toList [("--label".toList, "a\"b".toList)]
    (by decide) quoted
  exact absurd ((unescaped_args_iff _).mpr plain) (by decide)

end OcpDiag.Results.MainArgs
