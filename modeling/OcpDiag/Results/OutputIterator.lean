import OcpDiag.Results.ModelContents

set_option autoImplicit false

/- The iteration over the artifacts of a record file. -/
namespace OcpDiag.Results

theorem Outcome.bind_assoc {α β γ : Type} (first : Outcome α) (second : α → Outcome β)
    (third : β → Outcome γ) :
    (first >>= second >>= third) = (first >>= fun value => second value >>= third) := by
  cases first <;> rfl

/-- CHECK_OK(expression) << message, for a status that is not OK given by its text. -/
def checkOk (status : Option String) (expression message : String) : Outcome Unit :=
  match status with
  | none => .ok ()
  | some status => .die ("Check failed: " ++ expression ++ " is OK (" ++ status ++ ") " ++ message)

/-- A record file from where its reader stands: the records that can still be read, and the
status of the reader when there is none left. -/
structure RecordFile where
  records : List Pb.OutputArtifact
  status : Option String := none

def RecordFile.readRecord (file : RecordFile) : Option (Pb.OutputArtifact × RecordFile) :=
  match file.records with
  | [] => none
  | record :: rest => some (record, { file with records := rest })

/-- The members of `output_` are not initialized before the first record is read. -/
structure OutputIterator where
  reader : Option RecordFile := none
  output : Option OutputArtifact := none

namespace OutputIterator

def dereference (iterator : OutputIterator) : Outcome OutputArtifact :=
  match iterator.output with
  | some output => .ok output
  | none => .undefined

/-- `++`, which an invalid iterator does through a null pointer. -/
def advance (protobuf : Protobuf) (iterator : OutputIterator) : Outcome OutputIterator :=
  match iterator.reader with
  | none => .undefined
  | some reader =>
      match reader.readRecord with
      | none => do
          checkOk reader.status "reader_->status()" "Failed while reading recordio"
          return { iterator with reader := none }
      | some (record, reader) => do
          let output ← OutputArtifact.protoToStruct protobuf record
          return { reader := some reader, output := some output }

/-- The constructor, which reads the first record. -/
def make (protobuf : Protobuf) (file : Option RecordFile) : Outcome OutputIterator :=
  match file with
  | none => .ok {}
  | some file => advance protobuf { reader := some file }

/-- `operator bool`. -/
def isValid (iterator : OutputIterator) : Bool := iterator.reader.isSome

/-- `!=`, which cannot tell two valid iterators apart. -/
def differs (iterator other : OutputIterator) : Bool := iterator.isValid != other.isValid

variable {σ : Type}

/-- The turns of a range-based for loop, up to a number of them. -/
def turns (protobuf : Protobuf) (body : σ → OutputArtifact → Outcome σ) (stop : OutputIterator) :
    Nat → OutputIterator → σ → Outcome (Option σ)
  | 0, _, _ => .ok none
  | fuel + 1, iterator, state =>
      if iterator.differs stop then do
        let artifact ← iterator.dereference
        let state ← body state artifact
        let iterator ← iterator.advance protobuf
        turns protobuf body stop fuel iterator state
      else .ok (some state)

end OutputIterator

namespace OutputContainer

variable {σ : Type}

/-- `for (const OutputArtifact& artifact : OutputContainer(path)) body`, on the file at the path. -/
def forEach (protobuf : Protobuf) (file : RecordFile) (body : σ → OutputArtifact → Outcome σ)
    (fuel : Nat) (state : σ) : Outcome (Option σ) := do
  let first ← OutputIterator.make protobuf (some file)
  let stop ← OutputIterator.make protobuf none
  OutputIterator.turns protobuf body stop fuel first state

/-- Each record is converted when the loop comes to it, after the body has run on those before. -/
def visit (protobuf : Protobuf) (body : σ → OutputArtifact → Outcome σ) (state : σ) :
    List Pb.OutputArtifact → Outcome σ
  | [] => .ok state
  | record :: rest => do
      let artifact ← OutputArtifact.protoToStruct protobuf record
      let state ← body state artifact
      visit protobuf body state rest

/-- What becomes of the loop after the last record. -/
def finish (file : RecordFile) (state : σ) : Outcome (Option σ) := do
  checkOk file.status "reader_->status()" "Failed while reading recordio"
  return some state

end OutputContainer

namespace OutputIterator

variable {σ : Type} (protobuf : Protobuf) (body : σ → OutputArtifact → Outcome σ)

@[simp] theorem differs_invalid (iterator : OutputIterator) :
    iterator.differs {} = iterator.isValid := by
  unfold differs
  cases iterator.isValid <;> rfl

/-- At the end of the file the iterator becomes the one past the end, or the process dies. -/
theorem advance_nil (status : Option String) (output : Option OutputArtifact) :
    advance protobuf ⟨some ⟨[], status⟩, output⟩ = (do
      checkOk status "reader_->status()" "Failed while reading recordio"
      return ⟨none, output⟩) := rfl

theorem advance_cons (record : Pb.OutputArtifact) (rest : List Pb.OutputArtifact)
    (status : Option String) (output : Option OutputArtifact) :
    advance protobuf ⟨some ⟨record :: rest, status⟩, output⟩ = (do
      let artifact ← OutputArtifact.protoToStruct protobuf record
      return ⟨some ⟨rest, status⟩, some artifact⟩) := rfl

theorem turns_invalid (fuel : Nat) (output : Option OutputArtifact) (state : σ) :
    turns protobuf body {} (fuel + 1) ⟨none, output⟩ state = .ok (some state) := by
  rw [turns, differs_invalid, isValid]
  rfl

/-- One turn, at an artifact that has been read. -/
theorem turns_valid (fuel : Nat) (reader : RecordFile) (artifact : OutputArtifact) (state : σ) :
    turns protobuf body {} (fuel + 1) ⟨some reader, some artifact⟩ state = (do
      let state ← body state artifact
      let iterator ← advance protobuf ⟨some reader, some artifact⟩
      turns protobuf body {} fuel iterator state) := by
  rw [turns, differs_invalid, isValid]
  rfl

end OutputIterator

namespace OutputContainer

open OutputIterator

variable {σ : Type} (protobuf : Protobuf) (body : σ → OutputArtifact → Outcome σ)

/-- From an iterator on, the loop goes through what its `++` still reads. -/
theorem advance_turns (records : List Pb.OutputArtifact) (status : Option String)
    (output : Option OutputArtifact) (fuel : Nat) (enough : records.length < fuel) (state : σ) :
    (do let iterator ← advance protobuf ⟨some ⟨records, status⟩, output⟩
        turns protobuf body {} fuel iterator state) =
      (do let state ← visit protobuf body state records
          finish ⟨records, status⟩ state) := by
  induction records generalizing output fuel state with
  | nil =>
      obtain ⟨fuel, rfl⟩ := Nat.exists_eq_add_one_of_ne_zero (Nat.ne_of_gt enough)
      rw [advance_nil, Outcome.bind_assoc]
      simp only [visit, Outcome.ok_bind, finish, Outcome.pure_eq_ok, turns_invalid]
  | cons record rest ih =>
      obtain ⟨fuel, rfl⟩ := Nat.exists_eq_add_one_of_ne_zero (Nat.ne_of_gt (by omega : 0 < fuel))
      have left : rest.length < fuel := by
        rw [List.length_cons] at enough
        omega
      rw [advance_cons, Outcome.bind_assoc, visit, Outcome.bind_assoc]
      congr 1
      funext artifact
      rw [Outcome.pure_eq_ok, Outcome.ok_bind, turns_valid, Outcome.bind_assoc]
      congr 1
      funext state
      exact ih (some artifact) fuel left state

theorem forEach_eq (file : RecordFile) (fuel : Nat) (enough : file.records.length < fuel)
    (state : σ) :
    forEach protobuf file body fuel state = (do
      let state ← visit protobuf body state file.records
      finish file state) :=
  advance_turns protobuf body file.records file.status none fuel enough state

/-- Building the model is such a loop. -/
theorem visit_handleOutputArtifact (builder : ModelBuilder) (records : List Pb.OutputArtifact) :
    visit protobuf ModelBuilder.handleOutputArtifact builder records =
      builder.handleRecords protobuf records := by
  induction records generalizing builder with
  | nil => rfl
  | cons record rest ih => simp only [visit, ModelBuilder.handleRecords, ih]

/-- Where every record can be converted, the body sees the artifacts in their order. -/
theorem visit_of_iterates {records : List Pb.OutputArtifact} {artifacts : List OutputArtifact}
    (iterated : ModelBuilder.Iterates protobuf records artifacts) (state : σ) :
    visit protobuf body state records = artifacts.foldlM body state := by
  induction iterated generalizing state with
  | nil => rfl
  | cons converted _ ih =>
      rw [visit, converted, Outcome.ok_bind, List.foldlM_cons]
      congr 1
      funext state
      exact ih state

theorem visit_ne_undefined (defined : ∀ state artifact, body state artifact ≠ .undefined)
    (records : List Pb.OutputArtifact) (state : σ) :
    visit protobuf body state records ≠ .undefined := by
  induction records generalizing state with
  | nil => exact fun same => by cases same
  | cons record rest ih =>
      refine Outcome.bind_ne_undefined _ _ (OutputArtifact.protoToStruct_ne_undefined _ _) ?_
      exact fun artifact => Outcome.bind_ne_undefined _ _ (defined state artifact) ih

theorem finish_ne_undefined (file : RecordFile) (state : σ) : finish file state ≠ .undefined := by
  unfold finish checkOk
  cases file.status <;> exact fun same => by cases same

/-- A range-based for loop over the container of a file takes each record once, in order, and
converts it after the body has run on those before it. It then ends, or the process dies with the
status of the reader. -/
theorem forEach_reads_file {σ : Type} (protobuf : Protobuf) (file : RecordFile) (fuel : Nat)
    (enough : file.records.length < fuel) (body : σ → OutputArtifact → Outcome σ) (state : σ) :
    forEach protobuf file body fuel state =
        (visit protobuf body state file.records >>= finish file) ∧
    ((∀ state artifact, body state artifact ≠ .undefined) →
      forEach protobuf file body fuel state ≠ .undefined) ∧
    (∀ artifacts, ModelBuilder.Iterates protobuf file.records artifacts → file.status = none →
      forEach protobuf file body fuel state = some <$> artifacts.foldlM body state) ∧
    (∀ builder, forEach protobuf file ModelBuilder.handleOutputArtifact fuel builder =
      (builder.handleRecords protobuf file.records >>= finish file)) := by
  have loop := forEach_eq protobuf body file fuel enough state
  refine ⟨loop, fun defined => ?_, fun artifacts iterated closed => ?_, fun builder => ?_⟩
  · rw [loop]
    exact Outcome.bind_ne_undefined _ _ (visit_ne_undefined protobuf body defined _ _)
      (finish_ne_undefined file)
  · rw [loop, visit_of_iterates protobuf body iterated]
    simp only [finish, closed, checkOk, Outcome.ok_bind, Outcome.pure_eq_ok]
    cases artifacts.foldlM body state <;> rfl
  · rw [forEach_eq protobuf _ file fuel enough, visit_handleOutputArtifact]

/-- Counting the artifacts of a file that has been closed, and of one that has been cut off. -/
theorem forEach_reads_file_sampleContainer :
    forEach sampleProtobuf ⟨sampleContainer, none⟩ (fun count _ => .ok (count + 1)) 7 0 =
        .ok (some 6) ∧
      forEach sampleProtobuf ⟨sampleContainer, some "DATA_LOSS"⟩
          (fun count _ => .ok (count + 1)) 7 0 =
        .die ("Check failed: reader_->status() is OK (DATA_LOSS) " ++
          "Failed while reading recordio") := by
  constructor
  · rw [(forEach_reads_file sampleProtobuf ⟨sampleContainer, none⟩ 7 (by decide)
      (fun count _ => .ok (count + 1)) 0).2.2.1 sampleStream ?_ rfl]
    · rfl
    · exact .cons rfl (.cons rfl (.cons rfl (.cons rfl (.cons rfl (.cons rfl .nil)))))
  · rw [(forEach_reads_file sampleProtobuf ⟨sampleContainer, some "DATA_LOSS"⟩ 7 (by decide)
      (fun count _ => .ok (count + 1)) 0).1]
    rfl

end OutputContainer

end OcpDiag.Results
