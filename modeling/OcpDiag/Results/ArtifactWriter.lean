import OcpDiag.Lib.CriticalSection
import OcpDiag.Results.IntIncrementer
import OcpDiag.Results.Messages

set_option autoImplicit false

namespace OcpDiag.Results

open ThreadPool CriticalSection

/-- The records of the file and the lines of the stream. There is no stream when the pointer
is null, and no file when the path is empty. -/
structure ArtifactWriter where
  outputFilepath : String
  outputStream : Option (List String)
  outputFile : List Pb.OutputArtifact := []
  sequenceNumber : IntIncrementer := {}

/-- What a writer depends on: whether the record writer takes an artifact, and protobuf's
conversion of an artifact to JSON. Artifacts differ in their sequence numbers, so every
pattern of failures is that of some function. -/
structure WriterBackend where
  writeRecord : Pb.OutputArtifact → Bool
  messageToJsonString : Pb.OutputArtifact → Except String String

namespace ArtifactWriter

def construct (outputFilepath : String) (outputStream : Option (List String)) :
    Outcome ArtifactWriter := do
  check (!outputFilepath.isEmpty || outputStream.isSome)
    "!output_filepath.empty() || output_stream_ != nullptr"
    ("Must specify a valid filepath or output stream (or both) when " ++
      "creating an artifact writer.")
  return { outputFilepath, outputStream }

variable (backend : WriterBackend)

/-- A record that is not taken is reported on the error output and lost. -/
def writeToFile (writer : ArtifactWriter) (artifact : Pb.OutputArtifact) : ArtifactWriter :=
  if writer.outputFilepath.isEmpty then writer
  else if backend.writeRecord artifact then
    { writer with outputFile := writer.outputFile ++ [artifact] }
  else writer

def writeToStream (writer : ArtifactWriter) (artifact : Pb.OutputArtifact) : ArtifactWriter :=
  match writer.outputStream with
  | none => writer
  | some lines =>
      match backend.messageToJsonString artifact with
      | .ok json => { writer with outputStream := some (lines ++ [json]) }
      | .error _ => writer

/-- The calls that take the writer's mutex. -/
inductive Call where
  | write (artifact : Pb.OutputVariant)
  | flush

/-- Where a thread is in its call. The artifact is the caller's own. -/
inductive Frame where
  | setTimestamp (artifact : Pb.OutputArtifact)
  | setSequenceNumber (artifact : Pb.OutputArtifact)
  | toFile (artifact : Pb.OutputArtifact)
  | toStream (artifact : Pb.OutputArtifact)
  | flushLocked

def enter : Call → Frame
  | .write artifact => .setTimestamp { artifact }
  | .flush => .flushLocked

/-- One statement of Write() or Flush(), with what the clock shows. The mutex is released
after the last one. A flush moves buffered records on and changes none. -/
def micro (now : Pb.Timestamp) (writer : ArtifactWriter) :
    Frame → Option (ArtifactWriter × Option Frame)
  | .setTimestamp artifact =>
      some (writer, some (.setSequenceNumber { artifact with timestamp := now }))
  | .setSequenceNumber artifact =>
      match writer.sequenceNumber.next with
      | .ok (number, counter) => some ({ writer with sequenceNumber := counter },
          some (.toFile { artifact with sequenceNumber := number }))
      | _ => none
  | .toFile artifact => some (writer.writeToFile backend artifact, some (.toStream artifact))
  | .toStream artifact => some (writer.writeToStream backend artifact, none)
  | .flushLocked => some (writer, none)

def monitor : Monitor ArtifactWriter Call Frame Pb.Timestamp where
  enter := enter
  micro := micro backend

end ArtifactWriter

/-- What a writer is for: the artifacts in the order of their numbers. The file and the
stream show it as far as writing to them succeeds. -/
structure ArtifactLog where
  written : List Pb.OutputArtifact := []
  sequenceNumber : IntIncrementer := {}

def ArtifactLog.write (log : ArtifactLog) (artifact : Pb.OutputVariant) (now : Pb.Timestamp) :
    Outcome ArtifactLog := do
  let (number, counter) ← log.sequenceNumber.next
  return { written := log.written ++ [⟨artifact, number, now⟩], sequenceNumber := counter }

theorem ArtifactLog.write_eq_ok (log next : ArtifactLog) (artifact : Pb.OutputVariant)
    (now : Pb.Timestamp) :
    log.write artifact now = .ok next ↔
      log.sequenceNumber.count < intMax ∧
      next = { written := log.written ++ [⟨artifact, log.sequenceNumber.count, now⟩]
               sequenceNumber := ⟨log.sequenceNumber.count + 1⟩ } := by
  let logged (number : Nat) (sequenceNumber : IntIncrementer) : ArtifactLog :=
    { written := log.written ++ [⟨artifact, number, now⟩], sequenceNumber }
  exact log.sequenceNumber.next_bind_eq_ok logged next

end OcpDiag.Results
