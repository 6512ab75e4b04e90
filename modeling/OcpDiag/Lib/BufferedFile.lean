import Mathlib.Data.List.Basic

set_option autoImplicit false

/- A file that is written at positions, and a writer that buffers its records. -/
namespace BufferedFile

variable {α : Type*}

/-- The records are written from the position on; what was never written reads as a hole. -/
def writeAt (content : List (Option α)) (position : Nat) (records : List α) : List (Option α) :=
  (content ++ List.replicate (position - content.length) none).take position ++
    records.map some ++ content.drop (position + records.length)

theorem writeAt_end (content : List (Option α)) (records : List α) :
    writeAt content content.length records = content ++ records.map some := by
  simp [writeAt]

/-- In a file that has become empty, what was before the position stays a hole. -/
theorem writeAt_nil (position : Nat) (records : List α) :
    writeAt [] position records = List.replicate position none ++ records.map some := by
  simp [writeAt]

/-- A writer and the records that it has handed to the file, which give its position. -/
structure Writer (α : Type*) where
  flushed : List α := []
  buffered : List α := []

def Writer.append (writer : Writer α) (record : α) : Writer α :=
  { writer with buffered := writer.buffered ++ [record] }

def Writer.flush (writer : Writer α) : Writer α where
  flushed := writer.flushed ++ writer.buffered
  buffered := []

/-- The file after a flush. -/
def Writer.flushInto (writer : Writer α) (content : List (Option α)) : List (Option α) :=
  writeAt content writer.flushed.length writer.buffered

/-- The file has what the writer has flushed. -/
def Writer.Holds (writer : Writer α) (content : List (Option α)) : Prop :=
  content = writer.flushed.map some

theorem Writer.holds_flush (writer : Writer α) (content : List (Option α))
    (holds : writer.Holds content) : writer.flush.Holds (writer.flushInto content) := by
  unfold Holds at holds ⊢
  have position : writer.flushed.length = content.length := by rw [holds, List.length_map]
  rw [flushInto, position, writeAt_end, holds, flush, List.map_append]

/-- What was flushed before the file became empty is not in it after a flush. -/
theorem Writer.not_mem_flushInto_nil (writer : Writer α) (record : α)
    (absent : record ∉ writer.buffered) : some record ∉ writer.flushInto [] := by
  rw [flushInto, writeAt_nil]
  simp [absent]

end BufferedFile
