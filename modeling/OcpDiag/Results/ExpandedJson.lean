import OcpDiag.Lib.JsonText
import OcpDiag.Lib.Replacement
import OcpDiag.Results.ArtifactWriter

set_option autoImplicit false

/- WriteToStream() in the build with EXPAND_JSONL. -/
namespace OcpDiag.Results

open JsonStrings JsonText Replacement

/-- Both calls of absl::StrReplaceAll(). -/
def expandJson (json : String) : String :=
  String.ofList (replaceAll ['\\', 'n'] ['\\', '\\', 'n']
    (replaceAll ['\\', '\\', 'n'] ['\\', 'n'] json.toList))

def ArtifactWriter.writeToStreamExpanded (backend : WriterBackend) (writer : ArtifactWriter)
    (artifact : Pb.OutputArtifact) : ArtifactWriter :=
  match writer.outputStream with
  | none => writer
  | some lines =>
      match backend.messageToJsonString artifact with
      | .ok json => { writer with outputStream := some (lines ++ [expandJson json]) }
      | .error _ => writer

theorem expandJson_toList (json : String) :
    (expandJson json).toList = doubleLone '\\' 'n' false json.toList := by
  rw [expandJson, String.toList_ofList, doubled_halved '\\' 'n' (by decide)]

/-- The pieces of a text in which a newline is escaped as `\n` and a backslash as two. -/
def plainPiece (piece : List Char) : Option Char :=
  (pieceChar piece).filter fun char =>
    (char ≠ '\n' || piece = ['\\', 'n']) && (char ≠ '\\' || piece = ['\\', '\\'])

/-- Each newline becomes a backslash and the letter. -/
def escapeNewlines (chars : List Char) : List Char :=
  chars.flatMap fun char => if char = '\n' then ['\\', 'n'] else [char]

/-- The newlines that follow no backslash are escaped. -/
def escapeLone (slashed : Bool) : List Char → List Char
  | [] => []
  | char :: rest =>
      if char = '\n' ∧ slashed = false then '\\' :: 'n' :: escapeLone false rest
      else char :: escapeLone (char = '\\') rest

theorem plainPiece_eq_some {piece : List Char} {char : Char} :
    plainPiece piece = some char ↔
      Piece piece char ∧ (char = '\n' → piece = ['\\', 'n']) ∧
        (char = '\\' → piece = ['\\', '\\']) := by
  rw [plainPiece, Option.filter_eq_some_iff, pieceChar_eq_some]
  simp [imp_iff_not_or]

theorem codeUnit_notSlash {digits : List Char} {unit : Nat} (read : codeUnit digits = some unit) :
    ∀ char ∈ digits, char ≠ '\\' := by
  obtain ⟨a, b, c, d, rfl⟩ := List.length_eq_four.mp (codeUnit_length read)
  have slash : hexDigit '\\' = none := rfl
  simp only [List.forall_mem_cons]
  refine ⟨?_, ?_, ?_, ?_, by simp⟩
  all_goals
    rintro rfl
    simp [codeUnit, slash] at read

/-- Only pieces that stand for a newline or a backslash have a backslash before an `n` or at their
end. -/
theorem doubleLone_piece (slashed : Bool) (piece rest : List Char) (char : Char)
    (stands : Piece piece char) (notNewline : char ≠ '\n') (notSlash : char ≠ '\\') :
    doubleLone '\\' 'n' slashed (piece ++ rest) = piece ++ doubleLone '\\' 'n' false rest := by
  have escape : ∀ marked letter more, letter ≠ '\\' → letter ≠ 'n' →
      doubleLone '\\' 'n' marked ('\\' :: letter :: more) =
        '\\' :: letter :: doubleLone '\\' 'n' false more := by
    intro marked letter more other notLetter
    rw [doubleLone, if_neg (by simp [notLetter]), doubleLone_other _ _ _ _ _ other]
  cases stands with
  | itself _ alone => exact doubleLone_other '\\' 'n' slashed char rest notSlash
  | short letter _ stood =>
      refine escape slashed letter rest ?_ ?_
      · rintro rfl
        exact notSlash (Option.some.inj stood).symm
      · rintro rfl
        exact notNewline (Option.some.inj stood).symm
  | unicode digits unit read whole =>
      rw [List.cons_append, List.cons_append, escape slashed 'u' _ (by decide) (by decide),
        doubleLone_others _ _ _ _ (codeUnit_notSlash read)]
      rfl
  | surrogates high low first second firstRead secondRead leads trails =>
      have lower : doubleLone '\\' 'n' false ('\\' :: 'u' :: (low ++ rest)) =
          '\\' :: 'u' :: (low ++ doubleLone '\\' 'n' false rest) := by
        rw [escape false 'u' _ (by decide) (by decide),
          doubleLone_others _ _ _ _ (codeUnit_notSlash secondRead)]
      rw [List.cons_append, List.cons_append, escape slashed 'u' _ (by decide) (by decide),
        List.append_assoc, doubleLone_others _ _ _ _ (codeUnit_notSlash firstRead),
        List.cons_append, List.cons_append, lower]
      simp

theorem spells_doubleLone (raw chars : List Char) (spells : SpellsBy plainPiece raw chars)
    (slashed : Bool) :
    Spells (doubleLone '\\' 'n' slashed raw) (escapeLone slashed chars) := by
  induction spells generalizing slashed with
  | nil => exact .nil
  | cons piece rest char chars first others ih =>
      obtain ⟨stands, newline, slash⟩ := plainPiece_eq_some.mp first
      by_cases isNewline : char = '\n'
      · obtain rfl := newline isNewline
        subst isNewline
        have letter : ∀ marked, doubleLone '\\' 'n' marked ('n' :: rest) =
            'n' :: doubleLone '\\' 'n' false rest :=
          fun marked => doubleLone_other '\\' 'n' marked 'n' rest (by decide)
        cases slashed with
        | false =>
            have doubled : doubleLone '\\' 'n' false (['\\', 'n'] ++ rest) =
                ['\\', '\\'] ++ (['n'] ++ doubleLone '\\' 'n' false rest) :=
              congrArg (['\\', '\\'] ++ ·) (letter true)
            rw [doubled]
            exact .cons _ _ _ _ (.short '\\' '\\' rfl) (.cons _ _ _ _ (.itself 'n' rfl) (ih false))
        | true =>
            have kept : doubleLone '\\' 'n' true (['\\', 'n'] ++ rest) =
                ['\\', 'n'] ++ doubleLone '\\' 'n' false rest :=
              congrArg ('\\' :: ·) (letter true)
            rw [kept]
            exact .cons _ _ _ _ (.short 'n' '\n' rfl) (ih false)
      by_cases isSlash : char = '\\'
      · obtain rfl := slash isSlash
        subst isSlash
        have kept : doubleLone '\\' 'n' slashed (['\\', '\\'] ++ rest) =
            ['\\', '\\'] ++ doubleLone '\\' 'n' true rest := by
          simp [doubleLone]
        rw [kept]
        exact .cons _ _ _ _ (.short '\\' '\\' rfl) (ih true)
      · rw [doubleLone_piece slashed piece rest char stands isNewline isSlash, escapeLone,
          if_neg fun all => isNewline all.1, decide_eq_false isSlash]
        exact .cons piece _ char _ stands (ih false)

theorem rewritesStrings : RewritesStrings plainPiece (doubleLone '\\' 'n' false)
    (escapeLone false) where
  nil := rfl
  outside char rest other := doubleLone_other '\\' 'n' false char rest other
  closing raw rest := doubleLone_append '\\' 'n' false raw rest '"' (by decide) (by decide)
  inside raw chars spells := spells_doubleLone raw chars spells false

/-- Every newline is escaped where none follows a backslash. -/
theorem escapeLone_eq_iff (chars : List Char) (slashed : Bool) :
    escapeLone slashed chars = escapeNewlines chars ↔
      ¬ (slashed = true ∧ chars.head? = some '\n') ∧ ¬ ['\\', '\n'] <:+: chars := by
  induction chars generalizing slashed with
  | nil => simp [escapeLone, escapeNewlines]
  | cons char rest ih =>
      have starts : ['\\', '\n'] <+: char :: rest ↔ char = '\\' ∧ rest.head? = some '\n' := by
        cases rest with
        | nil => simp [List.cons_prefix_cons]
        | cons next rest => simp [List.cons_prefix_cons, eq_comm]
      rw [List.infix_cons_iff, starts]
      by_cases isNewline : char = '\n'
      · subst isNewline
        have escaped : escapeNewlines ('\n' :: rest) = '\\' :: 'n' :: escapeNewlines rest := rfl
        rw [escaped, escapeLone]
        cases slashed with
        | false => simpa using ih false
        | true => simp
      · have kept : escapeNewlines (char :: rest) = char :: escapeNewlines rest := by
          simp [escapeNewlines, isNewline]
        rw [kept, escapeLone, if_neg fun all => isNewline all.1, List.cons.injEq,
          and_iff_right rfl, ih]
        simp [isNewline, not_or]

theorem escapeNewlines_none (chars : List Char) : '\n' ∉ escapeNewlines chars := by
  unfold escapeNewlines
  rw [List.mem_flatMap]
  rintro ⟨char, -, inside⟩
  split at inside
  · exact absurd inside (by decide)
  · next other => exact other (List.mem_singleton.mp inside).symm

/-- The JSON that the backend prints for an artifact denotes the artifact's document, with a
newline escaped as `\n` and a backslash as two. -/
def PrintsPlainly (backend : WriterBackend) (document : Pb.OutputArtifact → Json) : Prop :=
  ∀ artifact json, backend.messageToJsonString artifact = .ok json →
    parse plainPiece json.toList = some (document artifact)

/-- One more text is in the stream. It denotes the document with its newlines escaped, and no
string that is in it has a newline. -/
def ExpandsTo (document : Json) (lines : List String) (after : ArtifactWriter) : Prop :=
  ∃ text, after.outputStream = some (lines ++ [text]) ∧
    parse pieceChar text.toList = some (document.mapStrings escapeNewlines) ∧
    ∀ value, parse pieceChar text.toList = some value → ∀ chars ∈ value.strings, '\n' ∉ chars

theorem parse_expandJson (json : String) (document : Json)
    (denotes : parse plainPiece json.toList = some document) :
    parse pieceChar (expandJson json).toList = some (document.mapStrings (escapeLone false)) := by
  rw [expandJson_toList]
  exact parse_rewrite _ _ _ rewritesStrings _ _ denotes

def logArtifact (message : String) : Pb.OutputArtifact where
  artifact := .testRunArtifact (.log { message })
  sequenceNumber := 1

def logDocument (message : String) : Json :=
  .object [("sequenceNumber".toList, .number ['1']),
    ("timestamp".toList, .string "1970-01-01T00:00:00Z".toList),
    ("testRunArtifact".toList, .object [("log".toList, .object
      [("severity".toList, .string "INFO".toList), ("message".toList, .string message.toList)])])]

/-- The text printed for the artifact, with the message as it stands between the quotes. -/
def printedLog (raw : String) : String :=
  "\x7b\n \"sequenceNumber\": 1,\n \"timestamp\": \"1970-01-01T00:00:00Z\",\n" ++
    " \"testRunArtifact\": \x7b\n  \"log\": \x7b\n   \"severity\": \"INFO\",\n" ++
    "   \"message\": \"" ++ raw ++ "\"\n  \x7d\n \x7d\n\x7d\n"

def logBackend (raw : String) : WriterBackend where
  writeRecord _ := true
  messageToJsonString _ := .ok (printedLog raw)

theorem logBackend_plainly (raw message : String)
    (denotes : parse plainPiece (printedLog raw).toList = some (logDocument message)) :
    PrintsPlainly (logBackend raw) (fun _ => logDocument message) := by
  intro artifact json converted
  obtain rfl : printedLog raw = json := Except.ok.inj converted
  exact denotes

set_option maxRecDepth 2000 in
theorem parse_printedLog_newline :
    parse plainPiece (printedLog "a\\nb").toList = some (logDocument "a\nb") := by
  unfold printedLog logDocument
  simp only [String.toList_append]
  repeat rw [String.toList_ofList]
  rfl

set_option maxRecDepth 2000 in
theorem parse_printedLog_slash :
    parse plainPiece (printedLog "\\\\\\n").toList = some (logDocument "\\\n") := by
  unfold printedLog logDocument
  simp only [String.toList_append]
  repeat rw [String.toList_ofList]
  rfl

/-- The newlines alone are changed, and all of them, unless one follows a backslash. -/
theorem writeToStreamExpanded_iff (backend : WriterBackend) (document : Pb.OutputArtifact → Json)
    (plainly : PrintsPlainly backend document) (writer : ArtifactWriter) (lines : List String)
    (stream : writer.outputStream = some lines) (artifact : Pb.OutputArtifact) (json : String)
    (converted : backend.messageToJsonString artifact = .ok json) :
    ExpandsTo (document artifact) lines (writer.writeToStreamExpanded backend artifact) ↔
      ∀ chars ∈ (document artifact).strings, ¬ ['\\', '\n'] <:+: chars := by
  have denotes := parse_expandJson json _ (plainly artifact json converted)
  have all : ∀ chars, escapeLone false chars = escapeNewlines chars ↔
      ¬ ['\\', '\n'] <:+: chars := fun chars => by simp [escapeLone_eq_iff]
  have written : (writer.writeToStreamExpanded backend artifact).outputStream =
      some (lines ++ [expandJson json]) := by
    simp only [ArtifactWriter.writeToStreamExpanded, stream, converted]
  simp only [← all]
  rw [← Json.mapStrings_eq_iff]
  constructor
  · rintro ⟨text, added, escaped, -⟩
    obtain rfl : expandJson json = text := by
      simpa [written] using added
    exact Option.some.inj (denotes.symm.trans escaped)
  · intro same
    rw [same] at denotes
    refine ⟨_, written, denotes, ?_⟩
    intro value parsed chars inside
    obtain rfl := Option.some.inj (parsed.symm.trans denotes)
    rw [Json.strings_mapStrings] at inside
    obtain ⟨original, -, rfl⟩ := List.mem_map.mp inside
    exact escapeNewlines_none original

theorem writeToStreamExpanded_newline :
    ExpandsTo (logDocument "a\nb") [] (ArtifactWriter.writeToStreamExpanded (logBackend "a\\nb")
      { outputFilepath := "", outputStream := some [] } (logArtifact "a\nb")) := by
  refine (writeToStreamExpanded_iff _ _ (logBackend_plainly _ _ parse_printedLog_newline) _ []
    rfl _ _ rfl).mpr ?_
  simp only [logDocument, Json.strings, Json.memberStrings]
  repeat rw [String.toList_ofList]
  decide

/-- The message of a backslash and a newline keeps its newline. -/
theorem expandsTo_not_slash : ¬ ∀ backend document, PrintsPlainly backend document →
    ∀ (writer : ArtifactWriter) (lines : List String), writer.outputStream = some lines →
    ∀ (artifact : Pb.OutputArtifact) (json : String),
      backend.messageToJsonString artifact = .ok json →
        ExpandsTo (document artifact) lines (writer.writeToStreamExpanded backend artifact) := by
  intro expands
  obtain ⟨text, added, -, nothing⟩ :=
    expands _ _ (logBackend_plainly _ _ parse_printedLog_slash)
      { outputFilepath := "", outputStream := some [] } [] rfl (logArtifact "\\\n") _ rfl
  obtain rfl : expandJson (printedLog "\\\\\\n") = text :=
    List.singleton_inj.mp (Option.some.inj added)
  have denotes := parse_expandJson _ _ parse_printedLog_slash
  refine nothing _ denotes ['\\', '\n'] ?_ (by decide)
  rw [Json.strings_mapStrings, List.mem_map]
  refine ⟨"\\\n".toList, ?_, rfl⟩
  simp [logDocument, Json.strings, Json.memberStrings]

end OcpDiag.Results
