import OcpDiag.Lib.Text
import OcpDiag.HwInterface.FlagRoundTrip
import OcpDiag.HwInterface.RasErrors

set_option autoImplicit false

/- The reports of `ras-mc-ctl --errors` that are printed from records, and what is read back. -/
namespace OcpDiag.HwInterface.RasDaemonErrors

open GreedyPattern

def leapYear (year : Nat) : Bool :=
  year % 4 = 0 && (year % 100 ≠ 0 || year % 400 = 0)

def daysInMonth (year month : Nat) : Nat :=
  if month = 2 then (if leapYear year then 29 else 28)
  else if month = 4 || month = 6 || month = 9 || month = 11 then 30
  else 31

/-- The days from the year 0, a leap year, to the first day of the year. -/
def daysBeforeYear (year : Nat) : Nat :=
  365 * year + (year + 3) / 4 - (year + 99) / 100 + (year + 399) / 400

/-- A date and a time with an offset from UTC. -/
structure CivilTime where
  year : Nat
  month : Nat
  day : Nat
  hour : Nat
  minute : Nat
  second : Nat
  /-- The sign of the offset. -/
  ahead : Bool
  offsetHours : Nat
  offsetMinutes : Nat
  date : year < 10000 ∧ 1 ≤ month ∧ month ≤ 12 ∧ 1 ≤ day ∧ day ≤ daysInMonth year month
  time : hour < 24 ∧ minute < 60 ∧ second < 60
  offset : offsetHours < 24 ∧ offsetMinutes < 60

namespace CivilTime

/-- The instant, in seconds since the epoch. -/
def instant (civil : CivilTime) : Int :=
  let days : Nat := daysBeforeYear civil.year +
    ((List.range (civil.month - 1)).map (fun month => daysInMonth civil.year (month + 1))).sum +
    (civil.day - 1)
  let seconds : Nat := 3600 * civil.hour + 60 * civil.minute + civil.second
  let offset : Nat := 3600 * civil.offsetHours + 60 * civil.offsetMinutes
  86400 * ((days : Int) - (daysBeforeYear 1970 : Int)) + (seconds : Int) -
    (if civil.ahead then (offset : Int) else -(offset : Int))

/-- A number below 100 in two digits. -/
def twoDigits (value : Nat) : List Char := [(value / 10).digitChar, (value % 10).digitChar]

def dateText (civil : CivilTime) : List Char :=
  twoDigits (civil.year / 100) ++ twoDigits (civil.year % 100) ++ '-' :: twoDigits civil.month ++
    '-' :: twoDigits civil.day

def timeText (civil : CivilTime) : List Char :=
  twoDigits civil.hour ++ ':' :: twoDigits civil.minute ++ ':' :: twoDigits civil.second

def offsetText (civil : CivilTime) : List Char :=
  (if civil.ahead then '+' else '-') ::
    (twoDigits civil.offsetHours ++ twoDigits civil.offsetMinutes)

/-- In the form of `timeFormat`. -/
def text (civil : CivilTime) : String :=
  String.ofList (civil.dateText ++ ' ' :: (civil.timeText ++ ' ' :: civil.offsetText))

end CivilTime

inductive ErrorType where
  | corrected
  | uncorrected
  | fatal
  | info
  deriving DecidableEq, Repr

def ErrorType.text : ErrorType → String
  | .corrected => "Corrected"
  | .uncorrected => "Uncorrected"
  | .fatal => "Fatal"
  | .info => "Info"

/-- A part of a line that is not empty. -/
def LineText (text : String) : Prop := text.toList ≠ [] ∧ '\n' ∉ text.toList

instance (text : String) : Decidable (LineText text) := inferInstanceAs (Decidable (_ ∧ _))

/-- The text has none of the words around the label. -/
def WordFree (text : String) : Prop :=
  ¬ "at ".toList <:+: text.toList ∧ ¬ "location:".toList <:+: text.toList

instance (text : String) : Decidable (WordFree text) := inferInstanceAs (Decidable (_ ∧ _))

theorem wordFree_of_letters (text : String) (noA : 'a' ∉ text.toList) (noL : 'l' ∉ text.toList) :
    WordFree text :=
  ⟨fun word => noA (word.subset (by decide)), fun word => noL (word.subset (by decide))⟩

/-- A record of the report. -/
structure Record where
  id : Nat
  civil : CivilTime
  count : Int
  errorType : ErrorType
  message : String
  label : String
  location : String
  countFits : -2 ^ 31 ≤ count ∧ count < 2 ^ 31
  messageLine : LineText message
  labelLine : LineText label ∧ WordFree label
  locationLine : LineText location ∧ WordFree location

namespace Record

def chars (record : Record) : List Char :=
  (toString record.id).toList ++ ' ' :: (record.civil.dateText ++ ' ' ::
    (record.civil.timeText ++ ' ' :: (record.civil.offsetText ++ ' ' ::
    ((toString record.count).toList ++ ' ' :: (record.errorType.text.toList ++
    (" error(s): ".toList ++ (record.message.toList ++ (" at ".toList ++
    (record.label.toList ++ (" location: ".toList ++ record.location.toList))))))))))

def line (record : Record) : String := String.ofList record.chars

/-- What the record stands for; an Info record is no error. -/
def errors (record : Record) : List Error :=
  let error (isCorrectable isFatal : Bool) : Error :=
    ⟨record.civil.instant, record.count, isCorrectable, isFatal, record.label, record.line⟩
  match record.errorType with
  | .corrected => [error true false]
  | .uncorrected => [error false false]
  | .fatal => [error false true]
  | .info => []

end Record

/-- The title, the records and an empty line, each with its newline. -/
def report (records : List Record) : String :=
  String.ofList (("Memory controller events:" :: (records.map Record.line ++ [""])).flatMap
    (fun line => line.toList ++ ['\n']))

theorem not_mem_of_all {within : Char → Bool} {text : List Char} {char : Char}
    (all : text.all within = true) (outside : within char = false) : char ∉ text := by
  intro member
  rw [List.all_eq_true.mp all char member] at outside
  cases outside

/-- A repetition between blanks takes the whole word. -/
theorem fullMatch_word (within : Char → Bool) (rest : List (Item Char)) (word left : List Char)
    (outside : within ' ' = false) (nonempty : word ≠ []) (free : ' ' ∉ word) :
    fullMatch (.plus within :: .literal [' '] :: rest) (word ++ ' ' :: left) =
      if word.all within then (fullMatch rest left).map (word :: ·) else none := by
  rw [fullMatch_plus_delimited within ' ' [] rest word left outside nonempty free]
  rw [← List.singleton_append (l := left), fullMatch_literal_append]

namespace CivilTime

theorem twoDigits_all (value : Nat) (fits : value < 100) :
    (twoDigits value).all Char.isDigit = true := by
  have tens : value / 10 < 10 := by omega
  have ones : value % 10 < 10 := by omega
  simp [twoDigits, Nat.isDigit_digitChar, tens, ones]

theorem year_fits (civil : CivilTime) : civil.year / 100 < 100 := by
  have bound := civil.date.1
  omega

theorem day_fits (civil : CivilTime) : civil.day < 100 := by
  have bound := civil.date.2.2.2.2
  unfold daysInMonth at bound
  split_ifs at bound <;> omega

theorem dateText_all (civil : CivilTime) :
    civil.dateText.all (fun char => char.isDigit || char = '-') = true := by
  have digits (value : Nat) (fits : value < 100) :
      ∀ char ∈ twoDigits value, char.isDigit = true :=
    List.all_eq_true.mp (twoDigits_all value fits)
  have months := civil.date.2.2.1
  have century := digits _ civil.year_fits
  have year := digits (civil.year % 100) (by omega)
  have month := digits civil.month (by omega)
  have day := digits _ civil.day_fits
  rw [List.all_eq_true]
  intro char member
  simp only [dateText, List.mem_append, List.mem_cons] at member
  grind

theorem timeText_all (civil : CivilTime) :
    civil.timeText.all (fun char => char.isDigit || char = ':') = true := by
  have digits (value : Nat) (fits : value < 60) :
      ∀ char ∈ twoDigits value, char.isDigit = true :=
    List.all_eq_true.mp (twoDigits_all value (by omega))
  obtain ⟨hours, minutes, seconds⟩ := civil.time
  have hour := digits civil.hour (by omega)
  have minute := digits _ minutes
  have second := digits _ seconds
  rw [List.all_eq_true]
  intro char member
  simp only [timeText, List.mem_append, List.mem_cons] at member
  grind

theorem offset_digits (civil : CivilTime) :
    ∀ char ∈ twoDigits civil.offsetHours ++ twoDigits civil.offsetMinutes,
      char.isDigit = true := by
  obtain ⟨hours, minutes⟩ := civil.offset
  intro char member
  rcases List.mem_append.mp member with hour | minute
  · exact List.all_eq_true.mp (twoDigits_all _ (by omega)) char hour
  · exact List.all_eq_true.mp (twoDigits_all _ (by omega)) char minute

/-- Only an offset with a plus has the characters of the pattern. -/
theorem offsetText_all (civil : CivilTime) :
    civil.offsetText.all (fun char => char.isDigit || char = '+') = civil.ahead := by
  have digits : (twoDigits civil.offsetHours ++ twoDigits civil.offsetMinutes).all
      (fun char => char.isDigit || char = '+') = true := by
    rw [List.all_eq_true]
    intro char member
    rw [offset_digits civil char member, Bool.true_or]
  rw [offsetText, List.all_cons, digits]
  cases civil.ahead <;> decide

theorem offsetText_signed (civil : CivilTime) :
    civil.offsetText.all (fun char => char.isDigit || char = '+' || char = '-') = true := by
  rw [offsetText, List.all_cons, Bool.and_eq_true, List.all_eq_true]
  constructor
  · cases civil.ahead <;> decide
  · intro char member
    rw [offset_digits civil char member, Bool.true_or, Bool.true_or]

end CivilTime

theorem toDigits_all (value : Nat) : (Nat.toDigits 10 value).all Char.isDigit = true := by
  rw [List.all_eq_true]
  intro char member
  exact Nat.isDigit_of_mem_toDigits (by omega) (by omega) member

theorem count_toList (count : Int) :
    (0 ≤ count ∧ (toString count).toList = Nat.toDigits 10 count.natAbs) ∨
      (count < 0 ∧ (toString count).toList = '-' :: Nat.toDigits 10 count.natAbs) := by
  cases count with
  | ofNat value => exact .inl ⟨Int.natCast_nonneg value, toString_toList value⟩
  | negSucc value =>
      have minus : toString (Int.negSucc value) = "-" ++ toString (value + 1) := rfl
      refine .inr ⟨Int.negSucc_lt_zero value, ?_⟩
      rw [minus, String.toList_append]
      exact congrArg ('-' :: ·) (Nat.toList_repr)

/-- Only a count that is not negative has digits alone. -/
theorem count_all (count : Int) :
    (toString count).toList.all Char.isDigit = decide (0 ≤ count) := by
  rcases count_toList count with ⟨sign, text⟩ | ⟨sign, text⟩
  · rw [text, toDigits_all, decide_eq_true sign]
  · rw [text, List.all_cons, decide_eq_false (by omega)]
    rfl

theorem count_signed (count : Int) :
    (toString count).toList.all (fun char => char.isDigit || char = '-') = true := by
  have digits : (Nat.toDigits 10 count.natAbs).all
      (fun char => char.isDigit || char = '-') = true := by
    rw [List.all_eq_true]
    intro char member
    rw [List.all_eq_true.mp (toDigits_all _) char member, Bool.true_or]
  rcases count_toList count with ⟨-, text⟩ | ⟨-, text⟩
  · rw [text, digits]
  · rw [text, List.all_cons, digits]
    rfl

theorem count_ne_nil (count : Int) : (toString count).toList ≠ [] := by
  rcases count_toList count with ⟨-, text⟩ | ⟨-, text⟩
  · rw [text]
    exact Nat.toDigits_ne_nil
  · rw [text]
    exact List.cons_ne_nil _ _

theorem ErrorType.text_all (errorType : ErrorType) :
    errorType.text.toList.all wordChar = true := by
  cases errorType <;> decide

theorem ErrorType.text_ne_nil (errorType : ErrorType) : errorType.text.toList ≠ [] := by
  cases errorType <;> decide

theorem anyChar_of_lineText {text : String} (line : LineText text) :
    ∀ char ∈ text.toList, anyChar char = true := by
  intro char member
  simp only [anyChar, decide_eq_true_eq]
  rintro rfl
  exact line.2 member

/-- The blanks around the words are no part of them. -/
theorem location_unique (label location before after : List Char)
    (labelFree : ¬ "location:".toList <:+: label)
    (locationFree : ¬ "location:".toList <:+: location)
    (same : label ++ (" location: ".toList ++ location) =
      before ++ (" location: ".toList ++ after)) :
    label = before ∧ location = after := by
  have own : 'l' ∉ "ocation:".toList := by decide
  have notBefore : ¬ "location:".toList <:+: label ++ [' '] := by
    intro within
    rcases List.infix_concat_iff.mp within with ends | inside
    · have last := getLast_of_suffix _ _ _ (List.cons_ne_nil ' ' []) ends (by decide)
      exact absurd last (by decide)
    · exact labelFree inside
  have notAfter : ¬ "location:".toList <:+: ' ' :: location := by
    intro within
    rcases List.infix_cons_iff.mp within with begins | inside
    · exact absurd (List.cons_prefix_cons.mp begins).1 (by decide)
    · exact locationFree inside
  have places := Text.occurrence_unique own (label ++ [' ']) (' ' :: location)
    (before ++ [' ']) (' ' :: after) (by simpa using same) notBefore notAfter
  exact ⟨List.append_cancel_right places.1, (List.cons.inj places.2).2⟩

theorem fullMatch_locationItems (label location : String) (labelLine : LineText label)
    (locationLine : LineText location) (labelFree : WordFree label)
    (locationFree : WordFree location) :
    fullMatch locationItems (label.toList ++ (" location: ".toList ++ location.toList)) =
      some [label.toList, location.toList] := by
  refine (fullMatch_plus_some_iff _ _ _ _).mpr ⟨label.toList, _, [location.toList], rfl, rfl,
    labelLine.1, anyChar_of_lineText labelLine, ?_, ?_⟩
  · rw [fullMatch_literal_append]
    exact fullMatch_plus_last _ _ locationLine.1 (anyChar_of_lineText locationLine)
  · intro longer shorter split exceeds _
    cases possible : fullMatch [.literal " location: ".toList, .plus anyChar] shorter with
    | none => rfl
    | some captures =>
        obtain ⟨after, rfl, -⟩ := fullMatch_literal_some _ _ _ _ possible
        obtain ⟨same, -⟩ := location_unique _ _ _ _ labelFree.2 locationFree.2 split
        rw [same] at exceeds
        exact absurd exceeds (Nat.lt_irrefl _)

/-- No text with a location begins in the label and after an ` at ` of its own. -/
theorem at_unique (label location extra taken after : List Char)
    (noAt : ¬ "at ".toList <:+: label) (labelFree : ¬ "location:".toList <:+: label)
    (locationFree : ¬ "location:".toList <:+: location)
    (same : " at ".toList ++ (label ++ (" location: ".toList ++ location)) =
      extra ++ (" at ".toList ++ (taken ++ (" location: ".toList ++ after)))) : extra = [] := by
  have free : ¬ "location:".toList <:+: " at ".toList ++ label := by
    intro within
    rw [show " at ".toList ++ label = ' ' :: 'a' :: 't' :: ' ' :: label from rfl] at within
    simp only [List.infix_cons_iff] at within
    rcases within with begins | begins | begins | begins | inside
    any_goals exact absurd (List.cons_prefix_cons.mp begins).1 (by decide)
    exact labelFree inside
  have whole : " at ".toList ++ label = extra ++ (" at ".toList ++ taken) :=
    (location_unique (" at ".toList ++ label) location (extra ++ (" at ".toList ++ taken)) after
      free locationFree (by simpa using same)).1
  have own : 'a' ∉ "t ".toList := by decide
  have blank := (Text.occurrence_unique own [' '] label (extra ++ [' ']) taken
    (by simpa using whole) (by decide) noAt).1
  exact List.append_left_eq_self.mp blank.symm

theorem fullMatch_messageItems (message label location : String) (messageLine : LineText message)
    (labelLine : LineText label) (locationLine : LineText location) (labelFree : WordFree label)
    (locationFree : WordFree location) :
    fullMatch messageItems (message.toList ++ (" at ".toList ++
        (label.toList ++ (" location: ".toList ++ location.toList)))) =
      some [message.toList, label.toList, location.toList] := by
  refine (fullMatch_plus_some_iff _ _ _ _).mpr ⟨message.toList, _,
    [label.toList, location.toList], rfl, rfl, messageLine.1, anyChar_of_lineText messageLine,
    ?_, ?_⟩
  · rw [fullMatch_literal_append]
    exact fullMatch_locationItems label location labelLine locationLine labelFree locationFree
  · intro longer shorter split exceeds _
    cases possible : fullMatch (.literal " at ".toList :: locationItems) shorter with
    | none => rfl
    | some captures =>
        obtain ⟨left, rfl, found⟩ := fullMatch_literal_some _ _ _ _ possible
        obtain ⟨taken, rest, _, -, rfl, -, -, found, -⟩ :=
          (fullMatch_plus_some_iff _ _ _ _).mp found
        obtain ⟨after, rfl, -⟩ := fullMatch_literal_some _ _ _ _ found
        rcases List.append_eq_append_iff.mp split with ⟨extra, rfl, same⟩ | ⟨extra, shorter, -⟩
        · rw [at_unique _ _ _ _ _ labelFree.1 labelFree.2 locationFree.2 same,
            List.append_nil] at exceeds
          exact absurd exceeds (Nat.lt_irrefl _)
        · rw [shorter, List.length_append] at exceeds
          omega

namespace Record

/-- The pattern has no sign for the offset or the count other than the plus of the offset. -/
def Readable (record : Record) : Prop := record.civil.ahead = true ∧ 0 ≤ record.count

instance (record : Record) : Decidable record.Readable := inferInstanceAs (Decidable (_ ∧ _))

theorem fullMatch_type (errorType : ErrorType) (left : List Char) :
    fullMatch (.plus wordChar :: .literal " error(s): ".toList :: messageItems)
        (errorType.text.toList ++ (" error(s): ".toList ++ left)) =
      (fullMatch messageItems left).map (errorType.text.toList :: ·) := by
  have free : ' ' ∉ errorType.text.toList := not_mem_of_all errorType.text_all (by decide)
  have delimited := fullMatch_plus_delimited wordChar ' ' "error(s): ".toList messageItems
    errorType.text.toList ("error(s): ".toList ++ left) (by decide) errorType.text_ne_nil free
  rw [if_pos errorType.text_all] at delimited
  exact delimited.trans (congrArg _ (fullMatch_literal_append " error(s): ".toList _ left))

theorem id_all (record : Record) : (toString record.id).toList.all Char.isDigit = true :=
  (count_all record.id).trans (decide_eq_true (Int.natCast_nonneg record.id))

theorem fullMatch_chars (record : Record) :
    fullMatch mcRegexp record.chars =
      if record.Readable then
        some [(toString record.id).toList, record.civil.dateText, record.civil.timeText,
          record.civil.offsetText, (toString record.count).toList, record.errorType.text.toList,
          record.message.toList, record.label.toList, record.location.toList]
      else none := by
  have idAll := record.id_all
  have idSome : (toString record.id).toList ≠ [] := count_ne_nil record.id
  have dateAll := record.civil.dateText_all
  have dateSome : record.civil.dateText ≠ [] := List.cons_ne_nil _ _
  have timeAll := record.civil.timeText_all
  have timeSome : record.civil.timeText ≠ [] := List.cons_ne_nil _ _
  have offsetSome : record.civil.offsetText ≠ [] := List.cons_ne_nil _ _
  have tail := fullMatch_messageItems record.message record.label record.location
    record.messageLine record.labelLine.1 record.locationLine.1 record.labelLine.2
    record.locationLine.2
  unfold mcRegexp chars
  rw [fullMatch_word _ _ _ _ (by decide) idSome (not_mem_of_all idAll (by decide)), if_pos idAll,
    fullMatch_word _ _ _ _ (by decide) dateSome (not_mem_of_all dateAll (by decide)),
    if_pos dateAll,
    fullMatch_word _ _ _ _ (by decide) timeSome (not_mem_of_all timeAll (by decide)),
    if_pos timeAll,
    fullMatch_word _ _ _ _ (by decide) offsetSome
      (not_mem_of_all record.civil.offsetText_signed (by decide)), record.civil.offsetText_all,
    fullMatch_word _ _ _ _ (by decide) (count_ne_nil _)
      (not_mem_of_all (count_signed record.count) (by decide)), count_all, fullMatch_type, tail]
  by_cases ahead : record.civil.ahead = true
  · by_cases counted : 0 ≤ record.count
    · simp [Readable, ahead, counted]
    · simp [Readable, counted]
  · simp [Readable, ahead]

theorem matchMcRecord_line (record : Record) :
    matchMcRecord record.line =
      if record.Readable then
        some (record.civil.text, record.count, record.errorType.text, record.label)
      else none := by
  have found := record.fullMatch_chars
  by_cases readable : record.Readable
  · have fits : record.count.toNat < 2 ^ 31 := by
      have bound := record.countFits.2
      omega
    have number : digitsValue (toString record.count).toList = some record.count.toNat := by
      have text := digitsValue_toString record.count.toNat
      rwa [Int.toNat_of_nonneg readable.2] at text
    rw [if_pos readable] at found ⊢
    have groups : matchMcRecord record.line =
        ((digitsValue (toString record.count).toList).bind (fun value => int32 value)).map
          (fun count => (record.civil.text, count, String.ofList record.errorType.text.toList,
            String.ofList record.label.toList)) := by
      unfold matchMcRecord
      rw [line, String.toList_ofList, found]
      rfl
    rw [groups, number, Option.bind_some, int32, signedInt_natCast 31 _ fits, Option.map_some,
      Int.toNat_of_nonneg readable.2, String.ofList_toList, String.ofList_toList]
  · rw [if_neg readable] at found ⊢
    unfold matchMcRecord
    rw [line, String.toList_ofList, found]

theorem line_isEmpty (record : Record) : record.line.isEmpty = false := by
  rw [Bool.eq_false_iff]
  intro empty
  have nothing : record.chars = [] := by
    rw [← String.toList_ofList (l := record.chars)]
    exact String.toList_eq_nil_iff.mpr (String.isEmpty_iff.mp empty)
  simp [chars] at nothing

/-- A readable record is read as the errors it stands for. -/
theorem recordLine_of_readable (record : Record) (parseTime : ParseTime)
    (readable : record.Readable)
    (time : parseTime timeFormat record.civil.text = .ok record.civil.instant) :
    RecordLine parseTime record.line record.errors := by
  refine ⟨record.line_isEmpty, ?_⟩
  have groups := record.matchMcRecord_line
  rw [if_pos readable] at groups
  unfold parseMcRecord errors
  rw [if_neg (by rw [line_isEmpty]; exact Bool.false_ne_true), groups]
  simp only [time]
  cases record.errorType with
  | corrected => rfl
  | uncorrected => rfl
  | fatal => rfl
  | info => rfl

theorem parseMcRecord_of_not_readable (record : Record) (parseTime : ParseTime)
    (memoryErrors : List Error) (held : ¬ record.Readable) :
    parseMcRecord parseTime record.line memoryErrors =
      (.error (parseErrorStatus "MC_RECORD" "malform" record.line), memoryErrors) := by
  have groups := record.matchMcRecord_line
  rw [if_neg held] at groups
  unfold parseMcRecord
  rw [if_neg (by rw [line_isEmpty]; exact Bool.false_ne_true), groups]

theorem newline_not_mem_line (record : Record) : '\n' ∉ record.line.toList := by
  have count : '\n' ∉ (toString record.count).toList :=
    not_mem_of_all (count_signed record.count) (by decide)
  simp only [line, String.toList_ofList, chars, List.mem_append, List.mem_cons, not_or]
  exact ⟨not_mem_of_all record.id_all (by decide), by decide,
    not_mem_of_all record.civil.dateText_all (by decide), by decide,
    not_mem_of_all record.civil.timeText_all (by decide), by decide,
    not_mem_of_all record.civil.offsetText_signed (by decide), by decide, count, by decide,
    not_mem_of_all record.errorType.text_all (by decide), by decide, record.messageLine.2,
    by decide, record.labelLine.1.2, by decide, record.locationLine.1.2⟩

end Record

theorem reportLines_terminated (lines : List String) (free : ∀ line ∈ lines, '\n' ∉ line.toList) :
    reportLines (String.ofList (lines.flatMap (fun line => line.toList ++ ['\n']))) =
      lines ++ [""] := by
  have cut := Text.splitOn_terminated '\n' (lines.map String.toList) (by
    intro piece member
    obtain ⟨line, among, rfl⟩ := List.mem_map.mp member
    exact free line among)
  rw [List.flatMap_map] at cut
  rw [reportLines, String.toList_ofList, cut, List.map_append, List.map_map]
  exact congrArg (· ++ [""]) (List.map_id'' (fun _ => String.ofList_toList) lines)

theorem reportLines_report (records : List Record) :
    reportLines (report records) =
      "Memory controller events:" :: (records.map Record.line ++ ["", ""]) := by
  have free : ∀ line ∈ "Memory controller events:" :: (records.map Record.line ++ [""]),
      '\n' ∉ line.toList := by
    intro line member
    simp only [List.mem_cons, List.mem_append, List.mem_map, List.not_mem_nil, or_false] at member
    rcases member with rfl | ⟨record, -, rfl⟩ | rfl
    · decide
    · exact record.newline_not_mem_line
    · decide
  have lines := reportLines_terminated _ free
  rw [List.cons_append, List.append_assoc] at lines
  exact lines

/-- What follows the title is accepted only when every record is readable. -/
theorem readable_of_parseLines (parseTime : ParseTime) (records : List Record)
    (memoryErrors : List Error) (rest : List String)
    (times : ∀ record ∈ records,
      parseTime timeFormat record.civil.text = .ok record.civil.instant)
    (accepted : (parseLines parseTime .mcRecord memoryErrors
      (records.map Record.line ++ rest)).1 = .ok ()) :
    ∀ record ∈ records, record.Readable := by
  induction records generalizing memoryErrors with
  | nil => simp
  | cons record records ih =>
      rw [List.forall_mem_cons] at times ⊢
      rw [List.map_cons, List.cons_append] at accepted
      by_cases readable : record.Readable
      · have read := record.recordLine_of_readable parseTime readable times.1
        have turned := (turn_record_iff parseTime memoryErrors record.line _).mpr
          (.inr ⟨_, read, rfl⟩)
        have next := parseLines_of_turn parseTime _ _ record.line (records.map Record.line ++ rest)
          turned
        rw [next] at accepted
        exact ⟨readable, ih _ times.2 accepted⟩
      · rw [parseLines, record.parseMcRecord_of_not_readable parseTime memoryErrors readable]
          at accepted
        cases accepted

/-- A report is read back exactly when no record has an offset behind UTC or a negative count. -/
theorem parseErrorReport_report_iff (parseTime : ParseTime) (records : List Record)
    (times : ∀ record ∈ records,
      parseTime timeFormat record.civil.text = .ok record.civil.instant) :
    parseErrorReport parseTime [] (report records) = (.ok (), records.flatMap Record.errors) ↔
      ∀ record ∈ records, record.civil.ahead = true ∧ 0 ≤ record.count := by
  constructor
  · intro accepted
    rw [parseErrorReport, reportLines_report] at accepted
    exact readable_of_parseLines parseTime records [] ["", ""] times
      (congrArg Prod.fst accepted)
  · intro readable
    have each : List.Forall₂ (RecordLine parseTime) (records.map Record.line)
        (records.map Record.errors) := by
      rw [List.forall₂_map_left_iff, List.forall₂_map_right_iff, List.forall₂_same]
      exact fun record member =>
        record.recordLine_of_readable parseTime (readable record member) (times record member)
    have finished : FinishedReport parseTime (reportLines (report records))
        (records.flatMap Record.errors) [""] := by
      refine .inr ⟨_, _, ?_, each, List.flatMap_def⟩
      rw [reportLines_report]
    rw [parseErrorReport_finished parseTime [] _ _ _ finished, if_neg (List.cons_ne_nil _ _)]
    rfl

/-- A time in winter, one hour from UTC. -/
def sampleTime (ahead : Bool) : CivilTime where
  year := 2021
  month := 1
  day := 3
  hour := 15
  minute := 13
  second := 37
  ahead := ahead
  offsetHours := 1
  offsetMinutes := 0
  date := by decide
  time := by decide
  offset := by decide

def sampleRecord (ahead : Bool) : Record where
  id := 1
  civil := sampleTime ahead
  count := 2
  errorType := .uncorrected
  message := "FAKE ERROR"
  label := "DIMM#0"
  location := "0:1:0"
  countFits := by decide
  messageLine := by decide
  labelLine := ⟨by decide, wordFree_of_letters _ (by decide) (by decide)⟩
  locationLine := ⟨by decide, wordFree_of_letters _ (by decide) (by decide)⟩

/-- absl::ParseTime at the time of the record. -/
def sampleParseTime (_ text : String) : Except String Int :=
  if text = "2021-01-03 15:13:37 +0100" then .ok 1609683217
  else if text = "2021-01-03 15:13:37 -0100" then .ok 1609690417
  else .error "Failed to parse input"

theorem sampleParseTime_times (ahead : Bool) :
    ∀ record ∈ [sampleRecord ahead],
      sampleParseTime timeFormat record.civil.text = .ok record.civil.instant := by
  intro record member
  obtain rfl := List.mem_singleton.mp member
  cases ahead <;> decide

theorem parseErrorReport_report_iff_sample :
    parseErrorReport sampleParseTime [] (report [sampleRecord true]) =
      (.ok (), [sampleRecord true].flatMap Record.errors) := by
  refine (parseErrorReport_report_iff _ _ (sampleParseTime_times true)).mpr ?_
  intro record member
  obtain rfl := List.mem_singleton.mp member
  decide

/-- West of Greenwich the whole report is rejected for its first line. -/
theorem parseErrorReport_not_report :
    ¬ ∀ (parseTime : ParseTime) (records : List Record),
      (∀ record ∈ records,
        parseTime timeFormat record.civil.text = .ok record.civil.instant) →
      parseErrorReport parseTime [] (report records) =
        (.ok (), records.flatMap Record.errors) := by
  intro survives
  have read := survives sampleParseTime [sampleRecord false] (sampleParseTime_times false)
  have accepted := congrArg Prod.fst read
  rw [parseErrorReport, reportLines_report] at accepted
  have readable := readable_of_parseLines sampleParseTime _ [] ["", ""]
    (sampleParseTime_times false) accepted
  exact absurd (readable _ List.mem_cons_self).1 (by decide)

end OcpDiag.HwInterface.RasDaemonErrors
