import OcpDiag.Lib.Pointwise
import OcpDiag.Lib.Text
import OcpDiag.HwInterface.RangeList
import OcpDiag.Results.Outcome
import Mathlib.Data.List.Chain

set_option autoImplicit false

/- The two loops of `ParseRangeList`, and the lists that they accept. -/
namespace OcpDiag.HwInterface

open Results (Outcome)

namespace ParseRangeList

def largestInt : Int := 2 ^ 31 - 1

/-- The inner loop. Incrementing the largest int is undefined. -/
def pushRange (number stop : Int) (result : List Int) : Outcome (List Int) :=
  if number ≤ stop then
    if number = largestInt then .undefined
    else pushRange (number + 1) stop (result ++ [number])
  else .ok result
termination_by (stop + 1 - number).toNat

/-- One turn of the outer loop: the result and `last`, or the return of the error status. -/
def pushPiece (result : List Int) (last : Int) (piece : List Char) :
    Outcome (Option (List Int × Int)) :=
  match (piece.splitOn '-').map String.ofList with
  | [single] =>
      match simpleAtoi single with
      | none => .ok none
      | some start => if start ≤ last then .ok none else .ok (some (result ++ [start], start))
  | [first, second] =>
      match simpleAtoi first with
      | none => .ok none
      | some start =>
          if start ≤ last then .ok none
          else
            match simpleAtoi second with
            | none => .ok none
            | some stop =>
                if stop < start then .ok none
                else do
                  let result ← pushRange start stop result
                  return some (result, stop)
  | _ => .ok none

def pushPieces (result : List Int) (last : Int) : List (List Char) → Outcome (Option (List Int))
  | [] => .ok (some result)
  | piece :: rest => do
      match ← pushPiece result last piece with
      | none => return none
      | some (result, last) => pushPieces result last rest

def run (text : String) : Outcome (StatusOr (List Int)) := do
  match ← pushPieces [] (-1) (text.toList.splitOn ',') with
  | some result => return .ok result
  | none => return .error ⟨.invalidArgument, "Parse stirng fialed: " ++ text⟩

/-- The numbers of a piece, from its first to its last. -/
def interval (start stop : Int) : List Int :=
  (List.range (stop - start + 1).toNat).map (fun step : Nat => start + step)

theorem interval_empty (start stop : Int) (backward : stop < start) :
    interval start stop = [] := by
  have nothing : (stop - start + 1).toNat = 0 := by omega
  rw [interval, nothing]
  rfl

theorem interval_cons (start stop : Int) (forward : start ≤ stop) :
    interval start stop = start :: interval (start + 1) stop := by
  have one : (stop - start + 1).toNat = (stop - (start + 1) + 1).toNat + 1 := by omega
  rw [interval, one, List.range_succ_eq_map, List.map_cons, List.map_map, interval]
  congr 1
  · simp
  · apply List.map_congr_left
    intro step _
    simp only [Function.comp_apply, Nat.succ_eq_add_one]
    omega

theorem mem_interval (start stop number : Int) :
    number ∈ interval start stop ↔ start ≤ number ∧ number ≤ stop := by
  simp only [interval, List.mem_map, List.mem_range]
  constructor
  · rintro ⟨step, below, rfl⟩
    omega
  · rintro ⟨low, high⟩
    exact ⟨(number - start).toNat, by omega, by omega⟩

/-- The induction is on the numbers that are still to come. -/
theorem pushRange_eq (number stop : Int) (result : List Int) (bounded : stop < largestInt) :
    pushRange number stop result = .ok (result ++ interval number stop) := by
  induction left : (stop + 1 - number).toNat generalizing number result with
  | zero =>
      have done : ¬ number ≤ stop := by omega
      rw [pushRange, if_neg done, interval_empty number stop (by omega), List.append_nil]
  | succ left ih =>
      have more : number ≤ stop := by omega
      have below : ¬ number = largestInt := by omega
      rw [pushRange, if_pos more, if_neg below, ih _ _ (by omega), interval_cons number stop more,
        List.append_assoc, List.singleton_append]

/-- A number that is read is no larger than the largest int. -/
theorem simpleAtoi_le (text : String) (number : Int) (read : simpleAtoi text = some number) :
    number ≤ largestInt := by
  have fits (value : Int) (found : int32 value = some number) : number ≤ largestInt := by
    unfold int32 signedInt at found
    split_ifs at found with within
    obtain rfl := Option.some.inj found
    unfold largestInt
    omega
  unfold simpleAtoi simpleAtoiOf at read
  split at read <;>
    obtain ⟨value, -, found⟩ := Option.bind_eq_some_iff.mp read <;>
    exact fits _ found

/-- No number of the text is the largest int. -/
def BelowLargest (pieces : List (List Char)) : Prop :=
  ∀ piece ∈ pieces, ∀ part ∈ piece.splitOn '-', simpleAtoi (String.ofList part) ≠ some largestInt

instance (pieces : List (List Char)) : Decidable (BelowLargest pieces) :=
  inferInstanceAs (Decidable (∀ piece ∈ pieces, _))

/-- The ends of a range that passes the checks. -/
structure PassesChecks (last : Int) (piece : List Char) (start stop : Int) : Prop where
  parts : ∃ first second, (piece.splitOn '-').map String.ofList = [first, second] ∧
    simpleAtoi first = some start ∧ simpleAtoi second = some stop
  later : last < start
  forward : start ≤ stop

theorem pushPiece_eq (result : List Int) (last : Int) (piece : List Char)
    (below : ∀ start stop, PassesChecks last piece start stop → stop ≠ largestInt) :
    pushPiece result last piece =
      .ok ((parseRange last piece).map (fun read => (result ++ read.1, read.2))) := by
  unfold pushPiece parseRange
  cases parts : (piece.splitOn '-').map String.ofList with
  | nil => rfl
  | cons first others =>
      rcases others with - | ⟨second, - | ⟨third, others⟩⟩
      · simp only
        cases simpleAtoi first with
        | none => rfl
        | some start => by_cases early : start ≤ last <;> simp [early]
      · simp only
        cases readFirst : simpleAtoi first with
        | none => rfl
        | some start =>
            by_cases early : start ≤ last
            · simp [early]
            · cases readSecond : simpleAtoi second with
              | none => simp [early]
              | some stop =>
                  by_cases backward : stop < start
                  · simp [early, backward]
                  · have passes : PassesChecks last piece start stop :=
                      ⟨⟨first, second, parts, readFirst, readSecond⟩, not_le.mp early,
                        not_lt.mp backward⟩
                    have bounded : stop < largestInt :=
                      lt_of_le_of_ne (simpleAtoi_le second stop readSecond)
                        (below start stop passes)
                    simp only [early, backward, if_false,
                      pushRange_eq start stop result bounded, Option.bind_eq_bind,
                      Option.bind_some, Option.map_some, range_offsets]
                    rfl
      · rfl

/-- The ends of a range that the outer loop comes to, and that passes the checks there. -/
inductive Reaches : Int → List (List Char) → Int → Int → Prop where
  | here {last start stop : Int} {piece : List Char} (rest : List (List Char)) :
      PassesChecks last piece start stop → Reaches last (piece :: rest) start stop
  | later {last next start stop : Int} {piece : List Char} {rest : List (List Char)}
      {numbers : List Int} : parseRange last piece = some (numbers, next) →
      Reaches next rest start stop → Reaches last (piece :: rest) start stop

theorem pushPieces_eq (result : List Int) (last : Int) (pieces : List (List Char))
    (below : ∀ start stop, Reaches last pieces start stop → stop ≠ largestInt) :
    pushPieces result last pieces = .ok ((parseRanges last pieces).map (result ++ ·)) := by
  induction pieces generalizing result last with
  | nil => simp [pushPieces, parseRanges]
  | cons piece rest ih =>
      have belowHere : ∀ start stop, PassesChecks last piece start stop → stop ≠ largestInt :=
        fun start stop passes => below start stop (.here rest passes)
      rw [pushPieces, pushPiece_eq result last piece belowHere, parseRanges]
      cases parsed : parseRange last piece with
      | none => rfl
      | some read =>
          have later := ih (result ++ read.1) read.2
            fun start stop reaches => below start stop (.later parsed reaches)
          simp only [Option.map_some, Outcome.ok_bind, later, Option.bind_eq_bind,
            Option.bind_some]
          cases parseRanges read.2 rest with
          | none => rfl
          | some others => simp

theorem ne_largestInt_of_reaches {last start stop : Int} {pieces : List (List Char)}
    (reaches : Reaches last pieces start stop) (below : BelowLargest pieces) :
    stop ≠ largestInt := by
  induction reaches with
  | @here last start stop piece rest passes =>
      obtain ⟨first, second, parts, -, readSecond⟩ := passes.parts
      have member : second ∈ (piece.splitOn '-').map String.ofList := by simp [parts]
      obtain ⟨part, inPiece, rfl⟩ := List.mem_map.mp member
      rintro rfl
      exact below piece List.mem_cons_self part inPiece readSecond
  | later _ _ ih => exact ih (List.forall_mem_cons.mp below).2

/-- Where no range reaches the largest int, the loops are defined and do what the parser does. -/
theorem run_eq (text : String)
    (below : ∀ start stop, Reaches (-1) (text.toList.splitOn ',') start stop →
      stop ≠ largestInt) : run text = .ok (parseRangeList text) := by
  rw [run, pushPieces_eq [] (-1) _ below, parseRangeList]
  cases parseRanges (-1) (text.toList.splitOn ',') <;> rfl

/-- A piece that is one number, or two with one dash between them, and its first and last. -/
inductive PieceReads : List Char → Int × Int → Prop where
  | number (piece : List Char) (value : Int) (free : '-' ∉ piece)
      (read : simpleAtoi (String.ofList piece) = some value) : PieceReads piece (value, value)
  | range (first second : List Char) (start stop : Int) (firstFree : '-' ∉ first)
      (secondFree : '-' ∉ second) (readFirst : simpleAtoi (String.ofList first) = some start)
      (readSecond : simpleAtoi (String.ofList second) = some stop) (ordered : start ≤ stop) :
      PieceReads (first ++ '-' :: second) (start, stop)

theorem PieceReads.ordered {piece : List Char} {bounds : Int × Int}
    (reads : PieceReads piece bounds) : bounds.1 ≤ bounds.2 := by
  cases reads with
  | number => exact le_refl _
  | range _ _ _ _ _ _ _ _ ordered => exact ordered

/-- The first number comes after the last one of the piece before. -/
def Later (before bounds : Int × Int) : Prop := before.2 < bounds.1

/-- The parts between the dashes are the numbers of the piece. -/
theorem parseRange_reads (last next : Int) (piece : List Char) (numbers : List Int)
    (parsed : parseRange last piece = some (numbers, next)) :
    ∃ start, PieceReads piece (start, next) ∧ last < start ∧ numbers = interval start next := by
  have joined : ['-'].intercalate (piece.splitOn '-') = piece := List.intercalate_splitOn '-'
  have free := Text.not_mem_of_mem_splitOn '-' piece
  unfold parseRange at parsed
  generalize piece.splitOn '-' = parts at joined free parsed
  rcases parts with - | ⟨first, - | ⟨second, - | ⟨third, others⟩⟩⟩
  · cases parsed
  · obtain rfl : first = piece := by simpa using joined
    obtain ⟨start, read, parsed⟩ := Option.bind_eq_some_iff.mp parsed
    split_ifs at parsed with early
    obtain ⟨rfl, rfl⟩ := Prod.mk.inj (Option.some.inj parsed)
    refine ⟨start, .number first start (free first (by simp)) read, not_le.mp early, ?_⟩
    rw [interval_cons start start (le_refl start), interval_empty _ _ (by omega)]
  · obtain rfl : first ++ '-' :: second = piece := by simpa [List.intercalate] using joined
    obtain ⟨start, readFirst, parsed⟩ := Option.bind_eq_some_iff.mp parsed
    split_ifs at parsed with early
    obtain ⟨stop, readSecond, parsed⟩ := Option.bind_eq_some_iff.mp parsed
    split_ifs at parsed with backward
    obtain ⟨rfl, rfl⟩ := Prod.mk.inj (Option.some.inj parsed)
    exact ⟨start, .range first second start stop (free first (by simp)) (free second (by simp))
      readFirst readSecond (not_lt.mp backward), not_le.mp early, range_offsets _ _⟩
  · cases parsed

theorem parseRange_of_reads (last start next : Int) (piece : List Char)
    (reads : PieceReads piece (start, next)) (later : last < start) :
    parseRange last piece = some (interval start next, next) := by
  have early : ¬ start ≤ last := not_le.mpr later
  unfold parseRange
  cases reads with
  | number _ _ free read =>
      rw [List.splitOn_eq_singleton free]
      simp only [List.map_cons, List.map_nil, read, Option.bind_eq_bind, Option.bind_some,
        if_neg early]
      rw [interval_cons start start (le_refl start), interval_empty _ _ (by omega)]
  | range first second _ _ firstFree secondFree readFirst readSecond ordered =>
      have backward : ¬ next < start := not_lt.mpr ordered
      rw [List.splitOn_append_cons_self_of_not_mem firstFree,
        List.splitOn_eq_singleton secondFree]
      simp only [List.map_cons, List.map_nil, readFirst, readSecond, Option.bind_eq_bind,
        Option.bind_some, if_neg early, if_neg backward, range_offsets]
      rfl

/-- The induction is on the pieces; each starts after the last number of the one before. -/
theorem parseRanges_iff (first last : Int) (pieces : List (List Char)) (numbers : List Int) :
    parseRanges last pieces = some numbers ↔
      ∃ bounds, List.Forall₂ PieceReads pieces bounds ∧
        List.IsChain Later ((first, last) :: bounds) ∧
        numbers = bounds.flatMap (fun read => interval read.1 read.2) := by
  induction pieces generalizing first last numbers with
  | nil =>
      constructor
      · intro parsed
        exact ⟨[], .nil, .singleton _, (Option.some.inj parsed).symm⟩
      · rintro ⟨bounds, each, -, rfl⟩
        cases each
        rfl
  | cons piece rest ih =>
      constructor
      · intro parsed
        obtain ⟨⟨here, next⟩, readHere, parsed⟩ := Option.bind_eq_some_iff.mp parsed
        obtain ⟨others, readRest, parsed⟩ := Option.bind_eq_some_iff.mp parsed
        obtain rfl := Option.some.inj parsed
        obtain ⟨start, reads, later, rfl⟩ := parseRange_reads _ _ _ _ readHere
        obtain ⟨bounds, each, chain, rfl⟩ := (ih start next others).mp readRest
        exact ⟨(start, next) :: bounds, .cons reads each, .cons_cons later chain, rfl⟩
      · rintro ⟨bounds, each, chain, rfl⟩
        cases each with
        | @cons _ read _ bounds reads each =>
            obtain ⟨later, chain⟩ := List.isChain_cons_cons.mp chain
            have readHere := parseRange_of_reads last read.1 read.2 piece reads later
            have readRest := (ih read.1 read.2 _).mpr ⟨bounds, each, chain, rfl⟩
            simp only [parseRanges, readHere, readRest, Option.bind_eq_bind, Option.bind_some]
            rfl

/-- A piece is read in one way. -/
theorem PieceReads.unique {piece : List Char} {first second : Int × Int}
    (reads : PieceReads piece first) (other : PieceReads piece second) : first = second := by
  have earlier : min first.1 second.1 - 1 < first.1 := by omega
  have earlierOther : min first.1 second.1 - 1 < second.1 := by omega
  have one := parseRange_of_reads _ first.1 first.2 piece reads earlier
  have two := parseRange_of_reads _ second.1 second.2 piece other earlierOther
  obtain ⟨numbers, stop⟩ := Prod.mk.inj (Option.some.inj (one.symm.trans two))
  rw [interval_cons _ _ reads.ordered, interval_cons _ _ other.ordered] at numbers
  exact Prod.ext (List.cons.inj numbers).1 stop

/-- What the pieces say, when they come in increasing order from zero on. -/
def ListReads (pieces : List (List Char)) (numbers : List Int) : Prop :=
  ∃ bounds, List.Forall₂ PieceReads pieces bounds ∧ (∀ read ∈ bounds, 0 ≤ read.1) ∧
    bounds.IsChain Later ∧ numbers = bounds.flatMap (fun read => interval read.1 read.2)

/-- The number lies in the range of the piece. -/
def Covers (piece : List Char) (number : Int) : Prop :=
  ∃ read, PieceReads piece read ∧ read.1 ≤ number ∧ number ≤ read.2

/-- No number below zero can follow one from zero on. -/
theorem isChain_from_start (bounds : List (Int × Int)) (ordered : ∀ read ∈ bounds, read.1 ≤ read.2) :
    List.IsChain Later ((0, -1) :: bounds) ↔
      (∀ read ∈ bounds, 0 ≤ read.1) ∧ bounds.IsChain Later := by
  have above (low : Int × Int) (start : -1 ≤ low.2)
      (chain : List.IsChain Later (low :: bounds)) : ∀ read ∈ bounds, 0 ≤ read.1 := by
    induction bounds generalizing low with
    | nil => exact fun _ absent => absurd absent List.not_mem_nil
    | cons read rest ih =>
        obtain ⟨orderedHere, orderedRest⟩ := List.forall_mem_cons.mp ordered
        obtain ⟨later, chain⟩ := List.isChain_cons_cons.mp chain
        have positive : 0 ≤ read.1 := by
          unfold Later at later
          omega
        exact List.forall_mem_cons.mpr ⟨positive, ih orderedRest read (by omega) chain⟩
  constructor
  · intro chain
    exact ⟨above (0, -1) (le_refl _) chain, chain.tail⟩
  · rintro ⟨positive, chain⟩
    cases bounds with
    | nil => exact .singleton _
    | cons read rest =>
        refine .cons_cons ?_ chain
        have low := positive read List.mem_cons_self
        unfold Later
        simp only
        omega

theorem parseRangeList_iff (text : String) (numbers : List Int) :
    parseRangeList text = .ok numbers ↔ ListReads (text.toList.splitOn ',') numbers := by
  rw [parseRangeList_ok_iff, parseRanges_iff 0, ListReads]
  apply exists_congr
  intro bounds
  apply and_congr_right
  intro each
  have ordered : ∀ read ∈ bounds, read.1 ≤ read.2 := by
    intro read member
    obtain ⟨piece, -, reads⟩ := Pointwise.mem_right each member
    exact reads.ordered
  rw [isChain_from_start bounds ordered, and_assoc]

theorem parseRangeList_error (text : String)
    (rejected : ¬ ∃ numbers, parseRangeList text = .ok numbers) :
    ∃ message, parseRangeList text = .error ⟨.invalidArgument, message⟩ := by
  unfold parseRangeList at rejected ⊢
  cases parsed : parseRanges (-1) (text.toList.splitOn ',') with
  | some numbers =>
      rw [parsed] at rejected
      exact absurd ⟨numbers, rfl⟩ rejected
  | none => exact ⟨_, rfl⟩

theorem ListReads.mem_iff {pieces : List (List Char)} {numbers : List Int}
    (reads : ListReads pieces numbers) (number : Int) :
    number ∈ numbers ↔ ∃ piece ∈ pieces, Covers piece number := by
  obtain ⟨bounds, each, -, -, rfl⟩ := reads
  rw [List.mem_flatMap]
  constructor
  · rintro ⟨read, member, inside⟩
    obtain ⟨piece, inPieces, readsPiece⟩ := Pointwise.mem_right each member
    exact ⟨piece, inPieces, read, readsPiece, (mem_interval _ _ _).mp inside⟩
  · rintro ⟨piece, inPieces, read, readsPiece, low, high⟩
    obtain ⟨other, member, readsOther⟩ := Pointwise.mem_left each inPieces
    obtain rfl := readsPiece.unique readsOther
    exact ⟨read, member, (mem_interval _ _ _).mpr ⟨low, high⟩⟩

/-- The parser accepts the increasing lists of numbers and ranges, with their numbers, and
nothing else. -/
theorem run_exact (text : String) (below : BelowLargest (text.toList.splitOn ',')) :
    (∀ numbers, run text = .ok (.ok numbers) ↔ ListReads (text.toList.splitOn ',') numbers) ∧
    ((¬ ∃ numbers, ListReads (text.toList.splitOn ',') numbers) →
      ∃ message, run text = .ok (.error ⟨.invalidArgument, message⟩)) ∧
    (∀ numbers, run text = .ok (.ok numbers) →
      numbers.Pairwise (· < ·) ∧
        ∀ number, number ∈ numbers ↔ ∃ piece ∈ text.toList.splitOn ',', Covers piece number) := by
  have parsed_eq := run_eq text fun start stop reaches => ne_largestInt_of_reaches reaches below
  have accepted (numbers : List Int) :
      run text = .ok (.ok numbers) ↔ ListReads (text.toList.splitOn ',') numbers := by
    rw [parsed_eq, Outcome.ok.injEq, parseRangeList_iff]
  refine ⟨accepted, ?_, ?_⟩
  · intro nothing
    have rejected : ¬ ∃ numbers, parseRangeList text = .ok numbers := by
      rintro ⟨numbers, parsed⟩
      exact nothing ⟨numbers, (parseRangeList_iff text numbers).mp parsed⟩
    obtain ⟨message, error⟩ := parseRangeList_error text rejected
    exact ⟨message, by rw [parsed_eq, error]⟩
  · intro numbers parsed
    refine ⟨?_, ((accepted numbers).mp parsed).mem_iff⟩
    rw [parsed_eq, Outcome.ok.injEq] at parsed
    have read := (parseRangeList_ok_iff text numbers).mp parsed
    exact (parseRanges_increasing _ _ _ read).1

theorem run_exact_sample : run "1,3-5,7,9-10" = .ok (.ok [1, 3, 4, 5, 7, 9, 10]) := by
  refine ((run_exact "1,3-5,7,9-10" (by decide)).1 _).mpr ?_
  have pieces : "1,3-5,7,9-10".toList.splitOn ',' =
      ["1".toList, "3".toList ++ '-' :: "5".toList, "7".toList,
        "9".toList ++ '-' :: "10".toList] := by decide
  rw [pieces]
  refine ⟨[(1, 1), (3, 5), (7, 7), (9, 10)], ?_, by decide, ?_, by decide⟩
  · exact .cons (.number _ 1 (by decide) (by decide))
      (.cons (.range _ _ 3 5 (by decide) (by decide) (by decide) (by decide) (by decide))
        (.cons (.number _ 7 (by decide) (by decide))
          (.cons (.range _ _ 9 10 (by decide) (by decide) (by decide) (by decide) (by decide))
            .nil)))
  · simp [Later]

end ParseRangeList

end OcpDiag.HwInterface
