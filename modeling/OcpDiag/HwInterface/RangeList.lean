import OcpDiag.HwInterface.Utils

set_option autoImplicit false

/- The kernel's list texts, and what the parser makes of them. -/
namespace OcpDiag.HwInterface

/-- A number, or a range of them. -/
inductive ListItem where
  | number (value : Nat)
  | range (start stop : Nat)
  deriving DecidableEq, Repr

namespace ListItem

def first : ListItem → Nat
  | .number value => value
  | .range start _ => start

def last : ListItem → Nat
  | .number value => value
  | .range _ stop => stop

def text : ListItem → List Char
  | .number value => (toString (value : Int)).toList
  | .range start stop => (toString (start : Int)).toList ++ '-' :: (toString (stop : Int)).toList

def numbers : ListItem → List Int
  | .number value => [(value : Int)]
  | .range start stop =>
      (List.range (stop + 1 - start)).map (fun step : Nat => (start : Int) + step)

end ListItem

/-- Numbers and ranges in increasing order, all below the largest int. -/
structure KernelList where
  items : List ListItem
  ordered : ∀ item ∈ items, item.first ≤ item.last
  increasing : items.Pairwise (fun item later => item.last < later.first)
  bounded : ∀ item ∈ items, item.last < 2 ^ 31 - 1

namespace KernelList

def empty : KernelList :=
  ⟨[], fun _ absent => absurd absent List.not_mem_nil, .nil,
    fun _ absent => absurd absent List.not_mem_nil⟩

/-- The text of the file, with the newline at its end. -/
def text (list : KernelList) : String :=
  String.ofList ([','].intercalate (list.items.map (·.text)) ++ ['\n'])

def numbers (list : KernelList) : List Int := list.items.flatMap (·.numbers)

end KernelList

theorem not_digits_of_mem {char : Char} (value : Nat) (other : char.isDigit = false) :
    char ∉ (toString (value : Int)).toList := by
  intro member
  rw [toString_digits value char member] at other
  cases other

theorem not_blank_of_solid {char : Char} {blank : List Char} (solid : isSpace char = false)
    (spaces : ∀ char ∈ blank, isSpace char = true) : char ∉ blank := by
  intro member
  rw [spaces char member] at solid
  cases solid

theorem simpleAtoi_item (value : Nat) (blank : List Char)
    (spaces : ∀ char ∈ blank, isSpace char = true) (fits : value < 2 ^ 31) :
    simpleAtoi (String.ofList ((toString (value : Int)).toList ++ blank)) = some (value : Int) := by
  rw [simpleAtoi_decimal value blank spaces, int32, signedInt_natCast 31 value fits]

theorem text_separators (item : ListItem) (blank : List Char)
    (spaces : ∀ char ∈ blank, isSpace char = true) : ',' ∉ item.text ++ blank := by
  have space : ',' ∉ blank := not_blank_of_solid (by decide) spaces
  cases item with
  | number value =>
      have digits : ',' ∉ (toString (value : Int)).toList := not_digits_of_mem value (by decide)
      rw [ListItem.text, List.mem_append, not_or]
      exact ⟨digits, space⟩
  | range start stop =>
      have startDigits : ',' ∉ (toString (start : Int)).toList :=
        not_digits_of_mem start (by decide)
      have stopDigits : ',' ∉ (toString (stop : Int)).toList := not_digits_of_mem stop (by decide)
      rw [ListItem.text, List.append_assoc, List.cons_append, List.mem_append, List.mem_cons,
        List.mem_append, not_or, not_or, not_or]
      exact ⟨startDigits, by decide, stopDigits, space⟩

/-- The numbers of a range, with the coercion of the offsets inside the map. -/
theorem range_offsets (start : Int) (count : Nat) :
    ((List.range count).map (fun step => start + step) : List Int) =
      (List.range count).map (fun step : Nat => start + (step : Int)) := by
  simp only [List.bind_eq_flatMap, List.pure_def, ← List.map_eq_flatMap, List.map_map,
    Function.comp_def]

/-- A piece of the list is read as its item. -/
theorem parseRange_text (item : ListItem) (last : Int) (blank : List Char)
    (spaces : ∀ char ∈ blank, isSpace char = true) (later : last < item.first)
    (ordered : item.first ≤ item.last) (bounded : item.last < 2 ^ 31) :
    parseRange last (item.text ++ blank) = some (item.numbers, (item.last : Int)) := by
  have space : '-' ∉ blank := not_blank_of_solid (by decide) spaces
  unfold parseRange
  cases item with
  | number value =>
      have digits : '-' ∉ (toString (value : Int)).toList := not_digits_of_mem value (by decide)
      have single : ((toString (value : Int)).toList ++ blank).splitOn '-' =
          [(toString (value : Int)).toList ++ blank] :=
        List.splitOn_eq_singleton (by rw [List.mem_append, not_or]; exact ⟨digits, space⟩)
      have apart : ¬ (value : Int) ≤ last := not_le.mpr later
      simp only [ListItem.text, single, List.map_cons, List.map_nil,
        simpleAtoi_item value blank spaces bounded, Option.bind_eq_bind, Option.bind_some,
        if_neg apart]
      rfl
  | range start stop =>
      have startDigits : '-' ∉ (toString (start : Int)).toList :=
        not_digits_of_mem start (by decide)
      have stopDigits : '-' ∉ (toString (stop : Int)).toList := not_digits_of_mem stop (by decide)
      have ends : ((toString (start : Int)).toList ++ '-' :: (toString (stop : Int)).toList ++
          blank).splitOn '-' =
          [(toString (start : Int)).toList, (toString (stop : Int)).toList ++ blank] := by
        rw [List.append_assoc, List.cons_append,
          List.splitOn_append_cons_self_of_not_mem startDigits,
          List.splitOn_eq_singleton (by rw [List.mem_append, not_or]; exact ⟨stopDigits, space⟩)]
      have startRead := simpleAtoi_item start []
        (fun _ absent => absurd absent List.not_mem_nil) (Nat.lt_of_le_of_lt ordered bounded)
      rw [List.append_nil] at startRead
      have apart : ¬ (start : Int) ≤ last := not_le.mpr later
      have forward : ¬ (stop : Int) < start := not_lt.mpr (Int.ofNat_le.mpr ordered)
      have count : ((stop : Int) - start + 1).toNat = stop + 1 - start := by omega
      simp only [ListItem.text, ends, List.map_cons, List.map_nil, startRead,
        simpleAtoi_item stop blank spaces bounded, Option.bind_eq_bind, Option.bind_some,
        if_neg apart, if_neg forward, count, range_offsets]
      rfl

theorem parseRanges_text (items : List ListItem) (last : Int) (blank : List Char)
    (spaces : ∀ char ∈ blank, isSpace char = true) (nonempty : items ≠ [])
    (later : ∀ item ∈ items, last < item.first) (ordered : ∀ item ∈ items, item.first ≤ item.last)
    (increasing : items.Pairwise (fun item later => item.last < later.first))
    (bounded : ∀ item ∈ items, item.last < 2 ^ 31) :
    parseRanges last (([','].intercalate (items.map (·.text)) ++ blank).splitOn ',') =
      some (items.flatMap (·.numbers)) := by
  induction items generalizing last with
  | nil => exact absurd rfl nonempty
  | cons item rest ih =>
      obtain ⟨laterHere, -⟩ := List.forall_mem_cons.mp later
      obtain ⟨orderedHere, orderedRest⟩ := List.forall_mem_cons.mp ordered
      obtain ⟨boundedHere, boundedRest⟩ := List.forall_mem_cons.mp bounded
      obtain ⟨increasingHere, increasingRest⟩ := List.pairwise_cons.mp increasing
      cases rest with
      | nil =>
          have read := parseRange_text item last blank spaces laterHere orderedHere boundedHere
          have single := List.splitOn_eq_singleton (text_separators item blank spaces)
          simp [single, parseRanges, read]
      | cons next others =>
          have nothing : ∀ char ∈ ([] : List Char), isSpace char = true :=
            fun _ absent => absurd absent List.not_mem_nil
          have read := parseRange_text item last [] nothing laterHere orderedHere boundedHere
          have free := text_separators item [] nothing
          rw [List.append_nil] at read free
          have readRest := ih item.last (by simp)
            (fun other member => Int.ofNat_lt.mpr (increasingHere other member)) orderedRest
            increasingRest boundedRest
          rw [List.map_cons] at readRest
          rw [List.map_cons, List.map_cons, List.intercalate_cons_cons, List.append_assoc,
            List.append_assoc, List.singleton_append,
            List.splitOn_append_cons_self_of_not_mem free]
          simp [parseRanges, read, readRest]

/-- A list of the kernel that holds a number is read as its numbers. -/
theorem parseRangeList_text (list : KernelList) (nonempty : list.items ≠ []) :
    parseRangeList list.text = .ok list.numbers := by
  have spaces : ∀ char ∈ ['\n'], isSpace char = true := by
    intro char member
    rw [List.mem_singleton.mp member]
    rfl
  have bounded : ∀ item ∈ list.items, item.last < 2 ^ 31 := by
    intro item member
    have below := list.bounded item member
    omega
  have read := parseRanges_text list.items (-1) ['\n'] spaces nonempty (by intros; omega)
    list.ordered list.increasing bounded
  unfold parseRangeList KernelList.text
  rw [String.toList_ofList, read]
  rfl

/-- The newline alone is no list for the parser. -/
theorem parseRangeList_empty (list : KernelList) (nothing : list.items = []) :
    parseRangeList list.text = .error ⟨.invalidArgument, "Parse stirng fialed: \n"⟩ := by
  have text : list.text = "\n" := by
    unfold KernelList.text
    rw [nothing]
    rfl
  rw [text]
  decide

theorem parseRange_increasing (last next : Int) (piece : List Char) (numbers : List Int)
    (parsed : parseRange last piece = some (numbers, next)) :
    numbers.Pairwise (· < ·) ∧ (∀ number ∈ numbers, last < number ∧ number ≤ next) ∧
      last < next := by
  unfold parseRange at parsed
  split at parsed
  next single _ =>
      obtain ⟨start, -, parsed⟩ := Option.bind_eq_some_iff.mp parsed
      split_ifs at parsed with early
      obtain ⟨rfl, rfl⟩ := Prod.mk.inj (Option.some.inj parsed)
      have later := not_le.mp early
      refine ⟨List.pairwise_singleton _ _, fun number member => ?_, later⟩
      rw [List.mem_singleton.mp member]
      exact ⟨later, le_refl start⟩
  next first second _ =>
      obtain ⟨start, -, parsed⟩ := Option.bind_eq_some_iff.mp parsed
      split_ifs at parsed with early
      obtain ⟨stop, -, parsed⟩ := Option.bind_eq_some_iff.mp parsed
      split_ifs at parsed with backward
      obtain ⟨rfl, rfl⟩ := Prod.mk.inj (Option.some.inj parsed)
      rw [range_offsets]
      refine ⟨?_, fun number member => ?_, by omega⟩
      · refine List.pairwise_map.mpr (List.pairwise_lt_range.imp fun {step later} before => ?_)
        omega
      · obtain ⟨step, inside, rfl⟩ := List.mem_map.mp member
        have below := List.mem_range.mp inside
        omega
  next => cases parsed

theorem parseRanges_increasing (pieces : List (List Char)) (last : Int) (numbers : List Int)
    (parsed : parseRanges last pieces = some numbers) :
    numbers.Pairwise (· < ·) ∧ ∀ number ∈ numbers, last < number := by
  induction pieces generalizing last numbers with
  | nil =>
      obtain rfl := Option.some.inj parsed
      exact ⟨.nil, fun _ absent => absurd absent List.not_mem_nil⟩
  | cons piece rest ih =>
      obtain ⟨⟨here, next⟩, readHere, parsed⟩ := Option.bind_eq_some_iff.mp parsed
      obtain ⟨others, readRest, parsed⟩ := Option.bind_eq_some_iff.mp parsed
      obtain rfl := Option.some.inj parsed
      obtain ⟨increasing, within, advances⟩ := parseRange_increasing last next piece here readHere
      obtain ⟨increasingRest, after⟩ := ih next others readRest
      have apart : ∀ number ∈ here, ∀ other ∈ others, number < other := by
        intro number member other later
        exact Int.lt_of_le_of_lt (within number member).2 (after other later)
      refine ⟨List.pairwise_append.mpr ⟨increasing, increasingRest, apart⟩, fun number member => ?_⟩
      rcases List.mem_append.mp member with inHere | later
      · exact (within number inHere).1
      · exact Int.lt_trans advances (after number later)

theorem parseRangeList_ok_iff (text : String) (numbers : List Int) :
    parseRangeList text = .ok numbers ↔
      parseRanges (-1) (text.toList.splitOn ',') = some numbers := by
  unfold parseRangeList
  cases parseRanges (-1) (text.toList.splitOn ',') <;> simp

/-- The parser returns no number twice. -/
theorem parseRangeList_nodup (text : String) (numbers : List Int)
    (parsed : parseRangeList text = .ok numbers) : numbers.Nodup := by
  have read := (parseRangeList_ok_iff text numbers).mp parsed
  exact (parseRanges_increasing _ _ _ read).1.imp fun before => Int.ne_of_lt before

end OcpDiag.HwInterface
