import OcpDiag.Lib.Text
import OcpDiag.HwInterface.Status
import Mathlib.Data.List.TakeWhile

set_option autoImplicit false

/- Characters, numbers and lists of ranges in the text of a file. -/
namespace OcpDiag.HwInterface

/-- The dot of a pattern, which is no newline. -/
def anyChar (char : Char) : Bool := char ≠ '\n'

/-- `\w` in a pattern. -/
def wordChar (char : Char) : Bool := char.isAlphanum || char = '_'

/-- absl::ascii_isspace. -/
def isSpace (char : Char) : Bool :=
  char = ' ' || ('\t' ≤ char && char ≤ '\r')

def stripAsciiWhitespace (text : List Char) : List Char :=
  ((text.dropWhile isSpace).reverse.dropWhile isSpace).reverse

def digitsValue (digits : List Char) : Option Nat :=
  if !digits.isEmpty && digits.all Char.isDigit then
    some (digits.foldl (fun value digit => 10 * value + (digit.toNat - '0'.toNat)) 0)
  else none

/-- A value that fits in a signed integer with so many bits beside the sign. -/
def signedInt (bits : Nat) (value : Int) : Option Int :=
  if -2 ^ bits ≤ value ∧ value < 2 ^ bits then some value else none

/-- A value that fits in an `int`. -/
def int32 : Int → Option Int := signedInt 31

/-- A value that fits in an `int64_t`. -/
def int64 : Int → Option Int := signedInt 63

/-- absl::SimpleAtoi for a type with the values that fit in it. -/
def simpleAtoiOf (fitting : Int → Option Int) (text : String) : Option Int :=
  match stripAsciiWhitespace text.toList with
  | '-' :: digits => (digitsValue digits).bind (fun value => fitting (-value))
  | '+' :: digits => (digitsValue digits).bind (fun value => fitting value)
  | digits => (digitsValue digits).bind (fun value => fitting value)

/-- absl::SimpleAtoi for an `int`. -/
def simpleAtoi : String → Option Int := simpleAtoiOf int32

/-- absl::SimpleAtoi for an `int64_t`. -/
def simpleAtoi64 : String → Option Int := simpleAtoiOf int64

/-- An empty list has every type. -/
def infoTypeHave {α : Type} [DecidableEq α] (infoTypes : List α) (type : α) : Bool :=
  infoTypes.isEmpty || infoTypes.contains type

theorem toString_toList (value : Nat) :
    (toString (value : Int)).toList = Nat.toDigits 10 value := Nat.toList_repr

theorem toString_some (value : Nat) : (toString (value : Int)).toList ≠ [] := by
  rw [toString_toList]
  exact Nat.toDigits_ne_nil

theorem toString_digits (value : Nat) :
    ∀ char ∈ (toString (value : Int)).toList, char.isDigit = true := by
  intro char member
  rw [toString_toList] at member
  exact Nat.isDigit_of_mem_toDigits (by omega) (by omega) member

theorem digitsValue_toString (value : Nat) :
    digitsValue (toString (value : Int)).toList = some value := by
  have allDigits := List.all_eq_true.mpr (toString_digits value)
  have number : Nat.ofDigitChars 10 (Nat.toDigits 10 value) 0 = value :=
    Nat.ofDigitChars_ten_toDigits
  rw [Nat.ofDigitChars_eq_foldl] at number
  rw [toString_toList] at allDigits ⊢
  simp only [digitsValue, allDigits, Bool.and_true, Bool.not_eq_true',
    List.isEmpty_eq_false_iff, ne_eq, Nat.toDigits_ne_nil, not_false_eq_true, if_true, number]

theorem digitsValue_all (digits : List Char) (value : Nat)
    (number : digitsValue digits = some value) : ∀ char ∈ digits, char.isDigit = true := by
  unfold digitsValue at number
  split_ifs at number with both
  rw [Bool.and_eq_true] at both
  exact List.all_eq_true.mp both.2

theorem signedInt_natCast (bits value : Nat) (fits : value < 2 ^ bits) :
    signedInt bits (value : Int) = some (value : Int) := by
  have above : (value : Int) < 2 ^ bits := by exact_mod_cast fits
  rw [signedInt, if_pos ⟨by omega, above⟩]

theorem not_isSpace_of_isDigit (char : Char) (digit : char.isDigit = true) :
    isSpace char = false := by
  have low : '0'.val ≤ char.val := by
    simp only [Char.isDigit, Bool.and_eq_true, decide_eq_true_eq] at digit
    exact digit.1
  rw [Bool.eq_false_iff]
  intro space
  simp only [isSpace, Bool.or_eq_true, Bool.and_eq_true, decide_eq_true_eq] at space
  rcases space with rfl | ⟨-, high⟩
  · exact absurd low (by decide)
  · exact absurd (UInt32.le_trans low high) (by decide)

theorem stripAsciiWhitespace_padded (text blank : List Char)
    (solid : ∀ char ∈ text, isSpace char = false) (spaces : ∀ char ∈ blank, isSpace char = true) :
    stripAsciiWhitespace (text ++ blank) = text := by
  have kept (chars rest : List Char) (all : ∀ char ∈ chars, isSpace char = false)
      (nonempty : chars ≠ []) : (chars ++ rest).dropWhile isSpace = chars ++ rest := by
    cases chars with
    | nil => exact absurd rfl nonempty
    | cons char chars =>
        refine List.dropWhile_cons_of_neg ?_
        rw [all char List.mem_cons_self]
        exact Bool.false_ne_true
  by_cases nothing : text = []
  · subst nothing
    rw [stripAsciiWhitespace, List.nil_append, List.dropWhile_eq_nil_iff.mpr spaces]
    rfl
  · have backward : ∀ char ∈ text.reverse, isSpace char = false :=
      fun char member => solid char (List.mem_reverse.mp member)
    have reversed := kept text.reverse [] backward (by simpa using nothing)
    rw [stripAsciiWhitespace, kept text blank solid nothing, List.reverse_append,
      List.dropWhile_append_of_pos (fun char member => spaces char (List.mem_reverse.mp member)),
      ← List.append_nil text.reverse, reversed, List.append_nil, List.reverse_reverse]

/-- Digits without a sign, with spaces after them. -/
theorem simpleAtoiOf_digits (fitting : Int → Option Int) (digits blank : List Char)
    (allDigits : ∀ char ∈ digits, char.isDigit = true)
    (spaces : ∀ char ∈ blank, isSpace char = true) :
    simpleAtoiOf fitting (String.ofList (digits ++ blank)) =
      (digitsValue digits).bind (fun value => fitting value) := by
  have solid := fun char member => not_isSpace_of_isDigit char (allDigits char member)
  unfold simpleAtoiOf
  rw [String.toList_ofList, stripAsciiWhitespace_padded _ blank solid spaces]
  split
  next rest => exact absurd (allDigits '-' List.mem_cons_self) (by decide)
  next rest => exact absurd (allDigits '+' List.mem_cons_self) (by decide)
  next => rfl

theorem simpleAtoi_decimal (value : Int) (blank : List Char)
    (spaces : ∀ char ∈ blank, isSpace char = true) :
    simpleAtoi (String.ofList ((toString value).toList ++ blank)) = int32 value := by
  cases value with
  | ofNat value =>
      have read := simpleAtoiOf_digits int32 _ blank (toString_digits value) spaces
      rwa [digitsValue_toString, Option.bind_some] at read
  | negSucc lower =>
      have text : (toString (Int.negSucc lower)).toList =
          '-' :: (toString ((lower + 1 : Nat) : Int)).toList := by
        rw [← List.singleton_append]
        exact String.toList_append
      have solid : ∀ char ∈ (toString (Int.negSucc lower)).toList, isSpace char = false := by
        intro char member
        rw [text, List.mem_cons] at member
        cases member with
        | inl sign => rw [sign]; decide
        | inr digit => exact not_isSpace_of_isDigit char (toString_digits _ char digit)
      unfold simpleAtoi simpleAtoiOf
      rw [String.toList_ofList, stripAsciiWhitespace_padded _ blank solid spaces, text]
      simp only
      rw [digitsValue_toString, Option.bind_some]
      rfl

/-- One piece of the list: its numbers and the last of them. -/
def parseRange (last : Int) (piece : List Char) : Option (List Int × Int) :=
  match (piece.splitOn '-').map String.ofList with
  | [single] => do
      let start ← simpleAtoi single
      if start ≤ last then none else some ([start], start)
  | [first, second] => do
      let start ← simpleAtoi first
      if start ≤ last then none
      else
        let stop ← simpleAtoi second
        if stop < start then none
        else some ((List.range (stop - start + 1).toNat).map (fun step => start + step), stop)
  | _ => none

def parseRanges (last : Int) : List (List Char) → Option (List Int)
  | [] => some []
  | piece :: rest => do
      let (numbers, next) ← parseRange last piece
      let others ← parseRanges next rest
      return numbers ++ others

def parseRangeList (text : String) : StatusOr (List Int) :=
  match parseRanges (-1) (text.toList.splitOn ',') with
  | some numbers => .ok numbers
  | none => .error ⟨.invalidArgument, "Parse stirng fialed: " ++ text⟩

example : parseRangeList "1,3-5,7,9-10\n" = .ok [1, 3, 4, 5, 7, 9, 10] := by decide

end OcpDiag.HwInterface
