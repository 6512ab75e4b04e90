import OcpDiag.Lib.JsonStrings
import OcpDiag.Lib.JsonTree

set_option autoImplicit false

/- The texts of JSON values, as RFC 8259 has them. -/
namespace JsonText

open JsonStrings

/-- The pieces of a string as a function, so that a text can be read. -/
def unicodeChar (digits : List Char) : Option Char := do
  let first ← codeUnit (digits.take 4)
  if first < 0xD800 ∨ 0xE000 ≤ first then
    if digits.length = 4 then some (Char.ofNat first) else none
  else if first < 0xDC00 ∧ (digits.drop 4).take 2 = ['\\', 'u'] then
    let second ← codeUnit (digits.drop 6)
    if 0xDC00 ≤ second ∧ second < 0xE000 then
      some (Char.ofNat (0x10000 + (first - 0xD800) * 0x400 + (second - 0xDC00)))
    else none
  else none

def pieceChar : List Char → Option Char
  | [char] => if unescaped char then some char else none
  | ['\\', letter] => shortEscape letter
  | '\\' :: 'u' :: digits => unicodeChar digits
  | _ => none

theorem codeUnit_length {digits : List Char} {unit : Nat} (read : codeUnit digits = some unit) :
    digits.length = 4 := by
  unfold codeUnit at read
  split at read
  · next four => exact four
  · next => exact absurd read (by simp)

theorem pieceChar_of_piece {piece : List Char} {char : Char} (stands : Piece piece char) :
    pieceChar piece = some char := by
  cases stands with
  | itself _ alone => simp [pieceChar, alone]
  | short letter _ escape => simp [pieceChar, escape]
  | unicode digits unit read whole =>
      obtain ⟨a, b, c, d, rfl⟩ := List.length_eq_four.mp (codeUnit_length read)
      simp [pieceChar, unicodeChar, read, whole]
  | surrogates high low first second firstRead secondRead leads trails =>
      obtain ⟨a, b, c, d, rfl⟩ := List.length_eq_four.mp (codeUnit_length firstRead)
      have half : ¬ (first < 0xD800 ∨ 0xE000 ≤ first) := by omega
      simp [pieceChar, unicodeChar, firstRead, secondRead, half, leads.2, trails]

theorem piece_of_unicodeChar {digits : List Char} {char : Char}
    (stands : unicodeChar digits = some char) : Piece ('\\' :: 'u' :: digits) char := by
  simp only [unicodeChar, Option.bind_eq_bind, Option.bind_eq_some_iff] at stands
  obtain ⟨first, firstRead, stands⟩ := stands
  split at stands
  · next whole =>
    split at stands
    · next four =>
      rw [List.take_of_length_le (by omega)] at firstRead
      obtain rfl := Option.some.inj stands
      exact .unicode digits first firstRead whole
    · next => exact absurd stands (by simp)
  · next half =>
    split at stands
    · next leads =>
      simp only [Option.bind_eq_some_iff] at stands
      obtain ⟨second, secondRead, stands⟩ := stands
      split at stands
      · next trails =>
        have between : digits.drop 4 = '\\' :: 'u' :: digits.drop 6 := by
          rw [← List.take_append_drop 2 (digits.drop 4), leads.2, List.drop_drop]
          rfl
        have parts : digits = digits.take 4 ++ '\\' :: 'u' :: digits.drop 6 := by
          rw [← between, List.take_append_drop]
        obtain rfl := Option.some.inj stands
        rw [parts]
        exact .surrogates _ _ first second firstRead secondRead (by omega) trails
      · next => exact absurd stands (by simp)
    · next => exact absurd stands (by simp)

theorem pieceChar_eq_some {piece : List Char} {char : Char} :
    pieceChar piece = some char ↔ Piece piece char := by
  constructor
  · intro stands
    unfold pieceChar at stands
    split at stands
    · next only =>
      split at stands
      · next alone =>
        obtain rfl := Option.some.inj stands
        exact .itself only alone
      · next => exact absurd stands (by simp)
    · next letter => exact .short letter char stands
    · next digits _ => exact piece_of_unicodeChar stands
    · next => exact absurd stands (by simp)
  · exact pieceChar_of_piece

/-- The pieces of the text, one after the other. -/
inductive SpellsBy (pieceOf : List Char → Option Char) : List Char → List Char → Prop where
  | nil : SpellsBy pieceOf [] []
  | cons (piece rest : List Char) (char : Char) (chars : List Char)
      (first : pieceOf piece = some char) (others : SpellsBy pieceOf rest chars) :
      SpellsBy pieceOf (piece ++ rest) (char :: chars)

/-- Where the reader of a text is: in a string it has some characters and a part of the piece of
the next. -/
inductive Place where
  | between
  | word (text : List Char)
  | string (chars piece : List Char)

def isMark (char : Char) : Bool :=
  char = '[' || char = ']' || char = '\x7b' || char = '\x7d' || char = ':' || char = ','

def inWord (char : Char) : Bool := char.isAlphanum || char = '-' || char = '+' || char = '.'

def begins (char : Char) : Option (List Token × Place) :=
  if blank char then some ([], .between)
  else if isMark char then some ([.mark char], .between)
  else if char = '"' then some ([], .string [] [])
  else if inWord char then some ([], .word [char])
  else none

section Reading

variable (pieceOf : List Char → Option Char)

def readChar : Place → Char → Option (List Token × Place)
  | .between, char => begins char
  | .word text, char =>
      if inWord char then some ([], .word (text ++ [char]))
      else (begins char).map fun begun => (.word text :: begun.1, begun.2)
  | .string chars piece, char =>
      if piece = [] ∧ char = '"' then some ([.string chars], .between)
      else
        match pieceOf (piece ++ [char]) with
        | some next => some ([], .string (chars ++ [next]) [])
        | none => some ([], .string chars (piece ++ [char]))

def tokensFrom (place : Place) : List Char → Option (List Token)
  | [] =>
      match place with
      | .between => some []
      | .word text => some [.word text]
      | .string _ _ => none
  | char :: rest => do
      let (found, next) ← readChar pieceOf place char
      return found ++ (← tokensFrom next rest)

theorem tokensFrom_cons (place : Place) (char : Char) (rest : List Char) (found : List Token) :
    tokensFrom pieceOf place (char :: rest) = some found ↔
      ∃ now next later, readChar pieceOf place char = some (now, next) ∧
        tokensFrom pieceOf next rest = some later ∧ found = now ++ later := by
  simp only [tokensFrom, Option.bind_eq_bind, Option.pure_def, Option.bind_eq_some_iff,
    Prod.exists, Option.some.injEq, @eq_comm _ found]
  constructor
  · rintro ⟨now, next, read, later, others, all⟩
    exact ⟨now, next, later, read, others, all⟩
  · rintro ⟨now, next, later, read, others, all⟩
    exact ⟨now, next, read, later, others, all⟩

/-- A string that a text starts in is closed, and what stands before the quote spells it. -/
theorem closes_of_tokens (text chars piece : List Char) (found : List Token)
    (read : tokensFrom pieceOf (.string chars piece) text = some found) :
    ∃ raw more rest later, text = raw ++ '"' :: rest ∧ SpellsBy pieceOf (piece ++ raw) more ∧
      tokensFrom pieceOf .between rest = some later ∧ found = .string (chars ++ more) :: later := by
  induction text generalizing chars piece found with
  | nil => exact absurd read (by simp [tokensFrom])
  | cons char text ih =>
      obtain ⟨now, next, later, first, others, rfl⟩ := (tokensFrom_cons ..).mp read
      simp only [readChar] at first
      split at first
      · next closing =>
        obtain ⟨rfl, rfl⟩ := Prod.mk.inj (Option.some.inj first)
        obtain ⟨rfl, rfl⟩ := closing
        exact ⟨[], [], text, later, rfl, .nil, others, by simp⟩
      · next =>
        split at first
        · next stood stands =>
          obtain ⟨rfl, rfl⟩ := Prod.mk.inj (Option.some.inj first)
          obtain ⟨raw, more, rest, after, rfl, spells, closed, rfl⟩ := ih _ _ _ others
          have longer : SpellsBy pieceOf (piece ++ char :: raw) (stood :: more) := by
            rw [List.append_cons]
            exact .cons _ _ _ _ stands spells
          exact ⟨char :: raw, stood :: more, rest, after, rfl, longer, closed, by simp⟩
        · next =>
          obtain ⟨rfl, rfl⟩ := Prod.mk.inj (Option.some.inj first)
          obtain ⟨raw, more, rest, after, rfl, spells, closed, rfl⟩ := ih _ _ _ others
          rw [← List.append_cons] at spells
          exact ⟨char :: raw, more, rest, after, rfl, spells, closed, by simp⟩

end Reading

/-- No piece goes on after what is a piece already. -/
theorem tokensFrom_piece (piece rest chars : List Char) (char : Char) (stands : Piece piece char) :
    tokensFrom pieceChar (.string chars []) (piece ++ rest) =
      tokensFrom pieceChar (.string (chars ++ [char]) []) rest := by
  cases stands with
  | itself _ alone =>
      have quote : char ≠ '"' := by
        rintro rfl
        exact absurd alone (by decide)
      simp [tokensFrom, readChar, pieceChar, alone, quote]
  | short letter _ escape => simp [tokensFrom, readChar, pieceChar, unescaped, escape]
  | unicode digits unit read whole =>
      obtain ⟨a, b, c, d, rfl⟩ := List.length_eq_four.mp (codeUnit_length read)
      have short : codeUnit [] = none ∧ codeUnit [a] = none ∧ codeUnit [a, b] = none ∧
          codeUnit [a, b, c] = none := ⟨rfl, rfl, rfl, rfl⟩
      simp [tokensFrom, readChar, pieceChar, unescaped, shortEscape, unicodeChar, short, read,
        whole]
  | surrogates high low first second firstRead secondRead leads trails =>
      obtain ⟨a, b, c, d, rfl⟩ := List.length_eq_four.mp (codeUnit_length firstRead)
      obtain ⟨e, f, g, h, rfl⟩ := List.length_eq_four.mp (codeUnit_length secondRead)
      have half : ¬ (first < 0xD800 ∨ 0xE000 ≤ first) := by omega
      have short : codeUnit [] = none ∧ codeUnit [a] = none ∧ codeUnit [a, b] = none ∧
          codeUnit [a, b, c] = none := ⟨rfl, rfl, rfl, rfl⟩
      have shortLow : codeUnit [e] = none ∧ codeUnit [e, f] = none ∧
          codeUnit [e, f, g] = none := ⟨rfl, rfl, rfl⟩
      simp [tokensFrom, readChar, pieceChar, unescaped, shortEscape, unicodeChar, short, shortLow,
        firstRead, secondRead, half, leads.2, trails]

theorem tokensFrom_spells (raw rest chars more : List Char) (spells : Spells raw more) :
    tokensFrom pieceChar (.string chars []) (raw ++ rest) =
      tokensFrom pieceChar (.string (chars ++ more) []) rest := by
  induction spells generalizing chars with
  | nil => simp
  | cons piece others char later first _ ih =>
      rw [List.append_assoc, tokensFrom_piece piece _ chars char first, ih,
        List.append_assoc, List.singleton_append]

/-- The value that the text denotes, its strings spelt by `pieceOf`. -/
def parse (pieceOf : List Char → Option Char) (text : List Char) : Option Json :=
  (tokensFrom pieceOf .between text).bind (buildFrom (.inside [] .item))

section Rewriting

variable (pieceOf : List Char → Option Char) (rewrite change : List Char → List Char)

/-- Where strings are spelt by `pieceOf`, the rewritten text has the changed strings. -/
structure RewritesStrings : Prop where
  nil : rewrite [] = []
  outside : ∀ char rest, char ≠ '\\' → rewrite (char :: rest) = char :: rewrite rest
  closing : ∀ raw rest, rewrite (raw ++ '"' :: rest) = rewrite raw ++ '"' :: rewrite rest
  inside : ∀ raw chars, SpellsBy pieceOf raw chars → Spells (rewrite raw) (change chars)

def Place.outside : Place → Prop
  | .string _ _ => False
  | _ => True

theorem begins_outside (char : Char) (found : List Token) (next : Place)
    (begun : begins char = some (found, next)) :
    char ≠ '\\' ∧ found.map (Token.mapString change) = found ∧
      (next.outside ∨ next = .string [] []) := by
  constructor
  · rintro rfl
    have nothing : begins '\\' = none := rfl
    exact absurd begun (by simp [nothing])
  · unfold begins at begun
    split at begun
    · cases begun
      exact ⟨rfl, .inl trivial⟩
    split at begun
    · cases begun
      exact ⟨rfl, .inl trivial⟩
    split at begun
    · cases begun
      exact ⟨rfl, .inr rfl⟩
    split at begun
    · cases begun
      exact ⟨rfl, .inl trivial⟩
    · cases begun

/-- Outside strings there is no backslash, and it does not matter how strings are spelt. -/
theorem readChar_outside (place next : Place) (char : Char) (found : List Token)
    (outside : place.outside) (read : readChar pieceOf place char = some (found, next)) :
    char ≠ '\\' ∧ readChar pieceChar place char = some (found, next) ∧
      found.map (Token.mapString change) = found ∧ (next.outside ∨ next = .string [] []) := by
  cases place with
  | between =>
      obtain ⟨other, kept, goes⟩ := begins_outside change char found next read
      exact ⟨other, read, kept, goes⟩
  | word text =>
      refine ⟨?_, read, ?_⟩
      · rintro rfl
        exact absurd read (by simp [readChar, begins, blank, isMark, inWord, Char.isAlphanum])
      · simp only [readChar] at read
        split at read
        · cases read
          exact ⟨rfl, .inl trivial⟩
        · obtain ⟨⟨more, place⟩, begun, same⟩ := Option.map_eq_some_iff.mp read
          cases same
          obtain ⟨-, kept, goes⟩ := begins_outside change char more place begun
          exact ⟨by rw [List.map_cons, kept, Token.mapString], goes⟩
  | string chars piece => exact absurd outside id

theorem tokensFrom_rewrite (rewrites : RewritesStrings pieceOf rewrite change) (place : Place)
    (outside : place.outside) (text : List Char) (found : List Token)
    (read : tokensFrom pieceOf place text = some found) :
    tokensFrom pieceChar place (rewrite text) = some (found.map (Token.mapString change)) := by
  induction length : text.length using Nat.strongRecOn generalizing place text found with
  | ind size ih =>
      cases text with
      | nil =>
          rw [rewrites.nil]
          cases place with
          | between =>
              cases read
              rfl
          | word text =>
              cases read
              rfl
          | string chars piece => exact absurd outside id
      | cons char rest =>
          obtain ⟨now, next, later, first, others, rfl⟩ := (tokensFrom_cons ..).mp read
          obtain ⟨other, same, kept, goes⟩ :=
            readChar_outside pieceOf change place next char now outside first
          rw [rewrites.outside char rest other, List.map_append, kept]
          refine (tokensFrom_cons ..).mpr ⟨now, next, _, same, ?_, rfl⟩
          rw [List.length_cons] at length
          rcases goes with still | rfl
          · exact ih rest.length (by omega) next still rest later others rfl
          · obtain ⟨raw, more, after, last, rfl, spells, closed, rfl⟩ :=
              closes_of_tokens pieceOf rest [] [] later others
            rw [rewrites.closing, tokensFrom_spells _ _ _ _ (rewrites.inside raw more spells)]
            refine (tokensFrom_cons ..).mpr
              ⟨[.string (change more)], .between, _, by simp [readChar], ?_, rfl⟩
            rw [List.length_append, List.length_cons] at length
            exact ih after.length (by omega) .between trivial after last closed rfl

/-- The rewritten text denotes the value with its strings changed. -/
theorem parse_rewrite (rewrites : RewritesStrings pieceOf rewrite change) (text : List Char)
    (value : Json) (denotes : parse pieceOf text = some value) :
    parse pieceChar (rewrite text) = some (value.mapStrings change) := by
  obtain ⟨found, read, built⟩ := Option.bind_eq_some_iff.mp denotes
  rw [parse, tokensFrom_rewrite pieceOf rewrite change rewrites .between trivial text found read,
    Option.bind_some, ← Option.map_some, ← built]
  exact buildFrom_mapStrings change (.inside [] .item) found

end Rewriting

end JsonText
