import OcpDiag.HwInterface.FlagRoundTrip

set_option autoImplicit false

/- The texts that the flag of the cache policy accepts, and the documented ones among them. -/
namespace OcpDiag.HwInterface.RedfishCachePolicy

open GreedyPattern

/-- A word, alone or with a colon and digits after it. -/
def WordForm (text : String) : Prop :=
  ∃ word, word ≠ [] ∧ (∀ char ∈ word, wordChar char = true) ∧
    (text.toList = word ∨
      ∃ digits, digits ≠ [] ∧ (∀ char ∈ digits, char.isDigit = true) ∧
        text.toList = word ++ ':' :: digits)

/-- The name of a cache type with a decimal number after it that fits in 64 bits. -/
def NumberedText (name text : String) (seconds : Nat) : Prop :=
  ∃ digits, text.toList = name.toList ++ ':' :: digits ∧ digitsValue digits = some seconds ∧
    seconds < 2 ^ 63

def NamedText (name text : String) : Prop := text = name ∨ ∃ seconds, NumberedText name text seconds

/-- The format that the flag documents. -/
def Documented (text : String) : Prop :=
  NamedText "no_cache" text ∨ NamedText "time_based_cache" text

/-- A text is refused with an error, or it is a documented one and gives its policy. -/
structure NeverDropped (text error : String) : Prop where
  accepted : (abslParseFlag text .unset error).accepted = true ↔ Documented text
  noCache : NamedText "no_cache" text → (abslParseFlag text .unset error).policy = .noCache
  timeBased : ∀ seconds : Nat, NumberedText "time_based_cache" text seconds →
    (abslParseFlag text .unset error).policy = .timeBasedCache ⟨seconds, 0⟩
  refused : ¬ Documented text →
    (∃ message, message ≠ "" ∧ (abslParseFlag text .unset error).error = error ++ message) ∧
      (abslParseFlag text .unset error).policy = .unset

theorem matchCachePolicy_word (text : String) (nonempty : text.toList ≠ [])
    (allWord : ∀ char ∈ text.toList, wordChar char = true) :
    matchCachePolicy text = some (text, "") := by
  have found : fullMatch cachePolicyRegex text.toList = some [text.toList, []] := by
    refine (fullMatch_plus_some_iff _ _ _ _).mpr ⟨_, [], [[]], rfl, (List.append_nil _).symm,
      nonempty, allWord, by decide, ?_⟩
    intro longer shorter split exceeds _
    have lengths := congrArg List.length split
    rw [List.length_append] at lengths
    omega
  unfold matchCachePolicy
  rw [found]
  simp only [String.ofList_toList]

theorem matchCachePolicy_numbered (text : String) (word digits : List Char)
    (split : text.toList = word ++ ':' :: digits) (wordSome : word ≠ [])
    (allWord : ∀ char ∈ word, wordChar char = true) (digitsSome : digits ≠ [])
    (allDigits : ∀ char ∈ digits, char.isDigit = true) :
    matchCachePolicy text = some (String.ofList word, String.ofList digits) := by
  unfold matchCachePolicy
  rw [split, fullMatch_word_digits word digits wordSome allWord digitsSome allDigits]

/-- The expression matches the words with or without a number. -/
theorem matchCachePolicy_isSome_iff (text : String) :
    (matchCachePolicy text).isSome ↔ WordForm text := by
  constructor
  · intro possible
    obtain ⟨parts, matched⟩ := Option.isSome_iff_exists.mp possible
    unfold matchCachePolicy at matched
    split at matched
    next cacheType duration found =>
        obtain ⟨word, left, rest, -, split, wordSome, allWord, last, -⟩ :=
          (fullMatch_plus_some_iff _ _ _ _).mp found
        refine ⟨word, wordSome, allWord, ?_⟩
        rcases fullMatch_optionalGroup_last_some _ _ _ _ last with
          ⟨rfl, -⟩ | ⟨digits, rfl, digitsSome, allDigits, -⟩
        · exact .inl (by rw [split, List.append_nil])
        · exact .inr ⟨digits, digitsSome, allDigits, split⟩
    next => cases matched
  · rintro ⟨word, wordSome, allWord, same | ⟨digits, digitsSome, allDigits, split⟩⟩
    · rw [matchCachePolicy_word text (by rwa [same]) (by rwa [same])]
      rfl
    · rw [matchCachePolicy_numbered text word digits split wordSome allWord digitsSome allDigits]
      rfl

theorem matchCachePolicy_numberedText (name text : String) (seconds : Nat)
    (nameSome : name.toList ≠ []) (allWord : ∀ char ∈ name.toList, wordChar char = true)
    (numbered : NumberedText name text seconds) :
    ∃ duration, matchCachePolicy text = some (name, duration) ∧
      simpleAtoi64 duration = some (seconds : Int) := by
  obtain ⟨digits, split, number, fits⟩ := numbered
  have allDigits := digitsValue_all digits seconds number
  have matched := matchCachePolicy_numbered text _ digits split nameSome allWord
    (digitsValue_digits digits seconds number) allDigits
  rw [String.ofList_toList] at matched
  refine ⟨_, matched, ?_⟩
  exact simpleAtoi64_digits digits seconds number fits

/-- A named text is matched with its name first. -/
theorem matchCachePolicy_named (name text : String) (nameSome : name.toList ≠ [])
    (allWord : ∀ char ∈ name.toList, wordChar char = true) (named : NamedText name text) :
    ∃ duration, matchCachePolicy text = some (name, duration) := by
  rcases named with rfl | ⟨seconds, numbered⟩
  · exact ⟨_, matchCachePolicy_word text nameSome allWord⟩
  · obtain ⟨duration, matched, -⟩ :=
      matchCachePolicy_numberedText name text seconds nameSome allWord numbered
    exact ⟨duration, matched⟩

theorem noCache_word : ∀ char ∈ "no_cache".toList, wordChar char = true :=
  List.all_eq_true.mp (by decide)

theorem wordForm_of_documented (text : String) (documented : Documented text) : WordForm text := by
  rw [← matchCachePolicy_isSome_iff]
  rcases documented with named | named
  · obtain ⟨duration, matched⟩ := matchCachePolicy_named "no_cache" text (by decide) noCache_word named
    rw [matched]
    rfl
  · obtain ⟨duration, matched⟩ :=
      matchCachePolicy_named "time_based_cache" text (by decide) timeBasedCache_word named
    rw [matched]
    rfl

section Parsed

variable (text error : String) (nonempty : text ≠ "")
include nonempty

theorem abslParseFlag_matched (cacheType duration : String)
    (matched : matchCachePolicy text = some (cacheType, duration)) :
    abslParseFlag text .unset error =
      match (if cacheType = "time_based_cache" then simpleAtoi64 duration else none) with
      | some seconds => ⟨true, .timeBasedCache ⟨seconds, 0⟩, error⟩
      | none => ⟨true, if cacheType = "no_cache" then .noCache else .unset, error⟩ := by
  have notEmpty : ¬ text.isEmpty = true := mt String.isEmpty_iff.mp nonempty
  rw [abslParseFlag, if_neg notEmpty, matched]
  rfl

/-- Every text of the form is accepted, whether it gives a policy or not. -/
theorem abslParseFlag_accepted_iff :
    (abslParseFlag text .unset error).accepted = true ↔ WordForm text := by
  have notEmpty : ¬ text.isEmpty = true := mt String.isEmpty_iff.mp nonempty
  rw [← matchCachePolicy_isSome_iff]
  cases matched : matchCachePolicy text with
  | none =>
      rw [abslParseFlag, if_neg notEmpty, matched]
      simp
  | some parts =>
      rw [abslParseFlag_matched text error nonempty parts.1 parts.2 matched]
      split <;> simp

theorem abslParseFlag_refused (form : ¬ WordForm text) :
    ∃ message, message ≠ "" ∧
      abslParseFlag text .unset error = ⟨false, .unset, error ++ message⟩ := by
  have notEmpty : ¬ text.isEmpty = true := mt String.isEmpty_iff.mp nonempty
  rw [← matchCachePolicy_isSome_iff, Option.not_isSome_iff_eq_none] at form
  refine ⟨"Failed to parse string \"" ++ text ++ "\" in flag " ++
    "\"hwinterface_redfish_cache_policy\". Please make sure it's formatted as  " ++
    "<cache_type>:<cache_duration_seconds>.", ?_, ?_⟩
  · intro empty
    have lengths := congrArg String.length empty
    simp only [String.length_append] at lengths
    have positive : 0 < "Failed to parse string \"".length := by decide
    have zero : "".length = 0 := by decide
    omega
  · rw [abslParseFlag, if_neg notEmpty, form]
    simp only [String.append_assoc]

/-- A text is never dropped exactly when it is no word form, or a documented one. -/
theorem neverDropped_iff_documented :
    NeverDropped text error ↔ (WordForm text → Documented text) := by
  constructor
  · intro never form
    rw [← never.accepted, abslParseFlag_accepted_iff text error nonempty]
    exact form
  · intro documented
    have sameForm : WordForm text ↔ Documented text :=
      ⟨documented, wordForm_of_documented text⟩
    refine ⟨(abslParseFlag_accepted_iff text error nonempty).trans sameForm, ?_, ?_, ?_⟩
    · intro named
      obtain ⟨duration, matched⟩ :=
        matchCachePolicy_named "no_cache" text (by decide) noCache_word named
      rw [abslParseFlag_matched text error nonempty _ _ matched]
      rfl
    · intro seconds numbered
      obtain ⟨duration, matched, number⟩ := matchCachePolicy_numberedText "time_based_cache" text
        seconds (by decide) timeBasedCache_word numbered
      rw [abslParseFlag_matched text error nonempty _ _ matched, if_pos rfl, number]
    · intro undocumented
      obtain ⟨message, written, refused⟩ :=
        abslParseFlag_refused text error nonempty (mt documented undocumented)
      rw [refused]
      exact ⟨⟨message, written, rfl⟩, rfl⟩

end Parsed

theorem neverDropped_iff_documented_hour : NeverDropped "time_based_cache:3600" "" := by
  refine (neverDropped_iff_documented "time_based_cache:3600" "" (by decide)).mpr fun _ => ?_
  exact .inr (.inr ⟨3600, "3600".toList, by decide, by decide, by decide⟩)

/-- A misspelt cache type is accepted and sets no policy. -/
theorem neverDropped_not_misspelt : ¬ ∀ text error, text ≠ "" → NeverDropped text error := by
  intro never
  have accepted := (never "nocache" "" (by decide)).accepted.mp (by decide)
  rcases accepted with (same | ⟨_, _, split, -⟩) | (same | ⟨_, _, split, -⟩)
  · exact absurd same (by decide)
  · exact absurd (congrArg List.head? (congrArg (List.drop 2) split)) (by simp)
  · exact absurd same (by decide)
  · exact absurd (congrArg List.head? split) (by simp)

end OcpDiag.HwInterface.RedfishCachePolicy
