import OcpDiag.Lib.Text
import OcpDiag.HwInterface.ServiceFlags

set_option autoImplicit false

/- The text of the node overrides and of the cache policy, printed and read again. -/
namespace OcpDiag.HwInterface

open GreedyPattern

namespace BackendType

/-- The backend that the printed text names. -/
def printed : BackendType → BackendType
  | .gsys => .gsys
  | .redfish => .redfish
  | .host => .host
  | _ => .unknown

theorem abslParseFlag_unparse (backend : BackendType) :
    abslParseFlag backend.abslUnparseFlag = .ok backend.printed := by
  cases backend <;> rfl

theorem abslUnparseFlag_plain (backend : BackendType) :
    backend.abslUnparseFlag.toList ≠ [] ∧
      ∀ char ∈ backend.abslUnparseFlag.toList, anyChar char = true ∧ char ≠ ',' := by
  have names : ∀ name ∈ ["gsys", "redfish", "host", "unknown"], name.toList ≠ [] ∧
      name.toList.all (fun char => anyChar char && char ≠ ',') = true := by decide
  have named : backend.abslUnparseFlag ∈ ["gsys", "redfish", "host", "unknown"] := by
    cases backend <;> simp [abslUnparseFlag]
  obtain ⟨nonempty, plain⟩ := names _ named
  refine ⟨nonempty, fun char member => ?_⟩
  simpa using List.all_eq_true.mp plain char member

theorem abslParseFlag_ok (text : String) (backend : BackendType)
    (parsed : abslParseFlag text = .ok backend) :
    text = "" ∧ backend = .unknown ∨ text = "unknown" ∧ backend = .unknown ∨
      text = "host" ∧ backend = .host ∨ text = "fake" ∧ backend = .fake ∨
      text = "redfish" ∧ backend = .redfish ∨ text = "gsys" ∧ backend = .gsys := by
  unfold abslParseFlag at parsed
  split_ifs at parsed with unset host fake redfish gsys
  · have named : text = "" ∨ text = "unknown" := by simpa using unset
    obtain rfl := Except.ok.inj parsed
    simpa using named
  · obtain rfl := Except.ok.inj parsed
    simpa using host
  · obtain rfl := Except.ok.inj parsed
    simpa using fake
  · obtain rfl := Except.ok.inj parsed
    simpa using redfish
  · obtain rfl := Except.ok.inj parsed
    simpa using gsys

end BackendType

namespace AuthMethod

theorem abslParseFlag_ok (text : String) (authMethod : AuthMethod)
    (parsed : abslParseFlag text = .ok authMethod) :
    text = "" ∧ authMethod = .default ∨
      asciiStrToLower text.toList = authMethod.abslUnparseFlag.toList := by
  have lowered (name : String) (named : String.ofList (asciiStrToLower text.toList) = name) :
      asciiStrToLower text.toList = name.toList := by
    rw [← named, String.toList_ofList]
  simp only [abslParseFlag] at parsed
  split_ifs at parsed with unset basic tls
  · obtain rfl := Except.ok.inj parsed
    rw [Bool.or_eq_true, decide_eq_true_eq] at unset
    cases unset with
    | inl empty =>
        have nothing : asciiStrToLower text.toList = [] := by simpa using empty
        exact .inl ⟨String.toList_eq_nil_iff.mp (List.map_eq_nil_iff.mp nothing), rfl⟩
    | inr named => exact .inr (lowered _ named)
  · obtain rfl := Except.ok.inj parsed
    exact .inr (lowered _ basic)
  · obtain rfl := Except.ok.inj parsed
    exact .inr (lowered _ tls)

end AuthMethod

/-- The parts of a text that the pattern of an override matches. -/
structure MatchedOverride (piece backend address digits auth : List Char) : Prop where
  backendSome : backend ≠ []
  backendAny : ∀ char ∈ backend, anyChar char = true
  addressSome : address ≠ []
  addressAny : ∀ char ∈ address, anyChar char = true
  /-- The backend took the most that it could. -/
  addressWhole : ∀ before after, address = before ++ "://".toList ++ after → after = []
  allDigits : ∀ char ∈ digits, char.isDigit = true
  text : ∃ tail, (tail = auth ∨ tail = ':' :: auth) ∧
    piece = backend ++ ("://".toList ++ (address ++ ':' :: (digits ++ tail)))

theorem fullMatch_targetItems_some (text : List Char) (captures : List (List Char))
    (found : fullMatch targetItems text = some captures) :
    ∃ address digits auth tail, captures = [address, digits, auth] ∧
      (tail = auth ∨ tail = ':' :: auth) ∧ text = address ++ ':' :: (digits ++ tail) ∧
      address ≠ [] ∧ (∀ char ∈ address, anyChar char = true) ∧
      digits ≠ [] ∧ (∀ char ∈ digits, char.isDigit = true) ∧
      (fullMatch targetItems.tail (':' :: (digits ++ tail))).isSome := by
  obtain ⟨address, afterAddress, rest, rfl, rfl, addressSome, addressAny, rest_found, -⟩ :=
    (fullMatch_plus_some_iff _ _ _ _).mp found
  obtain ⟨afterColon, rfl, digits_found⟩ := fullMatch_literal_some _ _ _ _ rest_found
  obtain ⟨digits, afterDigits, last, rfl, rfl, digitsSome, allDigits, tail_found, -⟩ :=
    (fullMatch_plus_some_iff _ _ _ _).mp digits_found
  obtain ⟨auth, tail, auth_found⟩ := fullMatch_optional_some _ _ _ _ tail_found
  obtain rfl := fullMatch_optionalPlus_last_some _ _ _ auth_found
  exact ⟨address, digits, auth, afterDigits, rfl, tail, rfl, addressSome, addressAny, digitsSome,
    allDigits, Option.isSome_of_eq_some rest_found⟩

theorem fullMatch_nodeOverrideRegex_some (piece : List Char) (captures : List (List Char))
    (found : fullMatch nodeOverrideRegex piece = some captures) :
    ∃ backend address digits auth, captures = [backend, address, digits, auth] ∧
      MatchedOverride piece backend address digits auth := by
  obtain ⟨backend, afterBackend, rest, rfl, rfl, backendSome, backendAny, rest_found, longest⟩ :=
    (fullMatch_plus_some_iff _ _ _ _).mp found
  obtain ⟨target, rfl, target_found⟩ := fullMatch_literal_some _ _ _ _ rest_found
  obtain ⟨address, digits, auth, tail, rfl, ends, rfl, addressSome, addressAny, -, allDigits,
    matched⟩ := fullMatch_targetItems_some _ _ target_found
  refine ⟨backend, address, digits, auth, rfl, backendSome, backendAny, addressSome, addressAny,
    ?_, allDigits, tail, ends, rfl⟩
  intro before after split
  subst split
  by_contra more
  have skipped := longest (backend ++ "://".toList ++ before)
    ("://".toList ++ (after ++ ':' :: (digits ++ tail))) (by simp) (by simp)
    (by
      intro char member
      simp only [List.mem_append] at member
      rcases member with (inBackend | inSlashes) | inBefore
      · exact backendAny char inBackend
      · exact List.all_eq_true.mp (by decide : "://".toList.all anyChar = true) char inSlashes
      · exact addressAny char (by simp [inBefore]))
  rw [fullMatch_literal_append] at skipped
  have possible := fullMatch_plus_isSome anyChar targetItems.tail after
    (':' :: (digits ++ tail)) more
    (fun char member => addressAny char (by simp [member])) matched
  rw [Option.isSome_iff_ne_none] at possible
  exact possible skipped

theorem not_colon_of_digits (digits : List Char)
    (allDigits : ∀ char ∈ digits, char.isDigit = true) : ':' ∉ digits := by
  intro member
  exact absurd (allDigits ':' member) (by decide)

/-- What may follow the port: a name of letters, with or without a colon before it. -/
structure PortTail (auth tail : List Char) : Prop where
  letters : ∀ char ∈ auth, char.isAlpha = true
  ends : tail = auth ∨ tail = ':' :: auth

theorem not_isDigit_of_isAlpha (char : Char) (letter : char.isAlpha = true) :
    char.isDigit = false := by
  have above : '9'.val < char.val := by
    rcases (Bool.or_eq_true _ _).mp letter with upper | lower
    · have inside : 'A'.val ≤ char.val ∧ char.val ≤ 'Z'.val := of_decide_eq_true upper
      exact UInt32.lt_of_lt_of_le (by decide) inside.1
    · have inside : 'a'.val ≤ char.val := of_decide_eq_true (Bool.and_elim_left lower)
      exact UInt32.lt_of_lt_of_le (by decide) inside
  refine Bool.eq_false_iff.mpr fun digit => ?_
  simp only [Char.isDigit, Bool.and_eq_true, decide_eq_true_eq] at digit
  exact UInt32.lt_irrefl _ (UInt32.lt_of_lt_of_le above digit.2)

namespace PortTail

variable {digits auth tail : List Char}

theorem nil : PortTail [] [] := ⟨fun _ absent => absurd absent List.not_mem_nil, .inl rfl⟩

theorem not_mem_auth (possible : PortTail auth tail) (char : Char)
    (other : char.isAlpha = false) : char ∉ auth := by
  intro member
  rw [possible.letters char member] at other
  cases other

theorem not_mem (possible : PortTail auth tail) (char : Char) (other : char.isAlpha = false)
    (different : char ≠ ':') : char ∉ tail := by
  have absent := possible.not_mem_auth char other
  rcases possible.ends with rfl | rfl
  · exact absent
  · exact List.not_mem_cons_of_ne_of_not_mem different absent

/-- A colon after the port is followed by letters, never by another port. -/
theorem not_port (possible : PortTail auth tail)
    (allDigits : ∀ char ∈ digits, char.isDigit = true) (before number rest : List Char)
    (numberSome : number ≠ []) (allNumber : ∀ char ∈ number, char.isDigit = true) :
    digits ++ tail ≠ before ++ ':' :: (number ++ rest) := by
  intro split
  have authFree : ':' ∉ auth := possible.not_mem_auth ':' (by decide)
  have digitsFree : ':' ∉ digits := not_colon_of_digits digits allDigits
  rcases possible.ends with rfl | rfl
  · have member : ':' ∈ digits ++ tail := by simp [split]
    exact (List.mem_append.mp member).elim digitsFree authFree
  · obtain ⟨rfl, -, same⟩ := (List.append_cons_inj_of_notMem digitsFree authFree).mp split
    obtain ⟨first, others, rfl⟩ := List.exists_cons_of_ne_nil numberSome
    have letter := possible.letters first (by simp [same])
    have digit := allNumber first List.mem_cons_self
    rw [not_isDigit_of_isAlpha first letter] at digit
    cases digit

theorem fullMatch_tail (possible : PortTail auth tail) :
    fullMatch [.optional ':', .optionalPlus anyChar] tail = some [auth] := by
  have anyLetter : ∀ char ∈ auth, anyChar char = true := by
    intro char member
    refine decide_eq_true ?_
    rintro rfl
    exact possible.not_mem_auth '\n' (by decide) member
  have last := fullMatch_optionalPlus_last anyChar auth anyLetter
  rcases possible.ends with rfl | rfl
  · refine (fullMatch_optional_skip ':' _ tail ?_).trans last
    intro first
    exact possible.not_mem_auth ':' (by decide) (List.mem_of_mem_head? first)
  · exact fullMatch_optional_cons ':' _ auth _ last

/-- A longer port would have to begin the tail with a digit. -/
theorem fullMatch_digits (possible : PortTail auth tail) (digitsSome : digits ≠ [])
    (allDigits : ∀ char ∈ digits, char.isDigit = true) :
    fullMatch [.plus Char.isDigit, .optional ':', .optionalPlus anyChar] (digits ++ tail) =
      some [digits, auth] := by
  refine (fullMatch_plus_some_iff _ _ _ _).mpr ⟨digits, tail, [auth], rfl, rfl, digitsSome,
    allDigits, possible.fullMatch_tail, ?_⟩
  intro longer shorter split exceeds allLonger
  exfalso
  rcases List.append_eq_append_iff.mp split with ⟨extra, rfl, same⟩ | ⟨extra, rfl, -⟩
  · cases extra with
    | nil => simp at exceeds
    | cons first extra =>
        have digit := allLonger first (by simp)
        have member : first ∈ tail := by simp [same]
        have notLetter : first.isAlpha = false := by
          refine Bool.eq_false_iff.mpr fun letter => ?_
          rw [not_isDigit_of_isAlpha first letter] at digit
          cases digit
        refine possible.not_mem first notLetter ?_ member
        rintro rfl
        exact absurd digit (by decide)
  · rw [List.length_append] at exceeds
    omega

theorem fullMatch_targetItems (possible : PortTail auth tail) (address : List Char)
    (addressSome : address ≠ []) (addressAny : ∀ char ∈ address, anyChar char = true)
    (digitsSome : digits ≠ []) (allDigits : ∀ char ∈ digits, char.isDigit = true) :
    fullMatch targetItems (address ++ ':' :: (digits ++ tail)) =
      some [address, digits, auth] := by
  refine (fullMatch_plus_some_iff _ _ _ _).mpr ⟨address, _, [digits, auth], rfl, rfl, addressSome,
    addressAny, (fullMatch_literal_append [':'] _ (digits ++ tail)).trans
      (possible.fullMatch_digits digitsSome allDigits), ?_⟩
  intro longer shorter split exceeds _
  refine Option.eq_none_iff_forall_ne_some.mpr fun captures found => ?_
  obtain ⟨left, rfl, number_found⟩ := fullMatch_literal_some _ _ _ _ found
  obtain ⟨number, rest, -, -, rfl, numberSome, allNumber, -⟩ :=
    (fullMatch_plus_some_iff _ _ _ _).mp number_found
  obtain ⟨extra, -, same⟩ := Text.append_cons_of_longer _ _ _ _ split exceeds
  exact possible.not_port allDigits extra number rest numberSome allNumber same

end PortTail

/-- The slashes of a longer backend would have to lie inside the address or after it. -/
theorem no_later_slashes (address rest longer target : List Char)
    (whole : ∀ before after, address = before ++ "://".toList ++ after → after = [])
    (slashFree : '/' ∉ rest) (nonempty : longer ≠ [])
    (split : "://".toList ++ (address ++ ':' :: rest) = longer ++ ("://".toList ++ target)) :
    target = ':' :: rest := by
  match longer, nonempty, split with
  | [_], _, split => simp at split
  | [_, _], _, split => simp at split
  | _ :: _ :: _ :: before, _, split =>
      have later : address ++ ':' :: rest = before ++ "://".toList ++ target := by
        simp at split
        simpa using split.2.2.2
      rcases List.append_eq_append_iff.mp later with
        ⟨middle, slashes, colon⟩ | ⟨after, slashes, later⟩
      · cases final : middle.getLast? with
        | none => rw [colon, List.getLast?_eq_none_iff.mp final, List.nil_append]
        | some last =>
            have slash : last = '/' := by
              have ends := congrArg List.getLast? slashes
              simpa [List.getLast?_append, final] using ends.symm
            have member : last ∈ ':' :: rest := by
              rw [colon]
              exact List.mem_append_left _ (List.mem_of_getLast? final)
            subst slash
            cases member with
            | tail _ inRest => exact absurd inRest slashFree
      · rw [later, whole before after slashes, List.nil_append]

/-- The pattern reads back the parts of an override whose method is a name of letters. -/
theorem fullMatch_printed (backend address digits auth tail : List Char) (backendSome : backend ≠ [])
    (backendAny : ∀ char ∈ backend, anyChar char = true) (addressSome : address ≠ [])
    (addressAny : ∀ char ∈ address, anyChar char = true)
    (whole : ∀ before after, address = before ++ "://".toList ++ after → after = [])
    (digitsSome : digits ≠ []) (allDigits : ∀ char ∈ digits, char.isDigit = true)
    (possible : PortTail auth tail) :
    fullMatch nodeOverrideRegex
        (backend ++ ("://".toList ++ (address ++ ':' :: (digits ++ tail)))) =
      some [backend, address, digits, auth] := by
  have target := possible.fullMatch_targetItems address addressSome addressAny digitsSome allDigits
  refine (fullMatch_plus_some_iff _ _ _ _).mpr ⟨backend, _, [address, digits, auth], rfl, rfl,
    backendSome, backendAny, (fullMatch_literal_append _ _ _).trans target, ?_⟩
  have slashFree : '/' ∉ digits ++ tail := by
    refine List.not_mem_append (fun member => ?_) (possible.not_mem '/' (by decide) (by decide))
    exact absurd (allDigits '/' member) (by decide)
  intro longer shorter split exceeds _
  refine Option.eq_none_iff_forall_ne_some.mpr fun captures found => ?_
  obtain ⟨later, rfl, matched⟩ := fullMatch_literal_some _ _ _ _ found
  rcases List.append_eq_append_iff.mp split with ⟨extra, rfl, rest⟩ | ⟨extra, rfl, -⟩
  · have more : extra ≠ [] := by
      rintro rfl
      simp at exceeds
    obtain rfl := no_later_slashes address _ extra later whole slashFree more rest
    obtain ⟨inner, number, -, left, -, -, colon, innerSome, -, numberSome, allNumber, -⟩ :=
      fullMatch_targetItems_some _ _ matched
    cases inner with
    | nil => exact absurd rfl innerSome
    | cons first inner =>
        obtain ⟨-, same⟩ := List.cons.inj colon
        exact possible.not_port allDigits inner number left numberSome allNumber same
  · simp only [List.length_append] at exceeds
    omega

theorem matchOverride_some (override : String) (parts : String × String × Int × String)
    (found : matchOverride override = some parts) :
    ∃ (backend address digits auth : List Char) (value : Nat),
      parts = (String.ofList backend, String.ofList address, (value : Int), String.ofList auth) ∧
      MatchedOverride override.toList backend address digits auth ∧
      digitsValue digits = some value ∧ value < 2 ^ 31 := by
  unfold matchOverride at found
  split at found
  next backend address digits auth captured =>
      obtain ⟨_, _, _, _, same, matched⟩ := fullMatch_nodeOverrideRegex_some _ _ captured
      obtain ⟨rfl, rfl, rfl, rfl, -⟩ := by simpa using same
      obtain ⟨port, fits, rfl⟩ := Option.map_eq_some_iff.mp found
      obtain ⟨value, number, fits⟩ := Option.bind_eq_some_iff.mp fits
      unfold int32 signedInt at fits
      split at fits
      next within =>
          obtain rfl := Option.some.inj fits
          exact ⟨backend, address, digits, auth, value, rfl, matched, number, by omega⟩
      next => cases fits
  next => cases found

theorem parseOverride_ok (piece : String) (override : NodeOverride)
    (parsed : parseOverride piece = .ok override) :
    ∃ (backend address digits auth : List Char) (value : Nat),
      MatchedOverride piece.toList backend address digits auth ∧
      digitsValue digits = some value ∧ value < 2 ^ 31 ∧
      BackendType.abslParseFlag (String.ofList backend) = .ok override.backend ∧
      override.targetAddress = String.ofList address ∧ override.port = value ∧
      AuthMethod.abslParseFlag (String.ofList auth) = .ok override.redfishAuthMethod := by
  unfold parseOverride at parsed
  split at parsed
  next => cases parsed
  next backendText targetAddress port authMethod found =>
      obtain ⟨backend, address, digits, auth, value, same, matched, number, fits⟩ :=
        matchOverride_some _ _ found
      obtain ⟨rfl, rfl, rfl, rfl⟩ := by simpa using same
      refine ⟨backend, address, digits, auth, value, matched, number, fits, ?_⟩
      split at parsed
      next => cases parsed
      next namedBackend backendParsed =>
          split at parsed
          next absent =>
              obtain rfl := Except.ok.inj parsed
              rw [String.isEmpty_iff.mp absent]
              exact ⟨backendParsed, rfl, rfl, rfl⟩
          next =>
              split at parsed
              next => cases parsed
              next namedAuth authParsed =>
                  obtain rfl := Except.ok.inj parsed
                  exact ⟨backendParsed, rfl, rfl, authParsed⟩

theorem matchOverride_of_fullMatch (override : String) (backend address digits auth : List Char)
    (value : Nat)
    (found : fullMatch nodeOverrideRegex override.toList = some [backend, address, digits, auth])
    (number : digitsValue digits = some value) (fits : value < 2 ^ 31) :
    matchOverride override =
      some (String.ofList backend, String.ofList address, (value : Int), String.ofList auth) := by
  have groups : matchOverride override =
      ((digitsValue digits).bind (fun value => int32 value)).map (fun port =>
        (String.ofList backend, String.ofList address, port, String.ofList auth)) := by
    unfold matchOverride
    rw [found]
  rw [groups, number, Option.bind_some, int32, signedInt_natCast 31 value fits,
    Option.map_some]

/-- What an override reads as after it is printed. -/
def NodeOverride.reread (override : NodeOverride) : NodeOverride :=
  { backend := override.backend.printed, targetAddress := override.targetAddress,
    port := override.port }

/-- An accepted override prints as a text that is accepted too. -/
theorem parseOverride_unparse (piece : String) (override : NodeOverride)
    (parsed : parseOverride piece = .ok override) :
    parseOverride (String.ofList override.unparse) = .ok override.reread := by
  obtain ⟨_, address, _, _, value, matched, -, fits, -, address_eq, port_eq, -⟩ :=
    parseOverride_ok piece override parsed
  have named := override.backend.abslUnparseFlag_plain
  have found := fullMatch_printed override.backend.abslUnparseFlag.toList address
    (toString (value : Int)).toList [] [] named.1 (fun char member => (named.2 char member).1)
    matched.addressSome matched.addressAny matched.addressWhole (toString_some value)
    (toString_digits value) .nil
  rw [List.append_nil] at found
  have text : (String.ofList override.unparse).toList =
      override.backend.abslUnparseFlag.toList ++ ("://".toList ++
        (address ++ ':' :: (toString (value : Int)).toList)) := by
    simp only [NodeOverride.unparse, String.toList_ofList, address_eq, port_eq,
      List.append_assoc]
  rw [← text] at found
  have parts := matchOverride_of_fullMatch _ _ _ _ _ value found (digitsValue_toString value) fits
  rw [String.ofList_toList, ← address_eq, ← port_eq] at parts
  unfold parseOverride
  rw [parts]
  simp only [BackendType.abslParseFlag_unparse]
  rfl

/-- An override whose text names neither the fake backend nor an authentication method. -/
def PlainOverride (piece : List Char) : Prop :=
  ¬ "fake://".toList <+: piece ∧ ¬ "basic".toList <:+ asciiStrToLower piece ∧
    ¬ "tls".toList <:+ asciiStrToLower piece

instance (piece : List Char) : Decidable (PlainOverride piece) :=
  inferInstanceAs (Decidable (_ ∧ _))

theorem backend_fake_iff (piece backend rest : List Char) (named : BackendType)
    (backendSome : backend ≠ []) (text : piece = backend ++ ("://".toList ++ rest))
    (parsed : BackendType.abslParseFlag (String.ofList backend) = .ok named) :
    "fake://".toList <+: piece ↔ named.printed ≠ named := by
  have spelled (name : String) (same : String.ofList backend = name) : backend = name.toList := by
    rw [← same, String.toList_ofList]
  subst text
  rcases BackendType.abslParseFlag_ok _ _ parsed with
    ⟨same, rfl⟩ | ⟨same, rfl⟩ | ⟨same, rfl⟩ | ⟨same, rfl⟩ | ⟨same, rfl⟩ | ⟨same, rfl⟩
  · exact absurd (spelled _ same) backendSome
  all_goals
    rw [spelled _ same]
    simp [BackendType.printed]

theorem getLast_of_suffix (name before last : List Char) (nonempty : last ≠ [])
    (ends : name <:+ before ++ last) (present : name ≠ []) : name.getLast? = last.getLast? := by
  obtain ⟨front, same⟩ := ends
  have final := congrArg List.getLast? same
  rwa [List.getLast?_append_of_ne_nil _ present, List.getLast?_append_of_ne_nil _ nonempty] at final

theorem toLower_of_isDigit (char : Char) (digit : char.isDigit = true) : char.toLower = char := by
  have low : char.val ≤ '9'.val := by
    simp only [Char.isDigit, Bool.and_eq_true, decide_eq_true_eq] at digit
    exact digit.2
  refine dif_neg ?_
  rintro ⟨upper, -⟩
  exact absurd (UInt32.le_trans upper low) (by decide)

/-- The last character tells the methods apart from each other, from the port and its colon. -/
theorem auth_named_iff (front digits auth tail : List Char) (authMethod : AuthMethod)
    (digitsSome : digits ≠ []) (allDigits : ∀ char ∈ digits, char.isDigit = true)
    (ends : tail = auth ∨ tail = ':' :: auth)
    (parsed : AuthMethod.abslParseFlag (String.ofList auth) = .ok authMethod) :
    ("basic".toList <:+ asciiStrToLower (front ++ (digits ++ tail)) ∨
      "tls".toList <:+ asciiStrToLower (front ++ (digits ++ tail))) ↔ authMethod ≠ .default := by
  rcases AuthMethod.abslParseFlag_ok _ _ parsed with ⟨empty, rfl⟩ | lowered
  · have nothing : auth = [] := by simpa using empty
    subst nothing
    have last : ∃ before char, front ++ (digits ++ tail) = before ++ [char] ∧
        (char.isDigit = true ∨ char = ':') := by
      rcases ends with rfl | rfl
      · obtain ⟨others, char, rfl⟩ := (List.eq_nil_or_concat' digits).resolve_left digitsSome
        exact ⟨front ++ others, char, by simp, .inl (allDigits char (by simp))⟩
      · exact ⟨front ++ digits, ':', by simp, .inr rfl⟩
    obtain ⟨before, char, split, kind⟩ := last
    have kept : char.toLower = char := kind.elim (toLower_of_isDigit char) (fun same => same ▸ rfl)
    rw [split, asciiStrToLower, List.map_append, List.map_singleton, kept]
    refine iff_of_false ?_ (by simp)
    rintro (basic | tls)
    · have final := getLast_of_suffix _ _ _ (List.cons_ne_nil _ _) basic (by decide)
      obtain rfl : 'c' = char := by simpa using final
      revert kind
      decide
    · have final := getLast_of_suffix _ _ _ (List.cons_ne_nil _ _) tls (by decide)
      obtain rfl : 's' = char := by simpa using final
      revert kind
      decide
  · rw [String.toList_ofList] at lowered
    have split : ∃ before, asciiStrToLower (front ++ (digits ++ tail)) =
        before ++ authMethod.abslUnparseFlag.toList := by
      rcases ends with rfl | rfl
      · exact ⟨asciiStrToLower (front ++ digits), by simp [asciiStrToLower, ← lowered]⟩
      · exact ⟨asciiStrToLower (front ++ digits ++ [':']), by simp [asciiStrToLower, ← lowered]⟩
    obtain ⟨before, split⟩ := split
    rw [split]
    cases authMethod with
    | basic => exact iff_of_true (.inl ⟨before, rfl⟩) (by decide)
    | tls => exact iff_of_true (.inr ⟨before, rfl⟩) (by decide)
    | default =>
        refine iff_of_false ?_ (by decide)
        rintro (basic | tls)
        · exact absurd (getLast_of_suffix _ _ _ (by decide) basic (by decide)) (by decide)
        · exact absurd (getLast_of_suffix _ _ _ (by decide) tls (by decide)) (by decide)

theorem digitsValue_digits (digits : List Char) (value : Nat)
    (number : digitsValue digits = some value) : digits ≠ [] := by
  rintro rfl
  cases number

namespace NodeOverride

/-- Printing loses nothing of an accepted override exactly when its text is plain. -/
theorem reread_sameFlag_iff (piece : List Char) (override : NodeOverride)
    (parsed : parseOverride (String.ofList piece) = .ok override) :
    SameFlag override.reread override ↔ PlainOverride piece := by
  obtain ⟨backend, address, digits, auth, value, matched, number, -, backendParsed, -, -,
    authParsed⟩ := parseOverride_ok _ _ parsed
  rw [String.toList_ofList] at matched
  obtain ⟨tail, ends, text⟩ := matched.text
  have fake := backend_fake_iff piece backend _ override.backend matched.backendSome text
    backendParsed
  have named := auth_named_iff (backend ++ "://".toList ++ address ++ [':']) digits auth tail
    override.redfishAuthMethod (digitsValue_digits digits value number) matched.allDigits ends
    authParsed
  have whole : backend ++ "://".toList ++ address ++ [':'] ++ (digits ++ tail) = piece := by
    simp [text]
  rw [whole] at named
  unfold SameFlag PlainOverride
  rw [fake, ← not_or, named]
  simp only [reread, not_not, true_and, eq_comm]

theorem comma_not_mem_unparse (piece : List Char) (override : NodeOverride)
    (parsed : parseOverride (String.ofList piece) = .ok override) (free : ',' ∉ piece) :
    ',' ∉ override.unparse := by
  obtain ⟨backend, address, digits, auth, value, matched, -, -, -, address_eq, port_eq, -⟩ :=
    parseOverride_ok _ _ parsed
  rw [String.toList_ofList] at matched
  obtain ⟨tail, -, text⟩ := matched.text
  have inBackend : ',' ∉ override.backend.abslUnparseFlag.toList := fun member =>
    (override.backend.abslUnparseFlag_plain.2 ',' member).2 rfl
  have inAddress : ',' ∉ address := fun member => free (by simp [text, member])
  have inPort : ',' ∉ (toString (value : Int)).toList := fun member =>
    absurd (toString_digits value ',' member) (by decide)
  simp only [unparse, address_eq, port_eq, String.toList_ofList, List.mem_append, List.mem_cons,
    not_or]
  exact ⟨⟨⟨inBackend, by decide⟩, inAddress⟩, by decide, inPort⟩

theorem unparse_ne_nil (override : NodeOverride) : override.unparse ≠ [] := by
  intro empty
  exact List.cons_ne_nil _ _ (List.append_eq_nil_iff.mp empty).2

/-- The pieces of a text and what each was read as. -/
abbrev Reads (pieces : List (List Char)) (overrides : List NodeOverride) : Prop :=
  List.Forall₂ (fun piece override => parseOverride (String.ofList piece) = .ok override) pieces
    overrides

theorem parsePieces_reads (pieces : List (List Char)) (overrides : List NodeOverride)
    (error : Option String) (reads : Reads pieces overrides) (start : List NodeOverride) :
    parsePieces start error pieces = ⟨true, start ++ overrides, error⟩ := by
  induction reads generalizing start with
  | nil => rw [parsePieces, List.append_nil]
  | @cons piece override pieces overrides read reads ih =>
      rw [parsePieces, read]
      simp only [ih, List.append_assoc, List.singleton_append]

theorem parsePieces_accepted (pieces : List (List Char)) (start : List NodeOverride)
    (error : Option String) (accepted : (parsePieces start error pieces).accepted = true) :
    ∃ overrides, Reads pieces overrides := by
  induction pieces generalizing start with
  | nil => exact ⟨[], .nil⟩
  | cons piece pieces ih =>
      cases read : parseOverride (String.ofList piece) with
      | error status => simp [parsePieces, read] at accepted
      | ok override =>
          simp only [parsePieces, read] at accepted
          obtain ⟨overrides, reads⟩ := ih _ accepted
          exact ⟨override :: overrides, .cons read reads⟩

theorem reads_unparse (pieces : List (List Char)) (overrides : List NodeOverride)
    (reads : Reads pieces overrides) :
    Reads (overrides.map unparse) (overrides.map reread) := by
  induction reads with
  | nil => exact .nil
  | cons read reads ih => exact .cons (parseOverride_unparse _ _ read) ih

theorem comma_not_mem_unparses (pieces : List (List Char)) (overrides : List NodeOverride)
    (reads : Reads pieces overrides) (free : ∀ piece ∈ pieces, ',' ∉ piece) :
    ∀ text ∈ overrides.map unparse, ',' ∉ text := by
  induction reads with
  | nil => simp
  | @cons piece override pieces overrides read reads ih =>
      rw [List.forall_mem_cons] at free
      rw [List.map_cons, List.forall_mem_cons]
      exact ⟨comma_not_mem_unparse piece override read free.1, ih free.2⟩

/-- The printed text of accepted overrides is accepted, each read as it was printed. -/
theorem abslParseFlag_unparse (pieces : List (List Char)) (overrides : List NodeOverride)
    (error : Option String) (reads : Reads pieces overrides)
    (free : ∀ piece ∈ pieces, ',' ∉ piece) :
    abslParseFlag (abslUnparseFlag overrides) [] error =
      ⟨true, overrides.map reread, error⟩ := by
  have printed := reads_unparse pieces overrides reads
  have commaFree := comma_not_mem_unparses pieces overrides reads free
  cases overrides with
  | nil => rfl
  | cons override rest =>
      have cut : (abslUnparseFlag (override :: rest)).toList.splitOn ',' =
          (override :: rest).map unparse := by
        rw [abslUnparseFlag, String.toList_ofList]
        exact List.splitOn_intercalate ',' commaFree (List.cons_ne_nil _ _)
      have nonempty : ¬ (abslUnparseFlag (override :: rest)).isEmpty = true := by
        intro empty
        rw [String.isEmpty_iff.mp empty] at cut
        exact unparse_ne_nil override (List.cons.inj cut).1.symm
      rw [abslParseFlag, if_neg nonempty, cut, parsePieces_reads _ _ error printed [],
        List.nil_append]

theorem sameFlag_iff_plain (pieces : List (List Char)) (overrides : List NodeOverride)
    (reads : Reads pieces overrides) :
    List.Forall₂ SameFlag (overrides.map reread) overrides ↔
      ∀ piece ∈ pieces, PlainOverride piece := by
  induction reads with
  | nil => simp
  | @cons piece override pieces overrides read reads ih =>
      rw [List.map_cons, List.forall₂_cons, List.forall_mem_cons, ih,
        reread_sameFlag_iff piece override read]

/-- The overrides of a text are those of the text they print as. -/
def RoundTrips (text : String) (error : Option String) : Prop :=
  let parsed := abslParseFlag text [] error
  let again := abslParseFlag (abslUnparseFlag parsed.overrides) [] error
  again.accepted = true ∧ List.Forall₂ SameFlag again.overrides parsed.overrides

instance (text : String) (error : Option String) : Decidable (RoundTrips text error) :=
  inferInstanceAs (Decidable (_ ∧ _))

/-- An accepted text survives printing exactly when all of its overrides are plain. -/
theorem roundTrips_iff_plain (text : String) (error : Option String)
    (accepted : (abslParseFlag text [] error).accepted = true) :
    RoundTrips text error ↔ ∀ piece ∈ text.toList.splitOn ',', PlainOverride piece := by
  by_cases empty : text.isEmpty = true
  · obtain rfl := String.isEmpty_iff.mp empty
    refine iff_of_true ⟨rfl, .nil⟩ ?_
    simp [PlainOverride, asciiStrToLower]
  · have free : ∀ piece ∈ text.toList.splitOn ',', ',' ∉ piece :=
      Text.not_mem_of_mem_splitOn ',' text.toList
    have pieces : abslParseFlag text [] error =
        parsePieces [] error (text.toList.splitOn ',') := if_neg empty
    rw [pieces] at accepted
    obtain ⟨overrides, reads⟩ := parsePieces_accepted _ _ _ accepted
    unfold RoundTrips
    rw [pieces, parsePieces_reads _ _ error reads [], List.nil_append]
    simp only [abslParseFlag_unparse _ _ error reads free, true_and]
    exact sameFlag_iff_plain _ _ reads

theorem roundTrips_iff_plain_ipv6 : RoundTrips "redfish://[::1]:0443:,gsys://a://:1" none :=
  (roundTrips_iff_plain "redfish://[::1]:0443:,gsys://a://:1" none (by decide)).mpr (by decide)

/-- The printed text has no place for the authentication method. -/
theorem roundTrips_not_auth :
    ¬ ∀ text error, (abslParseFlag text [] error).accepted = true → RoundTrips text error := by
  intro kept
  exact absurd (kept "redfish://bmc:443:tls" none (by decide)) (by decide)

end NodeOverride

theorem simpleAtoi64_digits (digits : List Char) (value : Nat)
    (number : digitsValue digits = some value) (fits : value < 2 ^ 63) :
    simpleAtoi64 (String.ofList digits) = some (value : Int) := by
  have read := simpleAtoiOf_digits int64 digits [] (digitsValue_all digits value number)
    (fun _ absent => absurd absent List.not_mem_nil)
  rw [List.append_nil, number, Option.bind_some, int64, signedInt_natCast 63 value fits] at read
  exact read

namespace RedfishCachePolicy

/-- A policy that a flag can give: no cache, or a cache with whole seconds. -/
def Flag (policy : RedfishCachePolicy) : Prop :=
  policy = .noCache ∨
    ∃ seconds : Int, 0 ≤ seconds ∧ seconds < 2 ^ 63 ∧ policy = .timeBasedCache ⟨seconds, 0⟩

/-- The text of the policy is read as the policy. -/
def RoundTrips (policy : RedfishCachePolicy) (error : String) : Prop :=
  let parsed := abslParseFlag policy.abslUnparseFlag .unset error
  parsed.accepted = true ∧ parsed.policy = policy

instance (policy : RedfishCachePolicy) (error : String) : Decidable (RoundTrips policy error) :=
  inferInstanceAs (Decidable (_ ∧ _))

theorem abslUnparseFlag_timeBased (value : Nat) :
    (abslUnparseFlag (.timeBasedCache ⟨value, 0⟩)).toList =
      "time_based_cache".toList ++ ':' :: (toString (value : Int)).toList := by
  simp only [abslUnparseFlag, timeBased, String.toList_append, List.append_assoc]
  rfl

/-- The colon is no word character, so the word ends before it. -/
theorem fullMatch_word_digits (word digits : List Char) (wordSome : word ≠ [])
    (allWord : ∀ char ∈ word, wordChar char = true) (digitsSome : digits ≠ [])
    (allDigits : ∀ char ∈ digits, char.isDigit = true) :
    fullMatch cachePolicyRegex (word ++ ':' :: digits) = some [word, digits] := by
  have last := fullMatch_plus_last Char.isDigit digits digitsSome allDigits
  have group := fullMatch_optionalGroup_append [':'] Char.isDigit [] _ _ last
  refine (fullMatch_plus_some_iff _ _ _ _).mpr ⟨_, _, _, rfl, rfl, wordSome, allWord, group, ?_⟩
  intro longer shorter split exceeds all
  obtain ⟨extra, rfl, -⟩ := Text.append_cons_of_longer _ _ _ _ split exceeds
  exact absurd (all ':' (by simp)) (by decide)

theorem timeBasedCache_word : ∀ char ∈ "time_based_cache".toList, wordChar char = true :=
  List.all_eq_true.mp (by decide)

theorem matchCachePolicy_timeBased (value : Nat) :
    matchCachePolicy (abslUnparseFlag (.timeBasedCache ⟨value, 0⟩)) =
      some ("time_based_cache", toString (value : Int)) := by
  have found := fullMatch_word_digits _ _ (by decide) timeBasedCache_word (toString_some value)
    (toString_digits value)
  unfold matchCachePolicy
  rw [abslUnparseFlag_timeBased, found]
  simp only [String.ofList_toList]

/-- The printed policy survives exactly when it is a time-based cache. -/
theorem roundTrips_iff_timeBased (policy : RedfishCachePolicy) (error : String)
    (flag : policy.Flag) : RoundTrips policy error ↔ policy ≠ .noCache := by
  rcases flag with rfl | ⟨seconds, low, high, rfl⟩
  · have nothing : matchCachePolicy (abslUnparseFlag .noCache) = none := by decide
    have rejected : (abslParseFlag (abslUnparseFlag .noCache) .unset error).accepted = false := by
      unfold abslParseFlag
      rw [nothing]
      rfl
    refine iff_of_false ?_ (by simp)
    rintro ⟨accepted, -⟩
    rw [rejected] at accepted
    cases accepted
  · obtain ⟨value, rfl⟩ := Int.eq_ofNat_of_zero_le low
    have fits : value < 2 ^ 63 := by omega
    refine iff_of_true ?_ (by simp)
    have nonempty : ¬ (abslUnparseFlag (.timeBasedCache ⟨value, 0⟩)).isEmpty = true := by
      intro empty
      have text := abslUnparseFlag_timeBased value
      rw [String.isEmpty_iff.mp empty] at text
      cases text
    have read := simpleAtoi64_digits _ value (digitsValue_toString value) fits
    rw [String.ofList_toList] at read
    unfold RoundTrips abslParseFlag
    rw [if_neg nonempty, matchCachePolicy_timeBased value]
    simp only [if_true, read]
    exact ⟨trivial, rfl⟩

theorem roundTrips_iff_timeBased_hour : RoundTrips (.timeBasedCache ⟨3600, 0⟩) "" :=
  (roundTrips_iff_timeBased (.timeBasedCache ⟨3600, 0⟩) ""
    (.inr ⟨3600, by decide, by decide, rfl⟩)).mpr (by decide)

/-- The printed text of no cache ends in a colon that the pattern does not take alone. -/
theorem roundTrips_not_noCache :
    ¬ ∀ policy error, policy.Flag → RoundTrips policy error := by
  intro survives
  exact absurd (survives .noCache "" (.inl rfl)) (by decide)

end RedfishCachePolicy

end OcpDiag.HwInterface
