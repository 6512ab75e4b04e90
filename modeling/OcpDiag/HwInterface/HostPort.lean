import OcpDiag.Lib.Text
import OcpDiag.HwInterface.Utils

set_option autoImplicit false

/- A host and a port as one text: `HostPortString` and `GrpcHostPortString`. -/
namespace OcpDiag.HwInterface

/-- What the dot of a pattern matches: one character, the dot itself among them. A host is any
string of bytes, and what is one character in it is left to the library of the patterns. -/
structure AnyCharacter where
  accepts : List Char → Bool
  dot : accepts ['.'] = true

/-- A character that is no newline. -/
def AnyCharacter.single : AnyCharacter where
  accepts
    | [char] => anyChar char
    | _ => false
  dot := by decide

/-- A host without data is a null pointer. -/
def nullSafeHost (host : Option String) : String := host.getD "(null)"

/-- The characters of the host; a null pointer has none. -/
def hostChars (host : Option String) : List Char := (host.getD "").toList

def needsBrackets (host : Option String) : Bool :=
  !(hostChars host).isEmpty && (hostChars host).head? != some '[' && (hostChars host).contains ':'

def hostPortString (host : Option String) (port : UInt16) : String :=
  if needsBrackets host then "[" ++ host.getD "" ++ "]:" ++ toString port.toNat
  else nullSafeHost host ++ ":" ++ toString port.toNat

/-- `[0-9]+`. -/
def digitsTest (piece : List Char) : Bool := !piece.isEmpty && piece.all Char.isDigit

/-- kIpv4Regex: the dots are those of the pattern, not of an address. -/
def ipv4Regex (any : AnyCharacter) : List (List Char → Bool) :=
  [digitsTest, any.accepts, digitsTest, any.accepts, digitsTest, any.accepts, digitsTest]

def grpcHostPortString (any : AnyCharacter) (host : Option String) (port : UInt16) : String :=
  if Concatenation.fullMatch (ipv4Regex any) (hostChars host) || (hostChars host).contains ':' then
    hostPortString host port
  else "dns:///" ++ nullSafeHost host ++ ":" ++ toString port.toNat

/-- Four groups of digits, with a piece that passes the test between each two. -/
def FourGroups (separator : List Char → Bool) (host : List Char) : Prop :=
  ∃ first one second two third three fourth,
    host = first ++ one ++ second ++ two ++ third ++ three ++ fourth ∧
    (∀ group ∈ [first, second, third, fourth], digitsTest group = true) ∧
    ∀ between ∈ [one, two, three], separator between = true

/-- Four groups of digits, separated by dots. -/
def Dotted (host : List Char) : Prop := FourGroups (· == ['.']) host

/-- The text has the form that the documentation gives for the kind of the host. -/
structure ClassifiedExactly (any : AnyCharacter) (host : String) (port : UInt16) : Prop where
  dns : grpcHostPortString any (some host) port = "dns:///" ++ host ++ ":" ++ toString port.toNat ↔
    ':' ∉ host.toList ∧ ¬ Dotted host.toList
  bracketed : ':' ∈ host.toList → host.toList.head? ≠ some '[' →
    grpcHostPortString any (some host) port = "[" ++ host ++ "]:" ++ toString port.toNat
  plain : (':' ∈ host.toList → host.toList.head? = some '[') →
    (':' ∉ host.toList → Dotted host.toList) →
    grpcHostPortString any (some host) port = host ++ ":" ++ toString port.toNat

theorem FourGroups.mono {first second : List Char → Bool} {host : List Char}
    (groups : FourGroups first host)
    (weaker : ∀ piece, first piece = true → second piece = true) : FourGroups second host := by
  obtain ⟨one, left, two, middle, three, right, four, same, digits, between⟩ := groups
  exact ⟨one, left, two, middle, three, right, four, same, digits,
    fun piece member => weaker piece (between piece member)⟩

theorem Dotted.fourGroups {host : List Char} (dotted : Dotted host) (any : AnyCharacter) :
    FourGroups any.accepts host := by
  refine dotted.mono fun piece same => ?_
  rw [beq_iff_eq] at same
  rw [same]
  exact any.dot

theorem fullMatch_ipv4Regex (any : AnyCharacter) (host : List Char) :
    Concatenation.fullMatch (ipv4Regex any) host = true ↔ FourGroups any.accepts host := by
  rw [Concatenation.fullMatch_iff]
  constructor
  · rintro ⟨pieces, each, rfl⟩
    simp only [ipv4Regex, List.forall₂_cons_left_iff, List.forall₂_nil_left_iff] at each
    obtain ⟨first, _, isFirst, ⟨one, _, isOne, ⟨second, _, isSecond, ⟨two, _, isTwo,
      ⟨third, _, isThird, ⟨three, _, isThree, ⟨fourth, _, isFourth, rfl, rfl⟩, rfl⟩, rfl⟩, rfl⟩,
      rfl⟩, rfl⟩, rfl⟩ := each
    refine ⟨first, one, second, two, third, three, fourth, by simp, ?_, ?_⟩
    · simp [isFirst, isSecond, isThird, isFourth]
    · simp [isOne, isTwo, isThree]
  · rintro ⟨first, one, second, two, third, three, fourth, rfl, digits, between⟩
    simp only [List.forall_mem_cons] at digits between
    obtain ⟨isFirst, isSecond, isThird, isFourth, -⟩ := digits
    obtain ⟨isOne, isTwo, isThree, -⟩ := between
    refine ⟨[first, one, second, two, third, three, fourth], ?_, by simp⟩
    exact .cons isFirst (.cons isOne (.cons isSecond (.cons isTwo (.cons isThird
      (.cons isThree (.cons isFourth .nil))))))

section Hosts

variable (any : AnyCharacter) (host : String) (port : UInt16)

theorem needsBrackets_iff :
    needsBrackets (some host) = true ↔ ':' ∈ host.toList ∧ host.toList.head? ≠ some '[' := by
  have chars : hostChars (some host) = host.toList := rfl
  simp only [needsBrackets, chars, Bool.and_eq_true, Bool.not_eq_true', List.isEmpty_eq_false_iff,
    bne_iff_ne, List.contains_iff_mem]
  constructor
  · rintro ⟨⟨-, unbracketed⟩, colon⟩
    exact ⟨colon, unbracketed⟩
  · rintro ⟨colon, unbracketed⟩
    exact ⟨⟨List.ne_nil_of_mem colon, unbracketed⟩, colon⟩

theorem hostPortString_bracketed (colon : ':' ∈ host.toList)
    (unbracketed : host.toList.head? ≠ some '[') :
    hostPortString (some host) port = "[" ++ host ++ "]:" ++ toString port.toNat := by
  rw [hostPortString, if_pos ((needsBrackets_iff host).mpr ⟨colon, unbracketed⟩)]
  rfl

theorem hostPortString_plain (bracketed : ':' ∈ host.toList → host.toList.head? = some '[') :
    hostPortString (some host) port = host ++ ":" ++ toString port.toNat := by
  have nothing : ¬ needsBrackets (some host) = true := by
    rw [needsBrackets_iff]
    exact fun needs => needs.2 (bracketed needs.1)
  rw [hostPortString, if_neg nothing]
  rfl

/-- The texts of an address are too short for a name to be resolved. -/
theorem hostPortString_ne_dns :
    hostPortString (some host) port ≠ "dns:///" ++ host ++ ":" ++ toString port.toNat := by
  intro same
  have lengths := congrArg String.length same
  have opening : "[".length = 1 := by decide
  have closing : "]:".length = 2 := by decide
  have colon : ":".length = 1 := by decide
  have scheme : "dns:///".length = 7 := by decide
  unfold hostPortString at lengths
  split at lengths
  · simp only [Option.getD_some, String.length_append] at lengths
    omega
  · simp only [nullSafeHost, Option.getD_some, String.length_append] at lengths
    omega

theorem grpcHostPortString_address
    (address : FourGroups any.accepts host.toList ∨ ':' ∈ host.toList) :
    grpcHostPortString any (some host) port = hostPortString (some host) port := by
  have either : (Concatenation.fullMatch (ipv4Regex any) host.toList ||
      host.toList.contains ':') = true := by
    rw [Bool.or_eq_true, fullMatch_ipv4Regex, List.contains_iff_mem]
    exact address
  exact if_pos either

theorem grpcHostPortString_name (unlike : ¬ FourGroups any.accepts host.toList)
    (free : ':' ∉ host.toList) :
    grpcHostPortString any (some host) port =
      "dns:///" ++ host ++ ":" ++ toString port.toNat := by
  have neither : ¬ (Concatenation.fullMatch (ipv4Regex any) host.toList ||
      host.toList.contains ':') = true := by
    rw [Bool.or_eq_true, fullMatch_ipv4Regex, List.contains_iff_mem]
    tauto
  exact if_neg neither

theorem grpcHostPortString_dns_iff :
    grpcHostPortString any (some host) port = "dns:///" ++ host ++ ":" ++ toString port.toNat ↔
      ':' ∉ host.toList ∧ ¬ FourGroups any.accepts host.toList := by
  constructor
  · intro resolved
    by_contra other
    have address : FourGroups any.accepts host.toList ∨ ':' ∈ host.toList := by tauto
    rw [grpcHostPortString_address any host port address] at resolved
    exact hostPortString_ne_dns host port resolved
  · rintro ⟨free, unlike⟩
    exact grpcHostPortString_name any host port unlike free

/-- A host is classified as documented exactly when it has a colon, or is no four groups of digits
with any character between them, or has dots there. -/
theorem classifiedExactly_iff :
    ClassifiedExactly any host port ↔
      (':' ∉ host.toList → FourGroups any.accepts host.toList → Dotted host.toList) := by
  constructor
  · intro classified free groups
    by_contra undotted
    have resolved := classified.dns.mpr ⟨free, undotted⟩
    exact ((grpcHostPortString_dns_iff any host port).mp resolved).2 groups
  · intro dots
    refine ⟨?_, ?_, ?_⟩
    · rw [grpcHostPortString_dns_iff]
      refine and_congr_right fun free => not_congr ⟨dots free, fun dotted => ?_⟩
      exact dotted.fourGroups any
    · intro colon unbracketed
      rw [grpcHostPortString_address any host port (.inr colon)]
      exact hostPortString_bracketed host port colon unbracketed
    · intro bracketed dotted
      have address : FourGroups any.accepts host.toList ∨ ':' ∈ host.toList := by
        by_cases colon : ':' ∈ host.toList
        · exact .inr colon
        · exact .inl ((dotted colon).fourGroups any)
      rw [grpcHostPortString_address any host port address]
      exact hostPortString_plain host port bracketed

end Hosts

/-- A name of digits and dashes is taken for an address. -/
theorem classifiedExactly_not_dashes :
    ¬ ∀ (any : AnyCharacter) (host : String) (port : UInt16), ClassifiedExactly any host port := by
  intro classified
  have undotted : ¬ Dotted "10-20-30-40".toList := by
    rintro ⟨first, one, second, two, third, three, fourth, same, -, between⟩
    have dot : one = ['.'] := by simpa using between one List.mem_cons_self
    have member : '.' ∈ "10-20-30-40".toList := by
      rw [same, dot]
      simp
    exact absurd member (by decide)
  have resolved := (classified .single "10-20-30-40" 443).dns.mpr ⟨by decide, undotted⟩
  exact absurd resolved (by decide)

end OcpDiag.HwInterface
