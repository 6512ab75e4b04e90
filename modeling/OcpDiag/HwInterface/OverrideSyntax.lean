import OcpDiag.HwInterface.FlagRoundTrip

set_option autoImplicit false

/- The texts that are accepted as a node override, and the documented format. -/
namespace OcpDiag.HwInterface.NodeOverride

open GreedyPattern

/-- The texts of an override, each accepted by the parser of its kind. No method is the default. -/
structure Parts (override : NodeOverride) (backend address digits auth : List Char) : Prop where
  backend : BackendType.abslParseFlag (String.ofList backend) = .ok override.backend
  addressSome : address ≠ []
  address : override.targetAddress = String.ofList address
  port : ∃ value : Nat, digitsValue digits = some value ∧ value < 2 ^ 31 ∧ override.port = value
  auth : AuthMethod.abslParseFlag (String.ofList auth) = .ok override.redfishAuthMethod

def partsText (backend address digits tail : List Char) : List Char :=
  backend ++ ("://".toList ++ (address ++ ':' :: (digits ++ tail)))

/-- <backend_type>://<target_address>:<port>[:<auth>] -/
def Formatted (override : NodeOverride) (backend text : List Char) : Prop :=
  ∃ address digits auth tail, Parts override backend address digits auth ∧
    ¬ "://".toList <:+: address ∧ text = partsText backend address digits tail ∧
    (auth = [] ∧ tail = [] ∨ auth ≠ [] ∧ tail = ':' :: auth)

/-- The text reads as the override in the documented format. -/
def Reading (text : String) (override : NodeOverride) : Prop :=
  ∃ backend, Formatted override backend text.toList

/-- The format with an empty name, which the parser of backends accepts and the pattern does not. -/
def Nameless (text : String) : Prop := ∃ override, Formatted override [] text.toList

/-- An override with a name, whose address may end in slashes and whose method and its colon may
each be left out. -/
structure Loose (text : String) (override : NodeOverride)
    (backend address digits auth tail : List Char) : Prop where
  parts : Parts override backend address digits auth
  named : backend ≠ []
  whole : ∀ before after, address = before ++ "://".toList ++ after → after = []
  text : text.toList = partsText backend address digits tail
  ends : tail = auth ∨ tail = ':' :: auth

/-- What the pattern lets through: an address that ends in "://", a method right after the port, or
a colon with nothing after it. -/
def Irregular (text : String) : Prop :=
  ∃ override backend address digits auth tail,
    Loose text override backend address digits auth tail ∧
      ("://".toList <:+ address ∨ auth ≠ [] ∧ tail = auth ∨ tail = [':'])

/-- The texts in the documented format are accepted, no others, and read with the longest
address. -/
structure FollowsFormat (text : String) : Prop where
  accepted : (∃ override, parseOverride text = .ok override) ↔ ∃ override, Reading text override
  stored : ∀ override, parseOverride text = .ok override → Reading text override ∧
    ∀ other, Reading text other → other.targetAddress.length ≤ override.targetAddress.length

theorem isAlpha_of_toLower (char : Char) (letter : char.toLower.isAlpha = true) :
    char.isAlpha = true := by
  by_cases upper : char.isUpper = true
  · exact (Bool.or_eq_true _ _).mpr (.inl upper)
  · have same : char.toLower = char := by
      refine dif_neg fun inside => upper ?_
      exact decide_eq_true inside
    rwa [same] at letter

theorem auth_letters (auth : List Char) (authMethod : AuthMethod)
    (parsed : AuthMethod.abslParseFlag (String.ofList auth) = .ok authMethod) :
    ∀ char ∈ auth, char.isAlpha = true := by
  intro char member
  rcases AuthMethod.abslParseFlag_ok _ _ parsed with ⟨empty, -⟩ | lowered
  · rw [String.ofList_eq_empty_iff] at empty
    subst empty
    cases member
  · rw [String.toList_ofList] at lowered
    have named : authMethod.abslUnparseFlag.toList.all Char.isAlpha = true := by
      cases authMethod <;> decide
    refine isAlpha_of_toLower char (List.all_eq_true.mp named _ ?_)
    rw [← lowered]
    exact List.mem_map_of_mem member

theorem backend_letters (backend : List Char) (named : BackendType)
    (parsed : BackendType.abslParseFlag (String.ofList backend) = .ok named) :
    ∀ char ∈ backend, char.isAlpha = true := by
  have spelled (name : String) (same : String.ofList backend = name) : backend = name.toList := by
    rw [← same, String.toList_ofList]
  rcases BackendType.abslParseFlag_ok _ _ parsed with
    ⟨same, -⟩ | ⟨same, -⟩ | ⟨same, -⟩ | ⟨same, -⟩ | ⟨same, -⟩ | ⟨same, -⟩
  all_goals
    rw [spelled _ same]
    exact List.all_eq_true.mp (by decide)

theorem loose_of_accepted (text : String) (override : NodeOverride)
    (parsed : parseOverride text = .ok override) :
    ∃ backend address digits auth tail, Loose text override backend address digits auth tail := by
  obtain ⟨backend, address, digits, auth, value, matched, number, fits, backendParsed, address_eq,
    port_eq, authParsed⟩ := parseOverride_ok _ _ parsed
  obtain ⟨tail, ends, same⟩ := matched.text
  exact ⟨backend, address, digits, auth, tail,
    ⟨backendParsed, matched.addressSome, address_eq, ⟨value, number, fits, port_eq⟩, authParsed⟩,
    matched.backendSome, matched.addressWhole, same, ends⟩

namespace Loose

variable {text : String} {override : NodeOverride} {backend address digits auth tail : List Char}

theorem portTail (loose : Loose text override backend address digits auth tail) :
    PortTail auth tail :=
  ⟨auth_letters auth _ loose.parts.auth, loose.ends⟩

theorem captured (loose : Loose text override backend address digits auth tail)
    (line : '\n' ∉ text.toList) :
    fullMatch nodeOverrideRegex text.toList = some [backend, address, digits, auth] := by
  obtain ⟨value, number, -, -⟩ := loose.parts.port
  have any (part : List Char) (inside : ∀ char ∈ part, char ∈ text.toList) :
      ∀ char ∈ part, anyChar char = true := by
    intro char member
    refine decide_eq_true ?_
    rintro rfl
    exact line (inside '\n' member)
  have backendAny := any backend fun char member => by simp [loose.text, partsText, member]
  have addressAny := any address fun char member => by simp [loose.text, partsText, member]
  rw [loose.text]
  exact fullMatch_printed backend address digits auth tail loose.named backendAny
    loose.parts.addressSome addressAny loose.whole (digitsValue_digits digits value number)
    (digitsValue_all digits value number) loose.portTail

/-- The pattern finds the same parts each time, so there is only one way to read a text loosely. -/
theorem unique (loose : Loose text override backend address digits auth tail)
    (line : '\n' ∉ text.toList) {otherOverride : NodeOverride}
    {otherBackend otherAddress otherDigits otherAuth otherTail : List Char}
    (other : Loose text otherOverride otherBackend otherAddress otherDigits otherAuth otherTail) :
    otherBackend = backend ∧ otherAddress = address ∧ otherDigits = digits ∧ otherAuth = auth ∧
      otherTail = tail := by
  have same := other.captured line
  rw [loose.captured line] at same
  obtain ⟨rfl, rfl, rfl, rfl⟩ := by simpa using same
  have texts := other.text.symm.trans loose.text
  refine ⟨rfl, rfl, rfl, rfl, ?_⟩
  simpa [partsText] using texts

theorem accepted (loose : Loose text override backend address digits auth tail)
    (line : '\n' ∉ text.toList) :
    ∃ accepted, parseOverride text = .ok accepted := by
  obtain ⟨value, number, fits, -⟩ := loose.parts.port
  have matched := matchOverride_of_fullMatch text backend address digits auth value
    (loose.captured line) number fits
  unfold parseOverride
  rw [matched]
  simp only [loose.parts.backend, loose.parts.auth]
  split
  · exact ⟨_, rfl⟩
  · exact ⟨_, rfl⟩

/-- A text without slashes at the end of its address and with a colon just before its method is in
the format. -/
theorem reading (loose : Loose text override backend address digits auth tail)
    (regular : ¬ Irregular text) : Reading text override := by
  have shape := fun irregular =>
    regular ⟨override, backend, address, digits, auth, tail, loose, irregular⟩
  refine ⟨backend, address, digits, auth, tail, loose.parts, ?_, loose.text, ?_⟩
  · rintro ⟨before, after, inside⟩
    have last := loose.whole before after inside.symm
    subst last
    exact shape (.inl ⟨before, by rw [← inside, List.append_nil]⟩)
  · by_cases absent : auth = []
    · rcases loose.ends with same | same
      · exact .inl ⟨absent, same.trans absent⟩
      · exact absurd (.inr (.inr (by rw [same, absent]))) shape
    · rcases loose.ends with same | same
      · exact absurd (.inr (.inl ⟨absent, same⟩)) shape
      · exact .inr ⟨absent, same⟩

end Loose

theorem Formatted.loose (text : String) (override : NodeOverride) (backend : List Char)
    (formatted : Formatted override backend text.toList) (named : backend ≠ []) :
    ∃ address digits auth tail, Loose text override backend address digits auth tail ∧
      ¬ "://".toList <:+: address ∧ (auth = [] ∧ tail = [] ∨ auth ≠ [] ∧ tail = ':' :: auth) := by
  obtain ⟨address, digits, auth, tail, parts, free, same, ends⟩ := formatted
  refine ⟨address, digits, auth, tail, ⟨parts, named, ?_, same, ?_⟩, free, ends⟩
  · intro before after inside
    exact absurd ⟨before, after, inside.symm⟩ free
  · rcases ends with ⟨rfl, rfl⟩ | ⟨-, rfl⟩
    · exact .inl rfl
    · exact .inr rfl

/-- The names of the backends have no colon, so nothing nameless is accepted. -/
theorem not_loose_of_nameless (text : String) (nameless : Nameless text) (override : NodeOverride)
    (backend address digits auth tail : List Char) :
    ¬ Loose text override backend address digits auth tail := by
  intro loose
  obtain ⟨_, otherAddress, otherDigits, -, otherTail, -, -, same, -⟩ := nameless
  obtain ⟨first, rest, rfl⟩ := List.exists_cons_of_ne_nil loose.named
  have letter := backend_letters _ _ loose.parts.backend first List.mem_cons_self
  have begins := loose.text.symm.trans same
  obtain rfl : first = ':' := by
    simp [partsText] at begins
    exact begins.1
  exact absurd letter (by decide)

theorem reading_loose (text : String) (override : NodeOverride) (reading : Reading text override)
    (named : ¬ Nameless text) :
    ∃ backend address digits auth tail, Loose text override backend address digits auth tail := by
  obtain ⟨backend, formatted⟩ := reading
  have nonempty : backend ≠ [] := by
    rintro rfl
    exact named ⟨override, formatted⟩
  obtain ⟨address, digits, auth, tail, loose, -⟩ := formatted.loose text override backend nonempty
  exact ⟨backend, address, digits, auth, tail, loose⟩

theorem FollowsFormat.named {text : String} (follows : FollowsFormat text) : ¬ Nameless text := by
  intro nameless
  obtain ⟨override, formatted⟩ := nameless
  obtain ⟨accepted, parsed⟩ := follows.accepted.mpr ⟨override, [], formatted⟩
  obtain ⟨_, _, _, _, _, loose⟩ := loose_of_accepted text accepted parsed
  exact not_loose_of_nameless text ⟨override, formatted⟩ _ _ _ _ _ _ loose

/-- An irregular text is accepted, and what accepts it is the only way to read it. -/
theorem FollowsFormat.regular {text : String} (follows : FollowsFormat text)
    (line : '\n' ∉ text.toList) : ¬ Irregular text := by
  rintro ⟨override, backend, address, digits, auth, tail, loose, irregular⟩
  obtain ⟨reading, otherBackend, formatted⟩ := follows.accepted.mp (loose.accepted line)
  have nonempty : otherBackend ≠ [] := by
    rintro rfl
    exact follows.named ⟨reading, formatted⟩
  obtain ⟨_, _, _, _, other, free, ends⟩ := formatted.loose text reading otherBackend nonempty
  obtain ⟨rfl, rfl, rfl, rfl, rfl⟩ := loose.unique line other
  rcases irregular with slashes | ⟨present, joined⟩ | colon
  · exact free slashes.isInfix
  · rcases ends with ⟨nothing, -⟩ | ⟨-, apart⟩
    · exact present nothing
    · exact List.cons_ne_self _ _ (apart.symm.trans joined)
  · rcases ends with ⟨-, nothing⟩ | ⟨present, apart⟩
    · exact List.cons_ne_nil _ _ (colon.symm.trans nothing)
    · exact present (List.cons.inj (colon.symm.trans apart)).2.symm

/-- The documented format decides exactly when the text has a name and no irregular part. -/
theorem followsFormat_iff (text : String) (line : '\n' ∉ text.toList) :
    FollowsFormat text ↔ ¬ Nameless text ∧ ¬ Irregular text := by
  constructor
  · intro follows
    exact ⟨follows.named, follows.regular line⟩
  · rintro ⟨named, regular⟩
    refine ⟨⟨?_, ?_⟩, ?_⟩
    · rintro ⟨override, parsed⟩
      obtain ⟨_, _, _, _, _, loose⟩ := loose_of_accepted text override parsed
      exact ⟨override, loose.reading regular⟩
    · rintro ⟨override, reading⟩
      obtain ⟨_, _, _, _, _, loose⟩ := reading_loose text override reading named
      exact loose.accepted line
    · intro override parsed
      obtain ⟨_, _, _, _, _, loose⟩ := loose_of_accepted text override parsed
      refine ⟨loose.reading regular, fun other reading => ?_⟩
      obtain ⟨_, _, _, _, _, otherLoose⟩ := reading_loose text other reading named
      obtain ⟨-, rfl, -⟩ := loose.unique line otherLoose
      rw [otherLoose.parts.address, loose.parts.address]

theorem loose_ipv6 : Loose "redfish://[::1]:0443:TLS" ⟨.redfish, "[::1]", 443, .tls, none, none⟩
    "redfish".toList "[::1]".toList "0443".toList "TLS".toList ":TLS".toList where
  parts := ⟨by decide, by decide, by decide, ⟨443, by decide, by decide, rfl⟩, by decide⟩
  named := by decide
  whole before after inside :=
    absurd ⟨before, after, inside.symm⟩ (by decide : ¬ "://".toList <:+: "[::1]".toList)
  text := by decide
  ends := .inr rfl

theorem followsFormat_iff_ipv6 : FollowsFormat "redfish://[::1]:0443:TLS" := by
  have line : '\n' ∉ "redfish://[::1]:0443:TLS".toList := by decide
  refine (followsFormat_iff _ line).mpr ⟨fun nameless => ?_, ?_⟩
  · exact not_loose_of_nameless _ nameless _ _ _ _ _ _ loose_ipv6
  · rintro ⟨_, _, _, _, _, _, other, irregular⟩
    obtain ⟨rfl, rfl, rfl, rfl, rfl⟩ := loose_ipv6.unique line other
    revert irregular
    decide

theorem loose_joined : Loose "host://a:1tls" ⟨.host, "a", 1, .tls, none, none⟩ "host".toList ['a']
    ['1'] "tls".toList "tls".toList where
  parts := ⟨by decide, by decide, by decide, ⟨1, by decide, by decide, rfl⟩, by decide⟩
  named := by decide
  whole before after inside :=
    absurd ⟨before, after, inside.symm⟩ (by decide : ¬ "://".toList <:+: ['a'])
  text := by decide
  ends := .inl rfl

/-- The method is accepted without the colon that the format asks for. -/
theorem followsFormat_not_joined :
    ¬ ∀ text : String, '\n' ∉ text.toList → FollowsFormat text := by
  intro follows
  have line : '\n' ∉ "host://a:1tls".toList := by decide
  exact (follows _ line).regular line
    ⟨_, _, _, _, _, _, loose_joined, .inr (.inl ⟨by decide, rfl⟩)⟩

end OcpDiag.HwInterface.NodeOverride
