import OcpDiag.Lib.GreedyPattern
import OcpDiag.HwInterface.Config
import OcpDiag.HwInterface.Utils

set_option autoImplicit false

/- The text of the flags: the backends, the authentication methods, the node overrides and the
cache policy. -/
namespace OcpDiag.HwInterface

/-- absl::AsciiStrToLower. -/
def asciiStrToLower (text : List Char) : List Char := text.map Char.toLower

namespace AuthMethod

def abslUnparseFlag : AuthMethod → String
  | .basic => "basic"
  | .tls => "tls"
  | .default => "default"

def abslParseFlag (text : String) : Except String AuthMethod :=
  let inputText := String.ofList (asciiStrToLower text.toList)
  if inputText.isEmpty || inputText = "default" then .ok .default
  else if inputText = "basic" then .ok .basic
  else if inputText = "tls" then .ok .tls
  else .error ("Unimplemented auth method " ++ text ++ " specified in flag " ++
    "hwinterface_redfish_auth_method. Only \"basic\", \"tls\", are available now.")

end AuthMethod

namespace BackendType

/-- A backend without a case of its own, FAKE among them, prints as unknown. -/
def abslUnparseFlag : BackendType → String
  | .gsys => "gsys"
  | .redfish => "redfish"
  | .host => "host"
  | _ => "unknown"

def abslParseFlag (text : String) : Except String BackendType :=
  if text.isEmpty || text = "unknown" then .ok .unknown
  else if text = "host" then .ok .host
  else if text = "fake" then .ok .fake
  else if text = "redfish" then .ok .redfish
  else if text = "gsys" then .ok .gsys
  else .error ("Unimplemented backend " ++ text ++ " specified in flag " ++
    "hwinterface_default_backend. Only \"gsys\", \"redfish\", \"mimik_redfish\" or \"host\" " ++
    "are available now.")

end BackendType

/-- What follows the backend in the pattern of an override. -/
def targetItems : List (GreedyPattern.Item Char) :=
  [.plus anyChar, .literal [':'], .plus Char.isDigit, .optional ':', .optionalPlus anyChar]

/-- kNodeOverrideRegex. -/
def nodeOverrideRegex : List (GreedyPattern.Item Char) :=
  .plus anyChar :: .literal "://".toList :: targetItems

/-- The groups of the pattern, the port as an `int` that has to fit. -/
def matchOverride (override : String) : Option (String × String × Int × String) :=
  match GreedyPattern.fullMatch nodeOverrideRegex override.toList with
  | some [backend, targetAddress, digits, authMethod] =>
      ((digitsValue digits).bind (fun value => int32 value)).map (fun port =>
        (String.ofList backend, String.ofList targetAddress, port, String.ofList authMethod))
  | _ => none

def parseOverride (override : String) : StatusOr NodeOverride :=
  match matchOverride override with
  | none => .error ⟨.invalidArgument, "Failed to parse string \"" ++ override ++
      "\" in flag \"mhi_config\". Please make sure it's formatted as " ++
      "<backend_type>://<target_address>:<port>[:<auth>]"⟩
  | some (backendText, targetAddress, port, authMethod) =>
      match BackendType.abslParseFlag backendText with
      | .error error => .error ⟨.invalidArgument,
          "Failed to get backend type in override \"" ++ override ++ "\": " ++ error⟩
      | .ok backend =>
          if authMethod.isEmpty then .ok { backend, targetAddress, port }
          else
            match AuthMethod.abslParseFlag authMethod with
            | .error error => .error ⟨.invalidArgument,
                "Failed to get auth method in override \"" ++ override ++ "\": " ++ error⟩
            | .ok redfishAuthMethod => .ok { backend, targetAddress, port, redfishAuthMethod }

/-- What a flag parser leaves: its answer, the value and the error text, when one is asked for. -/
structure ParsedOverrides where
  accepted : Bool
  overrides : List NodeOverride
  error : Option String
  deriving DecidableEq, Repr

namespace NodeOverride

/-- kNodeOverrideFormat. -/
def unparse (override : NodeOverride) : List Char :=
  override.backend.abslUnparseFlag.toList ++ "://".toList ++ override.targetAddress.toList ++
    ':' :: (toString override.port).toList

def abslUnparseFlag (overrides : List NodeOverride) : String :=
  String.ofList ([','].intercalate (overrides.map unparse))

def parsePieces (overrides : List NodeOverride) (error : Option String) :
    List (List Char) → ParsedOverrides
  | [] => ⟨true, overrides, error⟩
  | piece :: rest =>
      match parseOverride (String.ofList piece) with
      | .error status => ⟨false, overrides, error.map (· ++ status.message)⟩
      | .ok override => parsePieces (overrides ++ [override]) error rest

def abslParseFlag (text : String) (overrides : List NodeOverride) (error : Option String) :
    ParsedOverrides :=
  if text.isEmpty then ⟨true, overrides, error⟩
  else parsePieces overrides error (text.toList.splitOn ',')

/-- Equal in the fields that a flag text gives. -/
def SameFlag (override other : NodeOverride) : Prop :=
  override.backend = other.backend ∧ override.targetAddress = other.targetAddress ∧
    override.port = other.port ∧ override.redfishAuthMethod = other.redfishAuthMethod

instance (override other : NodeOverride) : Decidable (SameFlag override other) :=
  inferInstanceAs (Decidable (_ ∧ _))

example : (abslParseFlag "redfish://[::1]:0443:TLS,host://a:1" [] (some "")).overrides =
    [⟨.redfish, "[::1]", 443, .tls, none, none⟩, ⟨.host, "a", 1, .default, none, none⟩] := by
  decide

end NodeOverride

structure ParsedCachePolicy where
  accepted : Bool
  policy : RedfishCachePolicy
  error : String
  deriving DecidableEq, Repr

namespace RedfishCachePolicy

/-- The message of the oneof, its default when another field is set. -/
def timeBased : RedfishCachePolicy → Duration
  | .timeBasedCache duration => duration
  | _ => {}

def abslUnparseFlag (policy : RedfishCachePolicy) : String :=
  match policy with
  | .noCache => "no_cache:"
  | _ => "time_based_cache" ++ ":" ++ toString policy.timeBased.seconds

/-- kRedfishCachePolicyRegex. -/
def cachePolicyRegex : List (GreedyPattern.Item Char) :=
  [.plus wordChar, .optionalGroup [':'] Char.isDigit]

def matchCachePolicy (text : String) : Option (String × String) :=
  match GreedyPattern.fullMatch cachePolicyRegex text.toList with
  | some [cacheType, duration] => some (String.ofList cacheType, String.ofList duration)
  | _ => none

def abslParseFlag (text : String) (policy : RedfishCachePolicy) (error : String) :
    ParsedCachePolicy :=
  if text.isEmpty then ⟨true, policy, error⟩
  else
    match matchCachePolicy text with
    | none => ⟨false, policy, error ++ "Failed to parse string \"" ++ text ++ "\" in flag " ++
        "\"hwinterface_redfish_cache_policy\". Please make sure it's formatted as  " ++
        "<cache_type>:<cache_duration_seconds>."⟩
    | some (cacheType, parsedCacheDuration) =>
        let cacheDuration :=
          if cacheType = "time_based_cache" then simpleAtoi64 parsedCacheDuration else none
        match cacheDuration with
        | some seconds => ⟨true, .timeBasedCache { policy.timeBased with seconds }, error⟩
        | none => ⟨true, if cacheType = "no_cache" then .noCache else policy, error⟩

example : (abslParseFlag "no_cache" .unset "").policy = .noCache := by decide

end RedfishCachePolicy

end OcpDiag.HwInterface
