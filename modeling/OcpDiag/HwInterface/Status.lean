set_option autoImplicit false

/- absl::Status and absl::StatusOr. -/
namespace OcpDiag.HwInterface

inductive StatusCode where
  | cancelled
  | unknown
  | invalidArgument
  | deadlineExceeded
  | notFound
  | internal
  | unimplemented
  deriving DecidableEq, Repr

/-- A status other than OK. -/
structure Status where
  code : StatusCode
  message : String
  deriving DecidableEq, Repr

abbrev StatusOr (α : Type) : Type := Except Status α

end OcpDiag.HwInterface
