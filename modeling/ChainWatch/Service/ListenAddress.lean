import ChainWatch.Decimal.Typed

/-!
# Where a service listens

A service listens at a host and a port, written with a colon between them. The host may itself have
colons, so the last one counts; whether there is such a host is not looked at here.
-/

namespace ChainWatch

/-- A host and a port. -/
structure ListenAddress where
  host : String
  port : UInt16
deriving DecidableEq, Repr

/-- Why a text is not a host and a port. -/
inductive ListenAddressFault where
  /-- There is no colon. -/
  | noPort
  /-- What follows the last colon is no port. -/
  | invalidPort
deriving DecidableEq, Repr

/-- The wording of a fault. -/
def ListenAddressFault.message : ListenAddressFault → String
  | .noPort => "invalid socket address"
  | .invalidPort => "invalid port value"

/-- Read a host and a port. -/
def ListenAddress.read (s : String) : Except ListenAddressFault ListenAddress :=
  let backwards := s.toList.reverse
  match backwards.dropWhile (· != ':') with
  | [] => .error .noPort
  | _ :: host =>
    let port := String.ofList (backwards.takeWhile (· != ':')).reverse
    match natOfTyped? port with
    | none => .error .invalidPort
    | some n =>
      if n < UInt16.size then .ok ⟨String.ofList host.reverse, UInt16.ofNat n⟩
      else .error .invalidPort

example : (ListenAddress.read "0.0.0.0:6666").toOption = some ⟨"0.0.0.0", 6666⟩ := by cbv

end ChainWatch
