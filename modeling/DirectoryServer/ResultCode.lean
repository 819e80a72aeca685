set_option autoImplicit false

namespace DirectoryServer

inductive ResultCode where
  | success
  | operationsError
  | protocolError
  | compareFalse
  | compareTrue
  | noSuchObject
  | invalidCredentials
  | busy
  | unwillingToPerform
deriving DecidableEq, Repr

namespace ResultCode

def number : ResultCode → Nat
  | .success => 0
  | .operationsError => 1
  | .protocolError => 2
  | .compareFalse => 5
  | .compareTrue => 6
  | .noSuchObject => 32
  | .invalidCredentials => 49
  | .busy => 51
  | .unwillingToPerform => 53

def ofNumber? : Int → Option ResultCode
  | 0 => some .success
  | 1 => some .operationsError
  | 2 => some .protocolError
  | 5 => some .compareFalse
  | 6 => some .compareTrue
  | 32 => some .noSuchObject
  | 49 => some .invalidCredentials
  | 51 => some .busy
  | 53 => some .unwillingToPerform
  | _ => none

theorem of_number_number (code : ResultCode) : ofNumber? code.number = some code := by
  cases code <;> rfl

def name : ResultCode → String
  | .success => "success"
  | .operationsError => "operationsError"
  | .protocolError => "protocolError"
  | .compareFalse => "compareFalse"
  | .compareTrue => "compareTrue"
  | .noSuchObject => "noSuchObject"
  | .invalidCredentials => "invalidCredentials"
  | .busy => "busy"
  | .unwillingToPerform => "unwillingToPerform"

def display (code : ResultCode) : String :=
  s!"{code.name} ({code.number})"

def isSuccess (code : ResultCode) : Bool :=
  code = .success

end ResultCode

end DirectoryServer
