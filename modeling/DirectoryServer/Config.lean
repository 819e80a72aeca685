import DirectoryServer.Route.Table

set_option autoImplicit false

namespace DirectoryServer

inductive Handshake where
  | completes
  | fails (reason : String)
deriving DecidableEq, Repr

structure Config (σ : Type) where
  address : String
  routes : RouteTable σ
  readTimeout : Option Nat := none
  writeTimeout : Option Nat := none
  tls : Option Handshake := none

def fractionText (thousandths : Nat) : String :=
  if thousandths = 0 then ""
  else if thousandths % 100 = 0 then s!".{thousandths / 100}"
  else if thousandths % 10 = 0 then s!".{thousandths / 100}{thousandths / 10 % 10}"
  else s!".{thousandths / 100}{thousandths / 10 % 10}{thousandths % 10}"

def durationText (milliseconds : Nat) : String :=
  if milliseconds = 0 then "0ns"
  else if milliseconds < 1000 then s!"{milliseconds}ms"
  else s!"{milliseconds / 1000}{fractionText (milliseconds % 1000)}s"

def Config.describe {σ : Type} (config : Config σ) : String :=
  Text.record "ServerConfig" [
    ("addr", Text.quoted config.address),
    ("routes", toString config.routes.routes.length),
    ("read_timeout", Text.optionText durationText config.readTimeout),
    ("write_timeout", Text.optionText durationText config.writeTimeout),
    ("tls", toString config.tls.isSome)]

end DirectoryServer
