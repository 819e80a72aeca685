import DirectoryServer.Message.Basic

set_option autoImplicit false

namespace DirectoryServer

abbrev Token := Nat

structure Registry where
  issued : Nat
  raised : List Token
  -- The requests in flight with their tokens, newest first.
  inFlight : List (MessageId × Token)
deriving DecidableEq, Repr

namespace Registry

def empty : Registry := ⟨0, [], []⟩

def token? (registry : Registry) (id : MessageId) : Option Token :=
  registry.inFlight.lookup id

def contains (registry : Registry) (id : MessageId) : Bool :=
  (registry.token? id).isSome

def isRaised (registry : Registry) (token : Token) : Bool :=
  registry.raised.contains token

def raise (registry : Registry) (token : Token) : Registry :=
  if registry.isRaised token then registry
  else { registry with raised := token :: registry.raised }

def issue (registry : Registry) : Token × Registry :=
  (registry.issued, { registry with issued := registry.issued + 1 })

def register (registry : Registry) (id : MessageId) : Option Token × Registry :=
  if registry.contains id then (none, registry)
  else
    (some registry.issued,
      { registry with
        issued := registry.issued + 1
        inFlight := (id, registry.issued) :: registry.inFlight })

def cancel (registry : Registry) (id : MessageId) : Bool × Registry :=
  match registry.token? id with
  | some token => (true, registry.raise token)
  | none => (false, registry)

def complete (registry : Registry) (id : MessageId) : Registry :=
  { registry with inFlight := registry.inFlight.filter fun entry => entry.1 ≠ id }

def cancelAll (registry : Registry) : Nat × Registry :=
  (registry.inFlight.length,
    { registry.inFlight.foldl (fun registry entry => registry.raise entry.2) registry with
      inFlight := [] })

end Registry

end DirectoryServer
