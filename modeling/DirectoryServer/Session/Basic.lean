import DirectoryServer.Session.Registry

set_option autoImplicit false

namespace DirectoryServer

-- Counters of connections, requests and octets; they wrap at 64 bits.
structure Stats where
  accepted : UInt64 := 0
  active : UInt64 := 0
  requests : UInt64 := 0
  abandoned : UInt64 := 0
  bytesRead : UInt64 := 0
  bytesWritten : UInt64 := 0
deriving DecidableEq, Repr

namespace Stats

def opened (stats : Stats) : Stats :=
  { stats with accepted := stats.accepted + 1, active := stats.active + 1 }

def closed (stats : Stats) : Stats :=
  { stats with active := stats.active - 1 }

def requested (stats : Stats) : Stats :=
  { stats with requests := stats.requests + 1 }

def gaveUp (stats : Stats) : Stats :=
  { stats with abandoned := stats.abandoned + 1 }

def read (stats : Stats) (count : Nat) : Stats :=
  { stats with bytesRead := stats.bytesRead + UInt64.ofNat count }

def wrote (stats : Stats) (count : Nat) : Stats :=
  { stats with bytesWritten := stats.bytesWritten + UInt64.ofNat count }

end Stats

structure Outgoing where
  id : MessageId
  response : Response
  -- Once it is sent, the transport is to be secured.
  upgrade : Bool
deriving DecidableEq, Repr

structure Session where
  peer : String
  tlsAvailable : Bool
  registry : Registry := .empty
  bound : Option String := none
  secured : Bool := false
  queue : List Outgoing := []
  -- Whether anybody still takes responses from the queue.
  listening : Bool := true
  stats : Stats := {}
deriving DecidableEq, Repr

namespace Session

def send (session : Session) (out : Outgoing) : Bool × Session :=
  if session.listening then (true, { session with queue := session.queue ++ [out] })
  else (false, session)

def abandon (session : Session) (target : MessageId) : Bool × Session :=
  match session.registry.cancel target with
  | (true, registry) => (true, { session with registry, stats := session.stats.gaveUp })
  | (false, _) => (false, session)

def identify (session : Session) (name : Option String) : Session :=
  { session with bound := name }

def markSecured (session : Session) : Session :=
  { session with secured := true }

def takeQueue (session : Session) : Session :=
  { session with queue := [] }

def closeQueue (session : Session) : Session :=
  { session with queue := [], listening := false }

end Session

end DirectoryServer
