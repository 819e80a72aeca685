import DirectoryServer.Config
import DirectoryServer.Frame.Printer
import DirectoryServer.Frame.Stream
import DirectoryServer.Message.Codec

set_option autoImplicit false

namespace DirectoryServer

inductive TransportFault.Kind where
  | connectionReset
  | brokenPipe
deriving DecidableEq, Repr

structure TransportFault where
  kind : TransportFault.Kind
  text : String
deriving DecidableEq, Repr

inductive ConnectionError where
  | transport (fault : TransportFault)
  | parse (cause : Frame.ParseError)
  -- A request without a usable id: there is nobody to answer.
  | codec (cause : CodecError)
  | unexpectedEnd
  | bufferFull
  | timeout
  | tlsUnavailable
  | tlsHandshake (reason : String)
deriving DecidableEq, Repr

def ConnectionError.message : ConnectionError → String
  | .transport fault => s!"I/O error: {fault.text}"
  | .parse cause => s!"Parse error: {cause.message}"
  | .codec cause => s!"Codec error: {cause.message}"
  | .unexpectedEnd => "Unexpected end of stream"
  | .bufferFull => "Buffer size limit exceeded"
  | .timeout => "Deadline exceeded"
  | .tlsUnavailable => "TLS upgrade requested without an upgrader"
  | .tlsHandshake reason => s!"TLS handshake failed: {reason}"

structure Transport where
  incoming : Bytes := []
  peerClosed : Bool := false
  readFault : Option TransportFault := none
  writeFault : Option TransportFault := none
  stalled : Bool := false

inductive Worker (σ : Type) where
  -- The token has not been looked at yet.
  | starting (message : Message) (token : Token)
  | serving (id : MessageId) (work : Work σ Bool)
  -- Nothing is left but to take the request out of the registry.
  | leaving (id : MessageId)
  | finished

inductive Branch where
  | queue
  | worker
  | stop
  | read
deriving DecidableEq, Repr

inductive Position where
  | top
  | waiting (branch : Branch)
  | taking
  | sending (out : Outgoing) (deadline : Option Nat)
  | flushing
  | ended (result : Except ConnectionError Unit)

inductive Phase where
  | serving
  -- Nothing more is read; what was begun is brought to its end.
  | draining
  | closed
deriving DecidableEq, Repr

structure Connection (σ : Type) where
  config : Config σ
  scene : Scene σ
  transport : Transport := {}
  now : Nat := 0
  stopped : Bool := false
  phase : Phase := .serving
  position : Position := .top
  buffer : Bytes := []
  pending : List (Message × Token) := []
  worker : Option (Worker σ) := none
  readDeadline : Option Nat := none

inductive Event where
  | parsed (frame : Frame)
  | started (message : Message)
  | sent (out : Outgoing)
  | secured
  | ended (result : Except ConnectionError Unit)

def Outgoing.bytes (out : Outgoing) : Bytes :=
  (Response.encode out.id out.response).serialize

namespace Event

def written : List Event → Bytes
  | [] => []
  | .sent out :: rest => out.bytes ++ written rest
  | _ :: rest => written rest

def upgrades : List Event → Nat
  | [] => 0
  | .secured :: rest => upgrades rest + 1
  | _ :: rest => upgrades rest

end Event

namespace Connection

variable {σ : Type}

def maxPending : Nat := 32

def maxBuffer : Nat := Frame.maxBulk + 64 * 1024

def accept (config : Config σ) (peer : String) (state : σ) : Connection σ where
  config
  scene := ⟨{ peer, tlsAvailable := config.tls.isSome, stats := Stats.opened {} }, state⟩

def session (connection : Connection σ) : Session :=
  connection.scene.session

def withSession (connection : Connection σ) (session : Session) : Connection σ :=
  { connection with scene := { connection.scene with session } }

def isIdle (connection : Connection σ) : Bool :=
  connection.worker.isNone && connection.pending.isEmpty

def hasEnded (connection : Connection σ) : Bool :=
  match connection.position with
  | .ended _ => true
  | _ => false

def isDue (connection : Connection σ) (deadline : Option Nat) : Bool :=
  deadline.any (· ≤ connection.now)

end Connection

end DirectoryServer
