import DirectoryServer.Connection.Intake

set_option autoImplicit false

/-!
The moves of a connection. The loop and the worker move independently of each other, one small step
at a time, and so do the client and the clock; any order of moves is a run of the connection. A move
that cannot be made changes nothing.
-/
namespace DirectoryServer.Connection

variable {σ : Type}

abbrev Moved (σ : Type) := Connection σ × List Event

def stay (connection : Connection σ) : Moved σ :=
  (connection, [])

def goto (connection : Connection σ) (position : Position) : Connection σ :=
  { connection with position }

def finish (connection : Connection σ) (result : Except ConnectionError Unit) : Moved σ :=
  let (_, registry) := connection.session.registry.cancelAll
  let session := { connection.session.closeQueue with
    registry, stats := connection.session.stats.closed }
  ({ connection.withSession session with phase := .closed, position := .ended result },
    [.ended result])

def startNext (connection : Connection σ) : Moved σ :=
  match connection.worker, connection.pending with
  | none, (message, token) :: rest =>
      ({ connection with pending := rest, worker := some (.starting message token) },
        [.started message])
  | _, _ => connection.stay

def begin (connection : Connection σ) : Moved σ :=
  let (started, events) := connection.startNext
  if started.phase = .draining ∧ started.worker.isNone then (started.goto .flushing, events)
  else
    let readDeadline :=
      if started.isIdle then started.config.readTimeout.map (started.now + ·) else none
    ({ started with readDeadline, position := .waiting .queue }, events)

def takeOutgoing (connection : Connection σ) : Option (Outgoing × Connection σ) :=
  match connection.session.queue with
  | [] => none
  | out :: queue =>
      some (out, connection.withSession { connection.session with queue })

def startSending (connection : Connection σ) (out : Outgoing) : Connection σ :=
  connection.goto (.sending out (connection.config.writeTimeout.map (connection.now + ·)))

def afterSending (connection : Connection σ) : Position :=
  match connection.phase, connection.worker with
  | .draining, none => .flushing
  | _, _ => .top

-- Octets that were read and not parsed are thrown away.
def upgrade (connection : Connection σ) : Moved σ :=
  match connection.config.tls with
  | none => connection.finish (.error .tlsUnavailable)
  | some (.fails reason) =>
      { connection with buffer := [] }.finish (.error (.tlsHandshake reason))
  | some .completes =>
      let secured := connection.withSession connection.session.markSecured
      ({ secured with buffer := [], position := secured.afterSending }, [.secured])

def written (connection : Connection σ) (out : Outgoing) : Moved σ :=
  let counted := connection.withSession
    { connection.session with stats := connection.session.stats.wrote out.bytes.length }
  if out.upgrade then
    let (upgraded, events) := counted.upgrade
    (upgraded, .sent out :: events)
  else (counted.goto counted.afterSending, [.sent out])

def write (connection : Connection σ) (out : Outgoing) (deadline : Option Nat) : Moved σ :=
  match connection.transport.writeFault with
  | some fault => connection.finish (.error (.transport fault))
  | none =>
      if connection.transport.stalled then
        if connection.isDue deadline then connection.finish (.error .timeout) else connection.stay
      else connection.written out

def drain (connection : Connection σ) : Connection σ :=
  let registry := connection.pending.foldl
    (fun registry waiting => registry.complete waiting.1.id) connection.session.registry
  { connection.withSession { connection.session with registry } with
    pending := [], phase := .draining, position := .top }

def receive (connection : Connection σ) : Moved σ :=
  let bytes := connection.transport.incoming
  let received := connection.withSession
    { connection.session with stats := connection.session.stats.read bytes.length }
  { received with
    transport := { received.transport with incoming := [] }
    buffer := received.buffer ++ bytes
    position := .taking }.stay

def take (connection : Connection σ) : Moved σ :=
  match Frame.parse connection.buffer with
  | .error cause => connection.finish (.error (.parse cause))
  | .ok none => (connection.goto .top).stay
  | .ok (some (frame, size)) =>
      match { connection with buffer := connection.buffer.drop size }.takeFrame frame with
      | (taken, none) => (taken, [.parsed frame])
      | (taken, some error) =>
          let (finished, events) := taken.finish (.error error)
          (finished, .parsed frame :: events)

def read (connection : Connection σ) : Moved σ :=
  if maxBuffer ≤ connection.buffer.length then connection.finish (.error .bufferFull)
  else if !connection.transport.incoming.isEmpty then connection.receive
  else if connection.transport.peerClosed then
    if connection.buffer.isEmpty then
      ({ connection with phase := .draining, position := .top }).stay
    else connection.finish (.error .unexpectedEnd)
  else
    match connection.transport.readFault with
    | some fault => connection.finish (.error (.transport fault))
    | none =>
        if connection.isDue connection.readDeadline then connection.finish (.error .timeout)
        else (connection.goto (.waiting .queue)).stay

def await (connection : Connection σ) : Branch → Moved σ
  | .queue =>
      match connection.takeOutgoing with
      | some (out, next) => (next.startSending out).stay
      | none => (connection.goto (.waiting .worker)).stay
  | .worker =>
      match connection.worker with
      | some .finished => ({ connection with worker := none, position := .top }).stay
      | _ => (connection.goto (.waiting .stop)).stay
  | .stop =>
      if connection.phase = .serving ∧ connection.stopped then connection.drain.stay
      else (connection.goto (.waiting .read)).stay
  | .read =>
      if connection.phase = .serving then connection.read
      else (connection.goto (.waiting .queue)).stay

def flush (connection : Connection σ) : Moved σ :=
  match connection.takeOutgoing with
  | some (out, next) => (next.startSending out).stay
  | none => connection.finish (.ok ())

def stepLoop (connection : Connection σ) : Moved σ :=
  match connection.position with
  | .top => connection.begin
  | .waiting branch => connection.await branch
  | .taking => connection.take
  | .sending out deadline => connection.write out deadline
  | .flushing => connection.flush
  | .ended _ => connection.stay

def stepWorker (connection : Connection σ) : Connection σ :=
  match connection.worker with
  | none => connection
  | some (.starting message token) =>
      if connection.session.registry.isRaised token then
        { connection with worker := some (.leaving message.id) }
      else
        let work := connection.config.routes.dispatch message.request
          ⟨message.id, message.request.kind, token⟩
        { connection with worker := some (.serving message.id work) }
  | some (.serving id (.done _)) => { connection with worker := some (.leaving id) }
  | some (.serving id work) =>
      let (work, scene) := work.step connection.scene
      { connection with worker := some (.serving id work), scene }
  | some (.leaving id) =>
      { connection.withSession
          { connection.session with registry := connection.session.registry.complete id } with
        worker := some .finished }
  | some .finished => connection

inductive Move where
  | loop
  | worker
  | arrive (bytes : Bytes)
  | close
  | stop
  | failReads (fault : TransportFault)
  | failWrites (fault : TransportFault)
  | stallWrites
  | wait (milliseconds : Nat)

def step (connection : Connection σ) : Move → Moved σ
  | .loop => connection.stepLoop
  | .worker => connection.stepWorker.stay
  | .arrive bytes =>
      { connection with transport :=
        { connection.transport with incoming := connection.transport.incoming ++ bytes } }.stay
  | .close =>
      { connection with transport := { connection.transport with peerClosed := true } }.stay
  | .stop => { connection with stopped := true }.stay
  | .failReads fault =>
      { connection with transport := { connection.transport with readFault := some fault } }.stay
  | .failWrites fault =>
      { connection with transport := { connection.transport with writeFault := some fault } }.stay
  | .stallWrites =>
      { connection with transport := { connection.transport with stalled := true } }.stay
  | .wait milliseconds => { connection with now := connection.now + milliseconds }.stay

def run (connection : Connection σ) : List Move → Moved σ
  | [] => connection.stay
  | move :: rest =>
      let (next, events) := connection.step move
      let (last, more) := next.run rest
      (last, events ++ more)

end DirectoryServer.Connection
