import DirectoryServer.Connection.Step

set_option autoImplicit false

namespace DirectoryServer.Connection

variable {σ : Type}

def isHeld (connection : Connection σ) : Bool :=
  match connection.worker with
  | some (.serving _ work) => work.isHeld
  | _ => false

def workerMoves (connection : Connection σ) : Bool :=
  match connection.worker with
  | none => false
  | some .finished => false
  | some _ => !connection.isHeld

def isAwake (connection : Connection σ) : Bool :=
  !connection.session.queue.isEmpty ||
    (match connection.worker with
      | some .finished => true
      | _ => false) ||
    (connection.phase = .serving &&
      (connection.stopped || !connection.transport.incoming.isEmpty ||
        connection.transport.peerClosed || connection.transport.readFault.isSome ||
        connection.isDue connection.readDeadline || maxBuffer ≤ connection.buffer.length))

def loopMoves (connection : Connection σ) : Bool :=
  match connection.position with
  | .top => true
  | .waiting _ => connection.isAwake
  | .taking => true
  | .sending _ deadline =>
      connection.transport.writeFault.isSome || !connection.transport.stalled ||
        connection.isDue deadline
  | .flushing => true
  | .ended _ => false

def nextMove? (connection : Connection σ) : Option Move :=
  if connection.workerMoves then some .worker
  else if connection.loopMoves then some .loop
  else none

def settle (connection : Connection σ) : (fuel : Nat) → Moved σ
  | 0 => connection.stay
  | fuel + 1 =>
      match connection.nextMove? with
      | none => connection.stay
      | some move =>
          let (next, events) := connection.step move
          let (last, more) := next.settle fuel
          (last, events ++ more)

-- Time passes only once there is nothing else to do.
def runCalmly (connection : Connection σ) (fuel : Nat) : List Move → Moved σ
  | [] => connection.stay
  | move :: rest =>
      let (calm, first) := match move with
        | .wait _ => connection.settle fuel
        | _ => connection.stay
      let (next, second) := calm.step move
      let (last, third) := next.runCalmly fuel rest
      (last, first ++ second ++ third)

-- It takes a millisecond, unless a search was held before.
def react (connection : Connection σ) (fuel : Nat) (moves : List Move) : Moved σ :=
  let (moved, first) := connection.runCalmly fuel moves
  let (settled, second) := moved.settle fuel
  if connection.isHeld then (settled, first ++ second)
  else
    let (later, _) := settled.step (.wait 1)
    let (last, third) := later.settle fuel
    (last, first ++ second ++ third)

end DirectoryServer.Connection
