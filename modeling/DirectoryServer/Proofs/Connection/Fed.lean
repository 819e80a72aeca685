import DirectoryServer.Proofs.Connection.Calm
import DirectoryServer.Proofs.Message.Stream

set_option autoImplicit false

namespace DirectoryServer.Connection

variable {σ : Type}

structure Unhindered (connection : Connection σ) : Prop where
  writable : connection.transport.writeFault = none
  readable : connection.transport.readFault = none
  moving : connection.transport.stalled = false
  untimed : connection.config.readTimeout = none
  unset : connection.readDeadline = none

theorem unhindered_of_same {connection next : Connection σ} (unhindered : connection.Unhindered)
    (config : next.config = connection.config) (transport : next.transport = connection.transport)
    (unset : connection.readDeadline = none → next.readDeadline = none) : next.Unhindered where
  writable := by rw [transport, unhindered.writable]
  readable := by rw [transport, unhindered.readable]
  moving := by rw [transport, unhindered.moving]
  untimed := by rw [config, unhindered.untimed]
  unset := unset unhindered.unset

-- The first requests are in the buffer and on the transport; the client has yet to send the octets
-- `ahead`.
structure Fed (ahead : Bytes) (rest : List Message) (connection : Connection σ) : Prop where
  stream : connection.buffer ++ (connection.transport.incoming ++ ahead) = rest.flatMap Message.octets
  small : (rest.flatMap Message.octets).length < maxBuffer
  returns : ∀ message ∈ rest, message.Returns
  plain : ∀ message ∈ rest, message.request.kind ≠ .abandon
  distinct : (rest.map (·.id)).Nodup
  fresh : ∀ message ∈ rest, connection.session.registry.contains message.id = false
  room : connection.pending.length + rest.length ≤ maxPending
  short : connection.position ≠ .taking → Frame.parse connection.buffer = .ok none
  closed : connection.transport.peerClosed = true → ahead = []
  drained : connection.phase = .draining → rest = []
  phase : connection.phase ≠ .closed

theorem fed_of_same {ahead : Bytes} {rest : List Message} {connection next : Connection σ}
    (fed : connection.Fed ahead rest) (transport : next.transport = connection.transport)
    (buffer : next.buffer = connection.buffer) (phase : next.phase = connection.phase)
    (pending : next.pending.length ≤ connection.pending.length)
    (inFlight : ∀ id, connection.session.registry.contains id = false →
      next.session.registry.contains id = false)
    (short : next.position ≠ .taking → Frame.parse connection.buffer = .ok none) :
    next.Fed ahead rest where
  stream := by rw [transport, buffer, fed.stream]
  small := fed.small
  returns := fed.returns
  plain := fed.plain
  distinct := fed.distinct
  fresh message member := inFlight message.id (fed.fresh message member)
  room := Nat.le_trans (Nat.add_le_add_right pending _) fed.room
  short := by rw [buffer]; exact short
  closed := by rw [transport]; exact fed.closed
  drained := by rw [phase]; exact fed.drained
  phase := by rw [phase]; exact fed.phase

theorem fed_parse {ahead : Bytes} {rest : List Message} {connection : Connection σ}
    (fed : connection.Fed ahead rest) :
    Frame.parse connection.buffer = .ok none ∨
      ∃ message behind frame, rest = message :: behind ∧
        Frame.parse connection.buffer = .ok (some (frame, message.octets.length)) ∧
        Message.decode frame = .ok message ∧
        connection.buffer.drop message.octets.length ++ (connection.transport.incoming ++ ahead) =
          behind.flatMap Message.octets := by
  cases rest with
  | nil =>
      have empty : connection.buffer = [] := (List.append_eq_nil_iff.mp fed.stream).1
      rw [empty]
      exact .inl rfl
  | cons message behind =>
      have stream := fed.stream
      rw [List.flatMap_cons] at stream
      rcases Message.parse_stream message _ _ _ (fed.returns message List.mem_cons_self) stream with
        short | ⟨frame, parsed, decoded, later⟩
      · exact .inl short
      · exact .inr ⟨message, behind, frame, rfl, parsed, decoded, later⟩

theorem fed_keeps {ahead : Bytes} {rest : List Message} {connection : Connection σ}
    (fed : connection.Fed ahead rest) : connection.givesUp = false := by
  simp only [givesUp]
  split
  · rename_i frame size taking parsed
    split
    · rename_i id target decoded
      rcases fed_parse fed with short | ⟨message, behind, other, rfl, read, wanted, _⟩
      · cases short.symm.trans parsed
      · cases read.symm.trans parsed
        cases wanted.symm.trans decoded
        exact absurd rfl (fed.plain _ List.mem_cons_self)
    · rfl
  · rfl

theorem fed_out {ahead : Bytes} {rest : List Message} {connection : Connection σ}
    (fed : connection.Fed ahead rest) (short : Frame.parse connection.buffer = .ok none)
    (nothing : connection.transport.incoming = []) (closed : connection.transport.peerClosed = true) :
    rest = [] ∧ connection.buffer = [] := by
  have stream := fed.stream
  rw [nothing, fed.closed closed, List.append_nil, List.append_nil] at stream
  cases rest with
  | nil => exact ⟨rfl, stream⟩
  | cons message behind =>
      obtain ⟨frame, parsed, _⟩ := fed.returns message List.mem_cons_self
      rw [stream, List.flatMap_cons, Frame.parse_append _ _ (by rw [parsed]; nofun), parsed] at short
      cases short

end DirectoryServer.Connection
