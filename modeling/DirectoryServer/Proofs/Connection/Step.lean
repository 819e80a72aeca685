import DirectoryServer.Connection.Step

set_option autoImplicit false

/-!
What one move of a connection can do, guards included. Every invariant of a connection is read off
these case lists; none of its proofs opens the step functions again.
-/
namespace DirectoryServer

def Position.out? : Position → Option Outgoing
  | .sending out _ => some out
  | _ => none

namespace Event

def out? : Event → Option Outgoing
  | .sent out => some out
  | _ => none

theorem written_eq (events : List Event) :
    written events = (events.filterMap out?).flatMap Outgoing.bytes := by
  induction events with
  | nil => rfl
  | cons event rest ih =>
      cases event with
      | sent out => exact congrArg (out.bytes ++ ·) ih
      | _ => exact ih

theorem written_append (front back : List Event) :
    written (front ++ back) = written front ++ written back := by
  simp only [written_eq, List.filterMap_append, List.flatMap_append]

end Event

namespace Connection

variable {σ : Type}

@[simp] theorem with_session_config (connection : Connection σ) (session : Session) :
    (connection.withSession session).config = connection.config := rfl

@[simp] theorem with_session_worker (connection : Connection σ) (session : Session) :
    (connection.withSession session).worker = connection.worker := rfl

theorem finish_buffer (connection : Connection σ) (result : Except ConnectionError Unit) :
    (connection.finish result).1.buffer = connection.buffer := rfl

def withRegistry (connection : Connection σ) (registry : Registry) : Connection σ :=
  connection.withSession { connection.session with registry }

def withStats (connection : Connection σ) (stats : Stats) : Connection σ :=
  connection.withSession { connection.session with stats }

inductive Turns (connection : Connection σ) : Position → Prop where
  | wait (top : connection.position = .top)
      (open_ : connection.phase = .draining → connection.worker ≠ none)
      (held : connection.worker = none → connection.pending = []) :
      Turns connection (.waiting .queue)
  | flush (top : connection.position = .top) (draining : connection.phase = .draining)
      (free : connection.worker = none) (idle : connection.pending = []) :
      Turns connection .flushing
  | pastQueue (waiting : connection.position = .waiting .queue)
      (empty : connection.session.queue = []) :
      Turns connection (.waiting .worker)
  | pastWorker (waiting : connection.position = .waiting .worker)
      (busy : connection.worker ≠ some .finished) :
      Turns connection (.waiting .stop)
  | pastStop (waiting : connection.position = .waiting .stop)
      (undisturbed : connection.phase = .serving → connection.stopped = false) :
      Turns connection (.waiting .read)
  | pastRead (waiting : connection.position = .waiting .read)
      (nothing : connection.phase = .serving →
        connection.transport.incoming = [] ∧ connection.transport.peerClosed = false) :
      Turns connection (.waiting .queue)
  | taken (taking : connection.position = .taking)
      (short : Frame.parse connection.buffer = .ok none) :
      Turns connection .top

inductive Fails (connection : Connection σ) : ConnectionError → Prop where
  | unwritable (out : Outgoing) (deadline : Option Nat) (fault : TransportFault)
      (sending : connection.position = .sending out deadline)
      (broken : connection.transport.writeFault = some fault) :
      Fails connection (.transport fault)
  | slowWrite (out : Outgoing) (deadline : Option Nat)
      (sending : connection.position = .sending out deadline)
      (stalled : connection.transport.stalled = true) (due : connection.isDue deadline = true) :
      Fails connection .timeout
  | unparsed (cause : Frame.ParseError) (taking : connection.position = .taking)
      (wrong : Frame.parse connection.buffer = .error cause) :
      Fails connection (.parse cause)
  | full (waiting : connection.position = .waiting .read) (serving : connection.phase = .serving)
      (long : maxBuffer ≤ connection.buffer.length) :
      Fails connection .bufferFull
  | cut (waiting : connection.position = .waiting .read) (serving : connection.phase = .serving)
      (nothing : connection.transport.incoming = [])
      (closed : connection.transport.peerClosed = true) (part : connection.buffer ≠ []) :
      Fails connection .unexpectedEnd
  | unreadable (fault : TransportFault) (waiting : connection.position = .waiting .read)
      (serving : connection.phase = .serving)
      (broken : connection.transport.readFault = some fault) :
      Fails connection (.transport fault)
  | slowRead (waiting : connection.position = .waiting .read)
      (serving : connection.phase = .serving)
      (due : connection.isDue connection.readDeadline = true) :
      Fails connection .timeout

def refusal (failure : DecodeFailure) : Outcome :=
  match failure.kind, failure.error with
  | none, .unknownOperation _ => ⟨.unwillingToPerform, notImplemented⟩
  | _, error => ⟨.protocolError, error.message⟩

inductive Refuses (connection : Connection σ) (frame : Frame) :
    MessageId → OperationKind → Outcome → Prop where
  | busy (message : Message) (decoded : Message.decode frame = .ok message)
      (plain : message.request.kind ≠ .abandon) (full : maxPending ≤ connection.pending.length) :
      Refuses connection frame message.id message.request.kind tooMany
  | inUse (message : Message) (decoded : Message.decode frame = .ok message)
      (plain : message.request.kind ≠ .abandon)
      (room : connection.pending.length < maxPending)
      (known : connection.session.registry.contains message.id = true) :
      Refuses connection frame message.id message.request.kind idInUse
  | faulty (failure : DecodeFailure) (id : MessageId)
      (decoded : Message.decode frame = .error failure) (named : failure.id = some id) :
      Refuses connection frame id (failure.kind.getD .extended) (refusal failure)

inductive Takes (connection : Connection σ) (frame : Frame) : Connection σ → Prop where
  | abandon (id target : MessageId) (decoded : Message.decode frame = .ok ⟨id, .abandon target⟩) :
      Takes connection frame (connection.serveAtOnce ⟨id, .abandon target⟩)
  | enqueue (message : Message) (decoded : Message.decode frame = .ok message)
      (plain : message.request.kind ≠ .abandon)
      (room : connection.pending.length < maxPending)
      (fresh : connection.session.registry.contains message.id = false) :
      Takes connection frame
        { connection.withRegistry (connection.session.registry.register message.id).2 with
          pending := connection.pending ++ [(message, connection.session.registry.issued)] }
  | refuse (id : MessageId) (kind : OperationKind) (outcome : Outcome)
      (refused : Refuses connection frame id kind outcome) :
      Takes connection frame (connection.answer id kind outcome)

def counted (connection : Connection σ) : Connection σ :=
  connection.withStats connection.session.stats.requested

inductive LoopStep (connection : Connection σ) : Connection σ → List Event → Prop where
  | ended (result : Except ConnectionError Unit) (past : connection.position = .ended result) :
      LoopStep connection connection []
  | stalled (out : Outgoing) (deadline : Option Nat)
      (sending : connection.position = .sending out deadline)
      (stalled : connection.transport.stalled = true) :
      LoopStep connection connection []
  | turn (position : Position) (deadline : Option Nat) (turns : Turns connection position)
      (untimed : connection.config.readTimeout = none → connection.readDeadline = none →
        deadline = none) :
      LoopStep connection { connection with readDeadline := deadline, position } []
  | start (message : Message) (token : Token) (rest : List (Message × Token)) (top : connection.position = .top)
      (free : connection.worker = none) (waiting : connection.pending = (message, token) :: rest) :
      LoopStep connection
        { connection with
          pending := rest, worker := some (.starting message token), readDeadline := none
          position := .waiting .queue }
        [.started message]
  | retire (waiting : connection.position = .waiting .worker)
      (finished : connection.worker = some .finished) :
      LoopStep connection { connection with worker := none, position := .top } []
  | dequeue (out : Outgoing) (queue : List Outgoing) (deadline : Option Nat)
      (ready : connection.position = .waiting .queue ∨ connection.position = .flushing)
      (queued : connection.session.queue = out :: queue) :
      LoopStep connection
        ((connection.withSession { connection.session with queue }).goto (.sending out deadline)) []
  | drain (waiting : connection.position = .waiting .stop) (serving : connection.phase = .serving)
      (stopped : connection.stopped = true) :
      LoopStep connection connection.drain []
  | hangUp (waiting : connection.position = .waiting .read) (serving : connection.phase = .serving)
      (nothing : connection.transport.incoming = [])
      (closed : connection.transport.peerClosed = true) (whole : connection.buffer = []) :
      LoopStep connection { connection with phase := .draining, position := .top } []
  | receive (waiting : connection.position = .waiting .read) (serving : connection.phase = .serving)
      (something : connection.transport.incoming ≠ []) :
      LoopStep connection connection.receive.1 []
  | take (frame : Frame) (size : Nat) (next : Connection σ) (taking : connection.position = .taking)
      (parsed : Frame.parse connection.buffer = .ok (some (frame, size)))
      (takes : Takes (counted { connection with buffer := connection.buffer.drop size }) frame next) :
      LoopStep connection next [.parsed frame]
  | sent (out : Outgoing) (deadline : Option Nat)
      (sending : connection.position = .sending out deadline) (plain : out.upgrade = false)
      (sound : connection.transport.writeFault = none) :
      LoopStep connection
        { connection.withStats (connection.session.stats.wrote out.bytes.length) with
          position := connection.afterSending }
        [.sent out]
  | secure (out : Outgoing) (deadline : Option Nat)
      (sending : connection.position = .sending out deadline) (upgrade : out.upgrade = true)
      (sound : connection.transport.writeFault = none)
      (moving : connection.transport.stalled = false)
      (able : connection.config.tls = some .completes) :
      LoopStep connection
        { connection.withSession
            { connection.session with
              secured := true, stats := connection.session.stats.wrote out.bytes.length } with
          buffer := [], position := connection.afterSending }
        [.sent out, .secured]
  | finish (queued : connection.session.queue = []) (flushing : connection.position = .flushing) :
      LoopStep connection (connection.finish (.ok ())).1 [.ended (.ok ())]
  | fail (error : ConnectionError) (fails : Fails connection error) :
      LoopStep connection (connection.finish (.error error)).1 [.ended (.error error)]
  | failHandshake (out : Outgoing) (deadline : Option Nat) (buffer : Bytes) (error : ConnectionError)
      (sending : connection.position = .sending out deadline) (upgrade : out.upgrade = true)
      (unable : connection.config.tls ≠ some .completes)
      (kept : buffer = connection.buffer ∨ buffer = []) :
      LoopStep connection
        (({ connection with buffer } : Connection σ).withStats
          (connection.session.stats.wrote out.bytes.length) |>.finish (.error error)).1
        [.sent out, .ended (.error error)]
  | failFrame (frame : Frame) (size : Nat) (failure : DecodeFailure)
      (taking : connection.position = .taking)
      (parsed : Frame.parse connection.buffer = .ok (some (frame, size)))
      (decoded : Message.decode frame = .error failure) (nameless : failure.id = none) :
      LoopStep connection
        ((counted { connection with buffer := connection.buffer.drop size }).finish
          (.error (.codec failure.error))).1
        [.parsed frame, .ended (.error (.codec failure.error))]

theorem turns_out {connection : Connection σ} {position : Position} (turns : connection.Turns position) :
    connection.position.out? = none ∧ position.out? = none := by
  cases turns with
  | wait top => exact ⟨by rw [top]; rfl, rfl⟩
  | flush top => exact ⟨by rw [top]; rfl, rfl⟩
  | pastQueue waiting => exact ⟨by rw [waiting]; rfl, rfl⟩
  | pastWorker waiting => exact ⟨by rw [waiting]; rfl, rfl⟩
  | pastStop waiting => exact ⟨by rw [waiting]; rfl, rfl⟩
  | pastRead waiting => exact ⟨by rw [waiting]; rfl, rfl⟩
  | taken taking => exact ⟨by rw [taking]; rfl, rfl⟩

theorem begin_cases (connection : Connection σ) (top : connection.position = .top) :
    LoopStep connection connection.begin.1 connection.begin.2 := by
  obtain ⟨config, scene, transport, now, stopped, phase, position, buffer, pending, worker, deadline⟩ :=
    connection
  cases worker with
  | some work =>
      simp only [begin, startNext, Connection.stay, isIdle, Option.isNone_some, Bool.false_eq_true,
        and_false, if_false, Bool.false_and]
      exact .turn _ _ (.wait top nofun nofun) (fun _ _ => rfl)
  | none =>
      cases pending with
      | cons head rest =>
          simp only [begin, startNext, isIdle, Option.isNone_some, Bool.false_eq_true, and_false,
            if_false, Bool.false_and]
          exact .start head.1 head.2 rest top rfl rfl
      | nil =>
          by_cases draining : phase = .draining
          · subst draining
            exact .turn _ _ (.flush top rfl rfl rfl) (fun _ unset => unset)
          · simp only [begin, startNext, Connection.stay, draining, false_and, if_false]
            refine .turn _ _ (.wait top (fun drained => absurd drained draining) (fun _ => rfl)) ?_
            intro untimed _
            exact congrArg (Option.map (now + ·)) untimed

theorem dequeue_cases (connection : Connection σ)
    (ready : connection.position = .waiting .queue ∨ connection.position = .flushing) :
    (connection.session.queue = [] ∧ connection.takeOutgoing = none) ∨
      ∃ out next, connection.takeOutgoing = some (out, next) ∧
        LoopStep connection (next.startSending out) [] := by
  cases queued : connection.session.queue with
  | nil => exact .inl ⟨rfl, by simp [takeOutgoing, queued]⟩
  | cons out queue =>
      have taken : connection.takeOutgoing =
          some (out, connection.withSession { connection.session with queue }) := by
        simp only [takeOutgoing, queued]
      exact .inr ⟨out, _, taken, .dequeue out queue _ ready queued⟩

theorem read_cases (connection : Connection σ) (waiting : connection.position = .waiting .read)
    (serving : connection.phase = .serving) :
    LoopStep connection connection.read.1 connection.read.2 := by
  unfold read
  split
  · exact .fail _ (.full waiting serving ‹_›)
  · split
    · rename_i something
      exact .receive waiting serving (by simpa using something)
    · rename_i empty
      have nothing : connection.transport.incoming = [] := by simpa using empty
      split
      · split
        · rename_i closed whole
          exact .hangUp waiting serving nothing closed (by simpa using whole)
        · rename_i closed part
          exact .fail _ (.cut waiting serving nothing closed (by simpa using part))
      · rename_i open_
        split
        · exact .fail _ (.unreadable _ waiting serving ‹_›)
        · split
          · exact .fail _ (.slowRead waiting serving ‹_›)
          · exact .turn _ _ (.pastRead waiting fun _ => ⟨nothing, by simpa using open_⟩)
              (fun _ unset => unset)

theorem await_cases (connection : Connection σ) (branch : Branch)
    (waiting : connection.position = .waiting branch) :
    LoopStep connection (connection.await branch).1 (connection.await branch).2 := by
  cases branch with
  | queue =>
      rcases connection.dequeue_cases (.inl waiting) with ⟨empty, none_⟩ | ⟨out, next, some_, step⟩
      · simp only [await, none_]
        exact .turn _ _ (.pastQueue waiting empty) (fun _ unset => unset)
      · simp only [await, some_]
        exact step
  | worker =>
      simp only [await]
      split
      · exact .retire waiting ‹_›
      · exact .turn _ _ (.pastWorker waiting ‹_›) (fun _ unset => unset)
  | stop =>
      simp only [await]
      split
      · rename_i told
        exact .drain waiting told.1 told.2
      · rename_i untold
        refine .turn _ _ (.pastStop waiting fun serving => ?_) (fun _ unset => unset)
        simpa [serving] using untold
  | read =>
      simp only [await]
      split
      · exact connection.read_cases waiting ‹_›
      · exact .turn _ _ (.pastRead waiting fun serving => absurd serving ‹_›) (fun _ unset => unset)

theorem refuse_cases (connection : Connection σ) (failure : DecodeFailure) :
    (failure.id = none ∧ connection.refuse failure = (connection, some (.codec failure.error))) ∨
      ∃ id, failure.id = some id ∧ connection.refuse failure =
        (connection.answer id (failure.kind.getD .extended) (refusal failure), none) := by
  obtain ⟨id, kind, error⟩ := failure
  cases id with
  | none => exact .inl ⟨rfl, rfl⟩
  | some id =>
      refine .inr ⟨id, rfl, ?_⟩
      cases kind with
      | some kind => rfl
      | none => cases error <;> rfl

theorem enqueue_cases (connection : Connection σ) (frame : Frame) (message : Message)
    (decoded : Message.decode frame = .ok message) (plain : message.request.kind ≠ .abandon) :
    Takes connection frame (connection.enqueue message) := by
  unfold enqueue
  split
  · exact .refuse _ _ _ (.busy message decoded plain ‹_›)
  · cases known : connection.session.registry.contains message.id with
    | true =>
        simp only [Registry.register, known, if_true]
        exact .refuse _ _ _ (.inUse message decoded plain (by omega) known)
    | false =>
        have next := Takes.enqueue message decoded plain (by omega) known
        simp only [Registry.register, known, Bool.false_eq_true, if_false] at next ⊢
        exact next

theorem take_message_cases (connection : Connection σ) (frame : Frame) (message : Message)
    (decoded : Message.decode frame = .ok message) :
    Takes connection frame (connection.takeMessage message) := by
  obtain ⟨id, request⟩ := message
  cases request with
  | abandon target => exact .abandon id target decoded
  | _ => exact connection.enqueue_cases frame _ decoded nofun

theorem take_cases (connection : Connection σ) (taking : connection.position = .taking) :
    LoopStep connection connection.take.1 connection.take.2 := by
  unfold take
  split
  · exact .fail _ (.unparsed _ taking ‹_›)
  · exact .turn _ _ (.taken taking ‹_›) (fun _ unset => unset)
  · rename_i frame size parsed
    cases decoded : Message.decode frame with
    | ok message =>
        simp only [takeFrame, decoded]
        exact .take frame size _ taking parsed (take_message_cases _ frame message decoded)
    | error failure =>
        simp only [takeFrame, decoded]
        rcases refuse_cases (counted { connection with buffer := connection.buffer.drop size }) failure
          with ⟨nameless, refused⟩ | ⟨id, named, refused⟩
        · simp only [counted, withStats] at refused
          simp only [refused]
          exact .failFrame frame size failure taking parsed decoded nameless
        · simp only [counted, withStats] at refused
          simp only [refused]
          exact .take frame size _ taking parsed (.refuse _ _ _ (.faulty failure id decoded named))

theorem write_cases (connection : Connection σ) (out : Outgoing) (deadline : Option Nat)
    (sending : connection.position = .sending out deadline) :
    LoopStep connection (connection.write out deadline).1 (connection.write out deadline).2 := by
  unfold write
  split
  · exact .fail _ (.unwritable out deadline _ sending ‹_›)
  · rename_i sound
    split
    · split
      · exact .fail _ (.slowWrite out deadline sending ‹_› ‹_›)
      · exact .stalled out deadline sending ‹_›
    · rename_i moving
      unfold written
      split
      · rename_i upgrade
        cases tls : connection.config.tls with
        | none =>
            simp only [Connection.upgrade, with_session_config, tls]
            exact .failHandshake out deadline connection.buffer _ sending upgrade (by simp [tls]) (.inl rfl)
        | some handshake =>
            cases handshake with
            | fails reason =>
                simp only [Connection.upgrade, with_session_config, tls]
                exact .failHandshake out deadline [] _ sending upgrade (by simp [tls]) (.inr rfl)
            | completes =>
                simp only [Connection.upgrade, with_session_config, tls]
                exact .secure out deadline sending upgrade sound (by simpa using moving) tls
      · rename_i plain
        exact .sent out deadline sending (by simpa using plain) sound

theorem step_loop_cases (connection : Connection σ) :
    LoopStep connection connection.stepLoop.1 connection.stepLoop.2 := by
  unfold stepLoop
  split
  · exact connection.begin_cases ‹_›
  · exact connection.await_cases _ ‹_›
  · exact connection.take_cases ‹_›
  · exact connection.write_cases _ _ ‹_›
  · rename_i flushing
    unfold flush
    rcases connection.dequeue_cases (.inr flushing) with ⟨empty, none_⟩ | ⟨out, next, some_, step⟩
    · simp only [none_]
      exact .finish empty flushing
    · simp only [some_]
      exact step
  · exact .ended _ ‹_›

inductive WorkerStep (connection : Connection σ) : Connection σ → Prop where
  | idle (idle : connection.worker = none ∨ connection.worker = some .finished) :
      WorkerStep connection connection
  | skip (message : Message) (token : Token)
      (starting : connection.worker = some (.starting message token))
      (raised : connection.session.registry.isRaised token = true) :
      WorkerStep connection { connection with worker := some (.leaving message.id) }
  | serve (message : Message) (token : Token)
      (starting : connection.worker = some (.starting message token))
      (unraised : connection.session.registry.isRaised token = false) :
      WorkerStep connection
        { connection with
          worker := some (.serving message.id
            (connection.config.routes.dispatch message.request
              ⟨message.id, message.request.kind, token⟩)) }
  | done (id : MessageId) (value : Bool)
      (serving : connection.worker = some (.serving id (.done value))) :
      WorkerStep connection { connection with worker := some (.leaving id) }
  | act (id : MessageId) (work : Work σ Bool) (serving : connection.worker = some (.serving id work))
      (unfinished : ∀ value, work ≠ .done value) :
      WorkerStep connection
        { connection with
          worker := some (.serving id (work.step connection.scene).1)
          scene := (work.step connection.scene).2 }
  | leave (id : MessageId) (leaving : connection.worker = some (.leaving id)) :
      WorkerStep connection
        { connection.withRegistry (connection.session.registry.complete id) with
          worker := some .finished }

theorem step_worker_cases (connection : Connection σ) :
    WorkerStep connection connection.stepWorker := by
  unfold stepWorker
  split
  · exact .idle (.inl ‹_›)
  · split
    · exact .skip _ _ ‹_› ‹_›
    · rename_i unraised
      exact .serve _ _ ‹_› (by simpa using unraised)
  · exact .done _ _ ‹_›
  · rename_i id work unfinished serving
    exact .act id work serving (fun value same => unfinished value same)
  · exact .leave _ ‹_›
  · exact .idle (.inr ‹_›)

inductive Steps (connection : Connection σ) : Move → Connection σ → List Event → Prop where
  | loop (next : Connection σ) (events : List Event) (step : LoopStep connection next events) :
      Steps connection .loop next events
  | worker (next : Connection σ) (step : WorkerStep connection next) :
      Steps connection .worker next []
  | around (move : Move) (transport : Transport) (now : Nat) (stopped : Bool)
      (outside : move ≠ .loop ∧ move ≠ .worker)
      (told : stopped = true → connection.stopped = true ∨ move = .stop) :
      Steps connection move { connection with transport, now, stopped } []

theorem step_cases (connection : Connection σ) (move : Move) :
    Steps connection move (connection.step move).1 (connection.step move).2 := by
  cases move with
  | loop => exact .loop _ _ connection.step_loop_cases
  | worker => exact .worker _ connection.step_worker_cases
  | stop => exact .around .stop connection.transport connection.now true ⟨nofun, nofun⟩ (fun _ => .inr rfl)
  | _ => exact .around _ _ _ connection.stopped ⟨nofun, nofun⟩ .inl

theorem has_ended_of_position {connection : Connection σ} {result : Except ConnectionError Unit}
    (past : connection.position = .ended result) : connection.hasEnded = true := by
  simp [hasEnded, past]

theorem position_of_has_ended (connection : Connection σ) (past : connection.hasEnded = true) :
    ∃ result, connection.position = .ended result := by
  unfold hasEnded at past
  split at past
  · exact ⟨_, ‹_›⟩
  · cases past

theorem worker_position {connection next : Connection σ} (step : connection.WorkerStep next) :
    next.position = connection.position := by
  cases step <;> rfl

theorem step_loop_ended (connection : Connection σ) (result : Except ConnectionError Unit)
    (past : connection.position = .ended result) : connection.stepLoop = connection.stay := by
  unfold stepLoop
  rw [past]

theorem step_taking (connection : Connection σ) (taking : connection.position = .taking) :
    connection.step .loop = connection.take := by
  unfold step stepLoop
  simp only [taking]

theorem step_ended (connection : Connection σ) (move : Move) (result : Except ConnectionError Unit)
    (past : connection.position = .ended result) :
    (connection.step move).1.position = .ended result ∧ (connection.step move).2 = [] := by
  cases move with
  | loop =>
      rw [step, connection.step_loop_ended result past]
      exact ⟨past, rfl⟩
  | worker => exact ⟨(worker_position connection.step_worker_cases).trans past, rfl⟩
  | _ => exact ⟨past, rfl⟩

theorem run_append (connection : Connection σ) (front back : List Move) :
    connection.run (front ++ back) =
      ((connection.run front).1.run back |>.1,
        (connection.run front).2 ++ ((connection.run front).1.run back).2) := by
  induction front generalizing connection with
  | nil => rfl
  | cons move rest ih => simp only [List.cons_append, run, ih, List.append_assoc]

theorem run_last (connection : Connection σ) (moves : List Move) (move : Move) :
    (connection.run (moves ++ [move])).1 = ((connection.run moves).1.step move).1 := by
  rw [run_append]
  rfl

def Follows (allowed : Connection σ → Move → Prop) : Connection σ → List Move → Prop
  | _, [] => True
  | connection, move :: rest => allowed connection move ∧ Follows allowed (connection.step move).1 rest

instance Follows.decidable (allowed : Connection σ → Move → Prop)
    [∀ connection move, Decidable (allowed connection move)] :
    (connection : Connection σ) → (moves : List Move) → Decidable (Follows allowed connection moves)
  | _, [] => .isTrue trivial
  | connection, move :: rest =>
      have := Follows.decidable allowed (connection.step move).1 rest
      inferInstanceAs (Decidable (_ ∧ _))

theorem follows_keeps {allowed : Connection σ → Move → Prop}
    {holds : Connection σ → List Event → Prop}
    (kept : ∀ connection seen move, allowed connection move → holds connection seen →
      holds (connection.step move).1 (seen ++ (connection.step move).2))
    (connection : Connection σ) (seen : List Event) (moves : List Move)
    (follows : Follows allowed connection moves) (start : holds connection seen) :
    holds (connection.run moves).1 (seen ++ (connection.run moves).2) := by
  induction moves generalizing connection seen with
  | nil => simpa only [run, stay, List.append_nil] using start
  | cons move rest ih =>
      have step := kept connection seen move follows.1 start
      simpa only [run, List.append_assoc] using ih _ _ follows.2 step

theorem run_keeps {holds : Connection σ → Prop}
    (kept : ∀ connection move, holds connection → holds (connection.step move).1)
    (connection : Connection σ) (moves : List Move) (start : holds connection) :
    holds (connection.run moves).1 := by
  induction moves generalizing connection with
  | nil => exact start
  | cons move rest ih => exact ih _ (kept connection move start)

end Connection

end DirectoryServer
