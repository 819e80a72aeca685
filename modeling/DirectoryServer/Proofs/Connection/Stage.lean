import DirectoryServer.Proofs.Connection.Step
import DirectoryServer.Proofs.Route.Default

set_option autoImplicit false

namespace DirectoryServer.Connection

variable {σ : Type}

def Staged (connection : Connection σ) : Prop :=
  match connection.position with
  | .top => True
  | .waiting _ => (connection.phase = .draining → connection.worker ≠ none) ∧
      (connection.worker = none → connection.pending = [])
  | .taking => connection.phase = .serving
  | .sending _ _ => connection.phase = .draining → connection.worker = none → connection.pending = []
  | .flushing => connection.phase = .draining ∧ connection.worker = none ∧ connection.pending = []
  | .ended _ => True

theorem answer_keeps (connection : Connection σ) (id : MessageId) (kind : OperationKind)
    (outcome : Outcome) :
    ∃ queue, connection.answer id kind outcome =
      connection.withSession { connection.session with queue } := by
  simp only [answer]
  split
  · unfold send Session.send
    split
    · exact ⟨_, rfl⟩
    · exact ⟨_, rfl⟩
  · exact ⟨_, rfl⟩

theorem serve_at_once_extends (connection : Connection σ) (message : Message) :
    ∃ scene, connection.serveAtOnce message = { connection with scene } ∧
      (connection.withRegistry connection.session.registry.issue.2).scene.Extends scene :=
  ⟨_, rfl, Work.run_extends _ _⟩

theorem serve_at_once_default (connection : Connection σ) (backend : Backend σ) (root : RootDse)
    (id target : MessageId) (routes : connection.config.routes = RouteTable.default backend root) :
    connection.serveAtOnce ⟨id, .abandon target⟩ =
      connection.withSession
        (({ connection.session with registry := connection.session.registry.issue.2 } :
          Session).abandon target).2 := by
  have dispatched := RouteTable.default_abandon _ backend root target
    ⟨id, .abandon, connection.session.registry.issued⟩ routes
  simp only [serveAtOnce, Registry.issue, Request.kind, dispatched]
  rfl

theorem serve_at_once_absent (connection : Connection σ) (backend : Backend σ) (root : RootDse)
    (id target : MessageId) (routes : connection.config.routes = RouteTable.default backend root)
    (absent : connection.session.registry.contains target = false) :
    connection.serveAtOnce ⟨id, .abandon target⟩ =
      connection.withRegistry connection.session.registry.issue.2 := by
  have unknown : connection.session.registry.issue.2.token? target = none :=
    Option.isSome_eq_false_iff.mp absent |> Option.isNone_iff_eq_none.mp
  rw [connection.serve_at_once_default backend root id target routes]
  simp only [Session.abandon, Registry.cancel, unknown]
  rfl

structure TakesLittle (connection next : Connection σ) : Prop where
  config : next.config = connection.config
  transport : next.transport = connection.transport
  phase : next.phase = connection.phase
  position : next.position = connection.position
  buffer : next.buffer = connection.buffer
  worker : next.worker = connection.worker

theorem takes_little {connection next : Connection σ} {frame : Frame}
    (takes : connection.Takes frame next) : connection.TakesLittle next := by
  cases takes with
  | abandon id target decoded => exact ⟨rfl, rfl, rfl, rfl, rfl, rfl⟩
  | enqueue message decoded plain room fresh => exact ⟨rfl, rfl, rfl, rfl, rfl, rfl⟩
  | refuse id kind outcome refused =>
      obtain ⟨queue, answered⟩ := connection.answer_keeps id kind outcome
      rw [answered]
      exact ⟨rfl, rfl, rfl, rfl, rfl, rfl⟩

theorem after_sending_cases (connection : Connection σ) :
    (connection.phase = .draining ∧ connection.worker = none ∧ connection.afterSending = .flushing) ∨
      connection.afterSending = .top := by
  simp only [afterSending]
  split
  · exact .inl ⟨‹_›, ‹_›, rfl⟩
  · exact .inr rfl

def outgoing (connection : Connection σ) : List Outgoing :=
  connection.position.out?.toList ++ connection.session.queue

theorem outgoing_of_out {connection : Connection σ} (none_ : connection.position.out? = none) :
    connection.outgoing = connection.session.queue := by
  rw [outgoing, none_, Option.toList_none, List.nil_append]

theorem after_sending_out (connection : Connection σ) : connection.afterSending.out? = none := by
  rcases connection.after_sending_cases with ⟨_, _, after⟩ | after <;> rw [after] <;> rfl

structure Writes (before after : Connection σ) : Prop where
  config : after.config = before.config
  transport : after.transport = before.transport
  pending : after.pending = before.pending
  worker : after.worker = before.worker
  registry : after.session.registry = before.session.registry
  queue : after.session.queue = before.session.queue
  position : after.position = before.afterSending

theorem sending_cases {connection next : Connection σ} {events : List Event} {out : Outgoing}
    {deadline : Option Nat} (step : connection.LoopStep next events)
    (sending : connection.position = .sending out deadline)
    (sound : connection.transport.writeFault = none) (moving : connection.transport.stalled = false)
    (able : connection.config.tls = some .completes) : connection.Writes next := by
  have nowhere {other : Position} (position : connection.position = other)
      (different : other.out? = none) : False := by
    rw [← position, sending] at different
    cases different
  cases step with
  | sent => exact ⟨rfl, rfl, rfl, rfl, rfl, rfl, rfl⟩
  | secure => exact ⟨rfl, rfl, rfl, rfl, rfl, rfl, rfl⟩
  | failHandshake _ _ _ _ _ _ unable => exact absurd able unable
  | stalled _ _ _ stalled => simp [moving] at stalled
  | turn _ _ turns =>
      have silent := (turns_out turns).1
      rw [sending] at silent
      cases silent
  | fail error fails =>
      cases fails with
      | unwritable _ _ _ _ broken => simp [sound] at broken
      | slowWrite _ _ _ stalled => simp [moving] at stalled
      | unparsed _ taking => exact (nowhere taking rfl).elim
      | full waiting => exact (nowhere waiting rfl).elim
      | cut waiting => exact (nowhere waiting rfl).elim
      | unreadable _ waiting => exact (nowhere waiting rfl).elim
      | slowRead waiting => exact (nowhere waiting rfl).elim
  | ended _ past => exact (nowhere past rfl).elim
  | start _ _ _ top => exact (nowhere top rfl).elim
  | retire waiting => exact (nowhere waiting rfl).elim
  | dequeue _ _ _ ready =>
      rcases ready with waiting | flushing
      · exact (nowhere waiting rfl).elim
      · exact (nowhere flushing rfl).elim
  | drain waiting => exact (nowhere waiting rfl).elim
  | hangUp waiting => exact (nowhere waiting rfl).elim
  | receive waiting => exact (nowhere waiting rfl).elim
  | take _ _ _ taking => exact (nowhere taking rfl).elim
  | finish _ flushing => exact (nowhere flushing rfl).elim
  | failFrame _ _ _ taking => exact (nowhere taking rfl).elim

theorem after_sending_staged (connection next : Connection σ) (out : Outgoing) (deadline : Option Nat)
    (sending : connection.position = .sending out deadline) (staged : connection.Staged)
    (position : next.position = connection.afterSending) (phase : next.phase = connection.phase)
    (worker : next.worker = connection.worker) (pending : next.pending = connection.pending) :
    next.Staged := by
  unfold Staged at staged ⊢
  simp only [sending] at staged
  rw [position, phase, worker, pending]
  rcases connection.after_sending_cases with ⟨draining, free, after⟩ | after
  · rw [after]
    exact ⟨draining, free, staged draining free⟩
  · rw [after]
    trivial

theorem loop_staged {connection next : Connection σ} {events : List Event}
    (step : connection.LoopStep next events) (staged : connection.Staged) : next.Staged := by
  cases step with
  | ended => exact staged
  | stalled => exact staged
  | turn position deadline turns =>
      cases turns with
      | wait top open_ held => exact ⟨open_, held⟩
      | flush top draining free idle => exact ⟨draining, free, idle⟩
      | taken => trivial
      | pastQueue waiting =>
          simp only [Staged, waiting] at staged
          exact staged
      | pastWorker waiting =>
          simp only [Staged, waiting] at staged
          exact staged
      | pastStop waiting =>
          simp only [Staged, waiting] at staged
          exact staged
      | pastRead waiting =>
          simp only [Staged, waiting] at staged
          exact staged
  | start => exact ⟨nofun, nofun⟩
  | retire => trivial
  | dequeue out queue deadline ready queued =>
      intro draining free
      rcases ready with waiting | flushing
      · simp only [Staged, waiting] at staged
        exact staged.2 free
      · simp only [Staged, flushing] at staged
        exact staged.2.2
  | drain => trivial
  | hangUp => trivial
  | receive waiting serving => exact serving
  | take frame size _ taking parsed takes =>
      have little := takes_little takes
      simp only [Staged, taking] at staged
      have position : next.position = .taking := little.position.trans taking
      have phase : next.phase = .serving := little.phase.trans staged
      simp only [Staged, position, phase]
  | sent out deadline sending => exact after_sending_staged connection _ out deadline sending staged rfl rfl rfl rfl
  | secure out deadline sending => exact after_sending_staged connection _ out deadline sending staged rfl rfl rfl rfl
  | finish => trivial
  | fail => trivial
  | failHandshake => trivial
  | failFrame => trivial

def endedWell (connection : Connection σ) : Bool :=
  match connection.position with
  | .ended (.ok ()) => true
  | _ => false

theorem position_of_ended_well (connection : Connection σ) (well : connection.endedWell = true) :
    connection.position = .ended (.ok ()) := by
  unfold endedWell at well
  split at well
  · assumption
  · cases well

theorem ends_well {connection next : Connection σ} {events : List Event}
    (step : connection.LoopStep next events) (open_ : connection.hasEnded = false)
    (past : next.position = .ended (.ok ())) :
    connection.position = .flushing ∧ connection.session.queue = [] ∧ events = [.ended (.ok ())] := by
  cases step with
  | finish queued flushing => exact ⟨flushing, queued, rfl⟩
  | ended => simp [has_ended_of_position past] at open_
  | stalled => simp [has_ended_of_position past] at open_
  | turn position deadline turns => cases turns <;> cases past
  | take frame size _ taking parsed takes =>
      have same : connection.position = .ended (.ok ()) := (takes_little takes).position.symm.trans past
      cases taking.symm.trans same
  | sent =>
      have after : connection.afterSending = .ended (.ok ()) := past
      rcases connection.after_sending_cases with ⟨_, _, other⟩ | other <;> cases other.symm.trans after
  | secure =>
      have after : connection.afterSending = .ended (.ok ()) := past
      rcases connection.after_sending_cases with ⟨_, _, other⟩ | other <;> cases other.symm.trans after
  | _ => cases past

theorem worker_staged {connection next : Connection σ} (step : connection.WorkerStep next)
    (staged : connection.Staged) : next.Staged := by
  have free : next.worker = none ↔ connection.worker = none := by
    cases step with
    | idle => rfl
    | skip message token starting => simp [starting]
    | serve message token starting => simp [starting]
    | done id value serving => simp [serving]
    | act id work serving => simp [serving]
    | leave id leaving => simp [leaving]
  have rest : next.position = connection.position ∧ next.phase = connection.phase ∧
      next.pending = connection.pending := by
    cases step <;> exact ⟨rfl, rfl, rfl⟩
  obtain ⟨position, phase, pending⟩ := rest
  unfold Staged at staged ⊢
  rw [position, phase, pending]
  simpa only [free, ne_eq] using staged

theorem step_staged (connection : Connection σ) (move : Move) (staged : connection.Staged) :
    (connection.step move).1.Staged := by
  have steps := connection.step_cases move
  generalize connection.step move = moved at steps ⊢
  obtain ⟨next, events⟩ := moved
  cases steps with
  | loop _ _ step => exact loop_staged step staged
  | worker _ step => exact worker_staged step staged
  | around => exact staged

end DirectoryServer.Connection
