import DirectoryServer.Proofs.Connection.Fed
import DirectoryServer.Proofs.Route.InTurn

set_option autoImplicit false

namespace DirectoryServer

def Worker.play {σ : Type} (table : RouteTable σ) : Worker σ → Outlook σ → List Outgoing × Outlook σ
  | .starting message token, view => (table.work message token).play view
  | .serving _ work, view => work.play view
  | .leaving _, view => ([], view)
  | .finished, view => ([], view)

def Worker.actions {σ : Type} (table : RouteTable σ) : Worker σ → Outlook σ → Nat
  | .starting message token, view => (table.work message token).actions view + 3
  | .serving _ work, view => work.actions view + 2
  | .leaving _, _ => 1
  | .finished, _ => 0

namespace Connection

variable {σ : Type}

def turn (connection : Connection σ) : List Outgoing × Outlook σ :=
  match connection.worker with
  | some worker => worker.play connection.config.routes connection.scene.outlook
  | none => ([], connection.scene.outlook)

-- `rest` is what is still to be read.
def left (connection : Connection σ) (rest : List Message) : List Outgoing :=
  connection.outgoing ++ (connection.turn.1 ++
    (connection.config.routes.playInTurn
      (connection.pending ++ RouteTable.numbered connection.session.registry.issued rest)
      connection.turn.2).1)

theorem left_silent {connection : Connection σ} (rest : List Message)
    (silent : connection.position.out? = none) :
    connection.left rest = connection.session.queue ++ (connection.turn.1 ++
      (connection.config.routes.playInTurn
        (connection.pending ++ RouteTable.numbered connection.session.registry.issued rest)
        connection.turn.2).1) := by
  rw [left, outgoing_of_out silent]

theorem left_sending {connection : Connection σ} {out : Outgoing} (rest : List Message)
    (sending : connection.position.out? = some out) :
    connection.left rest = out :: (connection.session.queue ++ (connection.turn.1 ++
      (connection.config.routes.playInTurn
        (connection.pending ++ RouteTable.numbered connection.session.registry.issued rest)
        connection.turn.2).1)) := by
  rw [left, outgoing, sending]
  rfl

def backlog (connection : Connection σ) (rest : List Message) : Nat :=
  2 * (connection.left rest).length + connection.position.out?.isNone.toNat +
    (!connection.transport.incoming.isEmpty).toNat + (connection.phase == .serving).toNat +
    connection.worker.isSome.toNat + 2 * connection.pending.length + 3 * rest.length

def toil (connection : Connection σ) : Nat :=
  match connection.worker with
  | some worker => worker.actions connection.config.routes connection.scene.outlook
  | none => 0

-- How many steps the loop makes at most until it finds something to do, if the worker does nothing
-- and the client has closed.
def distance (connection : Connection σ) : Nat :=
  match connection.position, connection.worker with
  | .taking, _ => 6
  | .top, _ => 5
  | .waiting .queue, none => 3
  | .waiting .worker, none => 2
  | .waiting .stop, none => 1
  | .waiting .read, none => 0
  | .waiting .stop, some _ => 3
  | .waiting .read, some _ => 2
  | .waiting .queue, some _ => 1
  | .waiting .worker, some _ => 0
  | .sending _ _, _ => 0
  | .flushing, _ => 0
  | .ended _, _ => 0

-- A step of the loop gets something done, or brings the loop nearer to something to do, unless that is
-- up to the worker or the client.
inductive Advances (before : Connection σ) (rest : List Message) (after : Connection σ)
    (behind : List Message) : Prop where
  | less (less : after.backlog behind < before.backlog rest)
  | turn (backlog : after.backlog behind = before.backlog rest) (toil : after.toil = before.toil)
      (nearer : before.toil = 0 → before.transport.peerClosed = true → after.distance < before.distance)

section Moves

variable {backend : Backend σ} {root : RootDse} {ahead : Bytes} {rest : List Message}
  {connection next : Connection σ}

theorem idle_cases (idle : connection.toil = 0) :
    connection.worker = none ∨ connection.worker = some .finished := by
  unfold toil at idle
  split at idle
  · rename_i worker busy
    cases worker with
    | finished => exact .inr busy
    | _ => exact absurd idle (Nat.succ_ne_zero _)
  · exact .inl ‹_›

theorem turn_nearer {position : Position} {deadline : Option Nat} (turns : connection.Turns position)
    (fed : connection.Fed ahead rest) (staged : connection.Staged) (idle : connection.toil = 0)
    (closed : connection.transport.peerClosed = true) :
    distance { connection with readDeadline := deadline, position } < connection.distance := by
  cases turns with
  | wait top => rcases idle_cases idle with none_ | finished <;> simp [distance, *]
  | flush top => simp [distance, *]
  | pastQueue waiting => rcases idle_cases idle with none_ | finished <;> simp [distance, *]
  | pastWorker waiting busy =>
      rcases idle_cases idle with none_ | finished
      · simp [distance, *]
      · exact absurd finished busy
  | pastStop waiting => rcases idle_cases idle with none_ | finished <;> simp [distance, *]
  | pastRead waiting nothing =>
      -- Nothing more is read, so the loop waits for the worker.
      have draining : connection.phase = .draining := by
        cases phase : connection.phase with
        | serving =>
            have open_ := (nothing phase).2
            simp [closed] at open_
        | draining => rfl
        | closed => exact absurd phase fed.phase
      simp only [Staged, waiting] at staged
      rcases idle_cases idle with none_ | finished
      · exact absurd none_ (staged.1 draining)
      · simp [distance, *]
  | taken taking => simp [distance, *]

theorem worker_left (step : connection.WorkerStep next) (calm : connection.Calm backend root) :
    next.left rest = connection.left rest := by
  cases step with
  | idle => rfl
  | skip message token starting raised => simp [unraised_of_calm calm token] at raised
  | serve message token starting =>
      unfold left turn
      rw [starting]
      rfl
  | done id value serving =>
      unfold left turn
      rw [serving]
      rfl
  | leave id leaving =>
      unfold left turn
      rw [leaving]
      rfl
  | act id work serving =>
      have quiet : work.Quiet := calm.tame.quiet _ serving
      obtain ⟨now, queued, played⟩ :=
        work.play_step connection.scene quiet calm.listening calm.unraised
      have issued : (work.step connection.scene).2.session.registry.issued =
          connection.session.registry.issued := (work.step_extends connection.scene).issued
      change connection.position.out?.toList ++ (work.step connection.scene).2.session.queue ++ _ = _
      unfold left turn outgoing
      rw [serving]
      dsimp only [Worker.play]
      rw [played, queued]
      simp only [session] at issued ⊢
      rw [issued]
      simp only [List.append_assoc]

theorem worker_toils (step : connection.WorkerStep next) (calm : connection.Calm backend root) :
    connection.toil = 0 ∧ next = connection ∨ next.toil < connection.toil := by
  cases step with
  | idle idle =>
      refine .inl ⟨?_, rfl⟩
      rcases idle with none_ | finished
      · simp only [toil, none_]
      · simp only [toil, finished, Worker.actions]
  | skip message token starting =>
      refine .inr ?_
      simp only [toil, starting, Worker.actions]
      omega
  | serve message token starting =>
      refine .inr ?_
      simp only [toil, starting, Worker.actions]
      exact Nat.lt_succ_self _
  | done id value serving =>
      refine .inr ?_
      simp only [toil, serving, Worker.actions, Work.actions]
      omega
  | act id work serving unfinished =>
      have quiet : work.Quiet := calm.tame.quiet _ serving
      have fewer := work.actions_step connection.scene quiet calm.listening calm.unraised unfinished
      refine .inr ?_
      simp only [toil, serving, Worker.actions]
      omega
  | leave id leaving =>
      refine .inr ?_
      simp only [toil, leaving, Worker.actions]
      omega

def awaited (connection : Connection σ) : Move :=
  if connection.toil = 0 then .loop else .worker

def effort (connection : Connection σ) : Nat :=
  if connection.toil = 0 then connection.distance else connection.toil + 6

theorem distance_le (connection : Connection σ) : connection.distance ≤ 6 := by
  unfold distance
  split <;> decide

theorem effort_less (less : next.toil < connection.toil) : next.effort < connection.effort := by
  have near := next.distance_le
  have busy : connection.toil ≠ 0 := by omega
  by_cases idle : next.toil = 0
  · simp only [effort, idle, busy, if_true, if_false]
    omega
  · simp only [effort, idle, busy, if_false]
    omega

end Moves

end Connection

end DirectoryServer
