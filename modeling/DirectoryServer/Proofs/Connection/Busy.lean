import DirectoryServer.Proofs.Connection.Abandoning
import Mathlib.Data.List.Induction

set_option autoImplicit false

/-!
When a request is refused because too many wait. The queue fills up while frames are taken off the buffer,
and the worker is given its next request only behind that, so that a client who was idle before it sent a
burst is refused with nobody at work.
-/
namespace DirectoryServer.Connection

variable {σ : Type}

def executes (connection : Connection σ) : Bool :=
  (connection.worker.bind Worker.held?).isSome

def isBusy (out : Outgoing) : Bool :=
  out.response.outcome?.any fun outcome => outcome.code = .busy

def answersBusy (connection : Connection σ) : Bool :=
  (connection.queues .loop).any isBusy

structure Reads (first : Connection σ) (front burst : List Move) : Prop where
  waiting : (first.run front).1.position = .waiting .read
  taking : ∀ part, part <+: burst → (first.run (front ++ .loop :: part)).1.position = .taking

theorem taking_of_parsed {connection : Connection σ} {frame : Frame}
    (takes : parsedFrames (connection.step .loop).2 = [frame]) :
    connection.position = .taking ∧ ∃ size, Frame.parse connection.buffer = .ok (some (frame, size)) := by
  have step := connection.step_loop_cases
  change parsedFrames connection.stepLoop.2 = [frame] at takes
  generalize connection.stepLoop.1 = next, connection.stepLoop.2 = events at step takes
  cases step with
  | take other size _ taking parsed =>
      cases takes
      exact ⟨taking, size, parsed⟩
  | failFrame other size failure taking parsed =>
      cases takes
      exact ⟨taking, size, parsed⟩
  | _ => cases takes

theorem loop_to_taking {connection next : Connection σ} {events : List Event}
    (step : connection.LoopStep next events) (taking : next.position = .taking) :
    next.worker = connection.worker ∧
      (connection.position = .taking ∨ connection.position = .waiting .read) := by
  have elsewhere : connection.afterSending ≠ .taking := by
    rcases connection.after_sending_cases with ⟨_, _, after⟩ | after <;> simp [after]
  cases step with
  | receive waiting => exact ⟨rfl, .inr waiting⟩
  | take frame size _ now parsed takes => exact ⟨(takes_little takes).worker, .inl now⟩
  | ended => exact ⟨rfl, .inl taking⟩
  | stalled => exact ⟨rfl, .inl taking⟩
  | turn position deadline turns => cases turns <;> cases taking
  | sent => exact absurd taking elsewhere
  | secure => exact absurd taking elsewhere
  | _ => cases taking

theorem worker_kept {connection next : Connection σ} (step : connection.WorkerStep next) :
    next.worker.isNone = connection.worker.isNone := by
  cases step with
  | idle => rfl
  | skip message token starting => rw [starting]; rfl
  | serve message token starting => rw [starting]; rfl
  | done id value serving => rw [serving]; rfl
  | act id work serving => rw [serving]; rfl
  | leave id leaving => rw [leaving]; rfl

theorem step_to_taking (connection : Connection σ) (move : Move)
    (taking : (connection.step move).1.position = .taking) :
    (connection.step move).1.worker.isNone = connection.worker.isNone ∧
      (connection.position = .taking ∨ connection.position = .waiting .read ∧ move = .loop) := by
  cases move with
  | loop =>
      obtain ⟨worker, before⟩ := loop_to_taking connection.step_loop_cases taking
      exact ⟨congrArg Option.isNone worker, before.imp_right fun waiting => ⟨waiting, rfl⟩⟩
  | worker =>
      have step := connection.step_worker_cases
      exact ⟨worker_kept step, .inl ((worker_position step).symm.trans taking)⟩
  | _ => exact ⟨rfl, .inl taking⟩

-- The induction is on the moves, the last one first: before it the loop took frames too, or it read.
theorem reads_of_taking (first : Connection σ) (moves : List Move) (start : first.position ≠ .taking)
    (taking : (first.run moves).1.position = .taking) :
    ∃ front burst, moves = front ++ .loop :: burst ∧ first.Reads front burst ∧
      (first.run moves).1.worker.isNone = (first.run front).1.worker.isNone := by
  induction moves using List.reverseRecOn with
  | nil => exact absurd taking start
  | append_singleton earlier move ih =>
      have last := first.run_last earlier move
      rw [last] at taking ⊢
      obtain ⟨worker, before⟩ := (first.run earlier).1.step_to_taking move taking
      rcases before with before | ⟨waiting, rfl⟩
      · obtain ⟨front, burst, rfl, reads, same⟩ := ih before
        refine ⟨front, burst ++ [move], by simp, ⟨reads.waiting, fun part inside => ?_⟩, worker.trans same⟩
        rcases List.prefix_concat_iff.mp inside with rfl | inside
        · rw [← List.cons_append, ← List.append_assoc, last]
          exact taking
        · exact reads.taking part inside
      · refine ⟨earlier, [], rfl, ⟨waiting, fun part inside => ?_⟩, worker⟩
        rw [List.prefix_nil.mp inside, last]
        exact taking

theorem idle_of_waiting (connection : Connection σ) (branch : Branch) (staged : connection.Staged)
    (waiting : connection.position = .waiting branch) : connection.isIdle = connection.worker.isNone := by
  unfold isIdle
  cases free : connection.worker with
  | some worker => rfl
  | none =>
      rw [Staged, waiting] at staged
      rw [staged.2 free]
      rfl

theorem executes_iff (connection : Connection σ) :
    connection.executes = true ↔
      connection.worker.isNone = false ∧ connection.worker ≠ some .finished := by
  unfold executes
  cases connection.worker with
  | none => simp
  | some worker => cases worker <;> simp [Worker.held?]

theorem final_outcome (kind : OperationKind) (outcome : Outcome) (response : Response)
    (final : kind.finalResponse? outcome = some response) : response.outcome? = some outcome := by
  cases kind <;> cases final <;> rfl

theorem answer_for_busy (id : MessageId) (kind : OperationKind) (outcome : Outcome) :
    (answerFor id kind outcome).any isBusy = true ↔ kind ≠ .abandon ∧ outcome.code = .busy := by
  unfold answerFor
  cases final : kind.finalResponse? outcome with
  | none =>
      have silent : kind = .abandon := by
        by_contra plain
        obtain ⟨response, some_, _⟩ := kind.final_response outcome plain
        rw [final] at some_
        cases some_
      simp [silent]
  | some response =>
      have plain : kind ≠ .abandon := by
        rintro rfl
        cases final
      simp [isBusy, final_outcome kind outcome response final, plain]

theorem refusal_not_busy (failure : DecodeFailure) : (refusal failure).code ≠ .busy := by
  unfold refusal
  split <;> simp

theorem answers_to_busy (connection : Connection σ) (frame : Frame)
    (plain : ∀ message, Message.decode frame = .ok message → message.request.kind ≠ .abandon) :
    (connection.answersTo frame).any isBusy = true ↔
      (∃ message, Message.decode frame = .ok message) ∧ maxPending ≤ connection.pending.length := by
  cases decoded : Message.decode frame with
  | error failure =>
      simp only [answersTo, decoded, reduceCtorEq, exists_false, false_and, iff_false]
      split
      · exact fun busy => refusal_not_busy failure ((answer_for_busy _ _ _).mp busy).2
      · simp
  | ok message =>
      have served := plain message decoded
      simp only [answersTo, decoded, served, if_false, Except.ok.injEq, exists_eq', true_and]
      split
      · rename_i full
        simp only [answer_for_busy, full, iff_true]
        exact ⟨served, rfl⟩
      · rename_i room
        simp only [room, iff_false]
        split
        · exact fun busy => by cases ((answer_for_busy _ _ _).mp busy).2
        · simp

theorem busy_iff_full (config : Config σ) (peer : String) (state : σ) (moves : List Move) (frame : Frame)
    (takes : parsedFrames (((accept config peer state).run moves).1.step .loop).2 = [frame])
    (plain : ∀ message, Message.decode frame = .ok message → message.request.kind ≠ .abandon) :
    let first := accept config peer state
    let connection := (first.run moves).1
    (connection.answersBusy = true ↔
      (∃ message, Message.decode frame = .ok message) ∧ connection.pending.length = maxPending) ∧
    ∃ front burst, moves = front ++ .loop :: burst ∧ first.Reads front burst ∧
      (connection.executes = true ↔
        (first.run front).1.isIdle = false ∧ connection.worker ≠ some .finished) := by
  intro first connection
  obtain ⟨taking, size, parsed⟩ := taking_of_parsed takes
  constructor
  · have open_ : connection.hasEnded = false := by simp [hasEnded, connection, first, taking]
    have bounded := ((run_booked config peer state moves).open_ open_).1.bounded
    rw [answersBusy, connection.queues_taking frame size taking parsed, answers_to_busy _ _ plain]
    exact and_congr_right fun _ => ⟨fun full => Nat.le_antisymm bounded full, Nat.le_of_eq ∘ Eq.symm⟩
  · have start : first.position ≠ .taking := by simp [first, accept]
    obtain ⟨front, burst, split, reads, worker⟩ := first.reads_of_taking moves start taking
    have staged : (first.run front).1.Staged := run_keeps step_staged first front trivial
    refine ⟨front, burst, split, reads, ?_⟩
    rw [executes_iff, worker, idle_of_waiting _ .read staged reads.waiting]

def deleteFrames (first count : Nat) : List Frame :=
  (List.range count).map fun index => deleteFrame (Int64.ofNat (first + index))

theorem idle_connection_busy :
    let connection := ((accept debugConfig "client" ()).run (readAtOnce (deleteFrames 1 33) 37)).1
    parsedFrames (connection.step .loop).2 = [deleteFrame 33] ∧ connection.answersBusy = true ∧
      connection.pending.length = maxPending ∧ connection.executes = false := by
  decide +kernel

def crowdedMoves : List Move :=
  readAtOnce [deleteFrame 1] 8 ++ readAtOnce (deleteFrames 2 33) 36

theorem busy_behind_running :
    let first := accept debugConfig "client" ()
    let connection := (first.run crowdedMoves).1
    parsedFrames (connection.step .loop).2 = [deleteFrame 34] ∧
      Message.decode (deleteFrame 34) = .ok ⟨34, .delete "cn=a"⟩ ∧ connection.executes = true ∧
      connection.pending.length = maxPending ∧ connection.answersBusy = true ∧
      ∃ front burst, crowdedMoves = front ++ .loop :: burst ∧ first.Reads front burst ∧
        (first.run front).1.isIdle = false := by
  have state : parsedFrames (((accept debugConfig "client" ()).run crowdedMoves).1.step .loop).2 =
        [deleteFrame 34] ∧ ((accept debugConfig "client" ()).run crowdedMoves).1.executes = true ∧
      ((accept debugConfig "client" ()).run crowdedMoves).1.pending.length = maxPending := by
    decide +kernel
  obtain ⟨takes, served, full⟩ := state
  have decoded : Message.decode (deleteFrame 34) = .ok ⟨34, .delete "cn=a"⟩ := rfl
  have plain : ∀ message, Message.decode (deleteFrame 34) = .ok message →
      message.request.kind ≠ .abandon := by
    intro message same
    rw [decoded] at same
    cases same
    decide
  obtain ⟨busy, front, burst, split, reads, executes⟩ :=
    busy_iff_full debugConfig "client" () crowdedMoves (deleteFrame 34) takes plain
  refine ⟨takes, decoded, served, full, ?_, front, burst, split, reads, (executes.mp served).1⟩
  apply busy.mpr
  exact ⟨⟨_, decoded⟩, full⟩

end DirectoryServer.Connection
