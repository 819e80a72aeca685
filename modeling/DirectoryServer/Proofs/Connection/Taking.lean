import DirectoryServer.Proofs.Connection.Securing
import DirectoryServer.Proofs.Frame.Stream

set_option autoImplicit false

namespace DirectoryServer.Connection

variable {σ : Type}

def Answerable (frame : Frame) : Prop :=
  ∀ failure, Message.decode frame = .error failure → failure.id ≠ none

theorem take_frame_cases (connection : Connection σ) (frame : Frame) (answerable : Answerable frame) :
    ∃ next, connection.takeFrame frame = (next, none) ∧ next.position = connection.position ∧
      next.buffer = connection.buffer := by
  unfold takeFrame
  cases decoded : Message.decode frame with
  | ok message =>
      have little := takes_little (take_message_cases (counted connection) frame message decoded)
      exact ⟨_, rfl, little.position, little.buffer⟩
  | error failure =>
      rcases refuse_cases (counted connection) failure with ⟨nameless, _⟩ | ⟨id, _, refused⟩
      · exact absurd nameless (answerable failure decoded)
      · obtain ⟨queue, answered⟩ :=
          (counted connection).answer_keeps id (failure.kind.getD .extended) (refusal failure)
        rw [answered] at refused
        exact ⟨_, refused, rfl, rfl⟩

theorem take_step (connection : Connection σ) (frame : Frame) (size : Nat)
    (taking : connection.position = .taking) (answerable : Answerable frame)
    (parsed : Frame.parse connection.buffer = .ok (some (frame, size))) :
    ∃ next, connection.step .loop = (next, [.parsed frame]) ∧ next.position = .taking ∧
      next.buffer = connection.buffer.drop size := by
  obtain ⟨next, taken, position, buffer⟩ :=
    take_frame_cases { connection with buffer := connection.buffer.drop size } frame answerable
  refine ⟨next, ?_, position.trans taking, buffer⟩
  rw [connection.step_taking taking]
  unfold take
  rw [parsed]
  simp only [taken]

def TookAll (connection : Connection σ) (batch : Frame.Batch) : Prop :=
  match batch.fault with
  | none => connection.position = .top ∧ connection.buffer = batch.rest
  | some cause => connection.position = .ended (.error (.parse cause))

-- The induction is on what the buffer holds; each frame is one step of the loop.
theorem taking_takes (connection : Connection σ) (batch : Frame.Batch)
    (holds : Frame.Holds connection.buffer batch) (taking : connection.position = .taking)
    (answerable : ∀ frame ∈ batch.frames, Answerable frame) :
    parsedFrames (connection.run (List.replicate (batch.frames.length + 1) .loop)).2 = batch.frames ∧
      (connection.run (List.replicate (batch.frames.length + 1) .loop)).1.TookAll batch := by
  generalize same : connection.buffer = buffer at holds
  induction holds generalizing connection with
  | part short =>
      have step : connection.step .loop = (connection.goto .top, []) := by
        rw [connection.step_taking taking]
        unfold take
        rw [same, short]
        rfl
      simp only [List.length_nil, List.replicate, run, step]
      exact ⟨rfl, rfl, same⟩
  | fault cause wrong =>
      have step : connection.step .loop = connection.finish (.error (.parse cause)) := by
        rw [connection.step_taking taking]
        unfold take
        rw [same, wrong]
      simp only [List.length_nil, List.replicate, run, step]
      exact ⟨rfl, rfl⟩
  | frame frame size later parsed behind ih =>
      rw [← same] at parsed
      obtain ⟨next, step, still, buffer⟩ :=
        connection.take_step frame size taking (answerable frame List.mem_cons_self) parsed
      obtain ⟨frames, took⟩ := ih next still
        (fun other member => answerable other (List.mem_cons_of_mem _ member)) (by rw [buffer, same])
      simp only [Frame.Batch.behind, List.singleton_append, List.length_cons, List.replicate_succ, run, step]
      refine ⟨congrArg (frame :: ·) frames, took⟩

end DirectoryServer.Connection
