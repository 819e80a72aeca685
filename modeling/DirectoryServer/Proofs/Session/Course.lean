import DirectoryServer.Proofs.Session.Play
import DirectoryServer.Proofs.Session.Sends

set_option autoImplicit false

/-!
Work among others. Between two actions anybody may act on the scene, so an action is taken in whatever
scene it finds; only the token stays low and the responses are taken.
-/
namespace DirectoryServer.Work

variable {σ α : Type}

-- The scene `next` that others leave for the next action need not be the one that the last action left.
inductive Course (token : Token) : Work σ α → Scene σ → List Outgoing → Prop where
  | ends (value : α) (scene : Scene σ) : Course token (.done value) scene []
  | goesOn {work : Work σ α} {scene next : Scene σ} {outs : List Outgoing}
      (unfinished : ∀ value, work ≠ .done value) (listening : scene.session.listening = true)
      (unraised : scene.session.registry.isRaised token = false)
      (later : Course token (work.step scene).1 next outs) : Course token work scene (work.sends ++ outs)

theorem queues_sends (work : Work σ α) (token : Token) (scene : Scene σ)
    {post : α → List Outgoing → Prop} (queues : work.Queues token post)
    (listening : scene.session.listening = true)
    (unraised : scene.session.registry.isRaised token = false) :
    (work.step scene).1.Queues token (fun value outs => post value (work.sends ++ outs)) := by
  cases work with
  | done value => exact queues
  | poll polled next =>
      obtain ⟨rfl, queues⟩ := queues
      rw [step, unraised]
      exact queues
  | queue out next =>
      rw [step, scene.session.send_listening out listening]
      exact queues
  | abandon target next => exact queues _
  | identity next => exact queues _
  | identify name next => exact queues
  | transport next => exact queues _ _
  | ask question next => exact queues _
  | search backend query next => exact queues _

theorem course_queues (work : Work σ α) (token : Token) (scene : Scene σ) (outs : List Outgoing)
    {post : α → List Outgoing → Prop} (course : work.Course token scene outs)
    (queues : work.Queues token post) : ∃ value, post value outs := by
  induction course generalizing post with
  | ends value scene => exact ⟨value, queues⟩
  | goesOn unfinished listening unraised later ih =>
      exact ih (queues_sends _ token _ queues listening unraised)

theorem run_course (work : Work σ α) (token : Token) (scene : Scene σ)
    (listening : scene.session.listening = true)
    (unraised : (work.run scene).2.session.registry.isRaised token = false) :
    work.Course token scene (work.sendsAll scene) := by
  induction work using step_induction generalizing scene with
  | done value => exact .ends value scene
  | acts work unfinished ih =>
      have low : scene.session.registry.isRaised token = false := by
        refine Bool.eq_false_iff.mpr fun raised => ?_
        rw [(work.run_extends scene).raised token raised] at unraised
        cases unraised
      have still := (work.step_extends scene).listening.trans listening
      rw [run_step] at unraised
      rw [sends_all_step]
      exact .goesOn unfinished listening low (ih scene _ still unraised)

end DirectoryServer.Work
