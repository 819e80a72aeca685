import DirectoryServer.Proofs.Session.Work

set_option autoImplicit false

namespace DirectoryServer

theorem Session.abandon_queue (session : Session) (target : MessageId) :
    (session.abandon target).2.queue = session.queue ∧
      (session.abandon target).2.stats.bytesWritten = session.stats.bytesWritten := by
  unfold abandon
  split <;> exact ⟨rfl, rfl⟩

structure Scene.Posts {σ : Type} (before : Scene σ) (outs : List Outgoing) (after : Scene σ) : Prop where
  queue : after.session.queue = before.session.queue ++ outs
  bytesWritten : after.session.stats.bytesWritten = before.session.stats.bytesWritten

namespace Scene.Posts

variable {σ : Type} {a b c : Scene σ}

theorem nothing (queue : b.session.queue = a.session.queue)
    (bytesWritten : b.session.stats.bytesWritten = a.session.stats.bytesWritten) : a.Posts [] b :=
  ⟨by rw [List.append_nil, queue], bytesWritten⟩

theorem trans {first second : List Outgoing} (front : a.Posts first b) (back : b.Posts second c) :
    a.Posts (first ++ second) c where
  queue := by rw [back.queue, front.queue, List.append_assoc]
  bytesWritten := back.bytesWritten.trans front.bytesWritten

theorem send (scene : Scene σ) (out : Outgoing) (listening : scene.session.listening = true) :
    scene.Posts [out] { scene with session := (scene.session.send out).2 } := by
  rw [scene.session.send_listening out listening]
  exact ⟨rfl, rfl⟩

theorem abandonAll (targets : List MessageId) (session : Session) (state state' : σ) :
    Posts ⟨session, state⟩ []
      ⟨targets.foldl (fun session target => (session.abandon target).2) session, state'⟩ := by
  induction targets generalizing session with
  | nil => exact nothing rfl rfl
  | cons target rest ih =>
      obtain ⟨queue, bytesWritten⟩ := session.abandon_queue target
      have first : Posts ⟨session, state⟩ [] ⟨(session.abandon target).2, state⟩ := nothing queue bytesWritten
      exact first.trans (ih _)

end Scene.Posts

namespace Work

variable {σ α : Type}

def sends : Work σ α → List Outgoing
  | .queue out _ => [out]
  | _ => []

def sendsAll : Work σ α → Scene σ → List Outgoing
  | .done _, _ => []
  | .poll token next, scene => (next (scene.session.registry.isRaised token)).sendsAll scene
  | .queue out next, scene =>
      let (sent, session) := scene.session.send out
      out :: (next sent).sendsAll { scene with session }
  | .abandon target next, scene =>
      let (found, session) := scene.session.abandon target
      (next found).sendsAll { scene with session }
  | .identity next, scene => (next scene.session.bound).sendsAll scene
  | .identify name next, scene => next.sendsAll { scene with session := scene.session.identify name }
  | .transport next, scene =>
      (next scene.session.secured scene.session.tlsAvailable).sendsAll scene
  | .ask question next, scene =>
      let (code, state) := question scene.state
      (next code).sendsAll { scene with state }
  | .search backend query next, scene =>
      let (found, scene) := searchScene backend query scene
      (next found).sendsAll scene

theorem sends_all_step (work : Work σ α) (scene : Scene σ) :
    work.sendsAll scene = work.sends ++ (work.step scene).1.sendsAll (work.step scene).2 := by
  cases work <;> rfl

theorem step_posts (work : Work σ α) (scene : Scene σ) (listening : scene.session.listening = true) :
    scene.Posts work.sends (work.step scene).2 := by
  cases work with
  | queue out next => exact .send scene out listening
  | abandon target next =>
      obtain ⟨queue, bytesWritten⟩ := scene.session.abandon_queue target
      exact .nothing queue bytesWritten
  | search backend query next => exact .abandonAll _ scene.session scene.state _
  | _ => exact .nothing rfl rfl

theorem run_posts (work : Work σ α) (scene : Scene σ) (listening : scene.session.listening = true) :
    scene.Posts (work.sendsAll scene) (work.run scene).2 := by
  induction work using step_induction generalizing scene with
  | done value => exact .nothing rfl rfl
  | acts work _ ih =>
      have still := (work.step_extends scene).listening.trans listening
      rw [sends_all_step, run_step]
      exact (work.step_posts scene listening).trans (ih scene _ still)

end Work

end DirectoryServer
