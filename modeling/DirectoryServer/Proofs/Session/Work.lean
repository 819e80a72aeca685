import DirectoryServer.Session.Work
import DirectoryServer.Proofs.Session.Registry

set_option autoImplicit false

namespace DirectoryServer

namespace Session

theorem send_listening (session : Session) (out : Outgoing) (listening : session.listening = true) :
    session.send out = (true, { session with queue := session.queue ++ [out] }) := by
  simp only [send, listening, if_true]

theorem send_registry (session : Session) (out : Outgoing) :
    (session.send out).2.registry = session.registry := by
  simp only [send]
  split <;> rfl

end Session

structure Scene.Extends {σ : Type} (before after : Scene σ) : Prop where
  inFlight : after.session.registry.inFlight = before.session.registry.inFlight
  issued : after.session.registry.issued = before.session.registry.issued
  raised : ∀ token, before.session.registry.isRaised token = true →
    after.session.registry.isRaised token = true
  secured : after.session.secured = before.session.secured
  tlsAvailable : after.session.tlsAvailable = before.session.tlsAvailable
  listening : after.session.listening = before.session.listening
  active : after.session.stats.active = before.session.stats.active

namespace Scene.Extends

variable {σ : Type} {a b c : Scene σ}

theorem refl (scene : Scene σ) : scene.Extends scene :=
  ⟨rfl, rfl, fun _ raised => raised, rfl, rfl, rfl, rfl⟩

theorem trans (first : a.Extends b) (second : b.Extends c) : a.Extends c where
  inFlight := second.inFlight.trans first.inFlight
  issued := second.issued.trans first.issued
  raised token raised := second.raised token (first.raised token raised)
  secured := second.secured.trans first.secured
  tlsAvailable := second.tlsAvailable.trans first.tlsAvailable
  listening := second.listening.trans first.listening
  active := second.active.trans first.active

theorem send (scene : Scene σ) (out : Outgoing) :
    scene.Extends { scene with session := (scene.session.send out).2 } := by
  simp only [Session.send]
  split
  · exact ⟨rfl, rfl, fun _ raised => raised, rfl, rfl, rfl, rfl⟩
  · exact refl scene

theorem abandon (scene : Scene σ) (target : MessageId) (state : σ) :
    scene.Extends ⟨(scene.session.abandon target).2, state⟩ := by
  have inFlight := scene.session.registry.cancel_in_flight target
  have issued := scene.session.registry.cancel_issued target
  have raised := scene.session.registry.cancel_raised target
  simp only [Session.abandon]
  split
  · rename_i cancelled
    rw [cancelled] at inFlight issued raised
    exact ⟨inFlight, issued, raised, rfl, rfl, rfl, rfl⟩
  · exact ⟨rfl, rfl, fun _ kept => kept, rfl, rfl, rfl, rfl⟩

theorem abandonAll (targets : List MessageId) (session : Session) (state state' : σ) :
    Extends ⟨session, state⟩
      ⟨targets.foldl (fun session target => (session.abandon target).2) session, state'⟩ := by
  induction targets generalizing session with
  | nil => exact ⟨rfl, rfl, fun _ kept => kept, rfl, rfl, rfl, rfl⟩
  | cons target rest ih => exact (abandon ⟨session, state⟩ target state).trans (ih _)

theorem search (scene : Scene σ) (backend : Backend σ) (query : Query) :
    scene.Extends (Work.searchScene backend query scene).2 :=
  abandonAll _ scene.session scene.state _

end Scene.Extends

namespace Work

variable {σ α β : Type}

theorem step_extends (work : Work σ α) (scene : Scene σ) : scene.Extends (work.step scene).2 := by
  cases work with
  | queue out next => exact .send scene out
  | abandon target next => exact .abandon scene target scene.state
  | search backend query next => exact .search scene backend query
  | identify name next => exact ⟨rfl, rfl, fun _ kept => kept, rfl, rfl, rfl, rfl⟩
  | ask question next => exact ⟨rfl, rfl, fun _ kept => kept, rfl, rfl, rfl, rfl⟩
  | _ => exact .refl scene

theorem run_step (work : Work σ α) (scene : Scene σ) :
    work.run scene = (work.step scene).1.run (work.step scene).2 := by
  cases work <;> rfl

@[elab_as_elim]
theorem step_induction {motive : Work σ α → Prop} (work : Work σ α) (done : ∀ value, motive (.done value))
    (acts : ∀ work : Work σ α, (∀ value, work ≠ .done value) → (∀ scene, motive (work.step scene).1) →
      motive work) : motive work := by
  induction work with
  | done value => exact done value
  | poll token next ih => exact acts _ (by simp) fun scene => ih _
  | queue out next ih => exact acts _ (by simp) fun scene => ih _
  | abandon target next ih => exact acts _ (by simp) fun scene => ih _
  | identity next ih => exact acts _ (by simp) fun scene => ih _
  | identify name next ih => exact acts _ (by simp) fun scene => ih
  | transport next ih => exact acts _ (by simp) fun scene => ih _ _
  | ask question next ih => exact acts _ (by simp) fun scene => ih _
  | search backend query next ih => exact acts _ (by simp) fun scene => ih _

theorem run_extends (work : Work σ α) (scene : Scene σ) : scene.Extends (work.run scene).2 := by
  induction work using step_induction generalizing scene with
  | done value => exact .refl scene
  | acts work _ ih =>
      rw [run_step]
      exact (work.step_extends scene).trans (ih scene _)

end Work

end DirectoryServer
