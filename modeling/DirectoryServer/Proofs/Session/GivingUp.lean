import DirectoryServer.Proofs.Route.Unrouted

set_option autoImplicit false

namespace DirectoryServer

structure Session.GivesUp (before : Session) (targets : List MessageId) (after : Session) : Prop where
  inFlight : after.registry.inFlight = before.registry.inFlight
  raised : ∀ token, after.registry.isRaised token = true ↔
    token ∈ targets.filterMap before.registry.token? ∨ before.registry.isRaised token = true
  abandoned : after.stats.abandoned =
    before.stats.abandoned + UInt64.ofNat (targets.filterMap before.registry.token?).length

namespace Session.GivesUp

variable {a b c : Session}

theorem nothing (registry : b.registry = a.registry) (abandoned : b.stats.abandoned = a.stats.abandoned) :
    a.GivesUp [] b where
  inFlight := by rw [registry]
  raised token := by simp [registry]
  abandoned := by simp [abandoned]

theorem trans {first second : List MessageId} (front : a.GivesUp first b) (back : b.GivesUp second c) :
    a.GivesUp (first ++ second) c := by
  have same : b.registry.token? = a.registry.token? :=
    funext fun id => congrArg (List.lookup id) front.inFlight
  refine ⟨back.inFlight.trans front.inFlight, fun token => ?_, ?_⟩
  · rw [back.raised, front.raised, same, List.filterMap_append, List.mem_append, or_left_comm, or_assoc]
  · rw [back.abandoned, front.abandoned, same, List.filterMap_append, List.length_append, UInt64.ofNat_add,
      UInt64.add_assoc]

theorem abandon (session : Session) (target : MessageId) :
    session.GivesUp [target] (session.abandon target).2 := by
  have effect := session.abandon_abandons target
  refine ⟨effect.inFlight, fun token => ?_, ?_⟩
  · rw [effect.raised]
    cases known : session.registry.token? target with
    | none => simp [known]
    | some held => simp [known, eq_comm (a := token)]
  · rw [effect.abandoned, Registry.contains]
    cases known : session.registry.token? target <;> simp [known]

theorem abandonAll (targets : List MessageId) (session : Session) :
    session.GivesUp targets
      (targets.foldl (fun session target => (session.abandon target).2) session) := by
  induction targets generalizing session with
  | nil => exact nothing rfl rfl
  | cons target rest ih => exact (abandon session target).trans (ih _)

end Session.GivesUp

namespace Work

variable {σ α : Type}

def abandons : Work σ α → Scene σ → List MessageId
  | .abandon target _, _ => [target]
  | .search backend query _, scene =>
      (backend.search query.base query.filter query.attributes scene.state).1.abandons
  | _, _ => []

def abandonsAll : Work σ α → Scene σ → List MessageId
  | .done _, _ => []
  | .poll token next, scene => (next (scene.session.registry.isRaised token)).abandonsAll scene
  | .queue out next, scene =>
      let (sent, session) := scene.session.send out
      (next sent).abandonsAll { scene with session }
  | .abandon target next, scene =>
      let (found, session) := scene.session.abandon target
      target :: (next found).abandonsAll { scene with session }
  | .identity next, scene => (next scene.session.bound).abandonsAll scene
  | .identify name next, scene => next.abandonsAll { scene with session := scene.session.identify name }
  | .transport next, scene =>
      (next scene.session.secured scene.session.tlsAvailable).abandonsAll scene
  | .ask question next, scene =>
      let (code, state) := question scene.state
      (next code).abandonsAll { scene with state }
  | .search backend query next, scene =>
      let (found, later) := searchScene backend query scene
      (abandons (.search backend query next) scene) ++ (next found).abandonsAll later

theorem abandons_all_step (work : Work σ α) (scene : Scene σ) :
    work.abandonsAll scene =
      work.abandons scene ++ (work.step scene).1.abandonsAll (work.step scene).2 := by
  cases work <;> rfl

theorem step_gives_up (work : Work σ α) (scene : Scene σ) :
    scene.session.GivesUp (work.abandons scene) (work.step scene).2.session := by
  cases work with
  | queue out next =>
      refine .nothing (scene.session.send_registry out) ?_
      unfold step Session.send
      dsimp only
      split <;> rfl
  | abandon target next => exact .abandon scene.session target
  | search backend query next => exact .abandonAll _ scene.session
  | _ => exact .nothing rfl rfl

theorem run_gives_up (work : Work σ α) (scene : Scene σ) :
    scene.session.GivesUp (work.abandonsAll scene) (work.run scene).2.session := by
  induction work using step_induction generalizing scene with
  | done value => exact .nothing rfl rfl
  | acts work _ ih =>
      rw [abandons_all_step, run_step]
      exact (work.step_gives_up scene).trans (ih scene _)

end Work

end DirectoryServer
