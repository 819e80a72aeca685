import DirectoryServer.Proofs.Session.Sends

set_option autoImplicit false

namespace DirectoryServer

structure Trace (σ : Type) where
  polls : List Bool
  outs : List Outgoing
  last : Scene σ

def Trace.behind {σ : Type} (rest : Trace σ) (polls : List Bool) (outs : List Outgoing) : Trace σ :=
  ⟨polls ++ rest.polls, outs ++ rest.outs, rest.last⟩

structure SparesQueue {σ : Type} (others : Nat → Scene σ → Scene σ) : Prop where
  queue : ∀ time scene, (others time scene).session.queue = scene.session.queue
  listening : ∀ time scene, (others time scene).session.listening = scene.session.listening

def KeepsRaised {σ : Type} (token : Token) (others : Nat → Scene σ → Scene σ) : Prop :=
  ∀ time scene, scene.session.registry.isRaised token = true →
    (others time scene).session.registry.isRaised token = true

namespace Work

variable {σ α : Type}

def polls : Work σ α → Scene σ → List Bool
  | .poll token _, scene => [scene.session.registry.isRaised token]
  | _, _ => []

-- A run in which `others time` act ahead of the action number `time`.
def amid (others : Nat → Scene σ → Scene σ) : Work σ α → Nat → Scene σ → Trace σ
  | .done _, _, scene => ⟨[], [], scene⟩
  | .poll token next, time, scene =>
      let found := others time scene
      let raised := found.session.registry.isRaised token
      ((next raised).amid others (time + 1) found).behind [raised] []
  | .queue out next, time, scene =>
      let found := others time scene
      let (sent, session) := found.session.send out
      ((next sent).amid others (time + 1) { found with session }).behind [] [out]
  | .abandon target next, time, scene =>
      let found := others time scene
      let (known, session) := found.session.abandon target
      ((next known).amid others (time + 1) { found with session }).behind [] []
  | .identity next, time, scene =>
      let found := others time scene
      ((next found.session.bound).amid others (time + 1) found).behind [] []
  | .identify name next, time, scene =>
      let found := others time scene
      (next.amid others (time + 1) { found with session := found.session.identify name }).behind [] []
  | .transport next, time, scene =>
      let found := others time scene
      ((next found.session.secured found.session.tlsAvailable).amid others (time + 1) found).behind [] []
  | .ask question next, time, scene =>
      let found := others time scene
      let (code, state) := question found.state
      ((next code).amid others (time + 1) { found with state }).behind [] []
  | .search backend query next, time, scene =>
      let (answer, later) := searchScene backend query (others time scene)
      ((next answer).amid others (time + 1) later).behind [] []

theorem amid_poll (others : Nat → Scene σ → Scene σ) (token : Token) (next : Bool → Work σ α) (time : Nat)
    (scene : Scene σ) :
    let raised := (others time scene).session.registry.isRaised token
    (poll token next).amid others time scene =
      ((next raised).amid others (time + 1) (others time scene)).behind [raised] [] := rfl

theorem amid_send (others : Nat → Scene σ → Scene σ) (out : Outgoing) (next : Work σ α) (time : Nat)
    (scene : Scene σ) :
    let found := others time scene
    (queue out fun _ => next).amid others time scene =
      (next.amid others (time + 1) { found with session := (found.session.send out).2 }).behind [] [out] := rfl

theorem amid_search (others : Nat → Scene σ → Scene σ) (backend : Backend σ) (query : Query)
    (next : Except ResultCode (List Entry) → Work σ α) (time : Nat) (scene : Scene σ) :
    let found := searchScene backend query (others time scene)
    (search backend query next).amid others time scene =
      ((next found.1).amid others (time + 1) found.2).behind [] [] := rfl

theorem amid_step (others : Nat → Scene σ → Scene σ) (work : Work σ α) (time : Nat) (scene : Scene σ)
    (unfinished : ∀ value, work ≠ .done value) :
    let found := others time scene
    work.amid others time scene =
      ((work.step found).1.amid others (time + 1) (work.step found).2).behind (work.polls found) work.sends := by
  cases work with
  | done value => exact absurd rfl (unfinished value)
  | _ => rfl

theorem amid_undisturbed (work : Work σ α) (time : Nat) (scene : Scene σ) :
    (work.amid (fun _ scene => scene) time scene).outs = work.sendsAll scene ∧
      (work.amid (fun _ scene => scene) time scene).last = (work.run scene).2 := by
  induction work using step_induction generalizing time scene with
  | done value => exact ⟨rfl, rfl⟩
  | acts work unfinished ih =>
      obtain ⟨outs, last⟩ := ih scene (time + 1) (work.step scene).2
      rw [amid_step _ work time scene unfinished, sends_all_step, run_step, Trace.behind]
      exact ⟨congrArg (work.sends ++ ·) outs, last⟩

theorem amid_queue (others : Nat → Scene σ → Scene σ) (work : Work σ α) (time : Nat) (scene : Scene σ)
    (spares : SparesQueue others) (listening : scene.session.listening = true) :
    (work.amid others time scene).last.session.queue =
      scene.session.queue ++ (work.amid others time scene).outs := by
  induction work using step_induction generalizing time scene with
  | done value => exact (List.append_nil _).symm
  | acts work unfinished ih =>
      have still := (spares.listening time scene).trans listening
      have posted := (work.step_posts (others time scene) still).queue
      have later := (work.step_extends (others time scene)).listening.trans still
      rw [amid_step others work time scene unfinished, Trace.behind, ← List.append_assoc,
        ← spares.queue time scene, ← posted]
      exact ih (others time scene) (time + 1) _ later

end Work

end DirectoryServer
