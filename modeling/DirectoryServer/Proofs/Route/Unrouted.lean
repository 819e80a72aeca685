import DirectoryServer.Proofs.Route.Default
import DirectoryServer.Proofs.Session.Sends

set_option autoImplicit false

namespace DirectoryServer

structure Session.Abandons (before : Session) (target : MessageId) (after : Session) : Prop where
  queue : after.queue = before.queue
  inFlight : after.registry.inFlight = before.registry.inFlight
  raised : ∀ token, after.registry.isRaised token = true ↔
    before.registry.token? target = some token ∨ before.registry.isRaised token = true
  abandoned : after.stats.abandoned =
    if before.registry.contains target then before.stats.abandoned + 1 else before.stats.abandoned

theorem Session.abandon_abandons (session : Session) (target : MessageId) :
    session.Abandons target (session.abandon target).2 := by
  unfold abandon Registry.cancel
  cases known : session.registry.token? target with
  | none =>
      refine ⟨rfl, rfl, fun token => ?_, ?_⟩
      · simp [known]
      · simp [Registry.contains, known]
  | some token =>
      refine ⟨rfl, session.registry.raise_in_flight token, fun other => ?_, ?_⟩
      · simp only [Registry.is_raised_raise, known, Option.some.injEq]
        exact or_congr_left eq_comm
      · simp [Registry.contains, known, Stats.gaveUp]

structure Scene.Spares {σ : Type} (before after : Scene σ) : Prop where
  registry : after.session.registry = before.session.registry
  queue : after.session.queue = before.session.queue
  stats : after.session.stats = before.session.stats

namespace Work

variable {σ α β : Type}

def Mute : Work σ α → Prop
  | .done _ => True
  | .poll _ next => ∀ raised, (next raised).Mute
  | .queue _ _ => False
  | .abandon _ _ => False
  | .identity next => ∀ name, (next name).Mute
  | .identify _ next => next.Mute
  | .transport next => ∀ secured available, (next secured available).Mute
  | .ask _ next => ∀ code, (next code).Mute
  | .search backend _ next => backend.Detached ∧ ∀ found, (next found).Mute

theorem mute_bind (work : Work σ α) (next : α → Work σ β) (first : work.Mute)
    (second : ∀ value, (next value).Mute) : (work.bind next).Mute := by
  induction work with
  | done value => exact second value
  | poll token more ih => exact fun raised => ih raised (first raised)
  | queue out more ih => exact first.elim
  | abandon target more ih => exact first.elim
  | identity more ih => exact fun name => ih name (first name)
  | identify name more ih => exact ih first
  | transport more ih => exact fun secured available => ih secured available (first secured available)
  | ask question more ih => exact fun code => ih code (first code)
  | search backend query more ih => exact ⟨first.1, fun found => ih found (first.2 found)⟩

structure StaysMute (work : Work σ α) (scene : Scene σ) : Prop where
  mute : (work.step scene).1.Mute
  sends : work.sends = []
  spares : scene.Spares (work.step scene).2

theorem mute_step (work : Work σ α) (scene : Scene σ) (mute : work.Mute) : work.StaysMute scene := by
  cases work with
  | done value => exact ⟨mute, rfl, rfl, rfl, rfl⟩
  | poll token next => exact ⟨mute _, rfl, rfl, rfl, rfl⟩
  | queue out next => exact mute.elim
  | abandon target next => exact mute.elim
  | identity next => exact ⟨mute _, rfl, rfl, rfl, rfl⟩
  | identify name next => exact ⟨mute, rfl, rfl, rfl, rfl⟩
  | transport next => exact ⟨mute _ _, rfl, rfl, rfl, rfl⟩
  | ask question next => exact ⟨mute _, rfl, rfl, rfl, rfl⟩
  | search backend query next =>
      have found := search_scene_detached backend query scene mute.1
      refine ⟨mute.2 _, rfl, ?_, ?_, ?_⟩
      · simp only [step, found]
      · simp only [step, found]
      · simp only [step, found]

theorem mute_run (work : Work σ α) (scene : Scene σ) (mute : work.Mute) :
    work.sendsAll scene = [] ∧ scene.Spares (work.run scene).2 := by
  induction work using step_induction generalizing scene with
  | done value => exact ⟨rfl, rfl, rfl, rfl⟩
  | acts work _ ih =>
      have first := work.mute_step scene mute
      obtain ⟨silent, spares⟩ := ih scene _ first.mute
      rw [sends_all_step, run_step, first.sends, silent]
      refine ⟨rfl, ?_, ?_, ?_⟩
      · rw [spares.registry, first.spares.registry]
      · rw [spares.queue, first.spares.queue]
      · rw [spares.stats, first.spares.stats]

def Yields (work : Work σ α) (target : MessageId) : Prop :=
  ∃ next, work = .abandon target next ∧ ∀ found, (next found).Mute

theorem yields_run (work : Work σ α) (target : MessageId) (scene : Scene σ) (yields : work.Yields target) :
    work.sendsAll scene = [] ∧ scene.session.Abandons target (work.run scene).2.session := by
  obtain ⟨next, rfl, mute⟩ := yields
  have first := scene.session.abandon_abandons target
  obtain ⟨silent, spares⟩ := (next (scene.session.abandon target).1).mute_run
    { scene with session := (scene.session.abandon target).2 } (mute _)
  refine ⟨silent, ?_⟩
  rw [run]
  refine ⟨?_, ?_, ?_, ?_⟩
  · rw [spares.queue, first.queue]
  · rw [spares.registry, first.inFlight]
  · rw [spares.registry]
    exact first.raised
  · rw [spares.stats, first.abandoned]

end Work

namespace RouteTable

variable {σ : Type}

structure LeavesAbandons (table : RouteTable σ) : Prop where
  unrouted : ∀ route ∈ table.routes, route.operation ≠ .abandon
  mute : ∀ route, table.notFound = some route → ∀ id target token,
    (route.invoke (.abandon target) ⟨id, .abandon, token⟩).Mute

theorem fall_back_mute (table : RouteTable σ) (id target : MessageId) (token : Token)
    (leaves : table.LeavesAbandons) : (table.fallBack (.abandon target) ⟨id, .abandon, token⟩).Mute := by
  unfold fallBack
  split
  · exact leaves.mute _ ‹_› id target token
  · trivial

theorem abandon_yields (table : RouteTable σ) (id target : MessageId) (token : Token)
    (plain : (∃ backend root, table = RouteTable.default backend root) ∨ table.LeavesAbandons) :
    (table.dispatch (.abandon target) ⟨id, .abandon, token⟩).Yields target := by
  rcases plain with ⟨backend, root, routes⟩ | leaves
  · exact ⟨_, default_abandon table backend root target _ routes, fun _ => trivial⟩
  · rcases dispatch_cases table (.abandon target) ⟨id, .abandon, token⟩ with
      ⟨route, member, accepts, _⟩ | ⟨_, dispatched⟩
    · exact absurd (route.kind_of_accepts _ accepts).symm (leaves.unrouted route member)
    · refine ⟨_, dispatched, fun _ => ?_⟩
      change ((table.fallBack (.abandon target) _).bind fun _ => Work.done false).Mute
      exact Work.mute_bind _ _ (table.fall_back_mute id target token leaves) (fun _ => trivial)

end RouteTable

end DirectoryServer
