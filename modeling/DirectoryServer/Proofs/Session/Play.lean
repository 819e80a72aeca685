import DirectoryServer.Proofs.Session.Work

set_option autoImplicit false

/-!
Work that nobody disturbs. `Queues` speaks of all the answers that the surroundings may give,
`play` of those that a session gives while no token is raised and its queue is taken from.
-/
namespace DirectoryServer

def Response.kind? : Response → Option OperationKind
  | .bind _ => some .bind
  | .entry _ => none
  | .searchDone _ => some .search
  | .add _ => some .add
  | .modify _ => some .modify
  | .delete _ => some .delete
  | .compare _ => some .compare
  | .extended _ _ _ => some .extended

theorem OperationKind.final_response (kind : OperationKind) (outcome : Outcome)
    (answered : kind ≠ .abandon) :
    ∃ response, kind.finalResponse? outcome = some response ∧ response.kind? = some kind := by
  cases kind <;> first | exact ⟨_, rfl, rfl⟩ | exact absurd rfl answered

-- A backend answers a search and nothing else: it gives up no request of the connection.
def Backend.Detached {σ : Type} (backend : Backend σ) : Prop :=
  ∀ base filter attributes state, (backend.search base filter attributes state).1.abandons = []

structure Outlook (σ : Type) where
  bound : Option String
  secured : Bool
  available : Bool
  state : σ

def Scene.outlook {σ : Type} (scene : Scene σ) : Outlook σ :=
  ⟨scene.session.bound, scene.session.secured, scene.session.tlsAvailable, scene.state⟩

namespace Work

variable {σ α β : Type}

def Quiet : Work σ α → Prop
  | .done _ => True
  | .poll _ next => ∀ raised, (next raised).Quiet
  | .queue _ next => ∀ sent, (next sent).Quiet
  | .abandon _ _ => False
  | .identity next => ∀ name, (next name).Quiet
  | .identify _ next => next.Quiet
  | .transport next => ∀ secured available, (next secured available).Quiet
  | .ask _ next => ∀ code, (next code).Quiet
  | .search backend _ next => backend.Detached ∧ ∀ found, (next found).Quiet

def Queues (token : Token) (post : α → List Outgoing → Prop) : Work σ α → Prop
  | .done value => post value []
  | .poll polled next => polled = token ∧ (next false).Queues token post
  | .queue out next => (next true).Queues token (fun value outs => post value (out :: outs))
  | .abandon _ next => ∀ found, (next found).Queues token post
  | .identity next => ∀ name, (next name).Queues token post
  | .identify _ next => next.Queues token post
  | .transport next => ∀ secured available, (next secured available).Queues token post
  | .ask _ next => ∀ code, (next code).Queues token post
  | .search _ _ next => ∀ found, (next found).Queues token post

def play : Work σ α → Outlook σ → List Outgoing × Outlook σ
  | .done _, view => ([], view)
  | .poll _ next, view => (next false).play view
  | .queue out next, view =>
      let (outs, last) := (next true).play view
      (out :: outs, last)
  | .abandon _ next, view => (next false).play view
  | .identity next, view => (next view.bound).play view
  | .identify name next, view => next.play { view with bound := name }
  | .transport next, view => (next view.secured view.available).play view
  | .ask question next, view =>
      let (code, state) := question view.state
      (next code).play { view with state }
  | .search backend query next, view =>
      let (found, state) := backend.search query.base query.filter query.attributes view.state
      (next found.answer).play { view with state }

def actions : Work σ α → Outlook σ → Nat
  | .done _, _ => 0
  | .poll _ next, view => (next false).actions view + 1
  | .queue _ next, view => (next true).actions view + 1
  | .abandon _ next, view => (next false).actions view + 1
  | .identity next, view => (next view.bound).actions view + 1
  | .identify name next, view => next.actions { view with bound := name } + 1
  | .transport next, view => (next view.secured view.available).actions view + 1
  | .ask question next, view =>
      let (code, state) := question view.state
      (next code).actions { view with state } + 1
  | .search backend query next, view =>
      let (found, state) := backend.search query.base query.filter query.attributes view.state
      (next found.answer).actions { view with state } + 1

theorem quiet_bind (work : Work σ α) (next : α → Work σ β) (first : work.Quiet)
    (second : ∀ value, (next value).Quiet) : (work.bind next).Quiet := by
  induction work with
  | done value => exact second value
  | poll token more ih => exact fun raised => ih raised (first raised)
  | queue out more ih => exact fun sent => ih sent (first sent)
  | abandon target more ih => exact first.elim
  | identity more ih => exact fun name => ih name (first name)
  | identify name more ih => exact ih first
  | transport more ih => exact fun secured available => ih secured available (first secured available)
  | ask question more ih => exact fun code => ih code (first code)
  | search backend query more ih => exact ⟨first.1, fun found => ih found (first.2 found)⟩

theorem search_scene_detached (backend : Backend σ) (query : Query) (scene : Scene σ)
    (detached : backend.Detached) :
    searchScene backend query scene =
      ((backend.search query.base query.filter query.attributes scene.state).1.answer,
        ⟨scene.session, (backend.search query.base query.filter query.attributes scene.state).2⟩) := by
  have none_ := detached query.base query.filter query.attributes scene.state
  simp only [searchScene, none_, List.foldl_nil]

theorem quiet_step (work : Work σ α) (scene : Scene σ) (quiet : work.Quiet) :
    (work.step scene).1.Quiet ∧
      (work.step scene).2.session.registry = scene.session.registry := by
  cases work with
  | done value => exact ⟨quiet, rfl⟩
  | poll token next => exact ⟨quiet _, rfl⟩
  | queue out next => exact ⟨quiet _, Session.send_registry scene.session out⟩
  | abandon target next => exact quiet.elim
  | identity next => exact ⟨quiet _, rfl⟩
  | identify name next => exact ⟨quiet, rfl⟩
  | transport next => exact ⟨quiet _ _, rfl⟩
  | ask question next => exact ⟨quiet _, rfl⟩
  | search backend query next =>
      refine ⟨quiet.2 _, ?_⟩
      simp only [step, search_scene_detached backend query scene quiet.1]

theorem queues_mono (work : Work σ α) (token : Token) {post weaker : α → List Outgoing → Prop}
    (implied : ∀ value outs, post value outs → weaker value outs) (queues : work.Queues token post) :
    work.Queues token weaker := by
  induction work generalizing post weaker with
  | done value => exact implied _ _ queues
  | poll polled next ih => exact ⟨queues.1, ih false implied queues.2⟩
  | queue out next ih => exact ih true (fun value outs => implied value (out :: outs)) queues
  | abandon target next ih => exact fun found => ih found implied (queues found)
  | identity next ih => exact fun name => ih name implied (queues name)
  | identify name next ih => exact ih implied queues
  | transport next ih => exact fun secured available => ih _ _ implied (queues secured available)
  | ask question next ih => exact fun code => ih code implied (queues code)
  | search backend query next ih => exact fun found => ih found implied (queues found)

theorem queues_bind (work : Work σ α) (next : α → Work σ β) (token : Token)
    {post : β → List Outgoing → Prop}
    (queues : work.Queues token fun value outs =>
      (next value).Queues token fun result more => post result (outs ++ more)) :
    (work.bind next).Queues token post := by
  induction work generalizing post with
  | done value => exact queues
  | poll polled more ih => exact ⟨queues.1, ih false queues.2⟩
  | queue out more ih => exact ih true queues
  | abandon target more ih => exact fun found => ih found (queues found)
  | identity more ih => exact fun name => ih name (queues name)
  | identify name more ih => exact ih queues
  | transport more ih => exact fun secured available => ih _ _ (queues secured available)
  | ask question more ih => exact fun code => ih code (queues code)
  | search backend query more ih => exact fun found => ih found (queues found)

theorem play_step (work : Work σ α) (scene : Scene σ) (quiet : work.Quiet)
    (listening : scene.session.listening = true)
    (unraised : scene.session.registry.raised = []) :
    ∃ now, (work.step scene).2.session.queue = scene.session.queue ++ now ∧
      work.play scene.outlook =
        (now ++ ((work.step scene).1.play (work.step scene).2.outlook).1,
          ((work.step scene).1.play (work.step scene).2.outlook).2) := by
  cases work with
  | queue out next =>
      have sent := scene.session.send_listening out listening
      refine ⟨[out], ?_, ?_⟩
      · simp only [step, sent]
      · simp only [step, sent, play, Scene.outlook, List.singleton_append]
  | abandon target next => exact quiet.elim
  | poll token next =>
      have low : scene.session.registry.isRaised token = false := by simp [Registry.isRaised, unraised]
      refine ⟨[], (List.append_nil _).symm, ?_⟩
      simp only [step, low, play, List.nil_append]
  | search backend query next =>
      refine ⟨[], ?_, ?_⟩
      · simp only [step, search_scene_detached backend query scene quiet.1, List.append_nil]
      · simp only [step, search_scene_detached backend query scene quiet.1, List.nil_append]
        rfl
  | _ => exact ⟨[], (List.append_nil _).symm, rfl⟩

theorem actions_step (work : Work σ α) (scene : Scene σ) (quiet : work.Quiet)
    (listening : scene.session.listening = true) (unraised : scene.session.registry.raised = [])
    (unfinished : ∀ value, work ≠ .done value) :
    work.actions scene.outlook = (work.step scene).1.actions (work.step scene).2.outlook + 1 := by
  cases work with
  | done value => exact absurd rfl (unfinished value)
  | queue out next =>
      have sent := scene.session.send_listening out listening
      simp only [step, sent, actions, Scene.outlook]
  | abandon target next => exact quiet.elim
  | poll token next =>
      have low : scene.session.registry.isRaised token = false := by simp [Registry.isRaised, unraised]
      simp only [step, low, actions]
  | search backend query next =>
      simp only [step, search_scene_detached backend query scene quiet.1]
      rfl
  | _ => rfl

theorem queues_step (work : Work σ α) (scene : Scene σ) (token : Token)
    {post : α → List Outgoing → Prop} (queues : work.Queues token post) (quiet : work.Quiet)
    (listening : scene.session.listening = true)
    (unraised : scene.session.registry.isRaised token = false) :
    ∃ now, (work.step scene).2.session.queue = scene.session.queue ++ now ∧
      (work.step scene).1.Queues token (fun value outs => post value (now ++ outs)) := by
  cases work with
  | done value => exact ⟨[], (List.append_nil _).symm, queues⟩
  | poll polled next =>
      obtain ⟨rfl, queues⟩ := queues
      refine ⟨[], (List.append_nil _).symm, ?_⟩
      simpa only [step, unraised, List.nil_append] using queues
  | queue out next =>
      have sent := scene.session.send_listening out listening
      refine ⟨[out], ?_, ?_⟩
      · simp only [step, sent]
      · simp only [step, sent]
        exact queues
  | abandon target next => exact quiet.elim
  | identity next => exact ⟨[], (List.append_nil _).symm, queues _⟩
  | identify name next => exact ⟨[], (List.append_nil _).symm, queues⟩
  | transport next => exact ⟨[], (List.append_nil _).symm, queues _ _⟩
  | ask question next => exact ⟨[], (List.append_nil _).symm, queues _⟩
  | search backend query next =>
      refine ⟨[], ?_, queues _⟩
      simp only [step, search_scene_detached backend query scene quiet.1, List.append_nil]

theorem play_queues (work : Work σ α) (token : Token) (view : Outlook σ)
    {post : α → List Outgoing → Prop} (queues : work.Queues token post) :
    ∃ value, post value (work.play view).1 := by
  induction work generalizing view post with
  | done value => exact ⟨value, queues⟩
  | poll polled next ih => exact ih false view queues.2
  | queue out next ih => exact ih true view queues
  | abandon target next ih => exact ih false view (queues false)
  | identity next ih => exact ih _ view (queues _)
  | identify name next ih => exact ih _ queues
  | transport next ih => exact ih _ _ view (queues _ _)
  | ask question next ih => exact ih _ _ (queues _)
  | search backend query next ih => exact ih _ _ (queues _)

def Played (work : Work σ α) (scene : Scene σ) : Prop :=
  (work.run scene).2.session.queue = scene.session.queue ++ (work.play scene.outlook).1 ∧
    (work.run scene).2.outlook = (work.play scene.outlook).2 ∧
    (work.run scene).2.session.registry = scene.session.registry

theorem play_run (work : Work σ α) (scene : Scene σ) (quiet : work.Quiet)
    (listening : scene.session.listening = true) (unraised : scene.session.registry.raised = []) :
    work.Played scene := by
  induction work using step_induction generalizing scene with
  | done value => exact ⟨(List.append_nil _).symm, rfl, rfl⟩
  | acts work _ ih =>
      obtain ⟨now, queued, played⟩ := work.play_step scene quiet listening unraised
      obtain ⟨still, registry⟩ := work.quiet_step scene quiet
      obtain ⟨queue, outlook, kept⟩ := ih scene _ still
        ((work.step_extends scene).listening.trans listening) (by rw [registry, unraised])
      refine ⟨?_, ?_, ?_⟩
      · rw [run_step, queue, queued, played, List.append_assoc]
      · rw [run_step, outlook, played]
      · rw [run_step, kept, registry]

end Work

end DirectoryServer
