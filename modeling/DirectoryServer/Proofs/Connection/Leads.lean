import DirectoryServer.Proofs.Connection.Calm

set_option autoImplicit false

namespace DirectoryServer.Connection

variable {σ : Type}

def Leads (connection : Connection σ) (goal : Connection σ → Prop) : Prop :=
  ∃ moves, goal (connection.run moves).1

theorem leads_now {connection : Connection σ} {goal : Connection σ → Prop} (now : goal connection) :
    connection.Leads goal :=
  ⟨[], now⟩

theorem leads_step {connection : Connection σ} {goal : Connection σ → Prop} (move : Move)
    (later : (connection.step move).1.Leads goal) : connection.Leads goal := by
  obtain ⟨moves, reached⟩ := later
  exact ⟨move :: moves, reached⟩

theorem leads_trans {connection : Connection σ} {first goal : Connection σ → Prop}
    (front : connection.Leads first) (back : ∀ next, first next → next.Leads goal) :
    connection.Leads goal := by
  obtain ⟨early, reached⟩ := front
  obtain ⟨late, last⟩ := back _ reached
  refine ⟨early ++ late, ?_⟩
  rw [run_append]
  exact last

structure Flows (backend : Backend σ) (root : RootDse) (connection : Connection σ) : Prop where
  tame : connection.Tame backend root
  tls : connection.config.tls = some .completes
  sound : connection.transport.writeFault = none
  moving : connection.transport.stalled = false

structure Passes (backend : Backend σ) (root : RootDse) (before after : Connection σ) : Prop where
  flows : after.Flows backend root
  pending : after.pending = before.pending
  raised : after.session.registry.raised = before.session.registry.raised

theorem Passes.trans {backend : Backend σ} {root : RootDse} {first second third : Connection σ}
    (front : first.Passes backend root second) (back : second.Passes backend root third) :
    first.Passes backend root third :=
  ⟨back.flows, back.pending.trans front.pending, back.raised.trans front.raised⟩

theorem worker_passes {backend : Backend σ} {root : RootDse} {connection next : Connection σ}
    (detached : backend.Detached) (step : connection.WorkerStep next)
    (flows : connection.Flows backend root) : connection.Passes backend root next := by
  have tame := worker_tame detached step flows.tame
  have raised := worker_raised step flows.tame
  cases step <;> exact ⟨⟨tame, flows.tls, flows.sound, flows.moving⟩, rfl, raised⟩

structure Served (backend : Backend σ) (root : RootDse) (before after : Connection σ) : Prop where
  passes : before.Passes backend root after
  finished : after.worker = some .finished
  position : after.position = before.position

theorem served_of_step {backend : Backend σ} {root : RootDse} {connection : Connection σ}
    (detached : backend.Detached) (flows : connection.Flows backend root)
    (later : connection.stepWorker.Flows backend root →
      connection.stepWorker.Leads (Served backend root connection.stepWorker)) :
    connection.Leads (Served backend root connection) := by
  have step := connection.step_worker_cases
  have passes := worker_passes detached step flows
  refine leads_step .worker (leads_trans (later passes.flows) fun next served => leads_now ?_)
  exact ⟨passes.trans served.passes, served.finished, served.position.trans (worker_position step)⟩

theorem leaving_leads {backend : Backend σ} {root : RootDse} {connection : Connection σ} {id : MessageId}
    (detached : backend.Detached) (flows : connection.Flows backend root)
    (leaving : connection.worker = some (.leaving id)) :
    connection.Leads (Served backend root connection) := by
  have step := connection.step_worker_cases
  refine leads_step .worker (leads_now ⟨worker_passes detached step flows, ?_, worker_position step⟩)
  change connection.stepWorker.worker = _
  simp only [stepWorker, leaving]

theorem acting_worker {connection : Connection σ} {id : MessageId} {work : Work σ Bool}
    (serving : connection.worker = some (.serving id work)) (unfinished : ∀ value, work ≠ .done value) :
    connection.stepWorker.worker = some (.serving id (work.step connection.scene).1) := by
  cases work with
  | done value => exact absurd rfl (unfinished value)
  | _ => simp only [stepWorker, serving]

-- The induction is on the work: each of its actions leaves the rest of it.
theorem serving_leads {backend : Backend σ} {root : RootDse} {connection : Connection σ} {id : MessageId}
    (detached : backend.Detached) (work : Work σ Bool) (flows : connection.Flows backend root)
    (serving : connection.worker = some (.serving id work)) :
    connection.Leads (Served backend root connection) := by
  induction work using Work.step_induction generalizing connection with
  | done value =>
      have leaving : connection.stepWorker.worker = some (.leaving id) := by
        simp only [stepWorker, serving]
      exact served_of_step detached flows fun flows => leaving_leads detached flows leaving
  | acts work unfinished ih =>
      exact served_of_step detached flows fun flows => ih _ flows (acting_worker serving unfinished)

theorem worker_leads {backend : Backend σ} {root : RootDse} {connection : Connection σ}
    (detached : backend.Detached) (flows : connection.Flows backend root) (worker : Worker σ)
    (busy : connection.worker = some worker) : connection.Leads (Served backend root connection) := by
  cases worker with
  | starting message token =>
      by_cases raised : connection.session.registry.isRaised token = true
      · have leaving : connection.stepWorker.worker = some (.leaving message.id) := by
          simp only [stepWorker, busy, raised, if_true]
        exact served_of_step detached flows fun flows => leaving_leads detached flows leaving
      · have serving : connection.stepWorker.worker = some (.serving message.id
            (connection.config.routes.dispatch message.request
              ⟨message.id, message.request.kind, token⟩)) := by
          simp only [stepWorker, busy, raised, if_false, Bool.false_eq_true]
        exact served_of_step detached flows fun flows => serving_leads detached _ flows serving
  | serving id work => exact serving_leads detached work flows busy
  | leaving id => exact leaving_leads detached flows busy
  | finished => exact leads_now ⟨⟨flows, rfl, rfl⟩, busy, rfl⟩

structure Freed (backend : Backend σ) (root : RootDse) (before after : Connection σ) : Prop where
  passes : before.Passes backend root after
  free : after.worker = none
  top : after.position = .top

theorem after_sending_busy (connection : Connection σ) (busy : connection.worker ≠ none) :
    connection.afterSending = .top := by
  rcases connection.after_sending_cases with ⟨_, free, _⟩ | after
  · exact absurd free busy
  · exact after

theorem writes_passes {backend : Backend σ} {root : RootDse} {before after : Connection σ}
    (flows : before.Flows backend root) (writes : before.Writes after) : before.Passes backend root after := by
  refine ⟨⟨⟨?_, ?_, ?_⟩, ?_, ?_, ?_⟩, writes.pending, by rw [writes.registry]⟩
  · rw [writes.config, flows.tame.routes]
  · rw [writes.pending]
    exact flows.tame.plain
  · rw [writes.worker]
    exact flows.tame.quiet
  · rw [writes.config, flows.tls]
  · rw [writes.transport, flows.sound]
  · rw [writes.transport, flows.moving]

theorem begin_busy {connection : Connection σ} {worker : Worker σ} (busy : connection.worker = some worker) :
    connection.begin = ({ connection with readDeadline := none, position := .waiting .queue }, []) := by
  simp [begin, startNext, busy, stay, isIdle]

theorem queue_leads {backend : Backend σ} {root : RootDse} {connection : Connection σ}
    (queue : List Outgoing) (flows : connection.Flows backend root)
    (waiting : connection.position = .waiting .queue) (finished : connection.worker = some .finished)
    (queued : connection.session.queue = queue) : connection.Leads (Freed backend root connection) := by
  induction queue generalizing connection with
  | nil =>
      have first : (connection.step .loop).1 = connection.goto (.waiting .worker) := by
        simp only [step, stepLoop, waiting, await, takeOutgoing, queued, stay]
      have second : ((connection.goto (.waiting .worker)).step .loop).1 =
          { connection with worker := none, position := .top } := by
        simp only [step, stepLoop, goto, await, finished, stay]
      apply leads_step .loop
      rw [first]
      apply leads_step .loop
      rw [second]
      have tame : Tame backend root { connection with worker := none, position := .top } :=
        ⟨flows.tame.routes, flows.tame.plain, quiet_of_free rfl⟩
      exact leads_now ⟨⟨⟨tame, flows.tls, flows.sound, flows.moving⟩, rfl, rfl⟩, rfl, rfl⟩
  | cons out rest ih =>
      have first : connection.stepLoop.1 =
          (connection.withSession { connection.session with queue := rest }).startSending out := by
        simp only [stepLoop, waiting, await, takeOutgoing, queued, stay]
      have taken : connection.Passes backend root connection.stepLoop.1 := by
        rw [first]
        exact ⟨⟨⟨flows.tame.routes, flows.tame.plain, flows.tame.quiet⟩, flows.tls, flows.sound, flows.moving⟩,
          rfl, rfl⟩
      have busy : connection.stepLoop.1.worker = some .finished := by
        rw [first]
        exact finished
      have sending : connection.stepLoop.1.position =
          .sending out (connection.config.writeTimeout.map (connection.now + ·)) := by
        rw [first]
        rfl
      have wrote := sending_cases connection.stepLoop.1.step_loop_cases sending taken.flows.sound
        taken.flows.moving taken.flows.tls
      have top : connection.stepLoop.1.stepLoop.1.position = .top := by
        rw [wrote.position]
        exact after_sending_busy _ (by simp [busy])
      have last : connection.stepLoop.1.stepLoop.1.session.queue = rest := by
        rw [wrote.queue, first]
        rfl
      have third : connection.stepLoop.1.stepLoop.1.stepLoop.1 =
          { connection.stepLoop.1.stepLoop.1 with readDeadline := none, position := .waiting .queue } := by
        rw [stepLoop, top]
        exact congrArg Prod.fst (begin_busy (wrote.worker.trans busy))
      have passes := taken.trans (writes_passes taken.flows wrote)
      -- The loop is back where it was, with one response less to send.
      refine leads_step .loop (leads_step .loop (leads_step .loop ?_))
      change Leads connection.stepLoop.1.stepLoop.1.stepLoop.1 _
      rw [third]
      have flows := passes.flows
      refine leads_trans (ih ⟨⟨flows.tame.routes, flows.tame.plain, flows.tame.quiet⟩, flows.tls, flows.sound,
        flows.moving⟩ rfl (wrote.worker.trans busy) last) fun next freed => leads_now ?_
      refine ⟨passes.trans ⟨freed.passes.flows, ?_, ?_⟩, freed.free, freed.top⟩
      · exact freed.passes.pending
      · exact freed.passes.raised

theorem freed_leads {backend : Backend σ} {root : RootDse} {connection : Connection σ}
    (detached : backend.Detached) (flows : connection.Flows backend root) (worker : Worker σ)
    (busy : connection.worker = some worker) (waiting : connection.position = .waiting .queue) :
    connection.Leads (Freed backend root connection) := by
  refine leads_trans (worker_leads detached flows worker busy) fun served done => ?_
  have queue := queue_leads served.session.queue done.passes.flows (done.position.trans waiting)
    done.finished rfl
  refine leads_trans queue fun next freed => leads_now ?_
  exact ⟨done.passes.trans freed.passes, freed.free, freed.top⟩

end DirectoryServer.Connection
