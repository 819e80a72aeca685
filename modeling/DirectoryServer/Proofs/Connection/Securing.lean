import DirectoryServer.Proofs.Connection.Leads

set_option autoImplicit false

/-!
What passes from the plain transport to the secured one. The octets that were read are thrown away.
The requests that wait behind the one that asked for the handshake are not: each of them may still be
served, unless it was given up.
-/
namespace DirectoryServer.Connection

variable {σ : Type}

def unbegun (connection : Connection σ) : List (Message × Token) :=
  match connection.worker with
  | some (.starting message token) => (message, token) :: connection.pending
  | _ => connection.pending

def dispatching? (connection : Connection σ) : Option (Message × Token) :=
  match connection.worker with
  | some (.starting message token) =>
      if connection.session.registry.isRaised token then none else some (message, token)
  | _ => none

def octetsTaken (connection next : Connection σ) : Bytes :=
  match connection.position, next.position with
  | .waiting .read, .taking => connection.transport.incoming
  | _, _ => []

def octetsRead (connection : Connection σ) : List Move → Bytes
  | [] => []
  | move :: rest =>
      connection.octetsTaken (connection.step move).1 ++ (connection.step move).1.octetsRead rest

theorem mem_unbegun (connection : Connection σ) (waiting : Message × Token) :
    waiting ∈ connection.unbegun ↔
      connection.worker = some (.starting waiting.1 waiting.2) ∨ waiting ∈ connection.pending := by
  simp only [unbegun]
  split
  · rename_i message token starting
    rw [List.mem_cons, starting, Option.some.injEq, Worker.starting.injEq, Prod.ext_iff]
    exact or_congr_left ⟨fun same => ⟨same.1.symm, same.2.symm⟩, fun same => ⟨same.1.symm, same.2.symm⟩⟩
  · rename_i other
    exact ⟨.inr, fun member => member.resolve_left fun starting => other _ _ starting⟩

theorem dispatching_eq (connection : Connection σ) (message : Message) (token : Token) :
    connection.dispatching? = some (message, token) ↔
      connection.worker = some (.starting message token) ∧
        connection.session.registry.isRaised token = false := by
  simp only [dispatching?]
  split
  · rename_i other ticket starting
    rw [starting, Option.some.injEq, Worker.starting.injEq]
    by_cases raised : connection.session.registry.isRaised ticket = true
    · rw [if_pos raised]
      refine ⟨nofun, ?_⟩
      rintro ⟨⟨rfl, rfl⟩, unraised⟩
      simp [raised] at unraised
    · rw [if_neg raised, Option.some.injEq, Prod.mk.injEq]
      refine ⟨fun same => ⟨same, ?_⟩, fun both => both.1⟩
      rw [← same.2]
      exact Bool.eq_false_iff.mpr raised
  · rename_i other
    exact ⟨nofun, fun both => absurd both.1 (other _ _)⟩

theorem octets_taken_stay (connection next : Connection σ) (position : next.position = connection.position) :
    connection.octetsTaken next = [] := by
  unfold octetsTaken
  rw [position]
  split
  · rename_i waiting taking
    cases waiting.symm.trans taking
  · rfl

theorem octets_taken_elsewhere (connection next : Connection σ) (other : connection.position ≠ .waiting .read) :
    connection.octetsTaken next = [] := by
  simp only [octetsTaken]
  split
  · exact absurd ‹_› other
  · rfl

theorem octets_taken_past (connection next : Connection σ) (other : next.position ≠ .taking) :
    connection.octetsTaken next = [] := by
  simp only [octetsTaken]
  split
  · exact absurd ‹_› other
  · rfl

theorem buffer_kept {connection next : Connection σ} (kept : next.buffer = connection.buffer)
    (silent : connection.octetsTaken next = []) :
    next.buffer <:+ connection.buffer ++ connection.octetsTaken next := by
  refine ⟨[], ?_⟩
  rw [silent, List.append_nil, kept, List.nil_append]

theorem loop_buffer {connection next : Connection σ} {events : List Event}
    (step : connection.LoopStep next events) :
    next.buffer <:+ connection.buffer ++ connection.octetsTaken next := by
  cases step with
  | receive waiting serving something =>
      unfold octetsTaken
      rw [waiting]
      exact List.suffix_rfl
  | take frame size _ taking parsed takes =>
      rw [octets_taken_elsewhere connection next (by simp [taking]), List.append_nil,
        (takes_little takes).buffer]
      exact List.drop_suffix size connection.buffer
  | turn position deadline turns =>
      refine buffer_kept rfl (octets_taken_past _ _ ?_)
      cases turns <;> nofun
  | sent =>
      refine buffer_kept rfl (octets_taken_past _ _ fun taking => ?_)
      rcases connection.after_sending_cases with ⟨_, _, after⟩ | after <;> cases after.symm.trans taking
  | secure => exact List.nil_suffix
  | failHandshake out deadline buffer error sending upgrade unable kept =>
      rw [octets_taken_elsewhere connection _ (by simp [sending]), List.append_nil, finish_buffer]
      rcases kept with rfl | rfl
      · exact List.suffix_rfl
      · exact List.nil_suffix
  | failFrame frame size failure taking =>
      rw [octets_taken_elsewhere connection _ (by simp [taking]), List.append_nil]
      exact List.drop_suffix size connection.buffer
  | ended => exact buffer_kept rfl (octets_taken_stay _ _ rfl)
  | stalled => exact buffer_kept rfl (octets_taken_stay _ _ rfl)
  | _ => exact buffer_kept rfl (octets_taken_past _ _ nofun)

theorem step_buffer (connection : Connection σ) (move : Move) :
    (connection.step move).1.buffer <:+
      connection.buffer ++ connection.octetsTaken (connection.step move).1 := by
  have steps := connection.step_cases move
  generalize connection.step move = moved at steps ⊢
  obtain ⟨next, events⟩ := moved
  cases steps with
  | loop _ _ step => exact loop_buffer step
  | worker _ step =>
      refine buffer_kept ?_ (octets_taken_stay _ _ (worker_position step))
      cases step <;> rfl
  | around => exact buffer_kept rfl (octets_taken_stay _ _ rfl)

theorem run_buffer (connection : Connection σ) (moves : List Move) :
    (connection.run moves).1.buffer <:+ connection.buffer ++ connection.octetsRead moves := by
  induction moves generalizing connection with
  | nil =>
      rw [octetsRead, List.append_nil]
      exact List.suffix_rfl
  | cons move rest ih =>
      rw [octetsRead, ← List.append_assoc]
      have later := ih (connection.step move).1
      obtain ⟨front, whole⟩ := connection.step_buffer move
      refine later.trans ⟨front, ?_⟩
      rw [← whole, List.append_assoc]

structure Ages (before : Connection σ) (events : List Event) (after : Connection σ) : Prop where
  issued : before.session.registry.issued ≤ after.session.registry.issued
  raised : ∀ token, before.session.registry.isRaised token = true →
    after.session.registry.isRaised token = true
  unbegun : ∀ waiting ∈ after.unbegun, waiting ∈ before.unbegun ∨
    before.session.registry.issued ≤ waiting.2 ∧ waiting.2 < after.session.registry.issued ∧
      ∃ frame, Event.parsed frame ∈ events ∧ Message.decode frame = .ok waiting.1

theorem Ages.refl (connection : Connection σ) : connection.Ages [] connection :=
  ⟨Nat.le_refl _, fun _ raised => raised, fun _ member => .inl member⟩

theorem Ages.trans {first second third : Connection σ} {early late : List Event}
    (front : first.Ages early second) (back : second.Ages late third) :
    first.Ages (early ++ late) third where
  issued := Nat.le_trans front.issued back.issued
  raised token raised := back.raised token (front.raised token raised)
  unbegun waiting member := by
    rcases back.unbegun waiting member with earlier | ⟨later, below, frame, parsed, decoded⟩
    · rcases front.unbegun waiting earlier with first | ⟨later, below, frame, parsed, decoded⟩
      · exact .inl first
      · exact .inr ⟨later, Nat.lt_of_lt_of_le below back.issued, frame,
          List.mem_append_left late parsed, decoded⟩
    · exact .inr ⟨Nat.le_trans front.issued later, below, frame,
        List.mem_append_right early parsed, decoded⟩

theorem unbegun_of_same {before after : Connection σ} (worker : after.worker = before.worker)
    (pending : ∀ waiting ∈ after.pending, waiting ∈ before.pending) :
    ∀ waiting ∈ after.unbegun, waiting ∈ before.unbegun := by
  intro waiting member
  rw [mem_unbegun] at member ⊢
  rw [← worker]
  exact member.imp_right (pending waiting)

theorem unbegun_of_begun {before after : Connection σ}
    (begun : ∀ message token, after.worker ≠ some (.starting message token))
    (pending : after.pending = before.pending) :
    ∀ waiting ∈ after.unbegun, waiting ∈ before.unbegun := by
  intro waiting member
  rw [mem_unbegun] at member ⊢
  rw [← pending]
  exact .inr (member.resolve_left (begun _ _))

theorem ages_of_fewer {before after : Connection σ} (events : List Event)
    (issued : before.session.registry.issued ≤ after.session.registry.issued)
    (raised : ∀ token, before.session.registry.isRaised token = true →
      after.session.registry.isRaised token = true)
    (unbegun : ∀ waiting ∈ after.unbegun, waiting ∈ before.unbegun) : before.Ages events after :=
  ⟨issued, raised, fun waiting member => .inl (unbegun waiting member)⟩

theorem ages_of_same {before after : Connection σ} (events : List Event)
    (registry : after.session.registry = before.session.registry)
    (unbegun : ∀ waiting ∈ after.unbegun, waiting ∈ before.unbegun) : before.Ages events after :=
  ages_of_fewer events (Nat.le_of_eq (by rw [registry])) (fun _ raised => by rw [registry, raised]) unbegun

theorem takes_ages {connection next : Connection σ} {frame : Frame} (takes : connection.Takes frame next) :
    connection.Ages [.parsed frame] next := by
  cases takes with
  | abandon id target decoded =>
      obtain ⟨scene, served, grown⟩ := connection.serve_at_once_extends ⟨id, .abandon target⟩
      rw [served]
      have issued : scene.session.registry.issued = connection.session.registry.issued + 1 := grown.issued
      refine ⟨?_, fun token raised => grown.raised token raised, fun waiting member => .inl member⟩
      exact Nat.le_trans (Nat.le_succ _) (Nat.le_of_eq issued.symm)
  | enqueue message decoded plain room fresh =>
      rw [Registry.register_fresh _ _ fresh]
      refine ⟨Nat.le_succ _, fun token raised => raised, fun waiting member => ?_⟩
      rcases (mem_unbegun _ waiting).mp member with starting | waits
      · exact .inl ((mem_unbegun _ waiting).mpr (.inl starting))
      · rcases List.mem_append.mp waits with earlier | same
        · exact .inl ((mem_unbegun _ waiting).mpr (.inr earlier))
        · cases List.mem_singleton.mp same
          exact .inr ⟨Nat.le_refl _, Nat.lt_succ_self _, frame, List.mem_singleton_self _, decoded⟩
  | refuse id kind outcome refused =>
      obtain ⟨queue, answered⟩ := connection.answer_keeps id kind outcome
      rw [answered]
      exact ages_of_same _ rfl (unbegun_of_same rfl fun _ member => member)

theorem finish_ages (connection : Connection σ) (result : Except ConnectionError Unit) (events : List Event) :
    connection.Ages events (connection.finish result).1 where
  issued := Nat.le_of_eq (Registry.cancel_all_issued connection.session.registry).symm
  raised token raised := (Registry.cancel_all_raised connection.session.registry token).mpr (.inr raised)
  unbegun waiting member := .inl (unbegun_of_same rfl (fun _ same => same) waiting member)

theorem loop_ages {connection next : Connection σ} {events : List Event}
    (step : connection.LoopStep next events) : connection.Ages events next := by
  cases step with
  | start message token rest top free waiting =>
      refine ages_of_same _ rfl fun entry member => ?_
      rw [mem_unbegun, waiting, List.mem_cons]
      rcases (mem_unbegun _ entry).mp member with starting | later
      · have same : (message, token) = entry := by
          have fields := Option.some.inj starting
          rw [Worker.starting.injEq] at fields
          exact Prod.ext fields.1 fields.2
        exact .inr (.inl same.symm)
      · exact .inr (.inr later)
  | retire waiting finished => exact ages_of_same _ rfl (unbegun_of_begun nofun rfl)
  | drain waiting serving stopped =>
      obtain ⟨raised, issued⟩ :=
        Registry.complete_all_tokens connection.pending connection.session.registry
      refine ages_of_fewer _ (Nat.le_of_eq issued.symm) (fun token kept => ?_) ?_
      · exact (congrArg (List.contains · token) raised).trans kept
      · exact unbegun_of_same rfl fun _ absent => absurd absent List.not_mem_nil
  | take frame size _ taking parsed takes =>
      have cut : connection.Ages [] (counted { connection with buffer := connection.buffer.drop size }) :=
        ages_of_same _ rfl (unbegun_of_same rfl fun _ member => member)
      exact cut.trans (takes_ages takes)
  | finish => exact connection.finish_ages _ _
  | fail => exact connection.finish_ages _ _
  | failHandshake out deadline buffer error sending =>
      have cut : connection.Ages [] (({ connection with buffer } : Connection σ).withStats
          (connection.session.stats.wrote out.bytes.length)) :=
        ages_of_same _ rfl (unbegun_of_same rfl fun _ member => member)
      exact cut.trans (finish_ages _ _ _)
  | failFrame frame size failure taking =>
      have cut : connection.Ages [] (counted { connection with buffer := connection.buffer.drop size }) :=
        ages_of_same _ rfl (unbegun_of_same rfl fun _ member => member)
      exact cut.trans (finish_ages _ _ _)
  | _ => exact ages_of_same _ rfl (unbegun_of_same rfl fun _ member => member)

theorem worker_ages {connection next : Connection σ} (step : connection.WorkerStep next) :
    connection.Ages [] next := by
  cases step with
  | idle => exact .refl connection
  | act id work serving =>
      have grown := work.step_extends connection.scene
      refine ages_of_fewer _ (Nat.le_of_eq grown.issued.symm) grown.raised ?_
      exact unbegun_of_begun (fun _ _ starting => by cases starting) rfl
  | leave id leaving =>
      refine ages_of_fewer _ (Nat.le_refl _) (fun _ raised => raised) ?_
      exact unbegun_of_begun (fun _ _ starting => by cases starting) rfl
  | _ => exact ages_of_same _ rfl (unbegun_of_begun (fun _ _ starting => by cases starting) rfl)

theorem step_ages (connection : Connection σ) (move : Move) :
    connection.Ages (connection.step move).2 (connection.step move).1 := by
  have steps := connection.step_cases move
  generalize connection.step move = moved at steps ⊢
  obtain ⟨next, events⟩ := moved
  cases steps with
  | loop _ _ step => exact loop_ages step
  | worker _ step => exact worker_ages step
  | around => exact ages_of_same _ rfl (unbegun_of_same rfl fun _ member => member)

theorem run_ages (connection : Connection σ) (moves : List Move) :
    connection.Ages (connection.run moves).2 (connection.run moves).1 := by
  induction moves generalizing connection with
  | nil => exact .refl connection
  | cons move rest ih => exact (connection.step_ages move).trans (ih _)

structure Secures (before after : Connection σ) : Prop where
  secured : after.session.secured = true
  buffer : after.buffer = []
  writes : before.Writes after
  sending : ∃ out deadline, before.position = .sending out deadline
  tls : before.config.tls = some .completes
  sound : before.transport.writeFault = none
  moving : before.transport.stalled = false

theorem secures_of_upgrades {connection next : Connection σ} {events : List Event}
    (step : connection.LoopStep next events) (swapped : 0 < Event.upgrades events) :
    connection.Secures next := by
  cases step with
  | secure out deadline sending upgrade sound moving able =>
      exact ⟨rfl, rfl, ⟨rfl, rfl, rfl, rfl, rfl, rfl, rfl⟩, ⟨out, deadline, sending⟩, able, sound, moving⟩
  | _ => exact absurd swapped (Nat.lt_irrefl 0)

theorem pending_leads {backend : Backend σ} {root : RootDse} {connection : Connection σ}
    (detached : backend.Detached) (pending : List (Message × Token))
    (flows : connection.Flows backend root) (top : connection.position = .top)
    (free : connection.worker = none) (waits : connection.pending = pending) (message : Message)
    (token : Token) (member : (message, token) ∈ pending)
    (unraised : connection.session.registry.isRaised token = false) :
    connection.Leads fun next => next.dispatching? = some (message, token) := by
  induction pending generalizing connection with
  | nil => cases member
  | cons head rest ih =>
      obtain ⟨other, ticket⟩ := head
      have started : connection.stepLoop.1 =
          { connection with
            pending := rest, worker := some (.starting other ticket), readDeadline := none
            position := .waiting .queue } := by
        simp [stepLoop, top, begin, startNext, free, waits, isIdle]
      have plain : other.request.kind ≠ .abandon :=
        flows.tame.plain (other, ticket) (waits ▸ List.mem_cons_self)
      have tame : connection.stepLoop.1.Tame backend root := loop_tame connection.step_loop_cases flows.tame
      have flowing : connection.stepLoop.1.Flows backend root := by
        rw [started] at tame ⊢
        exact ⟨tame, flows.tls, flows.sound, flows.moving⟩
      have busy : connection.stepLoop.1.worker = some (.starting other ticket) := by rw [started]
      have still : connection.stepLoop.1.session.registry = connection.session.registry := by
        rw [started]
        rfl
      refine leads_step .loop ?_
      change Leads connection.stepLoop.1 _
      rcases List.mem_cons.mp member with same | later
      · cases same
        exact leads_now ((dispatching_eq _ _ _).mpr ⟨busy, by rw [still, unraised]⟩)
      · have waiting : connection.stepLoop.1.position = .waiting .queue := by rw [started]
        have behind : connection.stepLoop.1.pending = rest := by rw [started]
        refine leads_trans (freed_leads detached flowing _ busy waiting) fun next freed => ?_
        have same : next.session.registry.isRaised token = false := by
          rw [Registry.isRaised, freed.passes.raised, still]
          exact unraised
        exact ih freed.passes.flows freed.top freed.free (freed.passes.pending.trans behind) later same

theorem unbegun_leads {backend : Backend σ} {root : RootDse} {connection : Connection σ}
    (detached : backend.Detached) (flows : connection.Flows backend root) (top : connection.position = .top)
    (message : Message) (token : Token) (member : (message, token) ∈ connection.unbegun)
    (unraised : connection.session.registry.isRaised token = false) :
    connection.Leads fun next => next.dispatching? = some (message, token) := by
  rcases (mem_unbegun _ _).mp member with starting | waits
  · exact leads_now ((dispatching_eq _ _ _).mpr ⟨starting, unraised⟩)
  · cases busy : connection.worker with
    | none => exact pending_leads detached _ flows top busy rfl message token waits unraised
    | some worker =>
        have turned : connection.stepLoop.1 =
            { connection with readDeadline := none, position := .waiting .queue } := by
          rw [stepLoop, top]
          exact congrArg Prod.fst (begin_busy busy)
        refine leads_step .loop ?_
        change Leads connection.stepLoop.1 _
        rw [turned]
        refine leads_trans (freed_leads detached ⟨⟨flows.tame.routes, flows.tame.plain, flows.tame.quiet⟩,
          flows.tls, flows.sound, flows.moving⟩ worker busy rfl) fun next freed => ?_
        have same : next.session.registry.isRaised token = false := by
          rw [Registry.isRaised, freed.passes.raised]
          exact unraised
        exact pending_leads detached _ freed.passes.flows freed.top freed.free freed.passes.pending
          message token waits same

theorem secured_leads {backend : Backend σ} {root : RootDse} {before after : Connection σ}
    (detached : backend.Detached) (tame : before.Tame backend root) (staged : before.Staged)
    (secures : before.Secures after) (message : Message) (token : Token)
    (member : (message, token) ∈ after.unbegun)
    (unraised : after.session.registry.isRaised token = false) :
    after.Leads fun next => next.dispatching? = some (message, token) := by
  have flows : after.Flows backend root :=
    (writes_passes ⟨tame, secures.tls, secures.sound, secures.moving⟩ secures.writes).flows
  rcases before.after_sending_cases with ⟨draining, free, _⟩ | top
  · -- Nothing waits while a connection without a worker drains.
    obtain ⟨out, deadline, sending⟩ := secures.sending
    simp only [Staged, sending] at staged
    have idle := staged draining free
    rcases (mem_unbegun _ _).mp member with starting | waits
    · rw [secures.writes.worker, free] at starting
      cases starting
    · rw [secures.writes.pending, idle] at waits
      cases waits
  · exact unbegun_leads detached flows (secures.writes.position.trans top) message token member unraised

theorem dispatched_behind (connection : Connection σ) (later : List Move) (message : Message)
    (token : Token) (dispatched : (connection.run later).1.dispatching? = some (message, token)) :
    connection.session.registry.isRaised token = false ∧
      ((message, token) ∈ connection.unbegun ∨
        connection.session.registry.issued ≤ token ∧
          ∃ frame, Event.parsed frame ∈ (connection.run later).2 ∧ Message.decode frame = .ok message) := by
  obtain ⟨starting, unraised⟩ := (dispatching_eq _ _ _).mp dispatched
  have ages := connection.run_ages later
  refine ⟨Bool.eq_false_iff.mpr fun raised => ?_, ?_⟩
  · rw [ages.raised token raised] at unraised
    cases unraised
  · rcases ages.unbegun (message, token) ((mem_unbegun _ _).mpr (.inl starting)) with
      waiting | ⟨late, _, decoded⟩
    · exact .inl waiting
    · exact .inr ⟨late, decoded⟩

theorem unbegun_issued (config : Config σ) (peer : String) (state : σ) (moves : List Move)
    (waiting : Message × Token) (member : waiting ∈ ((accept config peer state).run moves).1.unbegun) :
    waiting.2 < ((accept config peer state).run moves).1.session.registry.issued := by
  rcases ((accept config peer state).run_ages moves).unbegun waiting member with start | ⟨_, below, _⟩
  · cases start
  · exact below

theorem plain_request_served_iff_waiting (backend : Backend σ) (root : RootDse) (config : Config σ)
    (peer : String) (state : σ) (moves : List Move) (detached : backend.Detached)
    (routes : config.routes = RouteTable.default backend root)
    (swapped : 0 < Event.upgrades (((accept config peer state).run moves).1.step .loop).2) :
    let secured := (((accept config peer state).run moves).1.step .loop).1
    secured.session.secured = true ∧
    (∀ later, (secured.run later).1.buffer <:+ secured.octetsRead later) ∧
    (∀ later message token, (secured.run later).1.dispatching? = some (message, token) →
      (message, token) ∈ secured.unbegun ∨ secured.session.registry.issued ≤ token ∧
        ∃ frame, Event.parsed frame ∈ (secured.run later).2 ∧ Message.decode frame = .ok message) ∧
    ∀ message token,
      (token < secured.session.registry.issued ∧
        ∃ later, (secured.run later).1.dispatching? = some (message, token)) ↔
      (message, token) ∈ secured.unbegun ∧ secured.session.registry.isRaised token = false := by
  intro secured
  have tame := run_keeps (step_tame detached) _ moves (accept_tame config peer state backend root routes)
  have staged := run_keeps step_staged (accept config peer state) moves trivial
  have secures : Secures _ secured := secures_of_upgrades (step_loop_cases _) swapped
  refine ⟨secures.secured, fun later => ?_, fun later message token dispatched => ?_,
    fun message token => ⟨?_, ?_⟩⟩
  · have suffix := secured.run_buffer later
    rw [secures.buffer, List.nil_append] at suffix
    exact suffix
  · exact (secured.dispatched_behind later message token dispatched).2
  · rintro ⟨early, later, dispatched⟩
    obtain ⟨unraised, waiting | ⟨late, _⟩⟩ := secured.dispatched_behind later message token dispatched
    · exact ⟨waiting, unraised⟩
    · exact absurd early (Nat.not_lt.mpr late)
  · rintro ⟨waiting, unraised⟩
    refine ⟨?_, secured_leads detached tame staged secures message token waiting unraised⟩
    have before := unbegun_issued config peer state moves (message, token)
      (unbegun_of_same secures.writes.worker (fun _ member => secures.writes.pending ▸ member) _ waiting)
    rw [secures.writes.registry]
    exact before

def startTlsFrame : Frame := .array [.integer 1, .text "extended", .text startTlsName]

def whoAmIFrame : Frame := .array [.integer 2, .text "extended", .text whoAmIName]

def whoAmIMessage : Message := ⟨2, .extended whoAmIName none⟩

def pipelinedMoves : List Move :=
  .arrive (Frame.serializeAll [startTlsFrame, whoAmIFrame]) ::
    List.replicate 9 .loop ++ List.replicate 6 .worker ++ [.loop]

def parsedFrames (events : List Event) : List Frame :=
  events.filterMap fun event => match event with
    | .parsed frame => some frame
    | _ => none

theorem pipelined_request_dispatched :
    parsedFrames ((accept debugConfig "client" ()).run pipelinedMoves).2 = [startTlsFrame, whoAmIFrame] ∧
    Message.decode whoAmIFrame = .ok whoAmIMessage ∧
    0 < Event.upgrades (((accept debugConfig "client" ()).run pipelinedMoves).1.step .loop).2 ∧
    ((((accept debugConfig "client" ()).run pipelinedMoves).1.step .loop).1.run
      (List.replicate 4 .loop)).1.dispatching? = some (whoAmIMessage, 1) ∧
    ((((accept debugConfig "client" ()).run pipelinedMoves).1.step .loop).1.octetsRead
      (List.replicate 4 .loop)) = [] := by
  refine ⟨?_, rfl, ?_, ?_, ?_⟩
  · decide +kernel
  · decide +kernel
  · decide +kernel
  · decide +kernel

theorem pipelined_request_served_iff_waiting :
    let secured := (((accept debugConfig "client" ()).run pipelinedMoves).1.step .loop).1
    0 < Event.upgrades (((accept debugConfig "client" ()).run pipelinedMoves).1.step .loop).2 ∧
    secured.unbegun = [(whoAmIMessage, 1)] ∧
    ∃ later, (secured.run later).1.dispatching? = some (whoAmIMessage, 1) := by
  intro secured
  have swapped : 0 < Event.upgrades (((accept debugConfig "client" ()).run pipelinedMoves).1.step .loop).2 := by
    decide +kernel
  have waiting : secured.unbegun = [(whoAmIMessage, 1)] := by decide +kernel
  have unraised : secured.session.registry.isRaised 1 = false := by decide +kernel
  refine ⟨swapped, waiting, ?_⟩
  have served := plain_request_served_iff_waiting (Backend.debug Unit) { namingContext := "o=x" } debugConfig
    "client" () pipelinedMoves (fun _ _ _ _ => rfl) rfl swapped
  have member : (whoAmIMessage, 1) ∈ secured.unbegun := waiting ▸ List.mem_singleton_self _
  exact ((served.2.2.2 whoAmIMessage 1).mpr ⟨member, unraised⟩).2

end DirectoryServer.Connection
