import DirectoryServer.Proofs.Connection.Backlog

set_option autoImplicit false

namespace DirectoryServer.Connection

variable {σ : Type}

structure Serves (backend : Backend σ) (root : RootDse) (expected : List Outgoing) (ahead : Bytes)
    (rest : List Message) (seen : List Event) (connection : Connection σ) : Prop where
  open_ : connection.hasEnded = false
  calm : connection.Calm backend root
  unhindered : connection.Unhindered
  fed : connection.Fed ahead rest
  sends : seen.filterMap Event.out? ++ connection.left rest = expected

section Moves

variable {backend : Backend σ} {root : RootDse} {expected : List Outgoing} {ahead : Bytes}
  {rest : List Message} {seen events : List Event} {connection next : Connection σ}

theorem turn_serves {position : Position} {deadline : Option Nat} (turns : connection.Turns position)
    (untimed : connection.config.readTimeout = none → connection.readDeadline = none → deadline = none)
    (serves : connection.Serves backend root expected ahead rest seen)
    (calm : Calm backend root { connection with readDeadline := deadline, position }) :
    Serves backend root expected ahead rest seen { connection with readDeadline := deadline, position } ∧
      connection.Advances rest { connection with readDeadline := deadline, position } rest := by
  obtain ⟨before, after⟩ := turns_out turns
  have left : left { connection with readDeadline := deadline, position } rest = connection.left rest := by
    rw [left_silent _ before, left_silent _ after]
    rfl
  have fed := serves.fed
  refine ⟨⟨?_, calm, ?_, ?_, ?_⟩, .turn ?_ rfl ?_⟩
  · cases turns <;> rfl
  · exact unhindered_of_same serves.unhindered rfl rfl (untimed serves.unhindered.untimed)
  · refine fed_of_same fed rfl rfl rfl (Nat.le_refl _) (fun _ unknown => unknown) fun _ => ?_
    cases turns with
    | taken taking short => exact short
    | wait top => exact fed.short (by simp [top])
    | flush top => exact fed.short (by simp [top])
    | pastQueue waiting => exact fed.short (by simp [waiting])
    | pastWorker waiting => exact fed.short (by simp [waiting])
    | pastStop waiting => exact fed.short (by simp [waiting])
    | pastRead waiting => exact fed.short (by simp [waiting])
  · rw [left]
    exact serves.sends
  · simp only [backlog, left, before, after]
  · intro idle closed
    exact turn_nearer turns fed serves.calm.staged idle closed

theorem start_serves {message : Message} {token : Token} {waits : List (Message × Token)}
    (serves : connection.Serves backend root expected ahead rest seen)
    (top : connection.position = .top) (free : connection.worker = none)
    (waiting : connection.pending = (message, token) :: waits)
    (same : next = { connection with
      pending := waits, worker := some (.starting message token), readDeadline := none
      position := .waiting .queue })
    (calm : next.Calm backend root) :
    next.Serves backend root expected ahead rest seen ∧ connection.Advances rest next rest := by
  have before : connection.position.out? = none := by
    rw [top]
    rfl
  have after : next.position.out? = none := by
    rw [same]
    rfl
  have left : next.left rest = connection.left rest := by
    rw [left_silent _ before, left_silent _ after, turn, turn, free, waiting, same]
    rfl
  subst same
  refine ⟨⟨rfl, calm, unhindered_of_same serves.unhindered rfl rfl (fun _ => rfl), ?_, ?_⟩, ?_⟩
  · refine fed_of_same serves.fed rfl rfl rfl ?_ (fun _ unknown => unknown) fun _ => ?_
    · rw [waiting]
      exact Nat.le_succ _
    · exact serves.fed.short (by simp [top])
  · rw [left]
    exact serves.sends
  · apply Advances.less
    simp only [backlog, left, before, after, free, waiting, List.length_cons, Option.isSome_some,
      Option.isSome_none, Bool.toNat_true, Bool.toNat_false]
    omega

theorem retire_serves (serves : connection.Serves backend root expected ahead rest seen)
    (waiting : connection.position = .waiting .worker) (finished : connection.worker = some .finished)
    (same : next = { connection with worker := none, position := .top })
    (calm : next.Calm backend root) :
    next.Serves backend root expected ahead rest seen ∧ connection.Advances rest next rest := by
  have before : connection.position.out? = none := by
    rw [waiting]
    rfl
  have after : next.position.out? = none := by
    rw [same]
    rfl
  have left : next.left rest = connection.left rest := by
    rw [left_silent _ before, left_silent _ after, turn, turn, finished, same]
    rfl
  subst same
  refine ⟨⟨rfl, calm, unhindered_of_same serves.unhindered rfl rfl id, ?_, ?_⟩, ?_⟩
  · refine fed_of_same serves.fed rfl rfl rfl (Nat.le_refl _) (fun _ unknown => unknown) fun _ => ?_
    exact serves.fed.short (by simp [waiting])
  · rw [left]
    exact serves.sends
  · apply Advances.less
    simp only [backlog, left, before, after, finished, Option.isSome_some, Option.isSome_none,
      Bool.toNat_true, Bool.toNat_false]
    omega

theorem dequeue_serves {out : Outgoing} {queue : List Outgoing} {deadline : Option Nat}
    (serves : connection.Serves backend root expected ahead rest seen)
    (ready : connection.position = .waiting .queue ∨ connection.position = .flushing)
    (queued : connection.session.queue = out :: queue)
    (same : next = (connection.withSession { connection.session with queue }).goto (.sending out deadline))
    (calm : next.Calm backend root) :
    next.Serves backend root expected ahead rest seen ∧ connection.Advances rest next rest := by
  have before : connection.position.out? = none := by
    rcases ready with waiting | flushing
    · rw [waiting]
      rfl
    · rw [flushing]
      rfl
  have after : next.position.out? = some out := by
    rw [same]
    rfl
  have kept : next.transport = connection.transport ∧ next.phase = connection.phase ∧
      next.worker = connection.worker ∧ next.pending = connection.pending := by
    rw [same]
    exact ⟨rfl, rfl, rfl, rfl⟩
  obtain ⟨transport, phase, worker, pending⟩ := kept
  have left : next.left rest = connection.left rest := by
    rw [left_silent _ before, left_sending _ after, queued, same]
    rfl
  have less : next.backlog rest < connection.backlog rest := by
    simp only [backlog, left, before, after, transport, phase, worker, pending, Option.isNone_some,
      Option.isNone_none, Bool.toNat_true, Bool.toNat_false]
    omega
  refine ⟨?_, .less less⟩
  subst same
  refine ⟨rfl, calm, unhindered_of_same serves.unhindered rfl rfl id, ?_, ?_⟩
  · refine fed_of_same serves.fed rfl rfl rfl (Nat.le_refl _) (fun _ unknown => unknown) fun _ => ?_
    refine serves.fed.short fun taking => ?_
    rw [taking] at ready
    rcases ready with waiting | flushing
    · cases waiting
    · cases flushing
  · rw [left]
    exact serves.sends

theorem hang_up_serves (serves : connection.Serves backend root expected ahead rest seen)
    (waiting : connection.position = .waiting .read) (serving : connection.phase = .serving)
    (nothing : connection.transport.incoming = []) (closed : connection.transport.peerClosed = true)
    (same : next = { connection with phase := .draining, position := .top })
    (calm : next.Calm backend root) :
    next.Serves backend root expected ahead rest seen ∧ connection.Advances rest next rest := by
  have before : connection.position.out? = none := by
    rw [waiting]
    rfl
  have after : next.position.out? = none := by
    rw [same]
    rfl
  have left : next.left rest = connection.left rest := by
    rw [left_silent _ before, left_silent _ after, same]
    rfl
  have fed := serves.fed
  have short := fed.short (by simp [waiting])
  subst same
  refine ⟨⟨rfl, calm, unhindered_of_same serves.unhindered rfl rfl id, ?_, ?_⟩, ?_⟩
  · exact ⟨fed.stream, fed.small, fed.returns, fed.plain, fed.distinct, fed.fresh, fed.room, fun _ => short,
      fed.closed, fun _ => (fed_out fed short nothing closed).1, nofun⟩
  · rw [left]
    exact serves.sends
  · apply Advances.less
    simp only [backlog, left, before, after, serving]
    change _ + 0 + _ + _ + _ < _ + 1 + _ + _ + _
    omega

theorem receive_serves (serves : connection.Serves backend root expected ahead rest seen)
    (waiting : connection.position = .waiting .read)
    (something : connection.transport.incoming ≠ []) (calm : connection.receive.1.Calm backend root) :
    connection.receive.1.Serves backend root expected ahead rest seen ∧
      connection.Advances rest connection.receive.1 rest := by
  have before : connection.position.out? = none := by
    rw [waiting]
    rfl
  have after : connection.receive.1.position.out? = none := rfl
  have left : connection.receive.1.left rest = connection.left rest := by
    rw [left_silent _ before, left_silent _ after]
    rfl
  have fed := serves.fed
  have free := serves.unhindered
  refine ⟨⟨rfl, calm, ⟨free.writable, free.readable, free.moving, free.untimed, free.unset⟩, ?_, ?_⟩, ?_⟩
  · refine ⟨?_, fed.small, fed.returns, fed.plain, fed.distinct, fed.fresh, fed.room,
      fun other => absurd rfl other, fed.closed, fed.drained, fed.phase⟩
    have stream := fed.stream
    rw [← List.append_assoc] at stream
    exact stream
  · rw [left]
    exact serves.sends
  · apply Advances.less
    have arrived : connection.transport.incoming.isEmpty = false :=
      List.isEmpty_eq_false_iff.mpr something
    have kept : connection.receive.1.phase = connection.phase ∧
        connection.receive.1.worker = connection.worker ∧ connection.receive.1.pending = connection.pending ∧
        connection.receive.1.transport.incoming.isEmpty = true := ⟨rfl, rfl, rfl, rfl⟩
    obtain ⟨phase, worker, pending, emptied⟩ := kept
    simp only [backlog, left, before, after, phase, worker, pending, arrived, emptied, Bool.not_true,
      Bool.not_false, Bool.toNat_true, Bool.toNat_false]
    omega

theorem enqueue_serves {message : Message} {behind : List Message} {size : Nat}
    (serves : connection.Serves backend root expected ahead (message :: behind) seen)
    (taking : connection.position = .taking)
    (later : connection.buffer.drop size ++ (connection.transport.incoming ++ ahead) =
      behind.flatMap Message.octets)
    (same : next = { (counted { connection with buffer := connection.buffer.drop size }).withRegistry
      (connection.session.registry.register message.id).2 with
        pending := connection.pending ++ [(message, connection.session.registry.issued)] })
    (calm : next.Calm backend root) :
    next.Serves backend root expected ahead behind seen ∧ connection.Advances (message :: behind) next behind := by
  have fed := serves.fed
  have unknown := fed.fresh message List.mem_cons_self
  have distinct := fed.distinct
  rw [List.map_cons, List.nodup_cons] at distinct
  have registered := Registry.register_fresh connection.session.registry message.id unknown
  have position : next.position = .taking := by
    rw [same]
    exact taking
  have kept : next.transport = connection.transport ∧ next.phase = connection.phase ∧
      next.worker = connection.worker ∧
      next.pending = connection.pending ++ [(message, connection.session.registry.issued)] := by
    rw [same]
    exact ⟨rfl, rfl, rfl, rfl⟩
  obtain ⟨transport, phase, worker, pending⟩ := kept
  have before : connection.position.out? = none := by
    rw [taking]
    rfl
  have after : next.position.out? = none := by
    rw [position]
    rfl
  have issued : next.session.registry.issued = connection.session.registry.issued + 1 := by
    rw [same]
    exact congrArg (fun pair => pair.2.issued) registered
  have shown : next.session.queue = connection.session.queue ∧ next.turn = connection.turn ∧
      next.config = connection.config := by
    rw [same]
    exact ⟨rfl, rfl, rfl⟩
  obtain ⟨queue, turn, config⟩ := shown
  have left : next.left behind = connection.left (message :: behind) := by
    rw [left_silent _ before, left_silent _ after, queue, turn, config, pending, issued, List.append_assoc]
    rfl
  refine ⟨⟨?_, calm, ?_, ?_, ?_⟩, ?_⟩
  · rw [hasEnded, position]
  · rw [same]
    exact unhindered_of_same serves.unhindered rfl rfl id
  · have room := fed.room
    have small := fed.small
    rw [List.flatMap_cons, List.length_append] at small
    rw [List.length_cons] at room
    refine ⟨?_, ?_, ?_, ?_, distinct.2, ?_, ?_, fun other => absurd position other, ?_, ?_, ?_⟩
    · rw [same]
      exact later
    · omega
    · exact fun other member => fed.returns other (List.mem_cons_of_mem message member)
    · exact fun other member => fed.plain other (List.mem_cons_of_mem message member)
    · intro other member
      have differs : other.id ≠ message.id :=
        fun equal => distinct.1 (equal ▸ List.mem_map.mpr ⟨other, member, rfl⟩)
      rw [same]
      exact Registry.contains_register _ _ _ unknown
        (fed.fresh other (List.mem_cons_of_mem message member)) differs
    · rw [pending, List.length_append, List.length_singleton]
      omega
    · rw [transport]
      exact fed.closed
    · rw [phase]
      intro draining
      cases fed.drained draining
    · rw [phase]
      exact fed.phase
  · rw [left]
    exact serves.sends
  · apply Advances.less
    simp only [backlog, left, before, after, transport, phase, worker, pending, List.length_append,
      List.length_cons, List.length_nil]
    omega

theorem take_serves {frame : Frame} {size : Nat} (serves : connection.Serves backend root expected ahead rest seen)
    (taking : connection.position = .taking)
    (parsed : Frame.parse connection.buffer = .ok (some (frame, size)))
    (takes : (counted { connection with buffer := connection.buffer.drop size }).Takes frame next)
    (calm : next.Calm backend root) :
    ∃ behind, next.Serves backend root expected ahead behind seen ∧ connection.Advances rest next behind := by
  have fed := serves.fed
  rcases fed_parse fed with short | ⟨message, behind, read, rfl, parsed', decoded', later⟩
  · cases short.symm.trans parsed
  · cases parsed'.symm.trans parsed
    cases takes with
    | abandon id target decoded =>
        cases decoded'.symm.trans decoded
        exact absurd rfl (fed.plain _ List.mem_cons_self)
    | refuse id kind outcome refused =>
        cases refused with
        | busy _ _ _ full =>
            have room := fed.room
            have long : maxPending ≤ connection.pending.length := full
            rw [List.length_cons] at room
            omega
        | inUse other decoded _ _ known =>
            cases decoded'.symm.trans decoded
            have unknown := fed.fresh message List.mem_cons_self
            cases unknown.symm.trans known
        | faulty failure _ decoded => cases decoded'.symm.trans decoded
    | enqueue other decoded plain =>
        cases decoded'.symm.trans decoded
        exact ⟨behind, enqueue_serves serves taking later rfl calm⟩

theorem sent_serves {out : Outgoing} {deadline : Option Nat}
    (serves : connection.Serves backend root expected ahead rest seen)
    (sending : connection.position = .sending out deadline)
    (same : next = { connection.withStats (connection.session.stats.wrote out.bytes.length) with
      position := connection.afterSending })
    (calm : next.Calm backend root) :
    next.Serves backend root expected ahead rest (seen ++ [.sent out]) ∧
      connection.Advances rest next rest := by
  have before : connection.position.out? = some out := by
    rw [sending]
    rfl
  have after : next.position.out? = none := by
    rw [same]
    exact connection.after_sending_out
  have kept : next.transport = connection.transport ∧ next.phase = connection.phase ∧
      next.worker = connection.worker ∧ next.pending = connection.pending := by
    rw [same]
    exact ⟨rfl, rfl, rfl, rfl⟩
  obtain ⟨transport, phase, worker, pending⟩ := kept
  have left : connection.left rest = out :: next.left rest := by
    rw [left_sending _ before, left_silent _ after, same]
    rfl
  have less : next.backlog rest < connection.backlog rest := by
    simp only [backlog, left, before, after, transport, phase, worker, pending, List.length_cons,
      Option.isNone_some, Option.isNone_none, Bool.toNat_true, Bool.toNat_false]
    omega
  have sends := serves.sends
  refine ⟨?_, .less less⟩
  refine ⟨?_, calm, ?_, ?_, ?_⟩
  · rw [same]
    rcases connection.after_sending_cases with ⟨_, _, flushing⟩ | top
    · simp [hasEnded, flushing]
    · simp [hasEnded, top]
  · rw [same]
    exact unhindered_of_same serves.unhindered rfl rfl id
  · rw [same]
    refine fed_of_same serves.fed rfl rfl rfl (Nat.le_refl _) (fun _ unknown => unknown) fun _ => ?_
    exact serves.fed.short (by simp [sending])
  · rw [left] at sends
    rw [List.filterMap_append, List.append_assoc]
    exact sends

theorem worker_serves (detached : backend.Detached) (step : connection.WorkerStep next)
    (serves : connection.Serves backend root expected ahead rest seen) :
    next.Serves backend root expected ahead rest seen ∧ next.backlog rest = connection.backlog rest := by
  have calm := worker_calm detached step serves.calm
  have left : next.left rest = connection.left rest := worker_left step serves.calm
  have kept : next.config = connection.config ∧ next.transport = connection.transport ∧
      next.position = connection.position ∧ next.phase = connection.phase ∧
      next.buffer = connection.buffer ∧ next.pending = connection.pending ∧
      next.readDeadline = connection.readDeadline ∧ next.worker.isSome = connection.worker.isSome := by
    cases step with
    | idle => exact ⟨rfl, rfl, rfl, rfl, rfl, rfl, rfl, rfl⟩
    | skip _ _ busy => exact ⟨rfl, rfl, rfl, rfl, rfl, rfl, rfl, by rw [busy]; rfl⟩
    | serve _ _ busy => exact ⟨rfl, rfl, rfl, rfl, rfl, rfl, rfl, by rw [busy]; rfl⟩
    | done _ _ busy => exact ⟨rfl, rfl, rfl, rfl, rfl, rfl, rfl, by rw [busy]; rfl⟩
    | act _ _ busy => exact ⟨rfl, rfl, rfl, rfl, rfl, rfl, rfl, by rw [busy]; rfl⟩
    | leave _ busy => exact ⟨rfl, rfl, rfl, rfl, rfl, rfl, rfl, by rw [busy]; rfl⟩
  obtain ⟨config, transport, position, phase, buffer, pending, deadline, busy⟩ := kept
  have inFlight : ∀ id, connection.session.registry.contains id = false →
      next.session.registry.contains id = false := by
    intro id unknown
    cases step with
    | act other work serving =>
        have kept := (work.step_extends connection.scene).inFlight
        rw [Registry.contains_false_iff] at unknown ⊢
        rw [session, kept]
        exact unknown
    | leave other leaving => exact Registry.contains_complete _ other id unknown
    | _ => exact unknown
  refine ⟨⟨?_, calm, ?_, ?_, ?_⟩, ?_⟩
  · rw [hasEnded, position]
    exact serves.open_
  · exact unhindered_of_same serves.unhindered config transport deadline.trans
  · refine fed_of_same serves.fed transport buffer phase (Nat.le_of_eq (by rw [pending])) inFlight ?_
    rw [position]
    exact serves.fed.short
  · rw [left]
    exact serves.sends
  · simp only [backlog, left, transport, position, phase, pending, busy]

theorem serves_behind (silent : events.filterMap Event.out? = [])
    (serves : next.Serves backend root expected ahead rest seen) :
    next.Serves backend root expected ahead rest (seen ++ events) := by
  refine ⟨serves.open_, serves.calm, serves.unhindered, serves.fed, ?_⟩
  rw [List.filterMap_append, silent, List.append_nil]
  exact serves.sends

theorem sending_plain {out : Outgoing} {deadline : Option Nat}
    (serves : connection.Serves backend root expected ahead rest seen)
    (plain : ∀ out ∈ expected, out.upgrade = false)
    (sending : connection.position = .sending out deadline) : out.upgrade = false := by
  apply plain
  rw [← serves.sends, left, outgoing, sending]
  exact List.mem_append_right _ (List.mem_append_left _ List.mem_cons_self)

theorem no_failure {error : ConnectionError} (serves : connection.Serves backend root expected ahead rest seen)
    (fails : connection.Fails error) : False := by
  have free := serves.unhindered
  have fed := serves.fed
  cases fails with
  | unwritable out deadline fault sending broken => simp [free.writable] at broken
  | slowWrite out deadline sending stalled => simp [free.moving] at stalled
  | unreadable fault waiting serving broken => simp [free.readable] at broken
  | slowRead waiting serving due => simp [free.unset, isDue] at due
  | unparsed cause taking wrong =>
      rcases fed_parse fed with short | ⟨_, _, _, _, parsed, _⟩
      · cases short.symm.trans wrong
      · cases parsed.symm.trans wrong
  | full waiting serving long =>
      have small := fed.small
      rw [← fed.stream, List.length_append] at small
      omega
  | cut waiting serving nothing closed part =>
      exact part (fed_out fed (fed.short (by simp [waiting])) nothing closed).2

theorem finish_sends (serves : connection.Serves backend root expected ahead rest seen)
    (queued : connection.session.queue = []) (flushing : connection.position = .flushing) :
    seen.filterMap Event.out? = expected := by
  have staged := serves.calm.staged
  simp only [Staged, flushing] at staged
  obtain ⟨draining, free, idle⟩ := staged
  have sends := serves.sends
  rw [left, outgoing_of_out (by rw [flushing]; rfl), queued, turn, free, idle, serves.fed.drained draining] at sends
  exact (List.append_nil _).symm.trans sends

theorem loop_serves (step : connection.LoopStep next events)
    (serves : connection.Serves backend root expected ahead rest seen)
    (plain : ∀ out ∈ expected, out.upgrade = false) :
    (next.position = .ended (.ok ()) ∧ (seen ++ events).filterMap Event.out? = expected) ∨
      ∃ behind, next.Serves backend root expected ahead behind (seen ++ events) ∧
        connection.Advances rest next behind := by
  have calm := loop_calm step serves.calm (fed_keeps serves.fed)
  cases step with
  | ended result past =>
      have open_ := serves.open_
      simp [has_ended_of_position past] at open_
  | stalled out deadline sending stalled => simp [serves.unhindered.moving] at stalled
  | turn position deadline turns untimed =>
      obtain ⟨still, advances⟩ := turn_serves turns untimed serves (calm (by cases turns <;> rfl))
      exact .inr ⟨rest, serves_behind rfl still, advances⟩
  | start message token waits top free waiting =>
      obtain ⟨still, advances⟩ := start_serves serves top free waiting rfl (calm rfl)
      exact .inr ⟨rest, serves_behind rfl still, advances⟩
  | retire waiting finished =>
      obtain ⟨still, advances⟩ := retire_serves serves waiting finished rfl (calm rfl)
      exact .inr ⟨rest, serves_behind rfl still, advances⟩
  | dequeue out queue deadline ready queued =>
      obtain ⟨still, advances⟩ := dequeue_serves serves ready queued rfl (calm rfl)
      exact .inr ⟨rest, serves_behind rfl still, advances⟩
  | drain waiting serving stopped => simp [serves.calm.unstopped] at stopped
  | hangUp waiting serving nothing closed whole =>
      obtain ⟨still, advances⟩ := hang_up_serves serves waiting serving nothing closed rfl (calm rfl)
      exact .inr ⟨rest, serves_behind rfl still, advances⟩
  | receive waiting serving something =>
      obtain ⟨still, advances⟩ := receive_serves serves waiting something (calm rfl)
      exact .inr ⟨rest, serves_behind rfl still, advances⟩
  | take frame size _ taking parsed takes =>
      have position : next.position = .taking := (takes_little takes).position.trans taking
      obtain ⟨behind, still, advances⟩ :=
        take_serves serves taking parsed takes (calm (by rw [hasEnded, position]))
      exact .inr ⟨behind, serves_behind rfl still, advances⟩
  | sent out deadline sending =>
      have open_ : hasEnded { connection.withStats (connection.session.stats.wrote out.bytes.length) with
          position := connection.afterSending } = false := by
        rcases connection.after_sending_cases with ⟨_, _, after⟩ | after <;> simp [hasEnded, after]
      exact .inr ⟨rest, sent_serves serves sending rfl (calm open_)⟩
  | secure out deadline sending upgrade => simp [sending_plain serves plain sending] at upgrade
  | failHandshake out deadline buffer error sending upgrade =>
      simp [sending_plain serves plain sending] at upgrade
  | finish queued flushing =>
      refine .inl ⟨rfl, ?_⟩
      rw [List.filterMap_append]
      exact (List.append_nil _).trans (finish_sends serves queued flushing)
  | fail error fails => exact (no_failure serves fails).elim
  | failFrame frame size failure taking parsed decoded =>
      rcases fed_parse serves.fed with short | ⟨_, _, _, _, parsed', decoded', _⟩
      · cases short.symm.trans parsed
      · cases parsed'.symm.trans parsed
        cases decoded'.symm.trans decoded

end Moves

end DirectoryServer.Connection
