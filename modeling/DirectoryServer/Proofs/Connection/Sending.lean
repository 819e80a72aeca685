import DirectoryServer.Proofs.Connection.Securing
import DirectoryServer.Proofs.Session.Sends

set_option autoImplicit false

namespace DirectoryServer.Connection

variable {σ : Type}

def atOnce (connection : Connection σ) (message : Message) : Work σ Bool :=
  connection.config.routes.dispatch message.request
    ⟨message.id, message.request.kind, connection.session.registry.issued⟩

def atOnceScene (connection : Connection σ) : Scene σ :=
  (connection.withRegistry connection.session.registry.issue.2).scene

def answerFor (id : MessageId) (kind : OperationKind) (outcome : Outcome) : List Outgoing :=
  (kind.finalResponse? outcome).toList.map fun response => ⟨id, response, false⟩

def answersTo (connection : Connection σ) (frame : Frame) : List Outgoing :=
  match Message.decode frame with
  | .ok message =>
      if message.request.kind = .abandon then
        (connection.atOnce message).sendsAll connection.atOnceScene
      else if maxPending ≤ connection.pending.length then
        answerFor message.id message.request.kind tooMany
      else if connection.session.registry.contains message.id then
        answerFor message.id message.request.kind idInUse
      else []
  | .error failure =>
      match failure.id with
      | some id => answerFor id (failure.kind.getD .extended) (refusal failure)
      | none => []

def cutBehind (connection : Connection σ) (size : Nat) : Connection σ :=
  counted { connection with buffer := connection.buffer.drop size }

def queues (connection : Connection σ) : Move → List Outgoing
  | .worker =>
      match connection.worker with
      | some (.serving _ work) => work.sends
      | _ => []
  | .loop =>
      match connection.position, Frame.parse connection.buffer with
      | .taking, .ok (some (frame, size)) => (connection.cutBehind size).answersTo frame
      | _, _ => []
  | _ => []

def queuesAll (connection : Connection σ) : List Move → List Outgoing
  | [] => []
  | move :: rest => connection.queues move ++ (connection.step move).1.queuesAll rest

theorem queues_elsewhere (connection : Connection σ) (other : connection.position ≠ .taking) :
    connection.queues .loop = [] := by
  simp only [queues]
  split
  · exact absurd ‹_› other
  · rfl

theorem queues_short (connection : Connection σ) (short : Frame.parse connection.buffer = .ok none) :
    connection.queues .loop = [] := by
  simp only [queues, short]
  split
  · rename_i whole
    cases whole
  · rfl

theorem queues_taking (connection : Connection σ) (frame : Frame) (size : Nat)
    (taking : connection.position = .taking)
    (parsed : Frame.parse connection.buffer = .ok (some (frame, size))) :
    connection.queues .loop = (connection.cutBehind size).answersTo frame := by
  simp only [queues, taking, parsed]

theorem answer_posts (connection : Connection σ) (id : MessageId) (kind : OperationKind)
    (outcome : Outcome) (listening : connection.session.listening = true) :
    connection.scene.Posts (answerFor id kind outcome) (connection.answer id kind outcome).scene := by
  unfold answerFor answer
  cases kind.finalResponse? outcome with
  | none => exact .nothing rfl rfl
  | some response => exact .send connection.scene ⟨id, response, false⟩ listening

theorem refuses_answer {connection : Connection σ} {frame : Frame} {id : MessageId}
    {kind : OperationKind} {outcome : Outcome} (refused : connection.Refuses frame id kind outcome) :
    connection.answersTo frame = answerFor id kind outcome := by
  cases refused with
  | busy message decoded plain full => simp only [answersTo, decoded, plain, full, if_true, if_false]
  | inUse message decoded plain room known =>
      simp only [answersTo, decoded, plain, Nat.not_le.mpr room, known, if_true, if_false]
  | faulty failure id decoded named => simp only [answersTo, decoded, named]

theorem takes_posts {connection next : Connection σ} {frame : Frame} (takes : connection.Takes frame next)
    (listening : connection.session.listening = true) :
    connection.scene.Posts (connection.answersTo frame) next.scene := by
  cases takes with
  | abandon id target decoded =>
      have served : (connection.serveAtOnce ⟨id, .abandon target⟩).scene =
          ((connection.atOnce ⟨id, .abandon target⟩).run connection.atOnceScene).2 := rfl
      have issued : connection.scene.Posts [] connection.atOnceScene := .nothing rfl rfl
      simp only [answersTo, decoded, Request.kind, if_true]
      rw [served]
      exact issued.trans (Work.run_posts _ _ listening)
  | enqueue message decoded plain room fresh =>
      simp only [answersTo, decoded, plain, Nat.not_le.mpr room, fresh, Bool.false_eq_true, if_false]
      exact .nothing rfl rfl
  | refuse id kind outcome refused =>
      rw [refuses_answer refused]
      exact connection.answer_posts id kind outcome listening

def Failed (connection : Connection σ) : Prop :=
  ∃ error, connection.position = .ended (.error error)

structure Relays (before : Connection σ) (outs : List Outgoing) (events : List Event)
    (after : Connection σ) : Prop where
  sent : events.filterMap Event.out? <+: before.outgoing ++ outs
  kept : ¬ after.Failed → before.outgoing ++ outs = events.filterMap Event.out? ++ after.outgoing
  counted : ¬ after.Failed → after.session.stats.bytesWritten =
    before.session.stats.bytesWritten + UInt64.ofNat (Event.written events).length

theorem relays_of_kept {before after : Connection σ} {outs : List Outgoing} {events : List Event}
    (kept : before.outgoing ++ outs = events.filterMap Event.out? ++ after.outgoing)
    (counted : after.session.stats.bytesWritten =
      before.session.stats.bytesWritten + UInt64.ofNat (Event.written events).length) :
    before.Relays outs events after :=
  ⟨⟨after.outgoing, kept.symm⟩, fun _ => kept, fun _ => counted⟩

theorem relays_silent {before after : Connection σ} {outs : List Outgoing} {events : List Event}
    (silent : events.filterMap Event.out? = []) (outgoing : after.outgoing = before.outgoing ++ outs)
    (counted : after.session.stats.bytesWritten = before.session.stats.bytesWritten) :
    before.Relays outs events after := by
  apply relays_of_kept
  · rw [silent, outgoing, List.nil_append]
  · simp [Event.written_eq, silent, counted]

theorem relays_same {before after : Connection σ} {events : List Event}
    (silent : events.filterMap Event.out? = []) (outgoing : after.outgoing = before.outgoing)
    (counted : after.session.stats.bytesWritten = before.session.stats.bytesWritten) :
    before.Relays [] events after :=
  relays_silent silent (by rw [outgoing, List.append_nil]) counted

theorem relays_between {before after : Connection σ} {events : List Event}
    (silent : events.filterMap Event.out? = []) (held : before.position.out? = none)
    (free : after.position.out? = none) (queue : after.session.queue = before.session.queue)
    (counted : after.session.stats.bytesWritten = before.session.stats.bytesWritten) :
    before.Relays [] events after :=
  relays_same silent (by rw [outgoing_of_out held, outgoing_of_out free, queue]) counted

theorem relays_sent {before after : Connection σ} {events : List Event} {out : Outgoing}
    {deadline : Option Nat} (sending : before.position = .sending out deadline)
    (sent : events.filterMap Event.out? = [out]) (free : after.position.out? = none)
    (queue : after.session.queue = before.session.queue)
    (counted : after.session.stats.bytesWritten =
      before.session.stats.bytesWritten + UInt64.ofNat out.bytes.length) :
    before.Relays [] events after := by
  apply relays_of_kept
  · rw [outgoing_of_out free, outgoing, sending, sent, queue, List.append_nil]
    rfl
  · simp [Event.written_eq, sent, counted]

theorem relays_failed {before after : Connection σ} {outs : List Outgoing} {events : List Event}
    (sent : events.filterMap Event.out? <+: before.outgoing ++ outs) (failed : after.Failed) :
    before.Relays outs events after :=
  ⟨sent, fun sound => absurd failed sound, fun sound => absurd failed sound⟩

-- Somebody takes the responses until the end, and a good end leaves neither requests nor responses.
structure Attended (connection : Connection σ) : Prop where
  listening : connection.hasEnded = false → connection.session.listening = true
  complete : connection.position = .ended (.ok ()) →
    connection.worker = none ∧ connection.pending = [] ∧ connection.session.queue = []

theorem turns_silent {connection : Connection σ} {position : Position} (turns : connection.Turns position) :
    connection.queues .loop = [] := by
  cases turns with
  | wait top => exact connection.queues_elsewhere (by simp [top])
  | flush top => exact connection.queues_elsewhere (by simp [top])
  | pastQueue waiting => exact connection.queues_elsewhere (by simp [waiting])
  | pastWorker waiting => exact connection.queues_elsewhere (by simp [waiting])
  | pastStop waiting => exact connection.queues_elsewhere (by simp [waiting])
  | pastRead waiting => exact connection.queues_elsewhere (by simp [waiting])
  | taken taking short => exact connection.queues_short short

theorem loop_relays {connection next : Connection σ} {events : List Event}
    (step : connection.LoopStep next events) (attended : connection.Attended) :
    connection.Relays (connection.queues .loop) events next := by
  have nothing := connection.queues_elsewhere
  cases step with
  | ended result past =>
      rw [nothing (by simp [past])]
      exact relays_same rfl rfl rfl
  | stalled out deadline sending =>
      rw [nothing (by simp [sending])]
      exact relays_same rfl rfl rfl
  | turn position deadline turns =>
      rw [turns_silent turns]
      exact relays_between rfl (turns_out turns).1 (turns_out turns).2 rfl rfl
  | start message token rest top =>
      rw [nothing (by simp [top])]
      exact relays_between rfl (by rw [top]; rfl) rfl rfl rfl
  | retire waiting =>
      rw [nothing (by simp [waiting])]
      exact relays_between rfl (by rw [waiting]; rfl) rfl rfl rfl
  | drain waiting =>
      rw [nothing (by simp [waiting])]
      exact relays_between rfl (by rw [waiting]; rfl) rfl rfl rfl
  | hangUp waiting =>
      rw [nothing (by simp [waiting])]
      exact relays_between rfl (by rw [waiting]; rfl) rfl rfl rfl
  | receive waiting =>
      rw [nothing (by simp [waiting])]
      exact relays_between rfl (by rw [waiting]; rfl) rfl rfl rfl
  | dequeue out queue deadline ready queued =>
      have held : connection.position.out? = none := by rcases ready with here | here <;> rw [here] <;> rfl
      rw [nothing (by rcases ready with here | here <;> simp [here])]
      apply relays_same rfl
      · rw [outgoing_of_out held, queued]
        rfl
      · rfl
  | take frame size _ taking parsed takes =>
      have open_ : connection.hasEnded = false := by simp [hasEnded, taking]
      have posts := takes_posts takes (attended.listening open_)
      have still : next.position.out? = none := by
        rw [(takes_little takes).position, counted, taking]
        rfl
      have held : connection.position.out? = none := by rw [taking]; rfl
      rw [connection.queues_taking frame size taking parsed]
      apply relays_silent rfl
      · rw [outgoing_of_out still, outgoing_of_out held]
        exact posts.queue
      · exact posts.bytesWritten
  | sent out deadline sending =>
      rw [nothing (by simp [sending])]
      exact relays_sent sending rfl connection.after_sending_out rfl rfl
  | secure out deadline sending =>
      rw [nothing (by simp [sending])]
      exact relays_sent sending rfl connection.after_sending_out rfl rfl
  | finish queued flushing =>
      rw [nothing (by simp [flushing])]
      exact relays_between rfl (by rw [flushing]; rfl) rfl queued.symm rfl
  | fail error fails => exact relays_failed List.nil_prefix ⟨error, rfl⟩
  | failHandshake out deadline buffer error sending =>
      have first : connection.outgoing = out :: connection.session.queue := by
        rw [outgoing, sending]
        rfl
      apply relays_failed
      · rw [first]
        exact List.prefix_append [out] _
      · exact ⟨error, rfl⟩
  | failFrame frame size failure => exact relays_failed List.nil_prefix ⟨_, rfl⟩

theorem worker_relays {connection next : Connection σ} (step : connection.WorkerStep next)
    (attended : connection.Attended) :
    connection.Relays (connection.queues .worker) [] next := by
  cases step with
  | idle idle =>
      have nothing : connection.queues .worker = [] := by
        rcases idle with none_ | finished
        · simp only [queues, none_]
        · simp only [queues, finished]
      rw [nothing]
      exact relays_same rfl rfl rfl
  | skip message token starting =>
      simp only [queues, starting]
      exact relays_same rfl rfl rfl
  | serve message token starting =>
      simp only [queues, starting]
      exact relays_same rfl rfl rfl
  | done id value serving =>
      simp only [queues, serving, Work.sends]
      exact relays_same rfl rfl rfl
  | leave id leaving =>
      simp only [queues, leaving]
      exact relays_same rfl rfl rfl
  | act id work serving =>
      simp only [queues, serving]
      cases ended : connection.hasEnded with
      | false =>
          have posts := work.step_posts connection.scene (attended.listening ended)
          apply relays_silent rfl
          · simp only [outgoing, List.append_assoc]
            exact congrArg (connection.position.out?.toList ++ ·) posts.queue
          · exact posts.bytesWritten
      | true =>
          obtain ⟨result, past⟩ := connection.position_of_has_ended ended
          cases result with
          | error error => exact relays_failed List.nil_prefix ⟨error, past⟩
          | ok value =>
              have free := (attended.complete past).1
              simp [serving] at free

theorem step_relays (connection : Connection σ) (move : Move) (attended : connection.Attended) :
    connection.Relays (connection.queues move) (connection.step move).2
      (connection.step move).1 := by
  have steps := connection.step_cases move
  generalize connection.step move = moved at steps ⊢
  obtain ⟨next, events⟩ := moved
  cases steps with
  | loop _ _ step => exact loop_relays step attended
  | worker _ step => exact worker_relays step attended
  | around move transport now stopped outside =>
      have nothing : connection.queues move = [] := by
        cases move with
        | loop => exact absurd rfl outside.1
        | worker => exact absurd rfl outside.2
        | _ => rfl
      rw [nothing]
      exact relays_same rfl rfl rfl

theorem takes_listening {connection next : Connection σ} {frame : Frame}
    (takes : connection.Takes frame next) :
    next.session.listening = connection.session.listening := by
  cases takes with
  | abandon id target decoded =>
      obtain ⟨scene, served, grown⟩ := connection.serve_at_once_extends ⟨id, .abandon target⟩
      rw [served]
      exact grown.listening
  | enqueue message decoded plain room fresh => rfl
  | refuse id kind outcome refused =>
      obtain ⟨queue, answered⟩ := connection.answer_keeps id kind outcome
      rw [answered]
      rfl

theorem loop_listening {connection next : Connection σ} {events : List Event}
    (step : connection.LoopStep next events) (open_ : next.hasEnded = false) :
    next.session.listening = connection.session.listening := by
  cases step with
  | take frame size _ taking parsed takes =>
      have same := takes_listening takes
      exact same
  | finish => simp [finish, hasEnded] at open_
  | fail => simp [finish, hasEnded] at open_
  | failHandshake => simp [finish, hasEnded] at open_
  | failFrame => simp [finish, hasEnded] at open_
  | _ => rfl

theorem loop_attended (connection : Connection σ) (staged : connection.Staged)
    (attended : connection.Attended) : connection.stepLoop.1.Attended := by
  cases ended : connection.hasEnded with
  | true =>
      obtain ⟨result, past⟩ := connection.position_of_has_ended ended
      rw [connection.step_loop_ended result past]
      exact attended
  | false =>
      refine ⟨fun open_ => ?_, fun past => ?_⟩
      · rw [loop_listening connection.step_loop_cases open_]
        exact attended.listening ended
      · obtain ⟨flushing, queued, _⟩ := ends_well connection.step_loop_cases ended past
        simp only [Staged, flushing] at staged
        simp only [stepLoop, flushing, flush, takeOutgoing, queued]
        exact ⟨staged.2.1, staged.2.2, rfl⟩

theorem worker_attended {connection next : Connection σ} (step : connection.WorkerStep next)
    (attended : connection.Attended) : next.Attended := by
  have ended : next.hasEnded = connection.hasEnded := by
    unfold hasEnded
    rw [worker_position step]
  refine ⟨fun open_ => ?_, fun past => ?_⟩
  · have listening := attended.listening (ended ▸ open_)
    cases step with
    | act id work serving => exact (work.step_extends connection.scene).listening.trans listening
    | _ => exact listening
  · rw [worker_position step] at past
    obtain ⟨free, idle, queue⟩ := attended.complete past
    cases step with
    | idle => exact ⟨free, idle, queue⟩
    | skip _ _ starting => simp [starting] at free
    | serve _ _ starting => simp [starting] at free
    | done _ _ serving => simp [serving] at free
    | act _ _ serving => simp [serving] at free
    | leave _ leaving => simp [leaving] at free

theorem step_attended (connection : Connection σ) (move : Move)
    (held : connection.Staged ∧ connection.Attended) :
    (connection.step move).1.Staged ∧ (connection.step move).1.Attended := by
  refine ⟨connection.step_staged move held.1, ?_⟩
  cases move with
  | loop => exact connection.loop_attended held.1 held.2
  | worker => exact worker_attended connection.step_worker_cases held.2
  | _ => exact ⟨held.2.listening, held.2.complete⟩

theorem accept_attended (config : Config σ) (peer : String) (state : σ) :
    (accept config peer state).Staged ∧ (accept config peer state).Attended :=
  ⟨trivial, fun _ => rfl, fun past => by simp [accept] at past⟩

theorem run_ended (connection : Connection σ) (moves : List Move) (result : Except ConnectionError Unit)
    (past : connection.position = .ended result) :
    (connection.run moves).1.position = .ended result ∧ (connection.run moves).2 = [] := by
  induction moves generalizing connection with
  | nil => exact ⟨past, rfl⟩
  | cons move rest ih =>
      obtain ⟨still, nothing⟩ := connection.step_ended move result past
      obtain ⟨last, silent⟩ := ih _ still
      refine ⟨last, ?_⟩
      simp only [run, nothing, silent, List.append_nil]

theorem Relays.trans {first second third : Connection σ} {early late : List Outgoing}
    {front back : List Event} (start : first.Relays early front second)
    (later : second.Relays late back third) (lasting : second.Failed → third.Failed ∧ back = []) :
    first.Relays (early ++ late) (front ++ back) third where
  sent := by
    rw [List.filterMap_append, ← List.append_assoc]
    by_cases failed : second.Failed
    · rw [(lasting failed).2, List.filterMap_nil, List.append_nil]
      exact start.sent.trans (List.prefix_append _ _)
    · rw [start.kept failed, List.append_assoc]
      exact (List.prefix_append_right_inj _).mpr later.sent
  kept sound := by
    rw [← List.append_assoc, start.kept fun failed => sound (lasting failed).1, List.append_assoc,
      later.kept sound, List.filterMap_append, List.append_assoc]
  counted sound := by
    rw [later.counted sound, start.counted fun failed => sound (lasting failed).1, Event.written_append,
      List.length_append, UInt64.ofNat_add, UInt64.add_assoc]

theorem run_relays (connection : Connection σ) (moves : List Move)
    (held : connection.Staged ∧ connection.Attended) :
    connection.Relays (connection.queuesAll moves) (connection.run moves).2
      (connection.run moves).1 := by
  induction moves generalizing connection with
  | nil => exact relays_same rfl rfl rfl
  | cons move rest ih =>
      have start := connection.step_relays move held.2
      have later := ih _ (connection.step_attended move held)
      simp only [queuesAll, run]
      apply start.trans later
      rintro ⟨error, past⟩
      obtain ⟨last, silent⟩ := run_ended _ rest _ past
      exact ⟨⟨error, last⟩, silent⟩

theorem loop_retired {connection next : Connection σ} {events : List Event}
    (step : connection.LoopStep next events) (staged : connection.Staged)
    (retired : connection.phase ≠ .serving) :
    next.phase ≠ .serving ∧ ∀ frame, Event.parsed frame ∉ events := by
  cases step with
  | take frame size _ taking =>
      simp only [Staged, taking] at staged
      exact absurd staged retired
  | failFrame frame size failure taking =>
      simp only [Staged, taking] at staged
      exact absurd staged retired
  | drain waiting serving => exact absurd serving retired
  | hangUp waiting serving => exact absurd serving retired
  | finish => simp [finish]
  | fail => simp [finish]
  | failHandshake => simp [finish]
  | start => exact ⟨retired, by simp⟩
  | sent => exact ⟨retired, by simp⟩
  | secure => exact ⟨retired, by simp⟩
  | _ => exact ⟨retired, fun _ => List.not_mem_nil⟩

theorem step_retired (connection : Connection σ) (move : Move) (staged : connection.Staged)
    (retired : connection.phase ≠ .serving) :
    (connection.step move).1.phase ≠ .serving ∧
      ∀ frame, Event.parsed frame ∉ (connection.step move).2 := by
  have steps := connection.step_cases move
  generalize connection.step move = moved at steps ⊢
  obtain ⟨next, events⟩ := moved
  cases steps with
  | loop _ _ step => exact loop_retired step staged retired
  | worker _ step =>
      have same : next.phase = connection.phase := by cases step <;> rfl
      exact ⟨by rw [same]; exact retired, fun _ => List.not_mem_nil⟩
  | around => exact ⟨retired, fun _ => List.not_mem_nil⟩

theorem run_retired (connection : Connection σ) (moves : List Move) (staged : connection.Staged)
    (retired : connection.phase ≠ .serving) (frame : Frame) :
    Event.parsed frame ∉ (connection.run moves).2 := by
  induction moves generalizing connection with
  | nil => exact List.not_mem_nil
  | cons move rest ih =>
      obtain ⟨still, unread⟩ := connection.step_retired move staged retired
      simp only [run, List.mem_append, not_or]
      exact ⟨unread frame, ih _ (connection.step_staged move staged) still⟩

theorem every_response_sent (config : Config σ) (peer : String) (state : σ) (moves : List Move)
    (well : ((accept config peer state).run moves).1.position = .ended (.ok ())) :
    let first := accept config peer state
    let last := (first.run moves).1
    let events := (first.run moves).2
    let octets := (first.queuesAll moves).flatMap fun out =>
      (Response.encode out.id out.response).serialize
    events.filterMap Event.out? = first.queuesAll moves ∧
    Event.written events = octets ∧
    (∀ plain secured, events = plain ++ .secured :: secured →
      Event.written plain ++ Event.written secured = octets) ∧
    last.session.stats.bytesWritten = first.session.stats.bytesWritten + UInt64.ofNat octets.length ∧
    ∀ front back, moves = front ++ back → (first.run front).1.phase ≠ .serving →
      ∀ frame, Event.parsed frame ∉ ((first.run front).1.run back).2 := by
  intro first last events octets
  have held := accept_attended config peer state
  have relays : first.Relays (first.queuesAll moves) events last :=
    run_relays first moves held
  have sound : ¬ last.Failed := by
    rintro ⟨error, failed⟩
    cases well.symm.trans failed
  have complete : last.outgoing = [] := by
    have attended := (run_keeps step_attended first moves held).2
    have free : last.position.out? = none := by
      rw [show last.position = .ended (.ok ()) from well]
      rfl
    rw [outgoing_of_out free]
    exact (attended.complete well).2.2
  have sent : events.filterMap Event.out? = first.queuesAll moves := by
    have kept := relays.kept sound
    rw [complete, List.append_nil] at kept
    exact kept.symm
  have written : Event.written events = octets := by
    rw [Event.written_eq, sent]
    rfl
  refine ⟨sent, written, fun plain secured split => ?_, ?_, fun front back split retired frame => ?_⟩
  · rw [← written, split, Event.written_append]
    rfl
  · rw [relays.counted sound, written]
  · have staged := (run_keeps step_attended first front held).1
    exact run_retired _ back staged retired frame

def pipelinedServed : List Move :=
  pipelinedMoves ++ List.replicate 5 .loop ++ List.replicate 6 .worker ++ .close :: List.replicate 20 .loop

theorem pipelined_responses_sent :
    ((accept debugConfig "client" ()).run pipelinedServed).1.position = .ended (.ok ()) ∧
    Event.upgrades ((accept debugConfig "client" ()).run pipelinedServed).2 = 1 ∧
    ((accept debugConfig "client" ()).queuesAll pipelinedServed).map (·.id) = [1, 2] ∧
    Event.written ((accept debugConfig "client" ()).run pipelinedServed).2 =
      ((accept debugConfig "client" ()).queuesAll pipelinedServed).flatMap fun out =>
        (Response.encode out.id out.response).serialize := by
  have well : ((accept debugConfig "client" ()).run pipelinedServed).1.position = .ended (.ok ()) :=
    position_of_ended_well _ (by decide +kernel)
  have sent := every_response_sent debugConfig "client" () pipelinedServed well
  refine ⟨well, ?_, ?_, sent.2.1⟩
  · decide +kernel
  · decide +kernel

end DirectoryServer.Connection
