import DirectoryServer.CommandLine
import DirectoryServer.Proofs.Connection.Delivery
import DirectoryServer.Proofs.Connection.Serving

set_option autoImplicit false

namespace DirectoryServer.Connection

variable {σ : Type}

section Moves

variable {backend : Backend σ} {root : RootDse} {expected : List Outgoing} {ahead : Bytes}
  {rest : List Message} {seen events : List Event} {connection next : Connection σ} {move : Move}

theorem around_cases (connection : Connection σ) (outside : move ≠ .loop ∧ move ≠ .worker)
    (mild : move.Mild) :
    ∃ closed now, (closed = connection.transport.peerClosed ∨ closed = true ∧ move = .close) ∧
      connection.step move =
        ({ connection with
            transport := { connection.transport with
              incoming := connection.transport.incoming ++ move.octets, peerClosed := closed }
            now }, []) := by
  cases move with
  | loop => exact absurd rfl outside.1
  | worker => exact absurd rfl outside.2
  | arrive bytes => exact ⟨_, connection.now, .inl rfl, rfl⟩
  | close =>
      refine ⟨true, connection.now, .inr ⟨rfl, rfl⟩, ?_⟩
      rw [Move.octets, List.append_nil]
      · rfl
      · nofun
  | wait milliseconds =>
      refine ⟨_, connection.now + milliseconds, .inl rfl, ?_⟩
      rw [Move.octets, List.append_nil]
      · rfl
      · nofun
  | stop => exact mild.elim
  | failReads fault => exact mild.elim
  | failWrites fault => exact mild.elim
  | stallWrites => exact mild.elim

theorem around_serves {later : Bytes} (outside : move ≠ .loop ∧ move ≠ .worker) (mild : move.Mild)
    (arrives : ahead = move.octets ++ later) (last : move = .close → later = [])
    (serves : connection.Serves backend root expected ahead rest seen) :
    (connection.step move).1.Serves backend root expected later rest (seen ++ (connection.step move).2) := by
  obtain ⟨closed, now, closes, step⟩ := connection.around_cases outside mild
  rw [step, List.append_nil]
  have calm := serves.calm
  have tame := calm.tame
  have open_ := serves.unhindered
  have fed := serves.fed
  refine ⟨serves.open_, ⟨⟨tame.routes, tame.plain, tame.quiet⟩, calm.staged, calm.unstopped, calm.unraised,
    calm.listening⟩, ⟨open_.writable, open_.readable, open_.moving, open_.untimed, open_.unset⟩, ?_, serves.sends⟩
  refine ⟨?_, fed.small, fed.returns, fed.plain, fed.distinct, fed.fresh, fed.room, fed.short, ?_,
    fed.drained, fed.phase⟩
  · rw [List.append_assoc, ← arrives]
    exact fed.stream
  · intro past
    rcases closes with same | ⟨_, closing⟩
    · have nothing := fed.closed (same.symm.trans past)
      rw [arrives] at nothing
      exact (List.append_eq_nil_iff.mp nothing).2
    · exact last closing

theorem loop_peer_closed (step : connection.LoopStep next events)
    (closed : connection.transport.peerClosed = true) : next.transport.peerClosed = true := by
  cases step with
  | take frame size _ taking parsed takes =>
      rw [(takes_little takes).transport]
      exact closed
  | _ => exact closed

theorem worker_peer_closed (step : connection.WorkerStep next)
    (closed : connection.transport.peerClosed = true) : next.transport.peerClosed = true := by
  cases step <;> exact closed

inductive Brings (before : Connection σ) (rest : List Message) (move : Move) (after : Connection σ)
    (behind : List Message) : Prop where
  | less (less : after.backlog behind < before.backlog rest)
  | nearer (backlog : after.backlog behind = before.backlog rest) (effort : after.effort < before.effort)
  | aside (backlog : after.backlog behind = before.backlog rest) (effort : after.effort = before.effort)
      (awaited : after.awaited = before.awaited) (other : move ≠ before.awaited)

structure Late (backend : Backend σ) (root : RootDse) (expected : List Outgoing) (rest : List Message)
    (seen : List Event) (connection : Connection σ) : Prop where
  serves : connection.Serves backend root expected [] rest seen
  closed : connection.transport.peerClosed = true

theorem loop_brings {behind : List Message} (advances : connection.Advances rest next behind)
    (closed : connection.transport.peerClosed = true) : connection.Brings rest .loop next behind := by
  cases advances with
  | less less => exact .less less
  | turn backlog toil nearer =>
      by_cases idle : connection.toil = 0
      · refine .nearer backlog ?_
        simp only [effort, toil, idle, if_true]
        exact nearer idle closed
      · refine .aside backlog ?_ ?_ ?_
        · simp only [effort, toil, idle, if_false]
        · simp only [awaited, toil]
        · simp [awaited, idle]

theorem worker_brings (step : connection.WorkerStep next) (calm : connection.Calm backend root)
    (backlog : next.backlog rest = connection.backlog rest) : connection.Brings rest .worker next rest := by
  rcases worker_toils step calm with ⟨idle, rfl⟩ | less
  · refine .aside rfl rfl rfl ?_
    simp [awaited, idle]
  · exact .nearer backlog (effort_less less)

theorem around_brings (outside : move ≠ .loop ∧ move ≠ .worker) (mild : move.Mild)
    (silent : move.octets = []) : connection.Brings rest move (connection.step move).1 rest := by
  obtain ⟨closed, now, _, step⟩ := connection.around_cases outside mild
  rw [step, silent, List.append_nil]
  refine .aside rfl rfl rfl ?_
  unfold awaited
  split
  · exact outside.1
  · exact outside.2

theorem late_step (detached : backend.Detached) (plain : ∀ out ∈ expected, out.upgrade = false)
    (mild : move.Mild) (silent : move.octets = [])
    (late : connection.Late backend root expected rest seen) :
    ((connection.step move).1.position = .ended (.ok ()) ∧
        (seen ++ (connection.step move).2).filterMap Event.out? = expected) ∨
      ∃ behind, (connection.step move).1.Late backend root expected behind (seen ++ (connection.step move).2) ∧
        connection.Brings rest move (connection.step move).1 behind := by
  by_cases loop : move = .loop
  · subst loop
    have step := connection.step_loop_cases
    rcases loop_serves step late.serves plain with ended | ⟨behind, still, advances⟩
    · exact .inl ended
    · exact .inr ⟨behind, ⟨still, loop_peer_closed step late.closed⟩, loop_brings advances late.closed⟩
  by_cases worker : move = .worker
  · subst worker
    have step := connection.step_worker_cases
    obtain ⟨still, backlog⟩ := worker_serves detached step late.serves
    exact .inr ⟨rest, ⟨serves_behind rfl still, worker_peer_closed step late.closed⟩,
      worker_brings step late.serves.calm backlog⟩
  · have outside : move ≠ .loop ∧ move ≠ .worker := ⟨loop, worker⟩
    have still := around_serves outside mild (by rw [silent, List.append_nil]) (fun _ => rfl) late.serves
    refine .inr ⟨rest, ⟨still, ?_⟩, around_brings outside mild silent⟩
    obtain ⟨closed, now, closes, step⟩ := connection.around_cases outside mild
    rw [step]
    rcases closes with same | ⟨past, _⟩
    · exact same.trans late.closed
    · exact past

end Moves

def reached (connection : Connection σ) (moves : Nat → Move) (count : Nat) : Moved σ :=
  connection.run ((List.range count).map moves)

theorem reached_succ (connection : Connection σ) (moves : Nat → Move) (count : Nat) :
    connection.reached moves (count + 1) =
      (((connection.reached moves count).1.step (moves count)).1,
        (connection.reached moves count).2 ++ ((connection.reached moves count).1.step (moves count)).2) := by
  simp only [reached, List.range_succ, List.map_append, List.map_cons, List.map_nil, run_append, run, stay,
    List.append_nil]

theorem reached_ended (connection : Connection σ) (moves : Nat → Move) (count more : Nat)
    (result : Except ConnectionError Unit)
    (past : (connection.reached moves count).1.position = .ended result) :
    (connection.reached moves (count + more)).1.position = .ended result ∧
      (connection.reached moves (count + more)).2 = (connection.reached moves count).2 := by
  induction more with
  | zero => exact ⟨past, rfl⟩
  | succ more ih =>
      obtain ⟨still, seen⟩ := ih
      obtain ⟨last, silent⟩ := step_ended _ (moves (count + more)) result still
      rw [← Nat.add_assoc, reached_succ, silent, List.append_nil]
      exact ⟨last, seen⟩

section Runs

variable {backend : Backend σ} {root : RootDse} {expected : List Outgoing} {stream : Bytes}
  {moves : Nat → Move} {start : Connection σ}

def Completes (start : Connection σ) (moves : Nat → Move) (expected : List Outgoing) : Prop :=
  ∃ count, (start.reached moves count).1.position = .ended (.ok ()) ∧
    (start.reached moves count).2.filterMap Event.out? = expected

theorem reached_serves {messages : List Message} (detached : backend.Detached)
    (plain : ∀ out ∈ expected, out.upgrade = false) (delivers : Move.Delivers stream moves)
    (serves : start.Serves backend root expected stream messages []) (count : Nat) :
    start.Completes moves expected ∨
      ∃ ahead rest, Move.arrived moves count ++ ahead = stream ∧
        (start.reached moves count).1.Serves backend root expected ahead rest (start.reached moves count).2 := by
  induction count with
  | zero => exact .inr ⟨stream, messages, rfl, serves⟩
  | succ count ih =>
      rcases ih with done | ⟨ahead, rest, arrived, serves⟩
      · exact .inl done
      obtain ⟨later, arrives⟩ := Move.delivers_front delivers (count + 1)
      rw [Move.arrived_succ, List.append_assoc] at arrives
      have ahead_ : ahead = (moves count).octets ++ later := List.append_cancel_left (arrived.trans arrives.symm)
      have front : Move.arrived moves (count + 1) ++ later = stream := by
        rw [Move.arrived_succ, List.append_assoc, arrives]
      by_cases loop : moves count = .loop
      · have same : ahead = later := by
          rw [ahead_, loop]
          rfl
        rw [same] at serves
        rcases loop_serves (step_loop_cases _) serves plain with ended | ⟨behind, still, _⟩
        · refine .inl ⟨count + 1, ?_⟩
          rw [reached_succ, loop]
          exact ended
        · refine .inr ⟨later, behind, front, ?_⟩
          rw [reached_succ, loop]
          exact still
      by_cases worker : moves count = .worker
      · have same : ahead = later := by
          rw [ahead_, worker]
          rfl
        rw [same] at serves
        have still := (worker_serves detached (step_worker_cases _) serves).1
        refine .inr ⟨later, rest, front, ?_⟩
        rw [reached_succ, worker]
        exact serves_behind rfl still
      · refine .inr ⟨later, rest, front, ?_⟩
        rw [reached_succ]
        refine around_serves ⟨loop, worker⟩ (delivers.mild count) ahead_ (fun closing => ?_) serves
        have all := delivers.whole count closing (count + 1) (Nat.le_succ count)
        rw [all] at front
        exact List.append_right_eq_self.mp front

structure Drains (backend : Backend σ) (root : RootDse) (expected : List Outgoing) (start : Connection σ)
    (moves : Nat → Move) (rest : List Message) (count : Nat) : Prop where
  silent : ∀ later, count ≤ later → (moves later).octets = []
  late : (start.reached moves count).1.Late backend root expected rest (start.reached moves count).2

theorem drains_step {rest : List Message} {count : Nat} (detached : backend.Detached)
    (plain : ∀ out ∈ expected, out.upgrade = false) (delivers : Move.Delivers stream moves)
    (drains : Drains backend root expected start moves rest count) :
    start.Completes moves expected ∨
      ∃ behind, Drains backend root expected start moves behind (count + 1) ∧
        Brings (start.reached moves count).1 rest (moves count) (start.reached moves (count + 1)).1 behind := by
  have silent := drains.silent count (Nat.le_refl _)
  rcases late_step detached plain (delivers.mild count) silent drains.late with ended | ⟨behind, late, brings⟩
  · refine .inl ⟨count + 1, ?_⟩
    rw [reached_succ]
    exact ended
  · refine .inr ⟨behind, ⟨fun later after => drains.silent later (Nat.le_of_succ_le after), ?_⟩, ?_⟩
    · rw [reached_succ]
      exact late
    · rw [reached_succ]
      exact brings

-- The induction is on how long the awaited move takes to come; other moves may do its work.
theorem drains_awaited {rest : List Message} {count : Nat} (wait : Nat) (detached : backend.Detached)
    (plain : ∀ out ∈ expected, out.upgrade = false) (delivers : Move.Delivers stream moves)
    (drains : Drains backend root expected start moves rest count)
    (comes : moves (count + wait) = (start.reached moves count).1.awaited) :
    start.Completes moves expected ∨
      ∃ later behind, Drains backend root expected start moves behind later ∧
        ((start.reached moves later).1.backlog behind < (start.reached moves count).1.backlog rest ∨
          (start.reached moves later).1.backlog behind = (start.reached moves count).1.backlog rest ∧
          (start.reached moves later).1.effort < (start.reached moves count).1.effort) := by
  induction wait generalizing rest count with
  | zero =>
      rcases drains_step detached plain delivers drains with done | ⟨behind, next, brings⟩
      · exact .inl done
      refine .inr ⟨count + 1, behind, next, ?_⟩
      cases brings with
      | less less => exact .inl less
      | nearer backlog effort => exact .inr ⟨backlog, effort⟩
      | aside backlog effort awaited other => exact absurd comes other
  | succ wait ih =>
      rcases drains_step detached plain delivers drains with done | ⟨behind, next, brings⟩
      · exact .inl done
      cases brings with
      | less less => exact .inr ⟨count + 1, behind, next, .inl less⟩
      | nearer backlog effort => exact .inr ⟨count + 1, behind, next, .inr ⟨backlog, effort⟩⟩
      | aside backlog effort awaited other =>
          have comes_ : moves (count + 1 + wait) = (start.reached moves (count + 1)).1.awaited := by
            rw [awaited, ← comes, Nat.add_assoc, Nat.add_comm 1 wait]
          rw [← backlog, ← effort]
          exact ih next comes_

theorem awaited_comes (delivers : Move.Delivers stream moves) (connection : Connection σ) (count : Nat) :
    ∃ wait, moves (count + wait) = connection.awaited := by
  unfold awaited
  split
  · exact delivers.loops count
  · exact delivers.works count

theorem drains_lessens {rest : List Message} {count : Nat} (effort : Nat) (detached : backend.Detached)
    (plain : ∀ out ∈ expected, out.upgrade = false) (delivers : Move.Delivers stream moves)
    (drains : Drains backend root expected start moves rest count)
    (same : (start.reached moves count).1.effort = effort) :
    start.Completes moves expected ∨
      ∃ later behind, Drains backend root expected start moves behind later ∧
        (start.reached moves later).1.backlog behind < (start.reached moves count).1.backlog rest := by
  induction effort using Nat.strongRecOn generalizing rest count with
  | ind effort ih =>
      obtain ⟨wait, comes⟩ := awaited_comes delivers (start.reached moves count).1 count
      rcases drains_awaited wait detached plain delivers drains comes with
        done | ⟨later, behind, next, less | ⟨backlog, nearer⟩⟩
      · exact .inl done
      · exact .inr ⟨later, behind, next, less⟩
      · rw [← backlog]
        exact ih _ (same ▸ nearer) next rfl

theorem drains_complete {rest : List Message} {count : Nat} (backlog : Nat) (detached : backend.Detached)
    (plain : ∀ out ∈ expected, out.upgrade = false) (delivers : Move.Delivers stream moves)
    (drains : Drains backend root expected start moves rest count)
    (same : (start.reached moves count).1.backlog rest = backlog) : start.Completes moves expected := by
  induction backlog using Nat.strongRecOn generalizing rest count with
  | ind backlog ih =>
      rcases drains_lessens _ detached plain delivers drains rfl with done | ⟨later, behind, next, less⟩
      · exact done
      · exact ih _ (same ▸ less) next rfl

theorem delivers_complete {messages : List Message} (detached : backend.Detached)
    (plain : ∀ out ∈ expected, out.upgrade = false) (delivers : Move.Delivers stream moves)
    (serves : start.Serves backend root expected stream messages []) : start.Completes moves expected := by
  obtain ⟨closing, closes⟩ := delivers.closes
  rcases reached_serves detached plain delivers serves (closing + 1) with done | ⟨ahead, rest, front, still⟩
  · exact done
  have all := delivers.whole closing closes (closing + 1) (Nat.le_succ closing)
  rw [all] at front
  rw [List.append_right_eq_self.mp front] at still
  have closed : (start.reached moves (closing + 1)).1.transport.peerClosed = true := by
    rw [reached_succ, closes]
    rfl
  have silent : ∀ later, closing + 1 ≤ later → (moves later).octets = [] := fun later behind =>
    Move.delivers_silent delivers closes later (Nat.le_of_succ_le behind)
  exact drains_complete _ detached plain delivers ⟨silent, still, closed⟩ rfl

end Runs

theorem accept_serves {backend : Backend σ} {root : RootDse} (config : Config σ) (peer : String) (state : σ)
    (messages : List Message) (routes : config.routes = RouteTable.default backend root)
    (untimed : config.readTimeout = none) (few : messages.length ≤ maxPending)
    (distinct : (messages.map (·.id)).Nodup) (plain : ∀ message ∈ messages, message.Plain)
    (returns : ∀ message ∈ messages, message.Returns)
    (small : (messages.flatMap Message.octets).length < maxBuffer) :
    (accept config peer state).Serves backend root ((accept config peer state).left messages)
      (messages.flatMap Message.octets) messages [] where
  open_ := rfl
  calm := accept_calm config peer state backend root routes
  unhindered := ⟨rfl, rfl, rfl, untimed, rfl⟩
  fed := {
    stream := rfl
    small := small
    returns := returns
    plain := fun message member => (plain message member).answered
    distinct := distinct
    fresh := fun _ _ => rfl
    room := by
      rw [accept, List.length_nil, Nat.zero_add]
      exact few
    short := fun _ => rfl
    closed := nofun
    drained := nofun
    phase := nofun }
  sends := rfl

theorem choice_detached (choice : BackendChoice) : choice.backend.Detached := by
  cases choice with
  | ldif => exact fun _ _ _ _ => rfl
  | debug => exact fun _ _ _ _ => rfl

theorem served_in_turn (config : Config σ) (peer : String) (state : σ) (backend : Backend σ) (root : RootDse)
    (messages : List Message) (moves : Nat → Move) (routes : config.routes = RouteTable.default backend root)
    (detached : backend.Detached) (untimed : config.readTimeout = none)
    (few : messages.length ≤ maxPending) (distinct : (messages.map (·.id)).Nodup)
    (plain : ∀ message ∈ messages, message.Plain) (returns : ∀ message ∈ messages, message.Returns)
    (small : (messages.flatMap Message.octets).length < maxBuffer)
    (delivers : Move.Delivers (messages.flatMap Message.octets) moves) :
    ∃ count, ∀ later, count ≤ later →
      ((accept config peer state).reached moves later).1.position = .ended (.ok ()) ∧
        Event.written ((accept config peer state).reached moves later).2 =
          (config.routes.serveInTurn messages (accept config peer state).scene).session.queue.flatMap
            fun out => (Response.encode out.id out.response).serialize := by
  have serves := accept_serves config peer state messages routes untimed few distinct plain returns small
  have queue := config.routes.serve_in_turn_queue backend root messages (accept config peer state).scene routes
    detached plain rfl rfl
  have unsecured := config.routes.play_in_turn_plain backend root
    (RouteTable.numbered (accept config peer state).session.registry.issued messages)
    (accept config peer state).scene.outlook routes
    (fun entry member => plain _ (RouteTable.mem_numbered messages _ entry member))
  obtain ⟨count, ended, sends⟩ := delivers_complete detached unsecured delivers serves
  refine ⟨count, fun later behind => ?_⟩
  obtain ⟨more, rfl⟩ := Nat.exists_eq_add_of_le behind
  obtain ⟨still, seen⟩ := (accept config peer state).reached_ended moves count more (.ok ()) ended
  refine ⟨still, ?_⟩
  rw [seen, Event.written_eq, sends, queue]
  rfl

def turnMessages : List Message :=
  [⟨7, .delete "cn=a"⟩, ⟨3, .extended whoAmIName none⟩]

-- The first read ends inside the first request.
def turnMoves : List Move :=
  .arrive ((turnMessages.flatMap Message.octets).take 9) :: List.replicate 8 .loop ++
    [.worker, .arrive ((turnMessages.flatMap Message.octets).drop 9)]

theorem split_requests_served_in_turn :
    debugConfig.routes = RouteTable.default (Backend.debug Unit) { namingContext := "o=x" } ∧
    (Backend.debug Unit).Detached ∧ debugConfig.readTimeout = none ∧ turnMessages.length ≤ maxPending ∧
    (turnMessages.map (·.id)).Nodup ∧ (∀ message ∈ turnMessages, message.Plain) ∧
    (∀ message ∈ turnMessages, message.Returns) ∧
    (turnMessages.flatMap Message.octets).length < maxBuffer ∧
    Move.Delivers (turnMessages.flatMap Message.octets) (Move.ending turnMoves) ∧
    ∃ count, ∀ later, count ≤ later →
      ((accept debugConfig "client" ()).reached (Move.ending turnMoves) later).1.position = .ended (.ok ()) ∧
        Event.written ((accept debugConfig "client" ()).reached (Move.ending turnMoves) later).2 =
          (debugConfig.routes.serveInTurn turnMessages
            (accept debugConfig "client" ()).scene).session.queue.flatMap
              fun out => (Response.encode out.id out.response).serialize := by
  have detached : (Backend.debug Unit).Detached := fun _ _ _ _ => rfl
  have distinct : (turnMessages.map (·.id)).Nodup := by decide
  have plain : ∀ message ∈ turnMessages, message.Plain := by
    simp only [turnMessages, List.forall_mem_cons]
    exact ⟨⟨nofun, nofun⟩, ⟨nofun, fun value => by simp [whoAmIName, startTlsName]⟩, nofun⟩
  have returns : ∀ message ∈ turnMessages, message.Returns := by
    simp only [turnMessages, List.forall_mem_cons]
    exact ⟨⟨_, rfl, rfl⟩, ⟨_, rfl, rfl⟩, nofun⟩
  have small : (turnMessages.flatMap Message.octets).length < maxBuffer := by decide +kernel
  have delivers : Move.Delivers (turnMessages.flatMap Message.octets) (Move.ending turnMoves) := by
    refine Move.ending_delivers turnMoves ?_ ?_
    · simp [turnMoves, Move.Mild]
    · simp [turnMoves]
  exact ⟨rfl, detached, rfl, by decide, distinct, plain, returns, small, delivers,
    served_in_turn debugConfig "client" () (Backend.debug Unit) { namingContext := "o=x" } turnMessages
      (Move.ending turnMoves) rfl detached rfl (by decide) distinct plain returns small delivers⟩

end DirectoryServer.Connection
