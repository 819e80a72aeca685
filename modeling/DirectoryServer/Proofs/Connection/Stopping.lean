import DirectoryServer.Proofs.Connection.Sending

set_option autoImplicit false

/-!
The signal to stop, and the requests that wait behind the one that is served. A loop that serves drops
them if the signal is the first thing that it notices. A loop that drains looks at the signal no more.
-/
namespace DirectoryServer

def Event.started? : Event → Option Message
  | .started message => some message
  | _ => none

namespace Connection

variable {σ : Type}

inductive Notice where
  | worker
  | stop
  | stream
deriving DecidableEq

def notices? (connection : Connection σ) (move : Move) : Option Notice :=
  match move, connection.phase, connection.position with
  | .loop, .serving, .waiting .worker =>
      match connection.worker with
      | some .finished => some .worker
      | _ => none
  | .loop, .serving, .waiting .stop => if connection.stopped then some .stop else none
  | .loop, .serving, .waiting .read =>
      if connection.transport.incoming = [] ∧ connection.transport.peerClosed ∧ connection.buffer = [] then
        some .stream
      else none
  | _, _, _ => none

def firstNotice? (connection : Connection σ) : List Move → Option Notice
  | [] => none
  | move :: rest =>
      match connection.notices? move with
      | some notice => some notice
      | none => (connection.step move).1.firstNotice? rest

def started (connection : Connection σ) (moves : List Move) : List Message :=
  (connection.run moves).2.filterMap Event.started?

theorem started_cons (connection : Connection σ) (move : Move) (rest : List Move) :
    connection.started (move :: rest) =
      (connection.step move).2.filterMap Event.started? ++ (connection.step move).1.started rest := by
  simp only [started, run, List.filterMap_append]

theorem started_ended (connection : Connection σ) (moves : List Move) (ended : connection.hasEnded = true) :
    connection.started moves = [] := by
  obtain ⟨result, past⟩ := connection.position_of_has_ended ended
  rw [started, (connection.run_ended moves result past).2]
  rfl

structure Aside (before after : Connection σ) (events : List Event) : Prop where
  events : events = []
  position : after.position = before.position
  phase : after.phase = before.phase
  pending : after.pending = before.pending
  free : after.worker = none ↔ before.worker = none

theorem step_aside (connection : Connection σ) (move : Move) (aside : move ≠ .loop) :
    connection.Aside (connection.step move).1 (connection.step move).2 := by
  have steps := connection.step_cases move
  generalize connection.step move = moved at steps ⊢
  obtain ⟨next, events⟩ := moved
  cases steps with
  | loop => exact absurd rfl aside
  | around => exact ⟨rfl, rfl, rfl, rfl, Iff.rfl⟩
  | worker _ step =>
      cases step with
      | idle => exact ⟨rfl, rfl, rfl, rfl, Iff.rfl⟩
      | skip _ _ starting => exact ⟨rfl, rfl, rfl, rfl, by simp [starting]⟩
      | serve _ _ starting => exact ⟨rfl, rfl, rfl, rfl, by simp [starting]⟩
      | done _ _ serving => exact ⟨rfl, rfl, rfl, rfl, by simp [serving]⟩
      | act _ _ serving => exact ⟨rfl, rfl, rfl, rfl, by simp [serving]⟩
      | leave _ leaving => exact ⟨rfl, rfl, rfl, rfl, by simp [leaving]⟩

theorem loop_starts {connection next : Connection σ} {events : List Event}
    (step : connection.LoopStep next events) (staged : connection.Staged)
    (retired : connection.phase ≠ .serving) :
    connection.pending.map Prod.fst = events.filterMap Event.started? ++ next.pending.map Prod.fst := by
  cases step with
  | start message token rest top free waiting =>
      rw [waiting]
      rfl
  | take frame size _ taking =>
      simp only [Staged, taking] at staged
      exact absurd staged retired
  | failFrame frame size failure taking =>
      simp only [Staged, taking] at staged
      exact absurd staged retired
  | drain waiting serving => exact absurd serving retired
  | _ => rfl

theorem run_starts (connection : Connection σ) (moves : List Move) (staged : connection.Staged)
    (retired : connection.phase ≠ .serving) :
    connection.pending.map Prod.fst =
      connection.started moves ++ (connection.run moves).1.pending.map Prod.fst := by
  induction moves generalizing connection with
  | nil => rfl
  | cons move rest ih =>
      have later := ih _ (connection.step_staged move staged) (connection.step_retired move staged retired).1
      rw [started_cons, List.append_assoc, run, ← later]
      by_cases loop : move = .loop
      · subst loop
        exact loop_starts connection.step_loop_cases staged retired
      · have aside := connection.step_aside move loop
        rw [aside.events, aside.pending]
        rfl

theorem run_starts_all (connection : Connection σ) (moves : List Move)
    (held : connection.Staged ∧ connection.Attended) (retired : connection.phase ≠ .serving)
    (well : (connection.run moves).1.position = .ended (.ok ())) :
    connection.started moves = connection.pending.map Prod.fst := by
  have attended := (run_keeps step_attended connection moves held).2
  have starts := connection.run_starts moves held.1 retired
  rw [(attended.complete well).2.1, List.map_nil, List.append_nil] at starts
  exact starts.symm

theorem free_starts_next (connection : Connection σ) (moves : List Move) (message : Message)
    (token : Token) (rest : List (Message × Token)) (top : connection.position = .top)
    (free : connection.worker = none) (waits : connection.pending = (message, token) :: rest)
    (ended : (connection.run moves).1.hasEnded = true) :
    (connection.started moves).head? = some message := by
  induction moves generalizing connection with
  | nil => simp [run, stay, hasEnded, top] at ended
  | cons move later ih =>
      rw [started_cons]
      by_cases loop : move = .loop
      · subst loop
        have begins : (connection.step .loop).2 = [.started message] := by
          simp [step, stepLoop, top, begin, startNext, free, waits, isIdle]
        rw [begins]
        rfl
      · have aside := connection.step_aside move loop
        rw [aside.events]
        exact ih _ (aside.position.trans top) (aside.free.mpr free) (aside.pending.trans waits) ended

structure Engaged (connection : Connection σ) : Prop where
  serving : connection.phase = .serving
  busy : connection.worker ≠ none

theorem takes_pending {connection next : Connection σ} {frame : Frame}
    (takes : connection.Takes frame next) : connection.pending <+: next.pending := by
  cases takes with
  | abandon id target decoded => exact List.prefix_rfl
  | enqueue message decoded plain room fresh => exact List.prefix_append _ _
  | refuse id kind outcome refused =>
      obtain ⟨queue, answered⟩ := connection.answer_keeps id kind outcome
      rw [answered]
      exact List.prefix_rfl

theorem loop_unnoticed {connection next : Connection σ} {events : List Event}
    (step : connection.LoopStep next events) (engaged : connection.Engaged)
    (unnoticed : connection.notices? .loop = none) :
    events.filterMap Event.started? = [] ∧
      (next.hasEnded = true ∨ next.Engaged ∧ connection.pending <+: next.pending) := by
  cases step with
  | ended result past => exact ⟨rfl, .inl (has_ended_of_position past)⟩
  | start message token rest top free => exact absurd free engaged.busy
  | retire waiting finished => simp [notices?, engaged.serving, waiting, finished] at unnoticed
  | drain waiting serving stopped => simp [notices?, serving, waiting, stopped] at unnoticed
  | hangUp waiting serving nothing closed whole =>
      simp [notices?, serving, waiting, nothing, closed, whole] at unnoticed
  | take frame size _ taking parsed takes =>
      have little := takes_little takes
      have pending := takes_pending takes
      refine ⟨rfl, .inr ⟨⟨little.phase.trans engaged.serving, ?_⟩, pending⟩⟩
      rw [little.worker]
      exact engaged.busy
  | finish => exact ⟨rfl, .inl rfl⟩
  | fail => exact ⟨rfl, .inl rfl⟩
  | failHandshake => exact ⟨rfl, .inl rfl⟩
  | failFrame => exact ⟨rfl, .inl rfl⟩
  | _ => exact ⟨rfl, .inr ⟨⟨engaged.serving, engaged.busy⟩, List.prefix_rfl⟩⟩

theorem step_unnoticed (connection : Connection σ) (move : Move) (engaged : connection.Engaged)
    (unnoticed : connection.notices? move = none) :
    (connection.step move).2.filterMap Event.started? = [] ∧
      ((connection.step move).1.hasEnded = true ∨
        (connection.step move).1.Engaged ∧ connection.pending <+: (connection.step move).1.pending) := by
  by_cases loop : move = .loop
  · subst loop
    exact loop_unnoticed connection.step_loop_cases engaged unnoticed
  · have aside := connection.step_aside move loop
    rw [aside.events, aside.pending]
    refine ⟨rfl, .inr ⟨⟨aside.phase.trans engaged.serving, ?_⟩, List.prefix_rfl⟩⟩
    rw [ne_eq, aside.free]
    exact engaged.busy

def heed (connection : Connection σ) : Notice → Connection σ
  | .worker => { connection with worker := none, position := .top }
  | .stop => connection.drain
  | .stream => { connection with phase := .draining, position := .top }

theorem step_heeds (connection : Connection σ) (move : Move) (notice : Notice)
    (noticed : connection.notices? move = some notice) :
    connection.step move = (connection.heed notice, []) := by
  unfold notices? at noticed
  split at noticed
  · rename_i serving waiting
    split at noticed
    · cases noticed
      simp [step, stepLoop, await, *, heed, stay]
    · cases noticed
  · rename_i serving waiting
    split at noticed
    · cases noticed
      simp [step, stepLoop, await, *, heed, stay]
    · cases noticed
  · rename_i serving waiting
    split at noticed
    · rename_i gone
      obtain ⟨nothing, closed, whole⟩ := gone
      have room : maxBuffer ≠ 0 := by decide
      cases noticed
      simp [step, stepLoop, waiting, await, serving, read, room, nothing, closed, whole, heed, stay]
    · cases noticed
  · cases noticed

theorem first_notice_ended (connection : Connection σ) (moves : List Move)
    (ended : connection.hasEnded = true) : connection.firstNotice? moves = none := by
  obtain ⟨result, past⟩ := connection.position_of_has_ended ended
  induction moves generalizing connection with
  | nil => rfl
  | cons move rest ih =>
      have nothing : connection.notices? move = none := by
        unfold notices?
        split
        · rename_i waiting
          cases past.symm.trans waiting
        · rename_i waiting
          cases past.symm.trans waiting
        · rename_i waiting
          cases past.symm.trans waiting
        · rfl
      have still := (connection.step_ended move result past).1
      rw [firstNotice?, nothing]
      exact ih _ (has_ended_of_position still) still

theorem unnoticed_starts_nothing (connection : Connection σ) (moves : List Move)
    (staged : connection.Staged) (engaged : connection.Engaged)
    (first : connection.firstNotice? moves = none ∨ connection.firstNotice? moves = some .stop) :
    connection.started moves = [] := by
  induction moves generalizing connection with
  | nil => rfl
  | cons move rest ih =>
      have later := connection.step_staged move staged
      rw [started_cons]
      cases noticed : connection.notices? move with
      | none =>
          simp only [firstNotice?, noticed] at first
          obtain ⟨nothing, ended | ⟨still, _⟩⟩ := connection.step_unnoticed move engaged noticed
          · rw [nothing, started_ended _ rest ended]
            rfl
          · rw [nothing, ih _ later still first]
            rfl
      | some notice =>
          simp only [firstNotice?, noticed, Option.some.injEq, reduceCtorEq, false_or] at first
          subst first
          have dropped := connection.step_heeds move .stop noticed
          have starts := run_starts (connection.step move).1 rest later (by simp [dropped, heed, drain])
          rw [dropped] at starts ⊢
          exact (List.append_eq_nil_iff.mp starts.symm).1

theorem passed_starts_next (connection : Connection σ) (moves : List Move) (message : Message)
    (token : Token) (rest : List (Message × Token)) (held : connection.Staged ∧ connection.Attended)
    (engaged : connection.Engaged) (waits : connection.pending = (message, token) :: rest)
    (first : connection.firstNotice? moves = some .worker ∨ connection.firstNotice? moves = some .stream)
    (well : (connection.run moves).1.position = .ended (.ok ())) :
    (connection.started moves).head? = some message := by
  induction moves generalizing connection rest with
  | nil => simp [firstNotice?] at first
  | cons move later ih =>
      have next := connection.step_attended move held
      rw [started_cons]
      cases noticed : connection.notices? move with
      | none =>
          simp only [firstNotice?, noticed] at first
          obtain ⟨nothing, ended | ⟨still, more, grown⟩⟩ := connection.step_unnoticed move engaged noticed
          · simp [first_notice_ended _ later ended] at first
          · rw [nothing]
            exact ih _ (rest ++ more) next still (by rw [← grown, waits]; rfl) first well
      | some notice =>
          simp only [firstNotice?, noticed, Option.some.injEq] at first
          have heeded := connection.step_heeds move notice noticed
          simp only [run, heeded] at well next ⊢
          rcases first with rfl | rfl
          · exact free_starts_next _ later message token rest rfl rfl waits (has_ended_of_position well)
          · have retired : (connection.heed .stream).phase ≠ .serving := by simp [heed]
            have starts := run_starts_all (connection.heed .stream) later next retired well
            have same : (connection.heed .stream).pending = connection.pending := rfl
            rw [starts, same, waits]
            rfl

theorem waiting_started_unless_stop_first (config : Config σ) (peer : String) (state : σ)
    (before : List Move) (busy : ((accept config peer state).run before).1.worker ≠ none) :
    let connection := ((accept config peer state).run before).1
    let stopped := (connection.step .stop).1
    (connection.phase = .serving → ∀ later,
      (stopped.firstNotice? later = none ∨ stopped.firstNotice? later = some .stop →
        stopped.started later = []) ∧
      (stopped.firstNotice? later = some .worker ∨ stopped.firstNotice? later = some .stream →
        (stopped.run later).1.position = .ended (.ok ()) →
        ∀ message token rest, connection.pending = (message, token) :: rest →
          (stopped.started later).head? = some message)) ∧
    (connection.phase = .draining → ∀ later, (stopped.run later).1.position = .ended (.ok ()) →
      stopped.started later = connection.pending.map Prod.fst) := by
  intro connection stopped
  have held : stopped.Staged ∧ stopped.Attended :=
    step_attended _ .stop (run_keeps step_attended _ before (accept_attended config peer state))
  refine ⟨fun serving later => ⟨fun first => ?_, fun first well message token rest waits => ?_⟩,
    fun draining later well => ?_⟩
  · have engaged : stopped.Engaged := ⟨serving, busy⟩
    exact stopped.unnoticed_starts_nothing later held.1 engaged first
  · have engaged : stopped.Engaged := ⟨serving, busy⟩
    exact stopped.passed_starts_next later message token rest held engaged waits first well
  · have retired : stopped.phase ≠ .serving := by
      rw [show stopped.phase = .draining from draining]
      simp
    exact stopped.run_starts_all later held retired well

def isExecuting (connection : Connection σ) : Bool :=
  match connection.worker with
  | some (.serving _ _) => true
  | _ => false

theorem busy_of_executing (connection : Connection σ) (executing : connection.isExecuting = true) :
    connection.worker ≠ none := by
  intro free
  simp [isExecuting, free] at executing

def pairedFrames : List Frame :=
  [.array [.integer 1, .text "search", .text "hold", .integer 2, .text "(a=b)", .array []],
    .array [.integer 2, .text "delete", .text "cn=b"]]

def pairedMoves : List Move :=
  .arrive (Frame.serializeAll pairedFrames) :: List.replicate 9 .loop ++ [.worker]

theorem waiting_delete_dropped :
    ((accept debugConfig "client" ()).run pairedMoves).1.worker ≠ none ∧
    ((accept debugConfig "client" ()).run pairedMoves).1.pending.map Prod.fst = [⟨2, .delete "cn=b"⟩] ∧
    (((accept debugConfig "client" ()).run pairedMoves).1.step .stop).1.started (List.replicate 20 .loop) = [] := by
  have busy : ((accept debugConfig "client" ()).run pairedMoves).1.worker ≠ none :=
    busy_of_executing _ (by decide +kernel)
  have serving : ((accept debugConfig "client" ()).run pairedMoves).1.phase = .serving := by decide +kernel
  have started := (waiting_started_unless_stop_first debugConfig "client" () pairedMoves busy).1 serving
    (List.replicate 20 .loop)
  refine ⟨busy, ?_, started.1 (.inr ?_)⟩
  · decide +kernel
  · decide +kernel

theorem waiting_delete_started_behind_close :
    let closed := ((accept debugConfig "client" ()).run (pairedMoves ++ .close :: List.replicate 4 .loop)).1
    let stopped := (closed.step .stop).1
    closed.isExecuting = true ∧ closed.pending.map Prod.fst = [⟨2, .delete "cn=b"⟩] ∧
    (stopped.run (List.replicate 5 .loop)).1.isExecuting = true ∧
    stopped.started (List.replicate 5 .loop ++ List.replicate 9 .worker ++ List.replicate 9 .loop) =
      [⟨2, .delete "cn=b"⟩] := by
  refine ⟨?_, ?_, ?_, ?_⟩
  · decide +kernel
  · decide +kernel
  · decide +kernel
  · decide +kernel

end Connection

end DirectoryServer
