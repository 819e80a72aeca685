import DirectoryServer.Proofs.Connection.Calm
import DirectoryServer.Proofs.Message.Due

set_option autoImplicit false

namespace DirectoryServer

def Outgoing.final? (out : Outgoing) : Option (MessageId × OperationKind) :=
  out.response.kind?.map fun kind => (out.id, kind)

namespace Event

def due? : Event → Option (MessageId × OperationKind)
  | .parsed frame => frame.due?
  | _ => none

def final? : Event → Option (MessageId × OperationKind)
  | .sent out => out.final?
  | _ => none

end Event

theorem filter_map_single {α β : Type} (pick : α → Option β) (value : α) :
    [value].filterMap pick = (pick value).toList := by
  rw [List.filterMap_cons, List.filterMap_nil]
  cases pick value <;> rfl

theorem finals_of_answers (request : Request) (id : MessageId) (outs : List Outgoing)
    (answers : Answers request id outs) :
    outs.filterMap Outgoing.final? = [(id, request.kind)] := by
  obtain ⟨found, final, rfl, _, sameId, kind, _⟩ := answers
  have entries : (found.map fun entry => (⟨id, .entry entry, false⟩ : Outgoing)).filterMap
      Outgoing.final? = [] :=
    List.filterMap_eq_nil_iff.mpr fun out member => by
      obtain ⟨entry, _, rfl⟩ := List.mem_map.mp member
      rfl
  simp only [List.filterMap_append, entries, List.filterMap_cons, List.filterMap_nil, Outgoing.final?,
    kind, sameId, Option.map_some, List.nil_append]

inductive WorkerOwes {σ : Type} : Option (Worker σ) → List (MessageId × OperationKind) → Prop where
  | free : WorkerOwes none []
  | finished : WorkerOwes (some .finished) []
  | leaving (id : MessageId) : WorkerOwes (some (.leaving id)) []
  | starting (message : Message) (token : Token) :
      WorkerOwes (some (.starting message token)) [(message.id, message.request.kind)]
  | serving (id : MessageId) (work : Work σ Bool) (token : Token)
      (owed : List (MessageId × OperationKind))
      (queues : work.Queues token fun _ outs => outs.filterMap Outgoing.final? = owed) :
      WorkerOwes (some (.serving id work)) owed

namespace Connection

variable {σ : Type}

def waits (connection : Connection σ) : List (MessageId × OperationKind) :=
  connection.pending.map fun waiting => (waiting.1.id, waiting.1.request.kind)

-- Every frame parsed so far is answered, or its answer waits to be sent or to be made.
structure Owes (backend : Backend σ) (root : RootDse) (connection : Connection σ) (seen : List Event)
    (owed : List (MessageId × OperationKind)) : Prop where
  calm : connection.Calm backend root
  worker : WorkerOwes connection.worker owed
  balance : ∀ answer, (seen.filterMap Event.due?).count answer =
    (seen.filterMap Event.final?).count answer +
      (connection.outgoing.filterMap Outgoing.final?).count answer + owed.count answer +
      connection.waits.count answer

structure Settles (backend : Backend σ) (root : RootDse) (connection : Connection σ) (seen : List Event) :
    Prop where
  open_ : connection.hasEnded = false → ∃ owed, connection.Owes backend root seen owed
  past : connection.position = .ended (.ok ()) →
    (seen.filterMap Event.final?).Perm (seen.filterMap Event.due?)

theorem settles_of_owes {backend : Backend σ} {root : RootDse} {connection : Connection σ}
    {seen : List Event} {owed : List (MessageId × OperationKind)} (open_ : connection.hasEnded = false)
    (owes : connection.Owes backend root seen owed) : connection.Settles backend root seen :=
  ⟨fun _ => ⟨owed, owes⟩, fun past => by simp [has_ended_of_position past] at open_⟩

theorem answer_finals (connection : Connection σ) (id : MessageId) (kind : OperationKind)
    (outcome : Outcome) (listening : connection.session.listening = true) :
    ∃ added, connection.answer id kind outcome =
        connection.withSession
          { connection.session with queue := connection.session.queue ++ added } ∧
      added.filterMap Outgoing.final? = if kind = .abandon then [] else [(id, kind)] := by
  by_cases plain : kind = .abandon
  · subst plain
    refine ⟨[], ?_, rfl⟩
    rw [List.append_nil]
    rfl
  · obtain ⟨response, final, sameKind⟩ := kind.final_response outcome plain
    refine ⟨[⟨id, response, false⟩], ?_, ?_⟩
    · simp only [answer, final, send, Session.send, listening, if_true]
    · simp only [List.filterMap_cons, List.filterMap_nil, Outgoing.final?, sameKind, Option.map_some,
        plain, if_false]

theorem refused_due {connection : Connection σ} {frame : Frame} {id : MessageId} {kind : OperationKind}
    {outcome : Outcome} (refused : connection.Refuses frame id kind outcome) :
    frame.due? = if kind = .abandon then none else some (id, kind) := by
  cases refused with
  | busy message decoded plain full => rw [frame.due_of_decoded message decoded plain, if_neg plain]
  | inUse message decoded plain room known => rw [frame.due_of_decoded message decoded plain, if_neg plain]
  | faulty failure id decoded named => exact frame.due_of_failure failure id decoded named

theorem takes_balance {backend : Backend σ} {root : RootDse} {connection next : Connection σ}
    {frame : Frame} {size : Nat} (calm : connection.Calm backend root)
    (taking : connection.position = .taking)
    (parsed : Frame.parse connection.buffer = .ok (some (frame, size)))
    (takes : (counted { connection with buffer := connection.buffer.drop size }).Takes frame next)
    (kept : connection.givesUp = false) (answer : MessageId × OperationKind) :
    (next.outgoing.filterMap Outgoing.final?).count answer + next.waits.count answer =
      (connection.outgoing.filterMap Outgoing.final?).count answer + connection.waits.count answer +
        frame.due?.toList.count answer := by
  have before : connection.outgoing = connection.session.queue := outgoing_of_out (by rw [taking]; rfl)
  cases takes with
  | abandon id target decoded =>
      rw [abandon_absent calm.tame taking parsed decoded kept, frame.due_of_abandon id target decoded]
      rfl
  | enqueue message decoded plain room fresh =>
      rw [frame.due_of_decoded message decoded plain]
      simp only [waits, List.map_append, List.count_append, Option.toList_some]
      exact (Nat.add_assoc _ _ _).symm
  | refuse id kind outcome refused =>
      obtain ⟨added, answered, finals⟩ := answer_finals
        (counted { connection with buffer := connection.buffer.drop size }) id kind outcome calm.listening
      rw [answered, refused_due refused]
      change ((connection.position.out?.toList ++ (connection.session.queue ++ added)).filterMap
        Outgoing.final?).count answer + connection.waits.count answer = _
      rw [← List.append_assoc, List.filterMap_append, List.count_append, finals, ← outgoing]
      by_cases silent : kind = .abandon
      · rw [if_pos silent, if_pos silent, Option.toList_none, List.count_nil, Nat.add_zero, Nat.add_zero]
      · rw [if_neg silent, if_neg silent, Option.toList_some]
        omega

theorem sent_owes {backend : Backend σ} {root : RootDse} {connection next : Connection σ}
    {events seen : List Event} {owed : List (MessageId × OperationKind)} {out : Outgoing}
    {deadline : Option Nat} (owes : connection.Owes backend root seen owed)
    (calm : next.Calm backend root) (sending : connection.position = .sending out deadline)
    (due : events.filterMap Event.due? = []) (final : events.filterMap Event.final? = out.final?.toList)
    (position : next.position = connection.afterSending) (queue : next.session.queue = connection.session.queue)
    (worker : next.worker = connection.worker) (pending : next.pending = connection.pending) :
    next.Owes backend root (seen ++ events) owed := by
  refine ⟨calm, worker ▸ owes.worker, fun answer => ?_⟩
  have same := owes.balance answer
  have before : connection.outgoing.filterMap Outgoing.final? =
      out.final?.toList ++ connection.session.queue.filterMap Outgoing.final? := by
    rw [outgoing, sending, List.filterMap_append]
    exact congrArg (· ++ _) (filter_map_single Outgoing.final? out)
  have after : next.outgoing = connection.session.queue := by
    rw [outgoing_of_out (position ▸ connection.after_sending_out), queue]
  rw [before, List.count_append] at same
  rw [List.filterMap_append, List.filterMap_append, List.count_append, List.count_append, due, final,
    after, waits, pending, ← waits, List.count_nil]
  omega

theorem loop_owes {backend : Backend σ} {root : RootDse} {connection next : Connection σ}
    {events seen : List Event} {owed : List (MessageId × OperationKind)}
    (step : connection.LoopStep next events) (owes : connection.Owes backend root seen owed)
    (kept : connection.givesUp = false) (open_ : next.hasEnded = false) :
    ∃ owed, next.Owes backend root (seen ++ events) owed := by
  have calm := loop_calm step owes.calm kept open_
  have balance := owes.balance
  cases step with
  | ended => exact ⟨owed, calm, owes.worker, by simpa only [List.append_nil] using balance⟩
  | stalled => exact ⟨owed, calm, owes.worker, by simpa only [List.append_nil] using balance⟩
  | turn position deadline turns =>
      obtain ⟨before, after⟩ := turns_out turns
      refine ⟨owed, calm, owes.worker, ?_⟩
      rw [outgoing_of_out before] at balance
      rw [outgoing_of_out after, List.append_nil]
      exact balance
  | start message token rest top free waiting =>
      have idle := owes.worker
      rw [free] at idle
      cases idle
      refine ⟨_, calm, .starting message token, fun answer => ?_⟩
      have same := balance answer
      rw [outgoing_of_out (by rw [top]; rfl), waits, waiting, List.map_cons, List.count_cons,
        List.count_nil] at same
      rw [outgoing_of_out rfl, List.filterMap_append, List.filterMap_append, List.count_append,
        List.count_append, List.count_cons, List.count_nil, waits]
      simp only [List.filterMap_cons, List.filterMap_nil, Event.due?, Event.final?, List.count_nil]
      change _ = _ + (connection.session.queue.filterMap Outgoing.final?).count answer + _ + _
      dsimp only at same ⊢
      omega
  | retire waiting finished =>
      have idle := owes.worker
      rw [finished] at idle
      cases idle
      refine ⟨[], calm, .free, ?_⟩
      rw [outgoing_of_out (by rw [waiting]; rfl)] at balance
      rw [outgoing_of_out rfl, List.append_nil]
      exact balance
  | dequeue out queue deadline ready queued =>
      refine ⟨owed, calm, owes.worker, ?_⟩
      have before : connection.outgoing = out :: queue := by
        rw [← queued]
        exact outgoing_of_out (by rcases ready with waiting | flushing <;> simp [*, Position.out?])
      rw [before] at balance
      rw [List.append_nil]
      exact balance
  | drain waiting serving stopped => simp [owes.calm.unstopped] at stopped
  | hangUp waiting serving nothing closed whole =>
      refine ⟨owed, calm, owes.worker, ?_⟩
      rw [outgoing_of_out (by rw [waiting]; rfl)] at balance
      rw [outgoing_of_out rfl, List.append_nil]
      exact balance
  | receive waiting serving something =>
      refine ⟨owed, calm, owes.worker, ?_⟩
      rw [outgoing_of_out (by rw [waiting]; rfl)] at balance
      rw [outgoing_of_out rfl, List.append_nil]
      exact balance
  | take frame size _ taking parsed takes =>
      have little := takes_little takes
      refine ⟨owed, calm, little.worker ▸ owes.worker, fun answer => ?_⟩
      have same := balance answer
      have added := takes_balance owes.calm taking parsed takes kept answer
      rw [List.filterMap_append, List.filterMap_append, List.count_append, List.count_append]
      have due : [Event.parsed frame].filterMap Event.due? = frame.due?.toList :=
        filter_map_single Event.due? (.parsed frame)
      rw [due]
      simp only [List.filterMap_cons, List.filterMap_nil, Event.final?, List.count_nil]
      omega
  | sent out deadline sending =>
      exact ⟨owed, sent_owes owes calm sending rfl (filter_map_single Event.final? (.sent out)) rfl rfl rfl rfl⟩
  | secure out deadline sending =>
      have final : [Event.sent out, .secured].filterMap Event.final? = out.final?.toList := by
        cases kind : out.final? <;> simp [Event.final?, kind]
      exact ⟨owed, sent_owes owes calm sending rfl final rfl rfl rfl rfl⟩
  | finish => cases open_
  | fail => cases open_
  | failHandshake => cases open_
  | failFrame => cases open_

theorem worker_owes {backend : Backend σ} {root : RootDse} {connection next : Connection σ}
    {seen : List Event} {owed : List (MessageId × OperationKind)} (detached : backend.Detached)
    (step : connection.WorkerStep next) (owes : connection.Owes backend root seen owed) :
    ∃ owed, next.Owes backend root seen owed := by
  have calm := worker_calm detached step owes.calm
  have owing := owes.worker
  cases step with
  | idle => exact ⟨owed, owes⟩
  | skip message token starting raised => simp [unraised_of_calm owes.calm token] at raised
  | serve message token starting =>
      have plain : message.request.kind ≠ .abandon := owes.calm.tame.quiet _ starting
      rw [starting] at owing
      cases owing
      refine ⟨_, calm, .serving message.id _ token _ ?_, owes.balance⟩
      refine Work.queues_mono _ token (fun _ outs answers => ?_)
        (RouteTable.default_answers _ backend root message.request message.id token owes.calm.tame.routes plain)
      exact finals_of_answers message.request message.id outs answers
  | done id value serving =>
      rw [serving] at owing
      cases owing with
      | serving _ _ token _ queues =>
          refine ⟨[], calm, .leaving id, ?_⟩
          have nothing : [] = owed := queues
          rw [nothing]
          exact owes.balance
  | act id work serving unfinished =>
      rw [serving] at owing
      cases owing with
      | serving _ _ token _ queues =>
          obtain ⟨now, queued, later⟩ := work.queues_step connection.scene token queues
            (owes.calm.tame.quiet _ serving) owes.calm.listening (unraised_of_calm owes.calm token)
          -- What is queued now comes off the front of `owed`; the rest of the work owes the rest.
          obtain ⟨_, split⟩ := Work.play_queues _ token connection.scene.outlook later
          rw [List.filterMap_append] at split
          refine ⟨owed.drop (now.filterMap Outgoing.final?).length, calm, .serving id _ token _ ?_, ?_⟩
          · refine Work.queues_mono _ token (fun _ outs finals => ?_) later
            rw [← finals, List.filterMap_append, List.drop_left]
          · intro answer
            have same := owes.balance answer
            change _ = connection.session.queue ++ now at queued
            change _ = _ + ((connection.position.out?.toList ++
              (work.step connection.scene).2.session.queue).filterMap Outgoing.final?).count answer + _ + _
            rw [queued, ← List.append_assoc, List.filterMap_append, List.count_append]
            rw [outgoing, ← split, List.count_append] at same
            rw [← split, List.drop_left]
            change _ = _ + _ + _ + connection.waits.count answer
            omega
  | leave id leaving =>
      rw [leaving] at owing
      cases owing
      exact ⟨[], calm, .finished, owes.balance⟩

theorem finish_settles {backend : Backend σ} {root : RootDse} {connection : Connection σ}
    {seen : List Event} {owed : List (MessageId × OperationKind)}
    (owes : connection.Owes backend root seen owed) (queued : connection.session.queue = [])
    (flushing : connection.position = .flushing) :
    (seen.filterMap Event.final?).Perm (seen.filterMap Event.due?) := by
  have staged := owes.calm.staged
  simp only [Staged, flushing] at staged
  obtain ⟨_, free, idle⟩ := staged
  have owing := owes.worker
  rw [free] at owing
  cases owing
  refine List.perm_iff_count.mpr fun answer => ?_
  have same := owes.balance answer
  rw [outgoing_of_out (by rw [flushing]; rfl), queued, waits, idle] at same
  simp only [List.filterMap_nil, List.map_nil, List.count_nil, Nat.add_zero] at same
  exact same.symm

theorem step_settles {backend : Backend σ} {root : RootDse} (detached : backend.Detached)
    (connection : Connection σ) (seen : List Event) (move : Move)
    (allowed : connection.Undisturbed move) (settles : connection.Settles backend root seen) :
    (connection.step move).1.Settles backend root (seen ++ (connection.step move).2) := by
  by_cases past : connection.hasEnded = true
  · obtain ⟨result, position⟩ := connection.position_of_has_ended past
    obtain ⟨still, silent⟩ := connection.step_ended move result position
    rw [silent, List.append_nil]
    refine ⟨fun open_ => by simp [has_ended_of_position still] at open_, fun well => ?_⟩
    exact settles.past (position.trans (still.symm.trans well))
  · have open_ : connection.hasEnded = false := Bool.eq_false_iff.mpr past
    obtain ⟨owed, owes⟩ := settles.open_ open_
    have calm := connection.step_calm detached move allowed owes.calm
    have steps := connection.step_cases move
    generalize connection.step move = moved at steps calm ⊢
    obtain ⟨next, events⟩ := moved
    cases steps with
    | loop _ _ step =>
        refine ⟨loop_owes step owes allowed, fun well => ?_⟩
        obtain ⟨flushing, queued, rfl⟩ := ends_well step open_ well
        rw [List.filterMap_append, List.filterMap_append]
        exact (finish_settles owes queued flushing).append .nil
    | worker _ step =>
        rw [List.append_nil]
        have same : next.hasEnded = false := by rw [hasEnded, worker_position step, ← hasEnded, open_]
        exact settles_of_owes same (worker_owes detached step owes).choose_spec
    | around _ transport now stopped outside told =>
        rw [List.append_nil]
        exact settles_of_owes open_ ⟨calm open_, owes.worker, owes.balance⟩

theorem accept_settles (config : Config σ) (peer : String) (state : σ) (backend : Backend σ)
    (root : RootDse) (routes : config.routes = RouteTable.default backend root) :
    (accept config peer state).Settles backend root [] :=
  settles_of_owes rfl ⟨accept_calm config peer state backend root routes, .free, fun _ => rfl⟩

theorem every_frame_answered_once (backend : Backend σ) (root : RootDse) (config : Config σ) (peer : String)
    (state : σ) (moves : List Move) (detached : backend.Detached)
    (routes : config.routes = RouteTable.default backend root)
    (undisturbed : Follows Undisturbed (accept config peer state) moves)
    (well : ((accept config peer state).run moves).1.position = .ended (.ok ())) :
    let events := ((accept config peer state).run moves).2
    (∀ id, (events.filterMap Event.final?).countP (·.1 = id) = (events.filterMap Event.due?).countP (·.1 = id)) ∧
      (events.filterMap Event.final?).Perm (events.filterMap Event.due?) := by
  intro events
  have start := accept_settles config peer state backend root routes
  have settles := follows_keeps (step_settles detached) _ [] moves undisturbed start
  have answered : (events.filterMap Event.final?).Perm (events.filterMap Event.due?) := settles.past well
  exact ⟨fun id => answered.countP_eq _, answered⟩

def mixedFrames : List Frame :=
  [.array [.integer 1, .text "delete", .text "cn=a"], .array [.integer 1, .text "delete", .text "cn=b"],
    .array [.integer 2, .text "rename"], .array [.integer 3, .text "add"],
    .array [.integer 4, .text "abandon", .integer 9]]

def mixedMoves : List Move :=
  .arrive (Frame.serializeAll mixedFrames) :: List.replicate 14 .loop ++ List.replicate 6 .worker ++
    .close :: List.replicate 40 .loop

theorem mixed_frames_answered_once :
    (∀ base filter attributes state,
      ((Backend.debug Unit).search base filter attributes state).1.abandons = []) ∧
    debugConfig.routes = RouteTable.default (Backend.debug Unit) { namingContext := "o=x" } ∧
    Follows Undisturbed (accept debugConfig "client" ()) mixedMoves ∧
    ((accept debugConfig "client" ()).run mixedMoves).1.position = .ended (.ok ()) ∧
    ((accept debugConfig "client" ()).run mixedMoves).2.filterMap Event.due? =
      [(1, .delete), (1, .delete), (2, .extended), (3, .add)] ∧
    (((accept debugConfig "client" ()).run mixedMoves).2.filterMap Event.final?).Perm
      (((accept debugConfig "client" ()).run mixedMoves).2.filterMap Event.due?) := by
  have undisturbed : Follows Undisturbed (accept debugConfig "client" ()) mixedMoves := by decide +kernel
  have well : ((accept debugConfig "client" ()).run mixedMoves).1.position = .ended (.ok ()) :=
    position_of_ended_well _ (by decide +kernel)
  refine ⟨fun _ _ _ _ => rfl, rfl, undisturbed, well, by decide +kernel, ?_⟩
  exact (every_frame_answered_once (Backend.debug Unit) { namingContext := "o=x" } debugConfig "client" ()
    mixedMoves (fun _ _ _ _ => rfl) rfl undisturbed well).2

end Connection

end DirectoryServer
