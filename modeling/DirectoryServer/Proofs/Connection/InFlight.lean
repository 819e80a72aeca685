import DirectoryServer.Proofs.Connection.Calm

set_option autoImplicit false

namespace DirectoryServer

def Worker.held? {σ : Type} : Worker σ → Option MessageId
  | .starting message _ => some message.id
  | .serving id _ => some id
  | .leaving id => some id
  | .finished => none

namespace Connection

variable {σ : Type}

def accepted (connection : Connection σ) : List MessageId :=
  (connection.worker.bind Worker.held?).toList ++ connection.pending.map (·.1.id)

structure Accounted (connection : Connection σ) : Prop where
  keys : (connection.session.registry.inFlight.map Prod.fst).Perm connection.accepted
  distinct : connection.accepted.Nodup
  bounded : connection.pending.length ≤ maxPending
  tokens : ∀ waiting ∈ connection.pending,
    connection.session.registry.token? waiting.1.id = some waiting.2

-- The invariant behind `Accounted`: it speaks of the entries of the registry, which
-- a lookup only reaches because no id stands twice.
structure Balanced (connection : Connection σ) : Prop where
  keys : (connection.session.registry.inFlight.map Prod.fst).Perm connection.accepted
  distinct : connection.accepted.Nodup
  bounded : connection.pending.length ≤ maxPending
  entries : ∀ waiting ∈ connection.pending,
    (waiting.1.id, waiting.2) ∈ connection.session.registry.inFlight

theorem balanced_accounted (connection : Connection σ) (balanced : connection.Balanced) :
    connection.Accounted where
  keys := balanced.keys
  distinct := balanced.distinct
  bounded := balanced.bounded
  tokens waiting member :=
    Registry.token_of_mem _ _ _ (balanced.keys.nodup_iff.mpr balanced.distinct)
      (balanced.entries waiting member)

theorem balanced_of_same {connection next : Connection σ} (balanced : connection.Balanced)
    (inFlight : next.session.registry.inFlight = connection.session.registry.inFlight)
    (pending : next.pending = connection.pending)
    (held : next.worker.bind Worker.held? = connection.worker.bind Worker.held?) :
    next.Balanced := by
  have accepted : next.accepted = connection.accepted := by simp only [Connection.accepted, pending, held]
  refine ⟨?_, ?_, ?_, ?_⟩
  · rw [inFlight, accepted]
    exact balanced.keys
  · rw [accepted]
    exact balanced.distinct
  · rw [pending]
    exact balanced.bounded
  · rw [inFlight, pending]
    exact balanced.entries

theorem drain_balanced (connection : Connection σ) (balanced : connection.Balanced) :
    connection.drain.Balanced := by
  have inFlight : connection.drain.session.registry.inFlight =
      connection.session.registry.inFlight.filter (fun entry => entry.1 ∉ connection.pending.map (·.1.id)) :=
    Registry.complete_all_in_flight connection.pending connection.session.registry
  have keys : (connection.drain.session.registry.inFlight.map Prod.fst).Perm
      (connection.accepted.filter (fun id => id ∉ connection.pending.map (·.1.id))) := by
    have mapped := balanced.keys.filter (fun id => id ∉ connection.pending.map (·.1.id))
    rw [List.filter_map] at mapped
    rw [inFlight]
    exact mapped
  have kept : connection.accepted.filter (fun id => id ∉ connection.pending.map (·.1.id)) =
      connection.drain.accepted := by
    have apart := (List.nodup_append.mp balanced.distinct).2.2
    have held : (connection.worker.bind Worker.held?).toList.filter
        (fun id => id ∉ connection.pending.map (·.1.id)) =
          (connection.worker.bind Worker.held?).toList :=
      List.filter_eq_self.mpr fun id member => decide_eq_true fun waiting => apart id member id waiting rfl
    have waiting : (connection.pending.map (·.1.id)).filter
        (fun id => id ∉ connection.pending.map (·.1.id)) = [] :=
      List.filter_eq_nil_iff.mpr (by simp)
    simp only [accepted, List.filter_append, held, waiting, drain, with_session_worker, List.map_nil]
  refine ⟨kept ▸ keys, ?_, Nat.zero_le _, nofun⟩
  rw [← kept]
  exact balanced.distinct.filter _

theorem enqueue_balanced (connection : Connection σ) (message : Message)
    (balanced : connection.Balanced) (room : connection.pending.length < maxPending)
    (fresh : connection.session.registry.contains message.id = false) :
    Balanced { connection.withRegistry (connection.session.registry.register message.id).2 with
      pending := connection.pending ++ [(message, connection.session.registry.issued)] } := by
  have unknown : message.id ∉ connection.accepted := by
    intro member
    have known := (Registry.contains_iff _ _).mpr (balanced.keys.mem_iff.mpr member)
    simp [fresh] at known
  have inFlight : (connection.session.registry.register message.id).2.inFlight =
      (message.id, connection.session.registry.issued) :: connection.session.registry.inFlight := by
    rw [Registry.register_fresh _ _ fresh]
  refine ⟨?_, ?_, ?_, ?_⟩
  · change ((connection.session.registry.register message.id).2.inFlight.map Prod.fst).Perm _
    rw [inFlight, accepted, List.map_append, ← List.append_assoc]
    exact (balanced.keys.cons _).trans (List.perm_append_singleton _ _).symm
  · rw [accepted, List.map_append, ← List.append_assoc]
    exact (List.perm_append_singleton _ _).nodup_iff.mpr
      (List.nodup_cons.mpr ⟨unknown, balanced.distinct⟩)
  · rw [List.length_append, List.length_singleton]
    exact room
  · intro waiting member
    change _ ∈ (connection.session.registry.register message.id).2.inFlight
    rw [inFlight]
    rcases List.mem_append.mp member with earlier | same
    · exact List.mem_cons_of_mem _ (balanced.entries waiting earlier)
    · cases List.mem_singleton.mp same
      exact List.mem_cons_self

theorem leave_balanced (connection : Connection σ) (id : MessageId) (balanced : connection.Balanced)
    (leaving : connection.worker = some (.leaving id)) :
    Balanced { connection.withRegistry (connection.session.registry.complete id) with
      worker := some .finished } := by
  have split : connection.accepted = id :: connection.pending.map (·.1.id) := by
    simp [accepted, leaving, Worker.held?]
  have distinct := balanced.distinct
  rw [split, List.nodup_cons] at distinct
  have kept : connection.accepted.filter (fun other => other ≠ id) = connection.pending.map (·.1.id) := by
    rw [split, List.filter_cons_of_neg (by simp)]
    refine List.filter_eq_self.mpr fun other member => ?_
    have differs : other ≠ id := fun same => distinct.1 (same ▸ member)
    simpa using differs
  have keys : ((connection.session.registry.complete id).inFlight.map Prod.fst).Perm
      (connection.pending.map (·.1.id)) := by
    have mapped := balanced.keys.filter (fun other => other ≠ id)
    rw [List.filter_map, kept] at mapped
    exact mapped
  refine ⟨keys, distinct.2, balanced.bounded, ?_⟩
  intro waiting member
  refine List.mem_filter.mpr ⟨balanced.entries waiting member, ?_⟩
  have differs : waiting.1.id ≠ id :=
    fun same => distinct.1 (same ▸ List.mem_map.mpr ⟨waiting, member, rfl⟩)
  simpa using differs

structure Continues (before after : Connection σ) : Prop where
  open_ : after.hasEnded = false
  balanced : after.Balanced
  active : after.session.stats.active = before.session.stats.active

structure Closes (before after : Connection σ) : Prop where
  past : after.hasEnded = true
  inFlight : after.session.registry.inFlight = []
  raised : ∀ entry ∈ before.session.registry.inFlight,
    after.session.registry.isRaised entry.2 = true
  active : after.session.stats.active = before.session.stats.active - 1

theorem finish_closes {before connection : Connection σ} (result : Except ConnectionError Unit)
    (registry : connection.session.registry = before.session.registry)
    (active : connection.session.stats.active = before.session.stats.active) :
    before.Closes (connection.finish result).1 where
  past := rfl
  inFlight := rfl
  raised entry member := by
    refine (Registry.cancel_all_raised connection.session.registry entry.2).mpr (.inl ?_)
    rw [registry]
    exact List.mem_map.mpr ⟨entry, member, rfl⟩
  active := congrArg (· - 1) active

theorem takes_continues {connection next : Connection σ} {frame : Frame}
    (takes : connection.Takes frame next) (open_ : connection.hasEnded = false)
    (balanced : connection.Balanced) : connection.Continues next := by
  cases takes with
  | abandon id target decoded =>
      obtain ⟨scene, served, grown⟩ := connection.serve_at_once_extends ⟨id, .abandon target⟩
      rw [served]
      exact ⟨open_, balanced_of_same balanced grown.inFlight rfl rfl, grown.active⟩
  | enqueue message decoded plain room fresh =>
      exact ⟨open_, enqueue_balanced connection message balanced room fresh, rfl⟩
  | refuse id kind outcome refused =>
      obtain ⟨queue, answered⟩ := connection.answer_keeps id kind outcome
      rw [answered]
      exact ⟨open_, balanced_of_same balanced rfl rfl rfl, rfl⟩

theorem loop_balanced {connection next : Connection σ} {events : List Event}
    (step : connection.LoopStep next events) (open_ : connection.hasEnded = false)
    (balanced : connection.Balanced) : connection.Continues next ∨ connection.Closes next := by
  cases step with
  | ended result past => simp [has_ended_of_position past] at open_
  | stalled => exact .inl ⟨open_, balanced, rfl⟩
  | turn position deadline turns =>
      refine .inl ⟨?_, balanced_of_same balanced rfl rfl rfl, rfl⟩
      cases turns <;> rfl
  | start message token rest top free waiting =>
      have same : connection.accepted = message.id :: rest.map (·.1.id) := by
        simp [accepted, free, waiting]
      refine .inl ⟨rfl, ⟨?_, ?_, ?_, ?_⟩, rfl⟩
      · have keys := balanced.keys
        rw [same] at keys
        exact keys
      · have distinct := balanced.distinct
        rw [same] at distinct
        exact distinct
      · have bounded := balanced.bounded
        rw [waiting, List.length_cons] at bounded
        exact Nat.le_of_succ_le bounded
      · intro entry member
        exact balanced.entries entry (waiting ▸ List.mem_cons_of_mem _ member)
  | retire waiting finished =>
      refine .inl ⟨rfl, balanced_of_same balanced rfl rfl ?_, rfl⟩
      simp [finished, Worker.held?]
  | dequeue out queue deadline ready queued =>
      exact .inl ⟨rfl, balanced_of_same balanced rfl rfl rfl, rfl⟩
  | drain waiting serving stopped =>
      exact .inl ⟨rfl, connection.drain_balanced balanced, rfl⟩
  | hangUp waiting serving nothing closed whole =>
      exact .inl ⟨rfl, balanced_of_same balanced rfl rfl rfl, rfl⟩
  | receive waiting serving something =>
      exact .inl ⟨rfl, balanced_of_same balanced rfl rfl rfl, rfl⟩
  | take frame size _ taking parsed takes =>
      have cut : Balanced (counted { connection with buffer := connection.buffer.drop size }) :=
        balanced_of_same balanced rfl rfl rfl
      have continues := takes_continues takes open_ cut
      exact .inl ⟨continues.open_, continues.balanced, continues.active⟩
  | sent out deadline sending plain sound =>
      refine .inl ⟨?_, balanced_of_same balanced rfl rfl rfl, rfl⟩
      rcases connection.after_sending_cases with ⟨_, _, after⟩ | after <;> simp [hasEnded, after]
  | secure out deadline sending upgrade sound moving able =>
      refine .inl ⟨?_, balanced_of_same balanced rfl rfl rfl, rfl⟩
      rcases connection.after_sending_cases with ⟨_, _, after⟩ | after <;> simp [hasEnded, after]
  | finish => exact .inr (finish_closes _ rfl rfl)
  | fail => exact .inr (finish_closes _ rfl rfl)
  | failHandshake => exact .inr (finish_closes _ rfl rfl)
  | failFrame => exact .inr (finish_closes _ rfl rfl)

theorem worker_balanced {connection next : Connection σ} (step : connection.WorkerStep next)
    (open_ : connection.hasEnded = false) (balanced : connection.Balanced) :
    connection.Continues next := by
  cases step with
  | idle => exact ⟨open_, balanced, rfl⟩
  | skip message token starting =>
      exact ⟨open_, balanced_of_same balanced rfl rfl (by rw [starting]; rfl), rfl⟩
  | serve message token starting =>
      exact ⟨open_, balanced_of_same balanced rfl rfl (by rw [starting]; rfl), rfl⟩
  | done id value serving =>
      exact ⟨open_, balanced_of_same balanced rfl rfl (by rw [serving]; rfl), rfl⟩
  | act id work serving =>
      have grown := work.step_extends connection.scene
      exact ⟨open_, balanced_of_same balanced grown.inFlight rfl (by rw [serving]; rfl), grown.active⟩
  | leave id leaving => exact ⟨open_, connection.leave_balanced id balanced leaving, rfl⟩

theorem step_balanced (connection : Connection σ) (move : Move) (open_ : connection.hasEnded = false)
    (balanced : connection.Balanced) :
    connection.Continues (connection.step move).1 ∨ connection.Closes (connection.step move).1 := by
  have steps := connection.step_cases move
  generalize connection.step move = moved at steps ⊢
  obtain ⟨next, events⟩ := moved
  cases steps with
  | loop _ _ step => exact loop_balanced step open_ balanced
  | worker _ step => exact .inl (worker_balanced step open_ balanced)
  | around => exact .inl ⟨open_, balanced_of_same balanced rfl rfl rfl, rfl⟩

theorem worker_over {connection next : Connection σ} (step : connection.WorkerStep next)
    (empty : connection.session.registry.inFlight = []) :
    next.session.registry.inFlight = [] ∧
      next.session.stats.active = connection.session.stats.active := by
  cases step with
  | act id work serving =>
      have grown := work.step_extends connection.scene
      exact ⟨grown.inFlight.trans empty, grown.active⟩
  | leave id leaving =>
      refine ⟨?_, rfl⟩
      change (connection.session.registry.complete id).inFlight = []
      rw [Registry.complete_in_flight, empty, List.filter_nil]
  | _ => exact ⟨empty, rfl⟩

theorem step_over (connection : Connection σ) (move : Move) (past : connection.hasEnded = true)
    (empty : connection.session.registry.inFlight = []) :
    (connection.step move).1.hasEnded = true ∧
      (connection.step move).1.session.registry.inFlight = [] ∧
      (connection.step move).1.session.stats.active = connection.session.stats.active := by
  obtain ⟨result, position⟩ := connection.position_of_has_ended past
  refine ⟨has_ended_of_position (connection.step_ended move result position).1, ?_⟩
  cases move with
  | loop =>
      rw [step, connection.step_loop_ended result position]
      exact ⟨empty, rfl⟩
  | worker => exact worker_over connection.step_worker_cases empty
  | _ => exact ⟨empty, rfl⟩

structure Booked (first connection : Connection σ) : Prop where
  open_ : connection.hasEnded = false →
    connection.Balanced ∧ connection.session.stats.active = first.session.stats.active
  past : connection.hasEnded = true →
    connection.session.registry.inFlight = [] ∧
      connection.session.stats.active = first.session.stats.active - 1

theorem step_booked (first connection : Connection σ) (move : Move) (booked : first.Booked connection) :
    first.Booked (connection.step move).1 := by
  cases ended : connection.hasEnded with
  | false =>
      obtain ⟨balanced, active⟩ := booked.open_ ended
      rcases connection.step_balanced move ended balanced with next | next
      · exact ⟨fun _ => ⟨next.balanced, next.active.trans active⟩, fun past => by simp [next.open_] at past⟩
      · refine ⟨fun open_ => by simp [next.past] at open_, fun _ => ⟨next.inFlight, ?_⟩⟩
        rw [next.active, active]
  | true =>
      obtain ⟨empty, active⟩ := booked.past ended
      obtain ⟨past, still, same⟩ := connection.step_over move ended empty
      exact ⟨fun open_ => by simp [past] at open_, fun _ => ⟨still, same.trans active⟩⟩

theorem accept_booked (config : Config σ) (peer : String) (state : σ) :
    (accept config peer state).Booked (accept config peer state) where
  open_ _ := ⟨⟨.nil, .nil, Nat.zero_le _, nofun⟩, rfl⟩
  past ended := by simp [accept, hasEnded] at ended

theorem run_booked (config : Config σ) (peer : String) (state : σ) (moves : List Move) :
    (accept config peer state).Booked ((accept config peer state).run moves).1 :=
  run_keeps (step_booked (accept config peer state)) _ moves (accept_booked config peer state)

-- The counter of open connections starts with this one counted, so it goes down once.
theorem in_flight_accounted (config : Config σ) (peer : String) (state : σ) (moves : List Move) :
    let first := accept config peer state
    let connection := (first.run moves).1
    (connection.hasEnded = false →
      connection.Accounted ∧ connection.session.stats.active = first.session.stats.active) ∧
    (connection.hasEnded = true →
      connection.session.registry.inFlight = [] ∧
        connection.session.stats.active = first.session.stats.active - 1) ∧
    ∀ move, connection.hasEnded = false → (connection.step move).1.hasEnded = true →
      ∀ entry ∈ connection.session.registry.inFlight,
        (connection.step move).1.session.registry.isRaised entry.2 = true := by
  intro first connection
  have booked : first.Booked connection := run_booked config peer state moves
  refine ⟨fun open_ => ?_, booked.past, fun move open_ past => ?_⟩
  · obtain ⟨balanced, active⟩ := booked.open_ open_
    exact ⟨connection.balanced_accounted balanced, active⟩
  · rcases connection.step_balanced move open_ (booked.open_ open_).1 with next | next
    · simp [next.open_] at past
    · exact next.raised

-- One request is being served and one waits when the transport fails; the next move is the last.
def resetMoves : List Move :=
  readAtOnce [deleteFrame 1, deleteFrame 2] 9 ++ .worker ::
    .failReads ⟨.connectionReset, "connection reset"⟩ :: List.replicate 3 .loop

theorem reset_gives_up_requests :
    let first := accept debugConfig "client" ()
    let before := (first.run resetMoves).1
    let after := (before.step .loop).1
    before.hasEnded = false ∧ before.session.registry.inFlight = [(2, 1), (1, 0)] ∧
      before.Accounted ∧ after.hasEnded = true ∧ after.session.registry.inFlight = [] ∧
      after.session.stats.active = first.session.stats.active - 1 ∧
      ∀ entry ∈ before.session.registry.inFlight, after.session.registry.isRaised entry.2 = true := by
  intro first before after
  have open_ : before.hasEnded = false := by decide +kernel
  have past : after.hasEnded = true := by decide +kernel
  have inFlight : before.session.registry.inFlight = [(2, 1), (1, 0)] := by decide +kernel
  obtain ⟨ahead, -, raised⟩ := in_flight_accounted debugConfig "client" () resetMoves
  obtain ⟨-, behind, -⟩ := in_flight_accounted debugConfig "client" () (resetMoves ++ [.loop])
  have last : (first.run (resetMoves ++ [.loop])).1 = after := first.run_last resetMoves .loop
  rw [last] at behind
  obtain ⟨empty, active⟩ := behind past
  exact ⟨open_, inFlight, (ahead open_).1, past, empty, active, raised .loop open_ past⟩

end Connection

end DirectoryServer
