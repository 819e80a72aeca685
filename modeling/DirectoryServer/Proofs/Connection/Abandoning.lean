import DirectoryServer.Proofs.Connection.InFlight
import DirectoryServer.Proofs.Connection.Sending
import DirectoryServer.Proofs.Route.Unrouted

set_option autoImplicit false

namespace DirectoryServer

-- The loop answers without a token.
structure Reply where
  author : Option Token
  out : Outgoing
deriving DecidableEq

namespace Connection

variable {σ : Type}

def dispatched? (connection : Connection σ) : Move → Option Token
  | .worker => connection.dispatching?.map Prod.snd
  | _ => none

def author? (serving : Option Token) : Move → Option Token
  | .worker => serving
  | _ => none

-- `serving` is the token that was dispatched last.
def repliesOf (connection : Connection σ) (serving : Option Token) : List Move → List Reply
  | [] => []
  | move :: rest =>
      (connection.queues move).map (Reply.mk (author? serving move)) ++
        (connection.step move).1.repliesOf ((connection.dispatched? move).or serving) rest

theorem outs_of_replies (connection : Connection σ) (serving : Option Token) (moves : List Move) :
    (connection.repliesOf serving moves).map Reply.out = connection.queuesAll moves := by
  induction moves generalizing connection serving with
  | nil => rfl
  | cons move rest ih =>
      rw [repliesOf, queuesAll, List.map_append, ih, List.map_map]
      exact congrArg (· ++ _) (List.map_id _)

theorem author_dispatched (connection : Connection σ) (serving : Option Token) (moves : List Move)
    (reply : Reply) (token : Token) (member : reply ∈ connection.repliesOf serving moves)
    (author : reply.author = some token) :
    serving = some token ∨ ∃ front move back, moves = front ++ move :: back ∧
      (connection.run front).1.dispatched? move = some token := by
  induction moves generalizing connection serving with
  | nil => cases member
  | cons move rest ih =>
      rw [repliesOf, List.mem_append] at member
      rcases member with now | behind
      · obtain ⟨out, _, rfl⟩ := List.mem_map.mp now
        cases move with
        | worker => exact .inl author
        | _ => cases author
      · rcases ih _ _ behind with same | ⟨front, later, back, split, dispatched⟩
        · rcases Option.or_eq_some_iff.mp same with now | ⟨_, before⟩
          · exact .inr ⟨[], move, rest, rfl, now⟩
          · exact .inl before
        · refine .inr ⟨move :: front, later, back, ?_, dispatched⟩
          rw [split, List.cons_append]

inductive Lines (before after : Connection σ) : Prop where
  | fewer (kept : after.unbegun.Sublist before.unbegun)
      (issued : before.session.registry.issued ≤ after.session.registry.issued) : Lines before after
  | more (message : Message)
      (grown : after.unbegun = before.unbegun ++ [(message, before.session.registry.issued)])
      (issued : after.session.registry.issued = before.session.registry.issued + 1) : Lines before after

theorem lines_same {before after : Connection σ} (worker : after.worker = before.worker)
    (pending : after.pending = before.pending)
    (issued : before.session.registry.issued ≤ after.session.registry.issued) : before.Lines after := by
  have same : after.unbegun = before.unbegun := by simp only [unbegun, worker, pending]
  exact .fewer (same ▸ List.Sublist.refl _) issued

theorem takes_lines {connection next : Connection σ} {frame : Frame}
    (takes : connection.Takes frame next) : connection.Lines next := by
  cases takes with
  | abandon id target decoded => exact lines_same rfl rfl (takes_ages (.abandon id target decoded)).issued
  | enqueue message decoded plain room fresh =>
      apply Lines.more message
      · unfold unbegun
        dsimp only [withRegistry, with_session_worker]
        split
        · rfl
        · rfl
      · rw [Registry.register_fresh _ _ fresh]
        rfl
  | refuse id kind outcome refused =>
      obtain ⟨queue, answered⟩ := connection.answer_keeps id kind outcome
      rw [answered]
      exact lines_same rfl rfl (Nat.le_refl _)

theorem finish_lines {before connection : Connection σ} (result : Except ConnectionError Unit)
    (worker : connection.worker = before.worker) (pending : connection.pending = before.pending)
    (registry : connection.session.registry = before.session.registry) :
    before.Lines (connection.finish result).1 := by
  apply @lines_same σ before (connection.finish result).1 worker pending
  rw [← registry]
  exact Nat.le_of_eq (Registry.cancel_all_issued _).symm

theorem loop_lines {connection next : Connection σ} {events : List Event}
    (step : connection.LoopStep next events) : connection.Lines next := by
  have issued := (loop_ages step).issued
  cases step with
  | take frame size _ taking parsed takes =>
      cases takes_lines takes with
      | fewer kept issued => exact .fewer kept issued
      | more message grown issued => exact .more message grown issued
  | start message token rest top free waiting =>
      apply Lines.fewer _ issued
      simp only [unbegun, free, waiting]
      exact List.Sublist.refl _
  | retire waiting finished =>
      apply Lines.fewer _ issued
      simp only [unbegun, finished]
      exact List.Sublist.refl _
  | drain waiting serving stopped =>
      apply Lines.fewer _ issued
      unfold unbegun
      dsimp only [drain, with_session_worker]
      split
      · exact (List.nil_sublist _).cons_cons _
      · exact List.nil_sublist _
  | finish => exact finish_lines _ rfl rfl rfl
  | fail => exact finish_lines _ rfl rfl rfl
  | failHandshake => exact finish_lines _ rfl rfl rfl
  | failFrame => exact finish_lines _ rfl rfl rfl
  | _ => exact lines_same rfl rfl issued

theorem worker_lines {connection next : Connection σ} (step : connection.WorkerStep next) :
    connection.Lines next := by
  have issued := (worker_ages step).issued
  cases step with
  | idle => exact lines_same rfl rfl issued
  | skip message token starting =>
      apply Lines.fewer _ issued
      simp only [unbegun, starting]
      exact List.sublist_cons_self _ _
  | serve message token starting =>
      apply Lines.fewer _ issued
      simp only [unbegun, starting]
      exact List.sublist_cons_self _ _
  | done id value serving =>
      apply Lines.fewer _ issued
      simp only [unbegun, serving]
      exact List.Sublist.refl _
  | act id work serving =>
      apply Lines.fewer _ issued
      simp only [unbegun, serving]
      exact List.Sublist.refl _
  | leave id leaving =>
      apply Lines.fewer _ issued
      simp only [unbegun, leaving]
      exact List.Sublist.refl _

theorem step_lines (connection : Connection σ) (move : Move) :
    connection.Lines (connection.step move).1 := by
  cases move with
  | loop => exact loop_lines connection.step_loop_cases
  | worker => exact worker_lines connection.step_worker_cases
  | _ => exact lines_same rfl rfl (Nat.le_refl _)

structure Numbered (connection : Connection σ) : Prop where
  below : ∀ waiting ∈ connection.unbegun, waiting.2 < connection.session.registry.issued
  distinct : (connection.unbegun.map Prod.snd).Nodup

theorem step_numbered (connection : Connection σ) (move : Move) (numbered : connection.Numbered) :
    (connection.step move).1.Numbered := by
  cases connection.step_lines move with
  | fewer kept issued =>
      refine ⟨fun waiting member => ?_, numbered.distinct.sublist (kept.map Prod.snd)⟩
      exact Nat.lt_of_lt_of_le (numbered.below waiting (kept.subset member)) issued
  | more message grown issued =>
      have unused : connection.session.registry.issued ∉ connection.unbegun.map Prod.snd := by
        intro member
        obtain ⟨waiting, known, same⟩ := List.mem_map.mp member
        exact absurd same (Nat.ne_of_lt (numbered.below waiting known))
      refine ⟨fun waiting member => ?_, ?_⟩
      · rw [grown] at member
        rw [issued]
        rcases List.mem_append.mp member with known | same
        · exact Nat.lt_succ_of_lt (numbered.below waiting known)
        · cases List.mem_singleton.mp same
          exact Nat.lt_succ_self _
      · rw [grown, List.map_append]
        exact (List.perm_append_singleton _ _).nodup_iff.mpr (List.nodup_cons.mpr ⟨unused, numbered.distinct⟩)

theorem run_numbered (config : Config σ) (peer : String) (state : σ) (moves : List Move) :
    ((accept config peer state).run moves).1.Numbered :=
  run_keeps step_numbered _ moves ⟨nofun, List.nodup_nil⟩

theorem waiting_undispatched (connection : Connection σ) (move : Move) (back : List Move)
    (message : Message) (token : Token) (numbered : connection.Numbered)
    (waits : (message, token) ∈ (connection.run (move :: back)).1.pending) :
    connection.dispatched? move ≠ some token := by
  intro dispatched
  cases move with
  | worker =>
      obtain ⟨⟨other, same⟩, now, rfl⟩ := Option.map_eq_some_iff.mp dispatched
      obtain ⟨starting, unraised⟩ := (dispatching_eq _ _ _).mp now
      have left : (connection.step .worker).1.unbegun = connection.pending := by
        simp [step, stepWorker, starting, unraised, unbegun, stay]
      have issued : (connection.step .worker).1.session.registry.issued = connection.session.registry.issued := by
        simp only [step, stepWorker, starting, unraised, Bool.false_eq_true, if_false, stay]
        rfl
      have whole : connection.unbegun = (other, same) :: connection.pending := by simp only [unbegun, starting]
      have ages := (connection.step .worker).1.run_ages back
      rcases ages.unbegun (message, same) ((mem_unbegun _ _).mpr (.inr waits)) with waited | ⟨late, _⟩
      · have distinct := numbered.distinct
        rw [whole, List.map_cons, List.nodup_cons] at distinct
        rw [left] at waited
        exact distinct.1 (List.mem_map.mpr ⟨_, waited, rfl⟩)
      · have below := numbered.below (other, same) (whole ▸ List.mem_cons_self)
        rw [issued] at late
        exact absurd below (Nat.not_lt.mpr late)
  | _ => cases dispatched

theorem undispatched_of_raised (connection : Connection σ) (moves : List Move) (move : Move) (token : Token)
    (raised : connection.session.registry.isRaised token = true) :
    (connection.run moves).1.dispatched? move ≠ some token := by
  intro dispatched
  cases move with
  | worker =>
      obtain ⟨⟨other, same⟩, now, rfl⟩ := Option.map_eq_some_iff.mp dispatched
      have unraised := ((dispatching_eq _ _ _).mp now).2
      simp [(connection.run_ages moves).raised _ raised] at unraised
  | _ => cases dispatched

theorem step_abandon (connection : Connection σ) (frame : Frame) (size : Nat) (id target : MessageId)
    (taking : connection.position = .taking)
    (parsed : Frame.parse connection.buffer = .ok (some (frame, size)))
    (decoded : Message.decode frame = .ok ⟨id, .abandon target⟩) :
    (connection.step .loop).1 = (connection.cutBehind size).serveAtOnce ⟨id, .abandon target⟩ := by
  rw [connection.step_taking taking]
  unfold take
  rw [parsed]
  simp only [takeFrame, decoded, takeMessage]
  rfl

theorem abandon_step (connection : Connection σ) (frame : Frame) (size : Nat) (id target : MessageId)
    (plain : (∃ backend root, connection.config.routes = RouteTable.default backend root) ∨
      connection.config.routes.LeavesAbandons)
    (taking : connection.position = .taking)
    (parsed : Frame.parse connection.buffer = .ok (some (frame, size)))
    (decoded : Message.decode frame = .ok ⟨id, .abandon target⟩) :
    connection.queues .loop = [] ∧ connection.session.Abandons target (connection.step .loop).1.session ∧
      (connection.step .loop).1.pending = connection.pending ∧
      (connection.step .loop).1.worker = connection.worker := by
  have yields : ((connection.cutBehind size).atOnce ⟨id, .abandon target⟩).Yields target :=
    RouteTable.abandon_yields _ id target _ plain
  obtain ⟨silent, effect⟩ := Work.yields_run _ target (connection.cutBehind size).atOnceScene yields
  rw [connection.step_abandon frame size id target taking parsed decoded]
  refine ⟨?_, ⟨effect.queue, effect.inFlight, effect.raised, effect.abandoned⟩, rfl, rfl⟩
  rw [connection.queues_taking frame size taking parsed]
  simp only [answersTo, decoded, Request.kind, if_true, silent]

theorem step_config (connection : Connection σ) (move : Move) :
    (connection.step move).1.config = connection.config := by
  have steps := connection.step_cases move
  generalize connection.step move = moved at steps ⊢
  obtain ⟨next, events⟩ := moved
  cases steps with
  | loop _ _ step =>
      cases step with
      | take frame size _ taking parsed takes => exact (takes_little takes).config
      | _ => rfl
  | worker _ step => cases step <;> rfl
  | around => rfl

theorem abandoned_undispatched (config : Config σ) (peer : String) (state : σ) (before later : List Move)
    (message : Message) (token : Token)
    (waits : (message, token) ∈ ((accept config peer state).run before).1.pending)
    (raised : (((accept config peer state).run before).1.step .loop).1.session.registry.isRaised token = true)
    (front : List Move) (move : Move) (back : List Move)
    (split : before ++ .loop :: later = front ++ move :: back) :
    ((accept config peer state).run front).1.dispatched? move ≠ some token := by
  rcases List.append_eq_append_iff.mp split with ⟨between, rfl, rest⟩ | ⟨between, rfl, rest⟩
  · cases between with
    | nil =>
        cases rest
        simp [dispatched?]
    | cons first between =>
        obtain ⟨rfl, _⟩ := List.cons.inj rest
        rw [run_append]
        exact undispatched_of_raised _ between move token raised
  · cases between with
    | nil =>
        cases rest
        simp [dispatched?]
    | cons first between =>
        obtain ⟨rfl, _⟩ := List.cons.inj rest
        rw [run_append] at waits
        exact waiting_undispatched _ move between message token (run_numbered config peer state front) waits

theorem abandon_takes_effect (config : Config σ) (peer : String) (state : σ) (before : List Move)
    (frame : Frame) (size : Nat) (id target : MessageId)
    (plain : (∃ backend root, config.routes = RouteTable.default backend root) ∨
      config.routes.LeavesAbandons)
    (taking : ((accept config peer state).run before).1.position = .taking)
    (parsed : Frame.parse ((accept config peer state).run before).1.buffer = .ok (some (frame, size)))
    (decoded : Message.decode frame = .ok ⟨id, .abandon target⟩) :
    let first := accept config peer state
    let connection := (first.run before).1
    let next := (connection.step .loop).1
    connection.queues .loop = [] ∧ connection.session.Abandons target next.session ∧
    next.pending = connection.pending ∧ next.worker = connection.worker ∧
    ∀ message token, message.id = target → (message, token) ∈ connection.pending →
      ∀ later,
        (∀ other, (next.run later).1.dispatching? ≠ some (other, token)) ∧
        (first.run (before ++ .loop :: later)).2.filterMap Event.out? <+:
          (first.repliesOf none (before ++ .loop :: later)).map Reply.out ∧
        ∀ reply ∈ first.repliesOf none (before ++ .loop :: later), reply.author ≠ some token := by
  intro first connection next
  have booked : first.Booked connection := run_booked config peer state before
  have open_ : connection.hasEnded = false := by simp [hasEnded, connection, first, taking]
  have balanced : connection.Balanced := (booked.open_ open_).1
  have same : connection.config = config :=
    @run_keeps σ (fun later => later.config = config)
      (fun later move kept => (later.step_config move).trans kept) first before rfl
  obtain ⟨quiet, abandons, pending, worker⟩ :=
    connection.abandon_step frame size id target (same ▸ plain) taking parsed decoded
  refine ⟨quiet, abandons, pending, worker, fun message token named waits later => ?_⟩
  have known : connection.session.registry.token? target = some token := by
    rw [← named]
    exact (connection.balanced_accounted balanced).tokens (message, token) waits
  have raised : next.session.registry.isRaised token = true := (abandons.raised token).mpr (.inl known)
  refine ⟨fun other dispatching => ?_, ?_, fun reply member author => ?_⟩
  · apply undispatched_of_raised next later .worker token raised
    rw [dispatched?, dispatching]
    rfl
  · rw [outs_of_replies]
    exact (run_relays first (before ++ .loop :: later) (accept_attended config peer state)).sent
  · rcases author_dispatched first none _ reply token member author with none_ | ⟨front, move, back, split, done⟩
    · cases none_
    · exact abandoned_undispatched config peer state before later message token waits raised front move back split done

def isTaking (connection : Connection σ) : Bool :=
  match connection.position with
  | .taking => true
  | _ => false

theorem position_of_is_taking (connection : Connection σ) (taking : connection.isTaking = true) :
    connection.position = .taking := by
  unfold isTaking at taking
  split at taking
  · assumption
  · cases taking

def deleteConfig : Config Unit where
  address := "127.0.0.1:389"
  routes := {
    routes := [{ operation := .delete, handler := Handlers.delete, backend := Backend.debug Unit }]
    notFound := some { operation := .extended, handler := Handlers.notFound, backend := Backend.null Unit } }

theorem delete_config_leaves_abandons : deleteConfig.routes.LeavesAbandons where
  unrouted route member := by
    rw [List.mem_singleton.mp member]
    decide
  mute route found := by
    cases found
    exact fun _ _ _ => trivial

def deleteMessage (id : MessageId) (name : String) : Message := ⟨id, .delete name⟩

def abandonedFrames : List Frame :=
  [.array [.integer 1, .text "delete", .text "cn=a"], .array [.integer 2, .text "delete", .text "cn=b"],
    .array [.integer 3, .text "abandon", .integer 2]]

def abandonedMoves : List Move :=
  .arrive (Frame.serializeAll abandonedFrames) :: List.replicate 7 .loop

theorem waiting_delete_abandoned :
    deleteConfig.routes.LeavesAbandons ∧
    ((accept deleteConfig "client" ()).run abandonedMoves).1.position = .taking ∧
    Frame.parse ((accept deleteConfig "client" ()).run abandonedMoves).1.buffer =
      .ok (some (.array [.integer 3, .text "abandon", .integer 2], 25)) ∧
    Message.decode (.array [.integer 3, .text "abandon", .integer 2]) = .ok ⟨3, .abandon 2⟩ ∧
    (deleteMessage 2 "cn=b", 1) ∈ ((accept deleteConfig "client" ()).run abandonedMoves).1.pending ∧
    ∀ later other,
      ((((accept deleteConfig "client" ()).run abandonedMoves).1.step .loop).1.run later).1.dispatching? ≠
        some (other, 1) := by
  have taking : ((accept deleteConfig "client" ()).run abandonedMoves).1.position = .taking :=
    position_of_is_taking _ (by decide +kernel)
  have parsed : Frame.parse ((accept deleteConfig "client" ()).run abandonedMoves).1.buffer =
      .ok (some (.array [.integer 3, .text "abandon", .integer 2], 25)) := by rfl
  have decoded : Message.decode (.array [.integer 3, .text "abandon", .integer 2]) = .ok ⟨3, .abandon 2⟩ := rfl
  have waits : (deleteMessage 2 "cn=b", 1) ∈ ((accept deleteConfig "client" ()).run abandonedMoves).1.pending := by
    decide +kernel
  have effect := abandon_takes_effect deleteConfig "client" () abandonedMoves _ _ 3 2
    (.inr delete_config_leaves_abandons) taking parsed decoded
  refine ⟨delete_config_leaves_abandons, taking, parsed, decoded, waits, fun later => ?_⟩
  exact (effect.2.2.2.2 (deleteMessage 2 "cn=b") 1 rfl waits later).1

def chattyConfig : Config Unit where
  address := "127.0.0.1:389"
  routes := {
    notFound := some { operation := .extended, handler := Handlers.whoAmI, backend := Backend.null Unit } }

def strayAbandon : Frame := .array [.integer 7, .text "abandon", .integer 99]

def strayMoves : List Move :=
  .arrive strayAbandon.serialize :: List.replicate 5 .loop

-- No route takes the abandon, its target is not in flight, and yet a response is queued.
theorem stray_abandon_answered :
    chattyConfig.routes.routes = [] ∧
    ((accept chattyConfig "client" ()).run strayMoves).1.position = .taking ∧
    Frame.parse ((accept chattyConfig "client" ()).run strayMoves).1.buffer = .ok (some (strayAbandon, 26)) ∧
    Message.decode strayAbandon = .ok ⟨7, .abandon 99⟩ ∧
    ((accept chattyConfig "client" ()).run strayMoves).1.session.registry.contains 99 = false ∧
    ((accept chattyConfig "client" ()).run strayMoves).1.session.queue = [] ∧
    (((accept chattyConfig "client" ()).run strayMoves).1.step .loop).1.session.queue.map (·.id) = [7] := by
  refine ⟨rfl, position_of_is_taking _ ?_, rfl, rfl, ?_, ?_, ?_⟩
  · decide +kernel
  · decide +kernel
  · decide +kernel
  · decide +kernel

end Connection

end DirectoryServer
