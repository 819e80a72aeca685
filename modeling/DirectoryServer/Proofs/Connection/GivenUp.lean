import DirectoryServer.Proofs.Connection.Abandoning
import DirectoryServer.Proofs.Session.GivingUp
import DirectoryServer.Proofs.Session.Lifetime
import Mathlib.Data.List.Perm.Subperm

set_option autoImplicit false

/-!
What the counter of abandoned requests counts. It goes up with every abandon that hits a request in
flight, also with one that hits a request a second time, so it tells how many requests were given up only
where no abandon comes twice.
-/
namespace DirectoryServer.Connection

variable {σ : Type}

def abandonsOf (connection : Connection σ) (frame : Frame) : List MessageId :=
  match Message.decode frame with
  | .ok message =>
      if message.request.kind = .abandon then
        (connection.atOnce message).abandonsAll connection.atOnceScene
      else []
  | .error _ => []

def admits (connection : Connection σ) (frame : Frame) : List (Message × Token) :=
  match Message.decode frame with
  | .ok message =>
      if message.request.kind = .abandon then []
      else if maxPending ≤ connection.pending.length then []
      else if connection.session.registry.contains message.id then []
      else [(message, connection.session.registry.issued)]
  | .error _ => []

def abandons (connection : Connection σ) : Move → List MessageId
  | .loop => (parsedFrames (connection.step .loop).2).flatMap connection.counted.abandonsOf
  | .worker =>
      match connection.worker with
      | some (.serving _ work) => work.abandons connection.scene
      | _ => []
  | _ => []

def hits (connection : Connection σ) (move : Move) : List Token :=
  (connection.abandons move).filterMap connection.session.registry.token?

def admitted (connection : Connection σ) (move : Move) : List (Message × Token) :=
  (parsedFrames (connection.step move).2).flatMap connection.counted.admits

def hitsAll (connection : Connection σ) : List Move → List Token
  | [] => []
  | move :: rest => connection.hits move ++ (connection.step move).1.hitsAll rest

def admittedAll (connection : Connection σ) : List Move → List (Message × Token)
  | [] => []
  | move :: rest => connection.admitted move ++ (connection.step move).1.admittedAll rest

structure Tallies (before : Connection σ) (requests : List (Message × Token)) (hits : List Token)
    (after : Connection σ) : Prop where
  abandoned : after.session.stats.abandoned =
    before.session.stats.abandoned + UInt64.ofNat hits.length
  issued : before.session.registry.issued ≤ after.session.registry.issued
  fresh : requests = [] ∨ ∃ message, requests = [(message, before.session.registry.issued)] ∧
    before.session.registry.issued < after.session.registry.issued
  inFlight : ∀ entry ∈ after.session.registry.inFlight,
    entry ∈ before.session.registry.inFlight ∨ entry.2 ∈ requests.map Prod.snd
  known : ∀ token ∈ hits, token ∈ before.session.registry.inFlight.map Prod.snd
  raised : after.hasEnded = false → ∀ token, after.session.registry.isRaised token = true ↔
    token ∈ hits ∨ before.session.registry.isRaised token = true

theorem tallies_fewer {before after : Connection σ}
    (fewer : after.session.registry.inFlight ⊆ before.session.registry.inFlight)
    (raised : after.session.registry.raised = before.session.registry.raised)
    (issued : after.session.registry.issued = before.session.registry.issued)
    (abandoned : after.session.stats.abandoned = before.session.stats.abandoned) :
    before.Tallies [] [] after where
  abandoned := by simp [abandoned]
  issued := Nat.le_of_eq issued.symm
  fresh := .inl rfl
  inFlight _ member := .inl (fewer member)
  known _ member := absurd member List.not_mem_nil
  raised _ token := by simp [Registry.isRaised, raised]

theorem tallies_same {before after : Connection σ}
    (registry : after.session.registry = before.session.registry)
    (abandoned : after.session.stats.abandoned = before.session.stats.abandoned) :
    before.Tallies [] [] after := by
  apply tallies_fewer
  · exact fun entry member => registry ▸ member
  · rw [registry]
  · rw [registry]
  · exact abandoned

theorem tallies_finish {before connection : Connection σ} (result : Except ConnectionError Unit)
    (registry : connection.session.registry = before.session.registry)
    (abandoned : connection.session.stats.abandoned = before.session.stats.abandoned) :
    before.Tallies [] [] (connection.finish result).1 where
  abandoned := by
    rw [← abandoned]
    exact (UInt64.add_zero _).symm
  issued := by
    rw [← registry]
    exact Nat.le_of_eq connection.session.registry.cancel_all_issued.symm
  fresh := .inl rfl
  inFlight _ member := absurd member List.not_mem_nil
  known _ member := absurd member List.not_mem_nil
  raised open_ := by cases open_

theorem tallies_hits {before after : Connection σ} {targets : List MessageId}
    (effect : before.session.GivesUp targets after.session)
    (issued : before.session.registry.issued ≤ after.session.registry.issued) :
    before.Tallies [] (targets.filterMap before.session.registry.token?) after where
  abandoned := effect.abandoned
  issued := issued
  fresh := .inl rfl
  inFlight entry member := .inl (effect.inFlight ▸ member)
  known token member := by
    obtain ⟨target, _, held⟩ := List.mem_filterMap.mp member
    exact List.mem_map.mpr ⟨_, Registry.mem_of_token _ target token held, rfl⟩
  raised _ token := effect.raised token

theorem refuses_nothing {connection : Connection σ} {frame : Frame} {id : MessageId}
    {kind : OperationKind} {outcome : Outcome} (refused : connection.Refuses frame id kind outcome) :
    connection.admits frame = [] ∧ connection.abandonsOf frame = [] := by
  cases refused with
  | busy message decoded plain full =>
      simp only [admits, abandonsOf, decoded, plain, full, if_true, if_false, and_self]
  | inUse message decoded plain room known =>
      simp only [admits, abandonsOf, decoded, plain, Nat.not_le.mpr room, known, if_true, if_false, and_self]
  | faulty failure id decoded named => simp only [admits, abandonsOf, decoded, and_self]

theorem enqueue_tallies (connection : Connection σ) (message : Message)
    (fresh : connection.session.registry.contains message.id = false) :
    connection.Tallies [(message, connection.session.registry.issued)] []
      { connection.withRegistry (connection.session.registry.register message.id).2 with
        pending := connection.pending ++ [(message, connection.session.registry.issued)] } := by
  have registered := Registry.register_fresh connection.session.registry message.id fresh
  rw [registered]
  refine ⟨(UInt64.add_zero _).symm, Nat.le_succ _, .inr ⟨message, rfl, Nat.lt_succ_self _⟩, ?_, ?_, ?_⟩
  · intro entry member
    rcases List.mem_cons.mp member with rfl | earlier
    · exact .inr List.mem_cons_self
    · exact .inl earlier
  · exact fun _ member => absurd member List.not_mem_nil
  · exact fun _ _ => (or_iff_right List.not_mem_nil).symm

theorem takes_tallies {connection next : Connection σ} {frame : Frame} (takes : connection.Takes frame next) :
    connection.Tallies (connection.admits frame)
      ((connection.abandonsOf frame).filterMap connection.session.registry.token?) next := by
  have older := (takes_ages takes).issued
  cases takes with
  | abandon id target decoded =>
      have effect := (connection.atOnce ⟨id, .abandon target⟩).run_gives_up connection.atOnceScene
      simp only [admits, abandonsOf, decoded, Request.kind, if_true]
      exact tallies_hits ⟨effect.inFlight, effect.raised, effect.abandoned⟩ older
  | enqueue message decoded plain room fresh =>
      simp only [admits, abandonsOf, decoded, plain, Nat.not_le.mpr room, fresh, Bool.false_eq_true, if_false]
      exact connection.enqueue_tallies message fresh
  | refuse id kind outcome refused =>
      obtain ⟨queue, answered⟩ := connection.answer_keeps id kind outcome
      obtain ⟨request, targets⟩ := refuses_nothing refused
      rw [answered, request, targets]
      exact tallies_same rfl rfl

theorem loop_tallies {connection next : Connection σ} {events : List Event}
    (step : connection.LoopStep next events) :
    connection.Tallies ((parsedFrames events).flatMap connection.counted.admits)
      (((parsedFrames events).flatMap connection.counted.abandonsOf).filterMap
        connection.session.registry.token?) next := by
  cases step with
  | take frame size _ taking parsed takes =>
      have frames : parsedFrames [.parsed frame] = [frame] := rfl
      have taken := takes_tallies takes
      rw [frames, List.flatMap_singleton, List.flatMap_singleton]
      exact ⟨taken.abandoned, taken.issued, taken.fresh, taken.inFlight, taken.known, taken.raised⟩
  | drain waiting serving stopped =>
      obtain ⟨raised, issued⟩ := Registry.complete_all_tokens connection.pending connection.session.registry
      have inFlight := Registry.complete_all_in_flight connection.pending connection.session.registry
      refine tallies_fewer (fun entry member => ?_) raised issued rfl
      exact (List.mem_filter.mp (inFlight ▸ member)).1
  | finish => exact tallies_finish _ rfl rfl
  | fail => exact tallies_finish _ rfl rfl
  | failHandshake => exact tallies_finish _ rfl rfl
  | failFrame frame size failure taking parsed decoded nameless =>
      have frames : parsedFrames [.parsed frame, .ended (.error (.codec failure.error))] = [frame] := rfl
      rw [frames, List.flatMap_singleton, List.flatMap_singleton]
      simp only [admits, abandonsOf, decoded]
      exact tallies_finish _ rfl rfl
  | _ => exact tallies_same rfl rfl

theorem worker_tallies {connection next : Connection σ} (step : connection.WorkerStep next) :
    connection.Tallies [] (connection.hits .worker) next := by
  cases step with
  | idle idle =>
      have nothing : connection.hits .worker = [] := by
        rcases idle with none_ | finished
        · simp only [hits, abandons, none_, List.filterMap_nil]
        · simp only [hits, abandons, finished, List.filterMap_nil]
      rw [nothing]
      exact tallies_same rfl rfl
  | skip message token starting =>
      simp only [hits, abandons, starting]
      exact tallies_same rfl rfl
  | serve message token starting =>
      simp only [hits, abandons, starting]
      exact tallies_same rfl rfl
  | done id value serving =>
      simp only [hits, abandons, serving, Work.abandons]
      exact tallies_same rfl rfl
  | act id work serving =>
      have effect := work.step_gives_up connection.scene
      have issued := (work.step_extends connection.scene).issued
      simp only [hits, abandons, serving]
      exact tallies_hits ⟨effect.inFlight, effect.raised, effect.abandoned⟩ (Nat.le_of_eq issued.symm)
  | leave id leaving =>
      simp only [hits, abandons, leaving]
      exact tallies_fewer (List.filter_subset_self _) rfl rfl rfl

theorem step_tallies (connection : Connection σ) (move : Move) :
    connection.Tallies (connection.admitted move) (connection.hits move) (connection.step move).1 := by
  cases move with
  | loop => exact loop_tallies connection.step_loop_cases
  | worker => exact worker_tallies connection.step_worker_cases
  | _ => exact tallies_same rfl rfl

structure Tallied (requests : List (Message × Token)) (hits : List Token) (connection : Connection σ) :
    Prop where
  abandoned : connection.session.stats.abandoned = UInt64.ofNat hits.length
  below : ∀ token ∈ requests.map Prod.snd, token < connection.session.registry.issued
  distinct : (requests.map Prod.snd).Nodup
  inFlight : ∀ entry ∈ connection.session.registry.inFlight, entry.2 ∈ requests.map Prod.snd
  known : ∀ token ∈ hits, token ∈ requests.map Prod.snd
  raised : connection.hasEnded = false → ∀ token,
    connection.session.registry.isRaised token = true ↔ token ∈ hits

theorem has_ended_step (connection : Connection σ) (move : Move) (past : connection.hasEnded = true) :
    (connection.step move).1.hasEnded = true := by
  obtain ⟨result, position⟩ := connection.position_of_has_ended past
  exact has_ended_of_position (connection.step_ended move result position).1

theorem tallied_of_tallies {requests added : List (Message × Token)} {earlier hits : List Token}
    {connection next : Connection σ} (tallied : Tallied requests earlier connection)
    (tallies : connection.Tallies added hits next)
    (past : connection.hasEnded = true → next.hasEnded = true) :
    Tallied (requests ++ added) (earlier ++ hits) next where
  abandoned := by
    rw [tallies.abandoned, tallied.abandoned, List.length_append, UInt64.ofNat_add]
  below token member := by
    rw [List.map_append] at member
    rcases List.mem_append.mp member with old | new
    · exact Nat.lt_of_lt_of_le (tallied.below token old) tallies.issued
    · rcases tallies.fresh with rfl | ⟨message, rfl, issued⟩
      · cases new
      · cases List.mem_singleton.mp new
        exact issued
  distinct := by
    -- The token of a new request was not issued before, so it is none of the earlier ones.
    rcases tallies.fresh with rfl | ⟨message, rfl, issued⟩
    · rw [List.append_nil]
      exact tallied.distinct
    · rw [List.map_append]
      apply (List.perm_append_singleton _ _).nodup_iff.mpr
      exact List.nodup_cons.mpr ⟨fun member => Nat.lt_irrefl _ (tallied.below _ member), tallied.distinct⟩
  inFlight entry member := by
    rw [List.map_append]
    rcases tallies.inFlight entry member with old | new
    · exact List.mem_append_left _ (tallied.inFlight entry old)
    · exact List.mem_append_right _ new
  known token member := by
    rw [List.map_append]
    apply List.mem_append_left
    rcases List.mem_append.mp member with old | new
    · exact tallied.known token old
    · obtain ⟨entry, held, rfl⟩ := List.mem_map.mp (tallies.known token new)
      exact tallied.inFlight entry held
  raised open_ token := by
    have before : connection.hasEnded = false := by
      rw [← Bool.not_eq_true]
      exact fun ended => by simp [past ended] at open_
    rw [tallies.raised open_, tallied.raised before, List.mem_append, or_comm]

theorem run_tallied {requests : List (Message × Token)} {hits : List Token} (connection : Connection σ)
    (moves : List Move) (tallied : Tallied requests hits connection) :
    Tallied (requests ++ connection.admittedAll moves) (hits ++ connection.hitsAll moves)
      (connection.run moves).1 := by
  induction moves generalizing connection requests hits with
  | nil =>
      rw [admittedAll, hitsAll, List.append_nil, List.append_nil]
      exact tallied
  | cons move rest ih =>
      have first := tallied_of_tallies tallied (connection.step_tallies move) (connection.has_ended_step move)
      rw [admittedAll, hitsAll, ← List.append_assoc, ← List.append_assoc]
      exact ih (connection.step move).1 first

theorem accept_tallied (config : Config σ) (peer : String) (state : σ) :
    Tallied [] [] (accept config peer state) where
  abandoned := rfl
  below _ member := absurd member List.not_mem_nil
  distinct := List.nodup_nil
  inFlight _ member := absurd member List.not_mem_nil
  known _ member := absurd member List.not_mem_nil
  raised _ token := by simp [accept, session, Registry.isRaised, Registry.empty]

theorem hit_once_iff (requests : List (Message × Token)) (hits : List Token)
    (distinct : (requests.map Prod.snd).Nodup) (known : ∀ token ∈ hits, token ∈ requests.map Prod.snd) :
    (requests.filter fun request => request.2 ∈ hits).length ≤ hits.length ∧
      ((requests.filter fun request => request.2 ∈ hits).length = hits.length ↔ hits.Nodup) := by
  generalize found : requests.filter (fun request => request.2 ∈ hits) = given
  have apart : (given.map Prod.snd).Nodup := by
    rw [← found]
    exact distinct.sublist (List.filter_sublist.map Prod.snd)
  have inside : given.map Prod.snd ⊆ hits := by
    intro token member
    obtain ⟨request, held, rfl⟩ := List.mem_map.mp member
    rw [← found] at held
    exact of_decide_eq_true (List.mem_filter.mp held).2
  have whole : hits ⊆ given.map Prod.snd := by
    intro token member
    obtain ⟨request, held, rfl⟩ := List.mem_map.mp (known token member)
    rw [← found]
    exact List.mem_map_of_mem (List.mem_filter.mpr ⟨held, decide_eq_true member⟩)
  have fewer : (given.map Prod.snd).Subperm hits := apart.subperm inside
  rw [← given.length_map Prod.snd]
  refine ⟨fewer.length_le, fun same => ?_, fun once => ?_⟩
  · exact (fewer.perm_of_length_le (Nat.le_of_eq same.symm)).nodup_iff.mp apart
  · exact Nat.le_antisymm fewer.length_le (once.subperm whole).length_le

theorem abandons_counted (config : Config σ) (peer : String) (state : σ) (moves : List Move) :
    let first := accept config peer state
    let connection := (first.run moves).1
    let requests := first.admittedAll moves
    let hits := first.hitsAll moves
    let givenUp := requests.filter fun request => request.2 ∈ hits
    (requests.map Prod.snd).Nodup ∧ (∀ token ∈ hits, token ∈ requests.map Prod.snd) ∧
    (connection.hasEnded = false → ∀ token,
      connection.session.registry.isRaised token = true ↔ token ∈ hits) ∧
    connection.session.stats.abandoned = UInt64.ofNat hits.length ∧ givenUp.length ≤ hits.length ∧
    (hits.length < UInt64.size →
      (connection.session.stats.abandoned = UInt64.ofNat givenUp.length ↔ hits.Nodup)) := by
  intro first connection requests hits givenUp
  have tallied : Tallied requests hits connection := first.run_tallied moves (accept_tallied config peer state)
  obtain ⟨fewer, once⟩ := hit_once_iff requests hits tallied.distinct tallied.known
  refine ⟨tallied.distinct, tallied.known, tallied.raised, tallied.abandoned, fewer, fun small => ?_⟩
  rw [tallied.abandoned, ← once, ← UInt64.toNat_inj, UInt64.toNat_ofNat_of_lt' small,
    UInt64.toNat_ofNat_of_lt' (Nat.lt_of_le_of_lt fewer small)]
  exact eq_comm

def abandonFrame (id target : Int64) : Frame := .array [.integer id, .text "abandon", .integer target]

theorem second_abandon_counted :
    let first := accept debugConfig "client" ()
    let moves := readAtOnce [deleteFrame 1, abandonFrame 2 1, abandonFrame 3 1] 8
    first.admittedAll moves = [(deleteMessage 1 "cn=a", 0)] ∧
      (first.run moves).1.session.stats.abandoned = 2 := by
  constructor
  · decide +kernel
  · decide +kernel

theorem two_requests_given_up :
    let first := accept debugConfig "client" ()
    let moves := readAtOnce
      [deleteFrame 1, deleteFrame 2, abandonFrame 3 2, abandonFrame 4 1, abandonFrame 5 9] 10
    first.admittedAll moves = [(deleteMessage 1 "cn=a", 0), (deleteMessage 2 "cn=a", 1)] ∧
      first.hitsAll moves = [1, 0] ∧ (first.run moves).1.session.stats.abandoned = 2 := by
  intro first moves
  have requests : first.admittedAll moves = [(deleteMessage 1 "cn=a", 0), (deleteMessage 2 "cn=a", 1)] := by
    decide +kernel
  have hits : first.hitsAll moves = [1, 0] := by decide +kernel
  have counted := (abandons_counted debugConfig "client" () moves).2.2.2.2.2
  have once := (counted (by rw [hits]; decide)).mpr (by rw [hits]; decide)
  refine ⟨requests, hits, ?_⟩
  rw [once, requests, hits]
  decide

end DirectoryServer.Connection
