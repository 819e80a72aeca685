import DirectoryServer.Proofs.Connection.Stage

set_option autoImplicit false

namespace DirectoryServer

def Worker.Quiet {σ : Type} : Worker σ → Prop
  | .starting message _ => message.request.kind ≠ .abandon
  | .serving _ work => work.Quiet
  | .leaving _ => True
  | .finished => True

namespace Connection

variable {σ : Type}

def givesUp (connection : Connection σ) : Bool :=
  match connection.position, Frame.parse connection.buffer with
  | .taking, .ok (some (frame, _)) =>
      match Message.decode frame with
      | .ok ⟨_, .abandon target⟩ => connection.session.registry.contains target
      | _ => false
  | _, _ => false

def Undisturbed (connection : Connection σ) : Move → Prop
  | .stop => False
  | .loop => connection.givesUp = false
  | _ => True

instance (connection : Connection σ) (move : Move) : Decidable (connection.Undisturbed move) :=
  match move with
  | .stop => .isFalse id
  | .loop => inferInstanceAs (Decidable (connection.givesUp = false))
  | .worker | .arrive _ | .close | .failReads _ | .failWrites _ | .stallWrites | .wait _ => .isTrue trivial

-- What a connection over the default routes works on: no abandon waits, for those are served at once,
-- and the work of the worker gives up nothing.
structure Tame (backend : Backend σ) (root : RootDse) (connection : Connection σ) : Prop where
  routes : connection.config.routes = RouteTable.default backend root
  plain : ∀ waiting ∈ connection.pending, waiting.1.request.kind ≠ .abandon
  quiet : ∀ worker, connection.worker = some worker → worker.Quiet

theorem quiet_of_free {connection : Connection σ} (free : connection.worker = none) :
    ∀ worker, connection.worker = some worker → worker.Quiet := by
  intro worker busy
  rw [free] at busy
  cases busy

theorem accept_tame (config : Config σ) (peer : String) (state : σ) (backend : Backend σ) (root : RootDse)
    (routes : config.routes = RouteTable.default backend root) :
    (accept config peer state).Tame backend root :=
  ⟨routes, fun _ member => absurd member List.not_mem_nil, quiet_of_free rfl⟩

theorem takes_tame {backend : Backend σ} {root : RootDse} {connection next : Connection σ} {frame : Frame}
    (takes : connection.Takes frame next) (tame : connection.Tame backend root) :
    next.Tame backend root := by
  have little := takes_little takes
  have routes : next.config.routes = RouteTable.default backend root := by rw [little.config, tame.routes]
  have quiet : ∀ worker, next.worker = some worker → worker.Quiet := by
    rw [little.worker]
    exact tame.quiet
  cases takes with
  | abandon id target decoded =>
      obtain ⟨scene, served, _⟩ := connection.serve_at_once_extends ⟨id, .abandon target⟩
      rw [served] at routes quiet ⊢
      exact ⟨routes, tame.plain, quiet⟩
  | enqueue message decoded plain room fresh =>
      refine ⟨routes, fun waiting member => ?_, quiet⟩
      rcases List.mem_append.mp member with earlier | same
      · exact tame.plain waiting earlier
      · cases List.mem_singleton.mp same
        exact plain
  | refuse id kind outcome refused =>
      obtain ⟨queue, answered⟩ := answer_keeps _ id kind outcome
      rw [answered] at routes quiet ⊢
      exact ⟨routes, tame.plain, quiet⟩

theorem finish_tame {backend : Backend σ} {root : RootDse} (connection : Connection σ)
    (result : Except ConnectionError Unit) (tame : connection.Tame backend root) :
    (connection.finish result).1.Tame backend root :=
  ⟨tame.routes, tame.plain, tame.quiet⟩

theorem loop_tame {backend : Backend σ} {root : RootDse} {connection next : Connection σ}
    {events : List Event} (step : connection.LoopStep next events) (tame : connection.Tame backend root) :
    next.Tame backend root := by
  cases step with
  | start message token rest top free waiting =>
      refine ⟨tame.routes, ?_, ?_⟩
      · intro entry member
        exact tame.plain entry (waiting ▸ List.mem_cons_of_mem _ member)
      · rintro worker ⟨⟩
        exact tame.plain (message, token) (waiting ▸ List.mem_cons_self)
  | retire => exact ⟨tame.routes, tame.plain, quiet_of_free rfl⟩
  | drain => exact ⟨tame.routes, fun _ member => absurd member List.not_mem_nil, tame.quiet⟩
  | take frame size _ taking parsed takes =>
      exact takes_tame takes ⟨tame.routes, tame.plain, tame.quiet⟩
  | finish => exact finish_tame _ _ tame
  | fail => exact finish_tame _ _ tame
  | failHandshake => exact finish_tame _ _ ⟨tame.routes, tame.plain, tame.quiet⟩
  | failFrame => exact finish_tame _ _ ⟨tame.routes, tame.plain, tame.quiet⟩
  | _ => exact ⟨tame.routes, tame.plain, tame.quiet⟩

theorem worker_tame {backend : Backend σ} {root : RootDse} {connection next : Connection σ}
    (detached : backend.Detached) (step : connection.WorkerStep next)
    (tame : connection.Tame backend root) : next.Tame backend root := by
  cases step with
  | idle => exact tame
  | serve message token starting =>
      have plain : message.request.kind ≠ .abandon := tame.quiet _ starting
      refine ⟨tame.routes, tame.plain, ?_⟩
      rintro worker ⟨⟩
      exact RouteTable.default_quiet _ backend root message.request _ tame.routes plain detached
  | act id work serving =>
      have quiet : work.Quiet := tame.quiet _ serving
      refine ⟨tame.routes, tame.plain, ?_⟩
      rintro worker ⟨⟩
      exact (work.quiet_step connection.scene quiet).1
  | skip message token starting =>
      refine ⟨tame.routes, tame.plain, ?_⟩
      rintro worker ⟨⟩
      trivial
  | done id value serving =>
      refine ⟨tame.routes, tame.plain, ?_⟩
      rintro worker ⟨⟩
      trivial
  | leave id leaving =>
      refine ⟨tame.routes, tame.plain, ?_⟩
      rintro worker ⟨⟩
      trivial

theorem step_tame {backend : Backend σ} {root : RootDse} (detached : backend.Detached)
    (connection : Connection σ) (move : Move) (tame : connection.Tame backend root) :
    (connection.step move).1.Tame backend root := by
  have steps := connection.step_cases move
  generalize connection.step move = moved at steps ⊢
  obtain ⟨next, events⟩ := moved
  cases steps with
  | loop _ _ step => exact loop_tame step tame
  | worker _ step => exact worker_tame detached step tame
  | around => exact ⟨tame.routes, tame.plain, tame.quiet⟩

theorem worker_raised {backend : Backend σ} {root : RootDse} {connection next : Connection σ}
    (step : connection.WorkerStep next) (tame : connection.Tame backend root) :
    next.session.registry.raised = connection.session.registry.raised := by
  cases step with
  | act id work serving =>
      have quiet : work.Quiet := tame.quiet _ serving
      exact congrArg Registry.raised (work.quiet_step connection.scene quiet).2
  | _ => rfl

structure Calm (backend : Backend σ) (root : RootDse) (connection : Connection σ) : Prop where
  tame : connection.Tame backend root
  staged : connection.Staged
  unstopped : connection.stopped = false
  unraised : connection.session.registry.raised = []
  listening : connection.session.listening = true

theorem accept_calm (config : Config σ) (peer : String) (state : σ) (backend : Backend σ) (root : RootDse)
    (routes : config.routes = RouteTable.default backend root) :
    (accept config peer state).Calm backend root :=
  ⟨accept_tame config peer state backend root routes, trivial, rfl, rfl, rfl⟩

theorem unraised_of_calm {backend : Backend σ} {root : RootDse} {connection : Connection σ}
    (calm : connection.Calm backend root) (token : Token) :
    connection.session.registry.isRaised token = false := by
  rw [Registry.isRaised, calm.unraised]
  rfl

theorem abandon_absent {backend : Backend σ} {root : RootDse} {connection : Connection σ} {frame : Frame}
    {size : Nat} {id target : MessageId} (tame : connection.Tame backend root)
    (taking : connection.position = .taking)
    (parsed : Frame.parse connection.buffer = .ok (some (frame, size)))
    (decoded : Message.decode frame = .ok ⟨id, .abandon target⟩) (kept : connection.givesUp = false) :
    (counted { connection with buffer := connection.buffer.drop size }).serveAtOnce
        ⟨id, .abandon target⟩ =
      (counted { connection with buffer := connection.buffer.drop size }).withRegistry
        connection.session.registry.issue.2 := by
  have absent : connection.session.registry.contains target = false := by
    simpa only [givesUp, taking, parsed, decoded] using kept
  exact serve_at_once_absent _ backend root id target tame.routes absent

theorem takes_calm {backend : Backend σ} {root : RootDse} {connection next : Connection σ}
    {frame : Frame} {size : Nat} (calm : connection.Calm backend root)
    (taking : connection.position = .taking)
    (parsed : Frame.parse connection.buffer = .ok (some (frame, size)))
    (takes : (counted { connection with buffer := connection.buffer.drop size }).Takes frame next)
    (kept : connection.givesUp = false) (tame : next.Tame backend root) (staged : next.Staged) :
    next.Calm backend root := by
  cases takes with
  | abandon id target decoded =>
      rw [abandon_absent calm.tame taking parsed decoded kept] at tame staged ⊢
      exact ⟨tame, staged, calm.unstopped, calm.unraised, calm.listening⟩
  | enqueue message decoded plain room fresh =>
      have raised : (connection.session.registry.register message.id).2.raised = [] := by
        rw [Registry.register]
        split <;> exact calm.unraised
      exact ⟨tame, staged, calm.unstopped, raised, calm.listening⟩
  | refuse id kind outcome refused =>
      obtain ⟨queue, answered⟩ := answer_keeps _ id kind outcome
      rw [answered] at tame staged ⊢
      exact ⟨tame, staged, calm.unstopped, calm.unraised, calm.listening⟩

theorem loop_calm {backend : Backend σ} {root : RootDse} {connection next : Connection σ}
    {events : List Event} (step : connection.LoopStep next events) (calm : connection.Calm backend root)
    (kept : connection.givesUp = false) (open_ : next.hasEnded = false) : next.Calm backend root := by
  have tame := loop_tame step calm.tame
  have staged := loop_staged step calm.staged
  cases step with
  | drain waiting serving stopped => simp [calm.unstopped] at stopped
  | take frame size _ taking parsed takes => exact takes_calm calm taking parsed takes kept tame staged
  | finish => cases open_
  | fail => cases open_
  | failHandshake => cases open_
  | failFrame => cases open_
  | _ => exact ⟨tame, staged, calm.unstopped, calm.unraised, calm.listening⟩

theorem worker_calm {backend : Backend σ} {root : RootDse} {connection next : Connection σ}
    (detached : backend.Detached) (step : connection.WorkerStep next)
    (calm : connection.Calm backend root) : next.Calm backend root := by
  have tame := worker_tame detached step calm.tame
  have staged := worker_staged step calm.staged
  have raised := worker_raised step calm.tame
  rw [calm.unraised] at raised
  cases step with
  | act id work serving =>
      have grown := work.step_extends connection.scene
      exact ⟨tame, staged, calm.unstopped, raised, grown.listening.trans calm.listening⟩
  | _ => exact ⟨tame, staged, calm.unstopped, raised, calm.listening⟩

theorem step_calm {backend : Backend σ} {root : RootDse} (detached : backend.Detached)
    (connection : Connection σ) (move : Move) (allowed : connection.Undisturbed move)
    (calm : connection.Calm backend root) (open_ : (connection.step move).1.hasEnded = false) :
    (connection.step move).1.Calm backend root := by
  have steps := connection.step_cases move
  have tame := step_tame detached connection move calm.tame
  generalize connection.step move = moved at steps tame open_ ⊢
  obtain ⟨next, events⟩ := moved
  cases steps with
  | loop _ _ step => exact loop_calm step calm allowed open_
  | worker _ step => exact worker_calm detached step calm
  | around move transport now stopped outside told =>
      have unstopped : stopped = false := by
        cases stopped with
        | false => rfl
        | true =>
            rcases told rfl with already | stop
            · simp [calm.unstopped] at already
            · subst stop
              exact allowed.elim
      exact ⟨tame, calm.staged, unstopped, calm.unraised, calm.listening⟩

def debugConfig : Config Unit where
  address := "127.0.0.1:389"
  routes := RouteTable.default (Backend.debug Unit) { namingContext := "o=x" }
  tls := some .completes

def deleteFrame (id : Int64) : Frame := .array [.integer id, .text "delete", .text "cn=a"]

def readAtOnce (frames : List Frame) (loops : Nat) : List Move :=
  .arrive (Frame.serializeAll frames) :: List.replicate loops .loop

end Connection

end DirectoryServer
