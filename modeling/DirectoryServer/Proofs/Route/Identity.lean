import DirectoryServer.Proofs.Route.Default

set_option autoImplicit false

namespace DirectoryServer

theorem Session.send_bound (session : Session) (out : Outgoing) :
    (session.send out).2.bound = session.bound := by
  unfold send
  split <;> rfl

theorem Session.abandon_bound (session : Session) (target : MessageId) :
    (session.abandon target).2.bound = session.bound := by
  unfold abandon
  split <;> rfl

theorem Session.abandon_all_bound (session : Session) (targets : List MessageId) :
    (targets.foldl (fun session target => (session.abandon target).2) session).bound = session.bound := by
  induction targets generalizing session with
  | nil => rfl
  | cons target rest ih => rw [List.foldl_cons, ih, abandon_bound]

namespace Work

variable {σ α β : Type}

def KeepsIdentity : Work σ α → Prop
  | .done _ => True
  | .poll _ next => ∀ raised, (next raised).KeepsIdentity
  | .queue _ next => ∀ sent, (next sent).KeepsIdentity
  | .abandon _ next => ∀ found, (next found).KeepsIdentity
  | .identity next => ∀ name, (next name).KeepsIdentity
  | .identify _ _ => False
  | .transport next => ∀ secured available, (next secured available).KeepsIdentity
  | .ask _ next => ∀ code, (next code).KeepsIdentity
  | .search _ _ next => ∀ found, (next found).KeepsIdentity

theorem keeps_identity_bind (work : Work σ α) (next : α → Work σ β) (first : work.KeepsIdentity)
    (second : ∀ value, (next value).KeepsIdentity) : (work.bind next).KeepsIdentity := by
  induction work with
  | done value => exact second value
  | poll token more ih => exact fun raised => ih raised (first raised)
  | queue out more ih => exact fun sent => ih sent (first sent)
  | abandon target more ih => exact fun found => ih found (first found)
  | identity more ih => exact fun name => ih name (first name)
  | identify name more ih => exact first.elim
  | transport more ih => exact fun secured available => ih secured available (first secured available)
  | ask question more ih => exact fun code => ih code (first code)
  | search backend query more ih => exact fun found => ih found (first found)

theorem keeps_identity_run (work : Work σ α) (scene : Scene σ) (keeps : work.KeepsIdentity) :
    (work.run scene).2.session.bound = scene.session.bound := by
  induction work generalizing scene with
  | done value => rfl
  | poll token next ih => exact ih _ scene (keeps _)
  | queue out next ih => exact (ih _ _ (keeps _)).trans (scene.session.send_bound out)
  | abandon target next ih => exact (ih _ _ (keeps _)).trans (scene.session.abandon_bound target)
  | identity next ih => exact ih _ scene (keeps _)
  | identify name next ih => exact keeps.elim
  | transport next ih => exact ih _ _ scene (keeps _ _)
  | ask question next ih => exact ih _ _ (keeps _)
  | search backend query next ih =>
      exact (ih _ _ (keeps _)).trans (scene.session.abandon_all_bound _)

end Work

namespace Handlers

variable {σ : Type}

theorem write_outcome_keeps (context : Context) (outcome : Outcome) :
    (context.writeOutcome outcome : Work σ Bool).KeepsIdentity := by
  unfold Context.writeOutcome
  split
  · exact fun _ => trivial
  · trivial

theorem last_outcome_keeps (context : Context) (outcome : Outcome) :
    ((context.writeOutcome outcome : Work σ Bool).bind fun _ => Work.done ()).KeepsIdentity :=
  Work.keeps_identity_bind _ _ (write_outcome_keeps context outcome) fun _ => trivial

theorem mismatched_keeps (context : Context) : (mismatched context : Work σ Unit).KeepsIdentity :=
  last_outcome_keeps context _

theorem relay_keeps (context : Context) (question : σ → ResultCode × σ) :
    (relay context question).KeepsIdentity :=
  fun _ => last_outcome_keeps context _

theorem write_entries_keeps (context : Context) (entries : List Entry) :
    (writeEntries context entries : Work σ Bool).KeepsIdentity := by
  induction entries with
  | nil => trivial
  | cons entry rest ih =>
      intro raised
      cases raised with
      | true => trivial
      | false => exact fun _ => ih

theorem finish_search_keeps (context : Context) (code : ResultCode) :
    (finishSearch context code : Work σ Unit).KeepsIdentity := by
  intro raised
  cases raised with
  | true => trivial
  | false => exact last_outcome_keeps context _

theorem search_keeps (request : Request) (backend : Backend σ) (context : Context) :
    (search request backend context).KeepsIdentity := by
  unfold search
  split
  · intro raised
    cases raised with
    | true => trivial
    | false =>
        intro found
        cases found with
        | error code => exact finish_search_keeps context code
        | ok entries =>
            refine Work.keeps_identity_bind _ _ (write_entries_keeps context entries) fun complete => ?_
            cases complete with
            | true => exact finish_search_keeps context .success
            | false => trivial
  · exact mismatched_keeps context

theorem start_tls_keeps (request : Request) (backend : Backend σ) (context : Context) :
    (startTls request backend context).KeepsIdentity := by
  intro secured available
  cases secured with
  | true => exact fun _ => trivial
  | false => cases available <;> exact fun _ => trivial

theorem synthetic_keeps (entry : Entry) (request : Request) (backend : Backend σ) (context : Context) :
    (synthetic entry request backend context).KeepsIdentity := by
  unfold synthetic
  split
  · split
    · exact fun _ => last_outcome_keeps context _
    · exact last_outcome_keeps context _
    · exact last_outcome_keeps context _
  · exact mismatched_keeps context

theorem who_am_i_keeps (request : Request) (backend : Backend σ) (context : Context) :
    (whoAmI request backend context).KeepsIdentity :=
  fun _ _ => trivial

theorem not_found_keeps (request : Request) (backend : Backend σ) (context : Context) :
    (notFound request backend context).KeepsIdentity := by
  unfold notFound
  split
  · trivial
  · exact last_outcome_keeps context _

end Handlers

namespace RouteTable

variable {σ : Type}

theorem abandon_unrouted_keeps (request : Request) :
    (abandonUnrouted request : Work σ Unit).KeepsIdentity := by
  unfold abandonUnrouted
  split
  · exact fun _ => trivial
  · trivial

theorem route_keeps (backend : Backend σ) (root : RootDse) (route : Route σ) (request : Request)
    (context : Context) (member : route ∈ defaultList backend root)
    (accepts : route.accepts request = true) (other : request.kind ≠ .bind) :
    (route.invoke request context).KeepsIdentity := by
  have kind := route.kind_of_accepts request accepts
  simp only [defaultList, List.mem_cons, List.not_mem_nil, or_false] at member
  rcases member with rfl | rfl | rfl | rfl | rfl | rfl | rfl | rfl | rfl | rfl | rfl
  · exact Handlers.synthetic_keeps _ request (Backend.null σ) context
  · exact Handlers.synthetic_keeps _ request (Backend.null σ) context
  · exact Handlers.start_tls_keeps request (Backend.null σ) context
  · exact Handlers.who_am_i_keeps request (Backend.null σ) context
  · exact abandon_unrouted_keeps request
  · exact absurd kind other
  · exact Handlers.search_keeps request backend context
  · cases request with
    | add entry => exact Handlers.relay_keeps context _
    | _ => cases kind
  · cases request with
    | compare name attr value => exact Handlers.relay_keeps context _
    | _ => cases kind
  · cases request with
    | modify name changes => exact Handlers.relay_keeps context _
    | _ => cases kind
  · cases request with
    | delete name => exact Handlers.relay_keeps context _
    | _ => cases kind

theorem default_keeps (table : RouteTable σ) (backend : Backend σ) (root : RootDse) (request : Request)
    (context : Context) (routes : table = RouteTable.default backend root) (other : request.kind ≠ .bind) :
    (table.dispatch request context).KeepsIdentity := by
  rcases dispatch_cases table request context with ⟨route, member, accepts, dispatched⟩ | ⟨_, dispatched⟩
  · rw [routes, mem_default] at member
    rw [dispatched]
    refine Work.keeps_identity_bind _ _ ?_ fun _ => trivial
    exact route_keeps backend root route request context member accepts other
  · have fallBack : (table.fallBack request context).KeepsIdentity := by
      rw [routes, default_fall_back]
      exact Handlers.not_found_keeps request _ context
    rw [dispatched]
    refine Work.keeps_identity_bind _ _ (abandon_unrouted_keeps request) fun _ => ?_
    exact Work.keeps_identity_bind _ _ fallBack fun _ => trivial

theorem default_bind (table : RouteTable σ) (backend : Backend σ) (root : RootDse)
    (name mechanism : String) (credentials : Bytes) (context : Context)
    (routes : table = RouteTable.default backend root) :
    table.dispatch (.bind name mechanism credentials) context =
      (Handlers.bind (.bind name mechanism credentials) backend context).bind fun _ => .done true := by
  rw [default_served table backend root _ context _ routes rfl]
  rfl

theorem default_who_am_i (table : RouteTable σ) (backend : Backend σ) (root : RootDse)
    (value : Option Bytes) (context : Context) (routes : table = RouteTable.default backend root) :
    table.dispatch (.extended whoAmIName value) context =
      (Handlers.whoAmI (.extended whoAmIName value) (Backend.null σ) context).bind fun _ => .done true := by
  rw [default_served table backend root _ context _ routes rfl]
  rfl

end RouteTable

-- The connection may secure the transport, requests come and go, the backend has other clients; none of
-- them binds.
inductive Turn (σ : Type) where
  | dispatch (request : Request) (context : Context)
  | others (change : Scene σ → Scene σ)
      (keeps : ∀ scene, (change scene).session.bound = scene.session.bound)

def Turn.Binds {σ : Type} : Turn σ → Prop
  | .dispatch request _ => request.kind = .bind
  | .others _ _ => False

theorem Turn.binds_iff {σ : Type} (turn : Turn σ) :
    turn.Binds ↔ ∃ name mechanism credentials context,
      turn = .dispatch (.bind name mechanism credentials) context := by
  constructor
  · intro binds
    cases turn with
    | dispatch request context =>
        cases request with
        | bind name mechanism credentials => exact ⟨name, mechanism, credentials, context, rfl⟩
        | _ => cases binds
    | others change keeps => exact binds.elim
  · rintro ⟨name, mechanism, credentials, context, rfl⟩
    rfl

namespace RouteTable

variable {σ : Type}

def turn (table : RouteTable σ) (scene : Scene σ) : Turn σ → Scene σ
  | .dispatch request context => ((table.dispatch request context).run scene).2
  | .others change _ => change scene

def turnAll (table : RouteTable σ) (scene : Scene σ) (turns : List (Turn σ)) : Scene σ :=
  turns.foldl table.turn scene

def LastBind (table : RouteTable σ) (backend : Backend σ) (scene : Scene σ) (turns : List (Turn σ))
    (name : String) : Prop :=
  ∃ before mechanism credentials context after,
    turns = before ++ .dispatch (.bind name mechanism credentials) context :: after ∧
    (∀ turn ∈ after, ¬ turn.Binds) ∧
    (backend.bind name mechanism credentials (table.turnAll scene before).state).1 = .success

def identityAnswer (id : MessageId) (text : String) : Outgoing :=
  ⟨id, .extended ⟨.success, ""⟩ none (some (Text.encode text)), false⟩

theorem turn_keeps (table : RouteTable σ) (backend : Backend σ) (root : RootDse) (scene : Scene σ)
    (turn : Turn σ) (routes : table = RouteTable.default backend root) (other : ¬ turn.Binds) :
    (table.turn scene turn).session.bound = scene.session.bound := by
  cases turn with
  | dispatch request context =>
      exact Work.keeps_identity_run _ scene (default_keeps table backend root request context routes other)
  | others change keeps => exact keeps scene

theorem bind_identifies (table : RouteTable σ) (backend : Backend σ) (root : RootDse) (scene : Scene σ)
    (name mechanism : String) (credentials : Bytes) (context : Context)
    (routes : table = RouteTable.default backend root) :
    (table.turn scene (.dispatch (.bind name mechanism credentials) context)).session.bound =
      if (backend.bind name mechanism credentials scene.state).1 = .success then some name else none := by
  rw [turn, default_bind table backend root name mechanism credentials context routes]
  let answer := backend.bind name mechanism credentials scene.state
  let told := scene.session.identify (if answer.1.isSuccess then some name else none)
  let rest : Work σ Bool := (Work.bind (context.writeOutcome ⟨answer.1, Handlers.bindDiagnostic answer.1⟩)
    fun _ => Work.done ()).bind fun _ => Work.done true
  have keeps : rest.KeepsIdentity :=
    Work.keeps_identity_bind _ _ (Handlers.last_outcome_keeps context _) fun _ => trivial
  have kept : (rest.run ⟨told, answer.2⟩).2.session.bound = told.bound :=
    Work.keeps_identity_run rest ⟨told, answer.2⟩ keeps
  refine kept.trans ?_
  simp [told, answer, Session.identify, ResultCode.isSuccess]

theorem turn_bound_iff (table : RouteTable σ) (backend : Backend σ) (root : RootDse) (scene : Scene σ)
    (turn : Turn σ) (name : String) (routes : table = RouteTable.default backend root) :
    (table.turn scene turn).session.bound = some name ↔
      (scene.session.bound = some name ∧ ¬ turn.Binds) ∨
        ∃ mechanism credentials context, turn = .dispatch (.bind name mechanism credentials) context ∧
          (backend.bind name mechanism credentials scene.state).1 = .success := by
  by_cases binds : turn.Binds
  · obtain ⟨other, mechanism, credentials, context, rfl⟩ := turn.binds_iff.mp binds
    rw [bind_identifies table backend root scene other mechanism credentials context routes]
    constructor
    · intro named
      by_cases granted : (backend.bind other mechanism credentials scene.state).1 = .success
      · rw [if_pos granted] at named
        cases named
        exact .inr ⟨mechanism, credentials, context, rfl, granted⟩
      · rw [if_neg granted] at named
        cases named
    · rintro (⟨_, spared⟩ | ⟨_, _, _, same, granted⟩)
      · exact absurd binds spared
      · cases same
        rw [if_pos granted]
  · rw [turn_keeps table backend root scene turn routes binds, and_iff_left binds]
    refine (or_iff_left ?_).symm
    rintro ⟨mechanism, credentials, context, rfl, _⟩
    exact binds rfl

theorem last_bind_cons (table : RouteTable σ) (backend : Backend σ) (scene : Scene σ) (turn : Turn σ)
    (turns : List (Turn σ)) (name : String) :
    table.LastBind backend scene (turn :: turns) name ↔
      (∃ mechanism credentials context, turn = .dispatch (.bind name mechanism credentials) context ∧
        (∀ later ∈ turns, ¬ later.Binds) ∧
        (backend.bind name mechanism credentials scene.state).1 = .success) ∨
      table.LastBind backend (table.turn scene turn) turns name := by
  constructor
  · rintro ⟨before, mechanism, credentials, context, after, split, free, granted⟩
    cases before with
    | nil =>
        obtain ⟨rfl, rfl⟩ := List.cons.inj split
        exact .inl ⟨mechanism, credentials, context, rfl, free, granted⟩
    | cons first before =>
        obtain ⟨rfl, rfl⟩ := List.cons.inj split
        exact .inr ⟨before, mechanism, credentials, context, after, rfl, free, granted⟩
  · rintro (⟨mechanism, credentials, context, rfl, free, granted⟩ |
      ⟨before, mechanism, credentials, context, after, rfl, free, granted⟩)
    · exact ⟨[], mechanism, credentials, context, turns, rfl, free, granted⟩
    · exact ⟨turn :: before, mechanism, credentials, context, after, rfl, free, granted⟩

-- The induction is on the turns: a bind takes the identity over, all others leave it to the binds before.
theorem turn_all_bound_iff (table : RouteTable σ) (backend : Backend σ) (root : RootDse) (scene : Scene σ)
    (turns : List (Turn σ)) (name : String) (routes : table = RouteTable.default backend root) :
    (table.turnAll scene turns).session.bound = some name ↔
      (scene.session.bound = some name ∧ ∀ turn ∈ turns, ¬ turn.Binds) ∨
        table.LastBind backend scene turns name := by
  induction turns generalizing scene with
  | nil => simp [turnAll, LastBind]
  | cons turn rest ih =>
      rw [turnAll, List.foldl_cons, ← turnAll, ih (table.turn scene turn),
        turn_bound_iff table backend root scene turn name routes, last_bind_cons, List.forall_mem_cons]
      grind

theorem who_am_i_answers (table : RouteTable σ) (backend : Backend σ) (root : RootDse) (scene : Scene σ)
    (value : Option Bytes) (context : Context) (routes : table = RouteTable.default backend root)
    (listening : scene.session.listening = true) :
    ((table.dispatch (.extended whoAmIName value) context).run scene).2.session.queue =
      scene.session.queue ++ [identityAnswer context.id (Handlers.identityText scene.session.bound)] := by
  have sent := scene.session.send_listening
    (identityAnswer context.id (Handlers.identityText scene.session.bound)) listening
  rw [default_who_am_i table backend root value context routes]
  exact congrArg (fun answer : Bool × Session => answer.2.queue) sent

theorem identity_follows_last_bind (table : RouteTable σ) (backend : Backend σ) (root : RootDse)
    (scene : Scene σ) (turns : List (Turn σ)) (routes : table = RouteTable.default backend root)
    (anonymous : scene.session.bound = none) :
    let last := table.turnAll scene turns
    (∀ name, last.session.bound = some name ↔ table.LastBind backend scene turns name) ∧
    (∀ value context, last.session.listening = true →
      let queue := ((table.dispatch (.extended whoAmIName value) context).run last).2.session.queue
      (∀ name, table.LastBind backend scene turns name →
        queue = last.session.queue ++ [identityAnswer context.id ("dn:" ++ name)]) ∧
      ((∀ name, ¬ table.LastBind backend scene turns name) →
        queue = last.session.queue ++ [identityAnswer context.id ""])) ∧
    ∀ request context, request.kind ≠ .bind →
      ((table.dispatch request context).run last).2.session.bound = last.session.bound := by
  intro last
  have bound : ∀ name, last.session.bound = some name ↔ table.LastBind backend scene turns name := by
    intro name
    rw [turn_all_bound_iff table backend root scene turns name routes]
    exact or_iff_right fun before => by simp [anonymous] at before
  refine ⟨bound, fun value context listening => ?_, fun request context other => ?_⟩
  · have told := who_am_i_answers table backend root last value context routes listening
    refine ⟨fun name granted => ?_, fun nobody => ?_⟩
    · rw [told, (bound name).mpr granted]
      rfl
    · have unbound : last.session.bound = none :=
        Option.eq_none_iff_forall_ne_some.mpr fun name known => nobody name ((bound name).mp known)
      rw [told, unbound]
      rfl
  · exact table.turn_keeps backend root last (.dispatch request context) routes other

def guardedBackend : Backend Unit :=
  { Backend.null Unit with
    bind := fun name _ _ state => (if name = "cn=ada" then .success else .invalidCredentials, state) }

def secureTurn : Turn Unit :=
  .others (fun scene => { scene with session := scene.session.markSecured }) fun _ => rfl

def bindTurn (id : MessageId) (name : String) : Turn Unit :=
  .dispatch (.bind name "simple" []) ⟨id, .bind, 0⟩

theorem second_bind_followed :
    let table := RouteTable.default guardedBackend { namingContext := "dc=a" }
    let scene : Scene Unit := ⟨{ peer := "127.0.0.1:40000", tlsAvailable := true }, ()⟩
    let turns := [bindTurn 1 "cn=bob", bindTurn 2 "cn=ada", secureTurn]
    let last := table.turnAll scene turns
    table = RouteTable.default guardedBackend { namingContext := "dc=a" } ∧
      scene.session.bound = none ∧ last.session.listening = true ∧
      table.LastBind guardedBackend scene turns "cn=ada" ∧ last.session.bound = some "cn=ada" ∧
      ((table.dispatch (.extended whoAmIName none) ⟨3, .extended, 0⟩).run last).2.session.queue =
        last.session.queue ++ [identityAnswer 3 "dn:cn=ada"] := by
  intro table scene turns last
  have granted : table.LastBind guardedBackend scene turns "cn=ada" :=
    ⟨[bindTurn 1 "cn=bob"], "simple", [], ⟨2, .bind, 0⟩, [secureTurn], rfl,
      List.forall_mem_singleton.mpr id, rfl⟩
  have first := (table.dispatch (.bind "cn=bob" "simple" []) ⟨1, .bind, 0⟩).run_extends scene
  have second := (table.dispatch (.bind "cn=ada" "simple" []) ⟨2, .bind, 0⟩).run_extends
    (table.turn scene (bindTurn 1 "cn=bob"))
  have listening : last.session.listening = true := second.listening.trans first.listening
  obtain ⟨bound, told, _⟩ := identity_follows_last_bind table guardedBackend _ scene turns rfl rfl
  exact ⟨rfl, rfl, listening, granted, (bound "cn=ada").mpr granted,
    (told none ⟨3, .extended, 0⟩ listening).1 "cn=ada" granted⟩

end RouteTable

end DirectoryServer
