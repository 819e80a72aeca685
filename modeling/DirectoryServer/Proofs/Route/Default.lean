import DirectoryServer.Route.Handlers
import DirectoryServer.Proofs.Session.Play

set_option autoImplicit false

namespace DirectoryServer

def Answers (request : Request) (id : MessageId) (outs : List Outgoing) : Prop :=
  ∃ (found : List Entry) (final : Outgoing),
    outs = found.map (fun entry => ⟨id, .entry entry, false⟩) ++ [final] ∧
      (found ≠ [] → request.kind = .search) ∧
      final.id = id ∧ final.response.kind? = some request.kind ∧
      (final.upgrade = true → ∃ value, request = .extended startTlsName value)

theorem answers_final (request : Request) (id : MessageId) (response : Response)
    (kind : response.kind? = some request.kind) : Answers request id [⟨id, response, false⟩] :=
  ⟨[], _, rfl, nofun, rfl, kind, nofun⟩

namespace Handlers

variable {σ : Type}

theorem queues_final (request : Request) (id : MessageId) (token : Token) (response : Response)
    (kind : response.kind? = some request.kind) :
    (Context.write ⟨id, request.kind, token⟩ response : Work σ Bool).Queues token
      (fun _ outs => Answers request id outs) :=
  answers_final request id response kind

theorem queues_outcome (request : Request) (id : MessageId) (token : Token) (outcome : Outcome)
    (plain : request.kind ≠ .abandon) :
    (Context.writeOutcome ⟨id, request.kind, token⟩ outcome : Work σ Bool).Queues token
      (fun _ outs => Answers request id outs) := by
  obtain ⟨response, final, kind⟩ := request.kind.final_response outcome plain
  rw [Context.writeOutcome, final]
  exact queues_final request id token response kind

theorem quiet_outcome (context : Context) (outcome : Outcome) :
    (context.writeOutcome outcome : Work σ Bool).Quiet := by
  unfold Context.writeOutcome
  split
  · exact fun _ => trivial
  · trivial

theorem queues_last {request : Request} {id : MessageId} {token : Token} {work : Work σ Bool}
    (queues : work.Queues token (fun _ outs => Answers request id outs)) :
    (work.bind fun _ => Work.done ()).Queues token (fun _ outs => Answers request id outs) := by
  apply Work.queues_bind
  refine work.queues_mono token (fun value outs answers => ?_) queues
  simpa only [Work.Queues, List.append_nil] using answers

theorem quiet_last {work : Work σ Bool} (quiet : work.Quiet) :
    (work.bind fun _ => Work.done ()).Quiet :=
  work.quiet_bind _ quiet (fun _ => trivial)

theorem mismatched_quiet (context : Context) : (mismatched context : Work σ Unit).Quiet :=
  quiet_last (quiet_outcome context _)

theorem relay_queues (request : Request) (id : MessageId) (token : Token)
    (question : σ → ResultCode × σ) (plain : request.kind ≠ .abandon) :
    (relay ⟨id, request.kind, token⟩ question).Queues token (fun _ outs => Answers request id outs) :=
  fun _ => queues_last (queues_outcome request id token _ plain)

theorem relay_quiet (context : Context) (question : σ → ResultCode × σ) :
    (relay context question).Quiet :=
  fun _ => quiet_last (quiet_outcome context _)

theorem bind_queues (backend : Backend σ) (name mechanism : String) (credentials : Bytes)
    (id : MessageId) (token : Token) :
    (bind (.bind name mechanism credentials) backend ⟨id, .bind, token⟩).Queues token
      (fun _ outs => Answers (.bind name mechanism credentials) id outs) :=
  fun _ => queues_last (queues_outcome (.bind name mechanism credentials) id token _ nofun)

theorem bind_quiet (request : Request) (backend : Backend σ) (context : Context) :
    (bind request backend context).Quiet := by
  unfold bind
  split
  · exact fun _ => quiet_last (quiet_outcome context _)
  · exact mismatched_quiet context

theorem write_entries_queues (request : Request) (id : MessageId) (token : Token) (entries : List Entry) :
    (writeEntries ⟨id, request.kind, token⟩ entries : Work σ Bool).Queues token fun complete outs =>
      complete = true ∧ outs = entries.map (fun entry => ⟨id, .entry entry, false⟩) := by
  induction entries with
  | nil => exact ⟨rfl, rfl⟩
  | cons entry rest ih =>
      refine ⟨rfl, ?_⟩
      change (writeEntries ⟨id, request.kind, token⟩ rest : Work σ Bool).Queues token _
      refine Work.queues_mono _ token (fun complete outs written => ?_) ih
      exact ⟨written.1, by rw [written.2, List.map_cons]⟩

theorem write_entries_quiet (context : Context) (entries : List Entry) :
    (writeEntries context entries : Work σ Bool).Quiet := by
  induction entries with
  | nil => trivial
  | cons entry rest ih =>
      intro raised
      cases raised with
      | true => trivial
      | false => exact fun _ => ih

theorem finish_search_queues (query : Query) (id : MessageId) (token : Token) (code : ResultCode)
    (found : List Entry) :
    (finishSearch ⟨id, .search, token⟩ code : Work σ Unit).Queues token fun _ outs =>
      Answers (.search query) id (found.map (fun entry => ⟨id, .entry entry, false⟩) ++ outs) := by
  refine ⟨rfl, ?_⟩
  change Answers (.search query) id (found.map _ ++ [⟨id, .searchDone ⟨code, ""⟩, false⟩])
  exact ⟨found, _, rfl, fun _ => rfl, rfl, rfl, nofun⟩

theorem finish_search_quiet (context : Context) (code : ResultCode) :
    (finishSearch context code : Work σ Unit).Quiet := by
  intro raised
  cases raised with
  | true => trivial
  | false => exact quiet_last (quiet_outcome context _)

theorem search_queues (backend : Backend σ) (query : Query) (id : MessageId) (token : Token) :
    (search (.search query) backend ⟨id, .search, token⟩).Queues token
      (fun _ outs => Answers (.search query) id outs) := by
  refine ⟨rfl, fun found => ?_⟩
  cases found with
  | error code => exact finish_search_queues query id token code []
  | ok entries =>
      apply Work.queues_bind
      refine Work.queues_mono _ token (fun complete outs written => ?_)
        (write_entries_queues (.search query) id token entries)
      obtain ⟨rfl, rfl⟩ := written
      exact finish_search_queues query id token .success entries

theorem search_quiet (request : Request) (backend : Backend σ) (context : Context)
    (detached : backend.Detached) : (search request backend context).Quiet := by
  unfold search
  split
  · intro raised
    cases raised with
    | true => trivial
    | false =>
        refine ⟨detached, fun found => ?_⟩
        cases found with
        | error code => exact finish_search_quiet context code
        | ok entries =>
            refine Work.quiet_bind _ _ (write_entries_quiet context entries) (fun complete => ?_)
            cases complete with
            | true => exact finish_search_quiet context .success
            | false => trivial
  · exact mismatched_quiet context

theorem start_tls_queues (backend : Backend σ) (value : Option Bytes) (id : MessageId) (token : Token) :
    (startTls (.extended startTlsName value) backend ⟨id, .extended, token⟩).Queues token
      (fun _ outs => Answers (.extended startTlsName value) id outs) := by
  intro secured available
  cases secured with
  | true => exact answers_final _ id _ rfl
  | false =>
      cases available with
      | true => exact ⟨[], _, rfl, nofun, rfl, rfl, fun _ => ⟨value, rfl⟩⟩
      | false => exact answers_final _ id _ rfl

theorem start_tls_quiet (request : Request) (backend : Backend σ) (context : Context) :
    (startTls request backend context).Quiet := by
  intro secured available
  cases secured with
  | true => exact fun _ => trivial
  | false => cases available <;> exact fun _ => trivial

theorem who_am_i_queues (backend : Backend σ) (name : String) (value : Option Bytes) (id : MessageId)
    (token : Token) :
    (whoAmI (.extended name value) backend ⟨id, .extended, token⟩).Queues token
      (fun _ outs => Answers (.extended name value) id outs) :=
  fun _ => answers_final _ id _ rfl

theorem who_am_i_quiet (request : Request) (backend : Backend σ) (context : Context) :
    (whoAmI request backend context).Quiet :=
  fun _ _ => trivial

theorem synthetic_queues (entry : Entry) (backend : Backend σ) (query : Query) (id : MessageId)
    (token : Token) :
    (synthetic entry (.search query) backend ⟨id, .search, token⟩).Queues token
      (fun _ outs => Answers (.search query) id outs) := by
  unfold synthetic
  simp only
  split
  · exact ⟨[entry.project query.attributes], _, rfl, fun _ => rfl, rfl, rfl, nofun⟩
  · exact answers_final (.search query) id _ rfl
  · exact answers_final (.search query) id _ rfl

theorem synthetic_quiet (entry : Entry) (request : Request) (backend : Backend σ) (context : Context) :
    (synthetic entry request backend context).Quiet := by
  unfold synthetic
  split
  · split
    · exact fun _ => quiet_last (quiet_outcome context _)
    · exact quiet_last (quiet_outcome context _)
    · exact quiet_last (quiet_outcome context _)
  · exact mismatched_quiet context

theorem not_found_queues (request : Request) (backend : Backend σ) (id : MessageId) (token : Token)
    (plain : request.kind ≠ .abandon) :
    (notFound request backend ⟨id, request.kind, token⟩).Queues token
      (fun _ outs => Answers request id outs) := by
  cases request with
  | abandon target => exact absurd rfl plain
  | _ => exact queues_last (queues_outcome _ id token _ plain)

theorem not_found_quiet (request : Request) (backend : Backend σ) (context : Context) :
    (notFound request backend context).Quiet := by
  unfold notFound
  split
  · trivial
  · exact quiet_last (quiet_outcome context _)

end Handlers

theorem Route.kind_of_accepts {σ : Type} (route : Route σ) (request : Request)
    (taken : route.accepts request = true) : request.kind = route.operation := by
  unfold accepts at taken
  exact beq_iff_eq.mp (Bool.and_eq_true_iff.mp taken).1

theorem Route.mem_insert_into {σ : Type} (route other : Route σ) (routes : List (Route σ)) :
    other ∈ route.insertInto routes ↔ other = route ∨ other ∈ routes := by
  induction routes with
  | nil => simp [insertInto]
  | cons head rest ih =>
      unfold insertInto
      split
      · exact List.mem_cons
      · rw [List.mem_cons, ih, List.mem_cons]
        exact or_left_comm

namespace RouteTable

variable {σ : Type}

theorem mem_register_all (table : RouteTable σ) (routes : List (Route σ)) (route : Route σ) :
    route ∈ (table.registerAll routes).routes ↔ route ∈ table.routes ∨ route ∈ routes := by
  induction routes generalizing table with
  | nil => simp [registerAll]
  | cons head rest ih =>
      have step := ih (table.register head)
      rw [registerAll, List.foldl_cons, ← registerAll, step, register, Route.mem_insert_into,
        List.mem_cons, or_assoc, or_left_comm]

theorem mem_default (backend : Backend σ) (root : RootDse) (route : Route σ) :
    route ∈ (RouteTable.default backend root).routes ↔ route ∈ defaultList backend root := by
  have registered := mem_register_all ({} : RouteTable σ) (defaultList backend root) route
  simp only [List.not_mem_nil, false_or] at registered
  rw [default, registered]

theorem dispatch_cases (table : RouteTable σ) (request : Request) (context : Context) :
    (∃ route ∈ table.routes, route.accepts request = true ∧
      table.dispatch request context = (route.invoke request context).bind fun _ => .done true) ∨
    (∀ route ∈ table.routes, route.accepts request = false) ∧
      table.dispatch request context = ((abandonUnrouted request).bind fun _ =>
        (table.fallBack request context).bind fun _ => .done false) := by
  unfold dispatch find?
  split
  · rename_i route found
    have accepts := List.find?_some found
    exact .inl ⟨route, List.mem_of_find?_eq_some found, accepts, rfl⟩
  · rename_i missing
    refine .inr ⟨fun route member => ?_, rfl⟩
    simpa using List.find?_eq_none.mp missing route member

theorem dispatch_alike (table : RouteTable σ) (request : Request) (context : Context) (work : Work σ Bool)
    (taken : ∃ route ∈ table.routes, route.accepts request = true)
    (alike : ∀ route ∈ table.routes, route.accepts request = true →
      ((route.invoke request context).bind fun _ => .done true) = work) :
    table.dispatch request context = work := by
  rcases dispatch_cases table request context with ⟨route, member, accepts, dispatched⟩ | ⟨refused, _⟩
  · rw [dispatched, alike route member accepts]
  · obtain ⟨route, member, accepts⟩ := taken
    rw [refused route member] at accepts
    cases accepts

theorem default_fall_back (backend : Backend σ) (root : RootDse) (request : Request) (context : Context) :
    (RouteTable.default backend root).fallBack request context =
      Handlers.notFound request (Backend.null σ) context := rfl

theorem abandon_unrouted_plain (request : Request) (plain : request.kind ≠ .abandon) :
    (abandonUnrouted request : Work σ Unit) = .done () := by
  cases request with
  | abandon target => exact absurd rfl plain
  | _ => rfl

theorem default_dispatch_cases (backend : Backend σ) (root : RootDse) (request : Request)
    (context : Context) (plain : request.kind ≠ .abandon) :
    ∃ work value, (RouteTable.default backend root).dispatch request context =
        work.bind (fun _ => .done value) ∧
      ((∃ route ∈ defaultList backend root, route.accepts request = true ∧
          work = route.invoke request context) ∨
        work = Handlers.notFound request (Backend.null σ) context) := by
  rcases dispatch_cases (RouteTable.default backend root) request context with
    ⟨route, member, accepts, dispatched⟩ | ⟨_, dispatched⟩
  · exact ⟨_, true, dispatched, .inl ⟨route, (mem_default backend root route).mp member, accepts, rfl⟩⟩
  · rw [abandon_unrouted_plain request plain, default_fall_back] at dispatched
    exact ⟨_, false, dispatched, .inr rfl⟩

theorem route_queues (backend : Backend σ) (root : RootDse) (route : Route σ) (request : Request)
    (id : MessageId) (token : Token) (member : route ∈ defaultList backend root)
    (accepts : route.accepts request = true) (plain : request.kind ≠ .abandon) :
    (route.invoke request ⟨id, request.kind, token⟩).Queues token
      (fun _ outs => Answers request id outs) := by
  have kind := route.kind_of_accepts request accepts
  simp only [defaultList, List.mem_cons, List.not_mem_nil, or_false] at member
  rcases member with rfl | rfl | rfl | rfl | rfl | rfl | rfl | rfl | rfl | rfl | rfl
  · cases request with
    | search query => exact Handlers.synthetic_queues _ (Backend.null σ) query id token
    | _ => cases kind
  · cases request with
    | search query => exact Handlers.synthetic_queues _ (Backend.null σ) query id token
    | _ => cases kind
  · cases request with
    | extended name value =>
        have same := accepts
        simp only [Route.accepts, Route.withExtendedName, Bool.and_eq_true, beq_iff_eq,
          Option.some.injEq] at same
        obtain ⟨-, rfl⟩ := same
        exact Handlers.start_tls_queues (Backend.null σ) value id token
    | _ => cases kind
  · cases request with
    | extended name value => exact Handlers.who_am_i_queues (Backend.null σ) name value id token
    | _ => cases kind
  · exact absurd kind plain
  · cases request with
    | bind name mechanism credentials =>
        exact Handlers.bind_queues backend name mechanism credentials id token
    | _ => cases kind
  · cases request with
    | search query => exact Handlers.search_queues backend query id token
    | _ => cases kind
  · cases request with
    | add entry => exact Handlers.relay_queues (.add entry) id token _ plain
    | _ => cases kind
  · cases request with
    | compare name attr value => exact Handlers.relay_queues (.compare name attr value) id token _ plain
    | _ => cases kind
  · cases request with
    | modify name changes => exact Handlers.relay_queues (.modify name changes) id token _ plain
    | _ => cases kind
  · cases request with
    | delete name => exact Handlers.relay_queues (.delete name) id token _ plain
    | _ => cases kind

theorem route_quiet (backend : Backend σ) (root : RootDse) (route : Route σ) (request : Request)
    (context : Context) (member : route ∈ defaultList backend root)
    (accepts : route.accepts request = true) (plain : request.kind ≠ .abandon)
    (detached : backend.Detached) : (route.invoke request context).Quiet := by
  have kind := route.kind_of_accepts request accepts
  simp only [defaultList, List.mem_cons, List.not_mem_nil, or_false] at member
  rcases member with rfl | rfl | rfl | rfl | rfl | rfl | rfl | rfl | rfl | rfl | rfl
  · exact Handlers.synthetic_quiet _ request (Backend.null σ) context
  · exact Handlers.synthetic_quiet _ request (Backend.null σ) context
  · exact Handlers.start_tls_quiet request (Backend.null σ) context
  · exact Handlers.who_am_i_quiet request (Backend.null σ) context
  · exact absurd kind plain
  · exact Handlers.bind_quiet request backend context
  · exact Handlers.search_quiet request backend context detached
  · cases request with
    | add entry => exact Handlers.relay_quiet context _
    | _ => cases kind
  · cases request with
    | compare name attr value => exact Handlers.relay_quiet context _
    | _ => cases kind
  · cases request with
    | modify name changes => exact Handlers.relay_quiet context _
    | _ => cases kind
  · cases request with
    | delete name => exact Handlers.relay_quiet context _
    | _ => cases kind

-- The table is a variable here: a default table in a goal would be searched through.
theorem default_answers (table : RouteTable σ) (backend : Backend σ) (root : RootDse) (request : Request)
    (id : MessageId) (token : Token) (routes : table = RouteTable.default backend root)
    (plain : request.kind ≠ .abandon) :
    (table.dispatch request ⟨id, request.kind, token⟩).Queues token
      (fun _ outs => Answers request id outs) := by
  subst routes
  have found := default_dispatch_cases backend root request ⟨id, request.kind, token⟩ plain
  generalize (RouteTable.default backend root).dispatch request _ = whole at found ⊢
  obtain ⟨work, value, rfl, served⟩ := found
  have queues : work.Queues token (fun _ outs => Answers request id outs) := by
    rcases served with ⟨route, member, accepts, rfl⟩ | rfl
    · exact route_queues backend root route request id token member accepts plain
    · exact Handlers.not_found_queues request _ id token plain
  apply Work.queues_bind
  refine work.queues_mono token (fun _ outs answers => ?_) queues
  simpa only [Work.Queues, List.append_nil] using answers

theorem default_quiet (table : RouteTable σ) (backend : Backend σ) (root : RootDse) (request : Request)
    (context : Context) (routes : table = RouteTable.default backend root)
    (plain : request.kind ≠ .abandon) (detached : backend.Detached) :
    (table.dispatch request context).Quiet := by
  subst routes
  have found := default_dispatch_cases backend root request context plain
  generalize (RouteTable.default backend root).dispatch request context = whole at found ⊢
  obtain ⟨work, value, rfl, served⟩ := found
  refine work.quiet_bind _ ?_ (fun _ => trivial)
  rcases served with ⟨route, member, accepts, rfl⟩ | rfl
  · exact route_quiet backend root route request context member accepts plain detached
  · exact Handlers.not_found_quiet request _ context

theorem default_served (table : RouteTable σ) (backend : Backend σ) (root : RootDse) (request : Request)
    (context : Context) (route : Route σ) (routes : table = RouteTable.default backend root)
    (only : (defaultList backend root).filter (fun route => route.accepts request) = [route]) :
    table.dispatch request context = (route.invoke request context).bind fun _ => .done true := by
  have taking : route ∈ (defaultList backend root).filter (fun route => route.accepts request) := by
    rw [only]
    exact List.mem_singleton_self route
  obtain ⟨listed, accepts⟩ := List.mem_filter.mp taking
  apply dispatch_alike
  · exact ⟨route, by rwa [routes, mem_default], accepts⟩
  · intro other member accepts
    rw [routes, mem_default] at member
    have taken : other ∈ (defaultList backend root).filter (fun route => route.accepts request) :=
      List.mem_filter.mpr ⟨member, accepts⟩
    rw [only] at taken
    rw [List.mem_singleton.mp taken]

theorem default_abandon (table : RouteTable σ) (backend : Backend σ) (root : RootDse) (target : MessageId)
    (context : Context) (routes : table = RouteTable.default backend root) :
    table.dispatch (.abandon target) context = .abandon target fun _ => .done true := by
  rw [default_served table backend root (.abandon target) context _ routes rfl]
  rfl

end RouteTable

end DirectoryServer
