import DirectoryServer.Proofs.Route.Default
import DirectoryServer.Proofs.Route.Ranking
import DirectoryServer.Proofs.Route.Accepts

set_option autoImplicit false

namespace DirectoryServer

theorem Route.any_class_text {σ : Type} (route : Route σ) :
    (route.withFilter "(objectclass=*)").filterText = some "(objectclass=*)" := rfl

inductive Destination where
  | rootDse
  | namingContext
  | startTls
  | whoAmI
  | abandon
  | bind
  | search
  | add
  | compare
  | modify
  | delete
deriving DecidableEq, Repr

def Query.AsksForRootDse (query : Query) : Prop :=
  query.base = "" ∧ query.scope = .baseObject ∧ Text.lower query.filter.print = "(objectclass=*)"
deriving Decidable

def Query.AsksFor (query : Query) (name : String) : Prop :=
  Text.lower query.base = Text.lower name ∧ query.scope = .baseObject
deriving Decidable

def Request.destination? (namingContext : String) : Request → Option Destination
  | .bind _ _ _ => some .bind
  | .search query =>
      if query.AsksForRootDse then some .rootDse
      else if query.AsksFor namingContext then some .namingContext
      else some .search
  | .add _ => some .add
  | .modify _ _ => some .modify
  | .delete _ => some .delete
  | .compare _ _ _ => some .compare
  | .extended name _ =>
      if name = startTlsName then some .startTls
      else if name = whoAmIName then some .whoAmI
      else none
  | .abandon _ => some .abandon

structure Service (σ : Type) where
  handler : Handler σ
  backend : Backend σ
  label : String

variable {σ : Type}

def Service.serve (service : Service σ) (request : Request) (context : Context) : Work σ Unit :=
  service.handler request service.backend context

def Route.service (route : Route σ) : Service σ :=
  ⟨route.handler, route.backend, route.label⟩

def Destination.service (backend : Backend σ) (root : RootDse) : Destination → Service σ
  | .rootDse => ⟨Handlers.synthetic root.entry, .null σ, "Search - root DSE"⟩
  | .namingContext =>
      ⟨Handlers.synthetic (namingContextRoot root.namingContext), .null σ, "Search - naming context root"⟩
  | .startTls => ⟨Handlers.startTls, .null σ, "Extended - StartTLS"⟩
  | .whoAmI => ⟨Handlers.whoAmI, .null σ, "Extended - WhoAmI"⟩
  | .abandon => ⟨Handlers.abandon, .null σ, "Abandon"⟩
  | .bind => ⟨Handlers.bind, backend, "Bind"⟩
  | .search => ⟨Handlers.search, backend, "Search"⟩
  | .add => ⟨Handlers.add, backend, "Add"⟩
  | .compare => ⟨Handlers.compare, backend, "Compare"⟩
  | .modify => ⟨Handlers.modify, backend, "Modify"⟩
  | .delete => ⟨Handlers.delete, backend, "Delete"⟩

namespace RouteTable

theorem default_ranked (backend : Backend σ) (root : RootDse) :
    Ranked (defaultList backend root) (RouteTable.default backend root).routes := by
  have ranked := register_all_ranked {} [] (defaultList backend root) ranked_nothing
  rw [List.nil_append] at ranked
  rw [default]
  dsimp only
  exact ranked

theorem default_find (backend : Backend σ) (root : RootDse) (request : Request) (route : Route σ)
    (others : List (Route σ))
    (taken : (defaultList backend root).filter (·.accepts request) = route :: others)
    (shorter : ∀ other ∈ others, other.weight ≤ route.weight) :
    (RouteTable.default backend root).find? request = some route := by
  rw [find_iff _ _ request route (default_ranked backend root), taken]
  exact ⟨[], others, rfl, List.forall_mem_nil _,
    fun other member => (Route.name_length_le_iff other route).mpr (shorter other member)⟩

theorem default_find_none (backend : Backend σ) (root : RootDse) (request : Request)
    (taken : (defaultList backend root).filter (·.accepts request) = []) :
    (RouteTable.default backend root).find? request = none := by
  rw [find?, List.find?_eq_none]
  intro route member
  rw [mem_default] at member
  exact List.filter_eq_nil_iff.mp taken route member

structure SearchRoutes (backend : Backend σ) (root : RootDse) (dse naming : Route σ)
    (others : List (Route σ)) : Prop where
  listed : defaultList backend root = dse :: naming :: others
  dseService : dse.service = Destination.rootDse.service backend root
  dseWeight : dse.weight = 1
  dseTakes (query : Query) : dse.accepts (.search query) = true ↔ query.AsksForRootDse
  namingService : naming.service = Destination.namingContext.service backend root
  namingWeight : naming.weight = root.namingContext.length + 1
  namingTakes (query : Query) : naming.accepts (.search query) = true ↔ query.AsksFor root.namingContext
  behind (query : Query) : ∃ route, others.filter (·.accepts (.search query)) = [route] ∧
    route.service = Destination.search.service backend root ∧ route.weight = 0

theorem default_search_routes (backend : Backend σ) (root : RootDse) :
    ∃ dse naming others, SearchRoutes backend root dse naming others := by
  refine ⟨_, _, _, ⟨rfl, rfl, rfl, fun query => ?_, rfl, rfl, fun query => ?_, fun query => ⟨_, rfl, rfl, rfl⟩⟩⟩
  · rw [Route.accepts_search_iff, Route.any_class_text, Query.AsksForRootDse, ← Text.lower_empty_iff]
    simp [Route.withFilter, Route.withScope, Route.withSuffix, and_comm]
  · rw [Route.accepts_search_iff, Query.AsksFor]
    simp [Route.withScope, Route.withSuffix]

section SearchRoutes

variable {backend : Backend σ} {root : RootDse} {dse naming : Route σ} {others : List (Route σ)}

-- The nameless entry is the naming context's too only if that is empty; then the routes are as long, and
-- the one for the root DSE was registered first.
theorem SearchRoutes.find_root_dse (routes : SearchRoutes backend root dse naming others) (query : Query)
    (asks : query.AsksForRootDse) : (RouteTable.default backend root).find? (.search query) = some dse := by
  obtain ⟨search, rest, _, searchWeight⟩ := routes.behind query
  refine default_find backend root _ dse ((naming :: others).filter (·.accepts (.search query))) ?_ ?_
  · rw [routes.listed, List.filter_cons, if_pos ((routes.dseTakes query).mpr asks)]
  · rw [List.filter_cons, rest]
    split
    · rename_i taken
      have empty : root.namingContext = "" := by
        rw [routes.namingTakes, Query.AsksFor, asks.1, eq_comm, Text.lower_empty_iff] at taken
        exact taken.1
      simp [routes.namingWeight, routes.dseWeight, searchWeight, empty]
    · simp [searchWeight]

theorem SearchRoutes.find_naming_context (routes : SearchRoutes backend root dse naming others)
    (query : Query) (unasked : ¬query.AsksForRootDse) (named : query.AsksFor root.namingContext) :
    (RouteTable.default backend root).find? (.search query) = some naming := by
  obtain ⟨search, rest, _, searchWeight⟩ := routes.behind query
  refine default_find backend root _ naming [search] ?_ ?_
  · rw [routes.listed, List.filter_cons, if_neg (unasked ∘ (routes.dseTakes query).mp), List.filter_cons,
      if_pos ((routes.namingTakes query).mpr named), rest]
  · simp [searchWeight]

theorem SearchRoutes.find_entries (routes : SearchRoutes backend root dse naming others) (query : Query)
    (unasked : ¬query.AsksForRootDse) (unnamed : ¬query.AsksFor root.namingContext) :
    ∃ search, (RouteTable.default backend root).find? (.search query) = some search ∧
      search.service = Destination.search.service backend root := by
  obtain ⟨search, rest, service, _⟩ := routes.behind query
  refine ⟨search, default_find backend root _ search [] ?_ (List.forall_mem_nil _), service⟩
  rw [routes.listed, List.filter_cons, if_neg (unasked ∘ (routes.dseTakes query).mp), List.filter_cons,
    if_neg (unnamed ∘ (routes.namingTakes query).mp), rest]

end SearchRoutes

theorem default_find_search (backend : Backend σ) (root : RootDse) (query : Query) :
    ∃ route, (RouteTable.default backend root).find? (.search query) = some route ∧
      some route.service =
        ((Request.search query).destination? root.namingContext).map (·.service backend root) := by
  obtain ⟨dse, naming, others, routes⟩ := default_search_routes backend root
  rw [Request.destination?]
  by_cases asks : query.AsksForRootDse
  · rw [if_pos asks]
    exact ⟨dse, routes.find_root_dse query asks, congrArg some routes.dseService⟩
  · rw [if_neg asks]
    by_cases named : query.AsksFor root.namingContext
    · rw [if_pos named]
      exact ⟨naming, routes.find_naming_context query asks named, congrArg some routes.namingService⟩
    · rw [if_neg named]
      obtain ⟨search, found, service⟩ := routes.find_entries query asks named
      exact ⟨search, found, congrArg some service⟩

theorem default_find_extended (backend : Backend σ) (root : RootDse) (name : String) (value : Option Bytes)
    (start : name ≠ startTlsName) (who : name ≠ whoAmIName) :
    (RouteTable.default backend root).find? (.extended name value) = none := by
  have names : ∀ route ∈ defaultList backend root, ∀ known ∈ route.extendedName,
      known = startTlsName ∨ known = whoAmIName := by
    simp [defaultList, Route.withFilter, Route.withScope, Route.withSuffix, Route.withExtendedName]
  refine default_find_none backend root _ (List.filter_eq_nil_iff.mpr fun route member taken => ?_)
  rcases names route member name ((Route.accepts_extended_iff route name value).mp taken).2 with same | same
  · exact start same
  · exact who same

theorem default_find_service (backend : Backend σ) (root : RootDse) (request : Request) :
    ((RouteTable.default backend root).find? request).map Route.service =
      (request.destination? root.namingContext).map (·.service backend root) := by
  have only (route : Route σ) (taken : (defaultList backend root).filter (·.accepts request) = [route]) :=
    default_find backend root request route [] taken (List.forall_mem_nil _)
  cases request with
  | search query =>
      obtain ⟨route, found, served⟩ := default_find_search backend root query
      rw [found, ← served]
      rfl
  | extended name value =>
      rw [Request.destination?]
      by_cases start : name = startTlsName
      · subst start
        rw [only _ rfl, if_pos rfl]
        rfl
      · rw [if_neg start]
        by_cases who : name = whoAmIName
        · subst who
          rw [only _ rfl, if_pos rfl]
          rfl
        · rw [if_neg who, default_find_extended backend root name value start who]
          rfl
  | _ =>
      rw [only _ rfl]
      rfl

theorem dispatch_found (table : RouteTable σ) (request : Request) (context : Context) :
    table.dispatch request context = (table.find? request).elim
      ((abandonUnrouted request).bind fun _ => (table.fallBack request context).bind fun _ => .done false)
      (fun route => (route.service.serve request context).bind fun _ => .done true) := by
  unfold dispatch
  cases table.find? request <;> rfl

theorem destination_none_iff (namingContext : String) (request : Request) :
    request.destination? namingContext = none ↔
      ∃ name value, request = .extended name value ∧ name ≠ startTlsName ∧ name ≠ whoAmIName := by
  cases request with
  | extended name value =>
      simp only [Request.destination?, Request.extended.injEq]
      grind
  | search query =>
      simp only [Request.destination?]
      grind
  | _ => simp [Request.destination?]

theorem request_reaches_destination (backend : Backend σ) (root : RootDse) (request : Request)
    (context : Context) :
    let table := RouteTable.default backend root
    let destination := request.destination? root.namingContext
    (table.find? request).map Route.service = destination.map (·.service backend root) ∧
      (table.find? request = none ↔
        ∃ name value, request = .extended name value ∧ name ≠ startTlsName ∧ name ≠ whoAmIName) ∧
      table.dispatch request context = destination.elim
        ((Handlers.notFound request (Backend.null σ) context).bind fun _ => .done false)
        (fun destination =>
          ((destination.service backend root).serve request context).bind fun _ => .done true) := by
  intro table destination
  have found := default_find_service backend root request
  have missing : table.find? request = none ↔ destination = none := by
    rw [← Option.map_eq_none_iff (f := Route.service), found, Option.map_eq_none_iff]
  refine ⟨found, missing.trans (destination_none_iff _ _), ?_⟩
  rw [dispatch_found]
  cases sent : destination with
  | none =>
      obtain ⟨name, value, rfl, _⟩ := (destination_none_iff _ _).mp sent
      rw [missing.mpr sent]
      rfl
  | some destination =>
      obtain ⟨route, taken, same⟩ := Option.map_eq_some_iff.mp (found.trans (congrArg _ sent))
      rw [taken, Option.elim_some, same]
      rfl

-- An empty naming context leaves the search for any class to the root DSE.
example :
    let search (attr : String) : Request := .search ⟨"", .baseObject, .present attr, []⟩
    (search "objectClass").destination? "" = some .rootDse ∧
      (search "cn").destination? "" = some .namingContext := by
  decide +kernel

end RouteTable

end DirectoryServer
