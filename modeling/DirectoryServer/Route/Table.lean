import DirectoryServer.Route.Basic

set_option autoImplicit false

namespace DirectoryServer

def notImplemented : String := "Operation not implemented by server"

def Route.weight {σ : Type} (route : Route σ) : Nat :=
  match route.nameSuffix with
  | none => 0
  | some suffix => suffix.length + 1

def Route.insertInto {σ : Type} (route : Route σ) : List (Route σ) → List (Route σ)
  | [] => [route]
  | other :: rest =>
      if other.weight < route.weight then route :: other :: rest
      else other :: route.insertInto rest

structure RouteTable (σ : Type) where
  routes : List (Route σ) := []
  notFound : Option (Route σ) := none

namespace RouteTable

variable {σ : Type}

def register (table : RouteTable σ) (route : Route σ) : RouteTable σ :=
  { table with routes := route.insertInto table.routes }

def registerAll (table : RouteTable σ) (routes : List (Route σ)) : RouteTable σ :=
  routes.foldl register table

def find? (table : RouteTable σ) (request : Request) : Option (Route σ) :=
  table.routes.find? (·.accepts request)

-- An abandon takes effect even if no route takes it.
def abandonUnrouted (request : Request) : Work σ Unit :=
  match request with
  | .abandon target => .abandon target fun _ => .done ()
  | _ => .done ()

def fallBack (table : RouteTable σ) (request : Request) (context : Context) : Work σ Unit :=
  match table.notFound with
  | some route => route.invoke request context
  | none => do
      let _ ← context.writeOutcome ⟨.unwillingToPerform, notImplemented⟩

-- The value tells whether a route took the request.
def dispatch (table : RouteTable σ) (request : Request) (context : Context) : Work σ Bool :=
  match table.find? request with
  | some route => do
      route.invoke request context
      return true
  | none => do
      abandonUnrouted request
      table.fallBack request context
      return false

end RouteTable

end DirectoryServer
