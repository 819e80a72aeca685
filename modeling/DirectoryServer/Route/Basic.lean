import DirectoryServer.Filter.Parser
import DirectoryServer.Session.Work
import DirectoryServer.Text.Quoted
import DirectoryServer.Text.Record

set_option autoImplicit false

namespace DirectoryServer

abbrev Handler (σ : Type) := Request → Backend σ → Context → Work σ Unit

structure Route (σ : Type) where
  operation : OperationKind
  handler : Handler σ
  backend : Backend σ
  nameSuffix : Option String := none
  filterText : Option String := none
  scope : Option SearchScope := none
  mechanism : Option String := none
  extendedName : Option String := none
  label : String := operation.name

namespace Route

variable {σ : Type}

def withSuffix (route : Route σ) (suffix : String) : Route σ :=
  { route with nameSuffix := some suffix }

-- A text that is no filter is kept as it is.
def withFilter (route : Route σ) (text : String) : Route σ :=
  let canonical := match Filter.parse text with
    | .ok filter => filter.print
    | .error _ => text
  { route with filterText := some (Text.lower canonical) }

def withScope (route : Route σ) (scope : SearchScope) : Route σ :=
  { route with scope := some scope }

def withMechanism (route : Route σ) (mechanism : String) : Route σ :=
  { route with mechanism := some (Text.lower mechanism) }

def withExtendedName (route : Route σ) (name : String) : Route σ :=
  { route with extendedName := some name }

def withLabel (route : Route σ) (label : String) : Route σ :=
  { route with label }

def endsWith (suffix name : String) : Bool :=
  (Text.lowerChars suffix.toList).isSuffixOf (Text.lowerChars name.toList)

-- The suffix is compared literally, the mechanism up to the case of A to Z.
def acceptsBind (route : Route σ) (name mechanism : String) : Bool :=
  route.mechanism.all (Text.eqIgnoreAsciiCase mechanism ·) &&
    route.nameSuffix.all fun suffix => suffix.toList.isSuffixOf name.toList

def acceptsSearch (route : Route σ) (query : Query) : Bool :=
  route.nameSuffix.all (Text.eqIgnoreCase query.base ·) &&
    route.filterText.all (fun text => Text.lower query.filter.print == text) &&
    route.scope.all (query.scope == ·)

def accepts (route : Route σ) (request : Request) : Bool :=
  request.kind == route.operation &&
    match request with
    | .bind name mechanism _ => route.acceptsBind name mechanism
    | .search query => route.acceptsSearch query
    | .extended name _ => route.extendedName == some name
    | .add entry => route.nameSuffix.all (endsWith · entry.name)
    | .modify name _ => route.nameSuffix.all (endsWith · name)
    | .delete name => route.nameSuffix.all (endsWith · name)
    | .compare name _ _ => route.nameSuffix.all (endsWith · name)
    | .abandon _ => true

def invoke (route : Route σ) (request : Request) (context : Context) : Work σ Unit :=
  route.handler request route.backend context

def operationLabel : OperationKind → String
  | .bind => "Bind"
  | .search => "Search"
  | .add => "Add"
  | .modify => "Modify"
  | .delete => "Delete"
  | .compare => "Compare"
  | .extended => "Extended"
  | .abandon => "Abandon"

def scopeLabel : SearchScope → String
  | .baseObject => "BaseObject"
  | .singleLevel => "SingleLevel"
  | .wholeSubtree => "WholeSubtree"

def describe (route : Route σ) : String :=
  Text.record "Route" [
    ("operation", operationLabel route.operation),
    ("name_suffix", Text.optionText Text.quoted route.nameSuffix),
    ("filter_text", Text.optionText Text.quoted route.filterText),
    ("scope", Text.optionText scopeLabel route.scope),
    ("auth_mechanism", Text.optionText Text.quoted route.mechanism),
    ("extended_name", Text.optionText Text.quoted route.extendedName),
    ("backend", Text.quoted route.backend.name),
    ("label", Text.quoted route.label)]

end Route

end DirectoryServer
