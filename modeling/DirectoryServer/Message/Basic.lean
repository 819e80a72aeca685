import DirectoryServer.Entry
import DirectoryServer.Filter.Printer
import DirectoryServer.ResultCode

set_option autoImplicit false

namespace DirectoryServer

abbrev MessageId := UInt32

def startTlsName : String := "1.3.6.1.4.1.1466.20037"

def whoAmIName : String := "1.3.6.1.4.1.4203.1.11.3"

inductive SearchScope where
  | baseObject
  | singleLevel
  | wholeSubtree
deriving DecidableEq, Repr

def SearchScope.number : SearchScope → Nat
  | .baseObject => 0
  | .singleLevel => 1
  | .wholeSubtree => 2

def SearchScope.ofNumber? : Int → Option SearchScope
  | 0 => some .baseObject
  | 1 => some .singleLevel
  | 2 => some .wholeSubtree
  | _ => none

theorem SearchScope.of_number_number (scope : SearchScope) :
    ofNumber? scope.number = some scope := by
  cases scope <;> rfl

inductive OperationKind where
  | bind
  | search
  | add
  | modify
  | delete
  | compare
  | extended
  | abandon
deriving DecidableEq, Repr

def OperationKind.name : OperationKind → String
  | .bind => "bind"
  | .search => "search"
  | .add => "add"
  | .modify => "modify"
  | .delete => "delete"
  | .compare => "compare"
  | .extended => "extended"
  | .abandon => "abandon"

def OperationKind.ofName? (word : String) : Option OperationKind :=
  match Text.asciiLower word with
  | "bind" => some .bind
  | "search" => some .search
  | "add" => some .add
  | "modify" => some .modify
  | "delete" => some .delete
  | "compare" => some .compare
  | "extended" => some .extended
  | "abandon" => some .abandon
  | _ => none

structure Query where
  base : String
  scope : SearchScope
  filter : Filter
  -- The attributes to return; all of them if none is given.
  attributes : List String
deriving DecidableEq, Repr

inductive ChangeOperation where
  | add
  | delete
  | replace
deriving DecidableEq, Repr

def ChangeOperation.name : ChangeOperation → String
  | .add => "add"
  | .delete => "delete"
  | .replace => "replace"

def ChangeOperation.ofName? (word : String) : Option ChangeOperation :=
  match Text.asciiLower word with
  | "add" => some .add
  | "delete" => some .delete
  | "replace" => some .replace
  | _ => none

structure Change where
  operation : ChangeOperation
  attr : String
  values : List Bytes
deriving DecidableEq, Repr

inductive Request where
  | bind (name mechanism : String) (credentials : Bytes)
  | search (query : Query)
  | add (entry : Entry)
  | modify (name : String) (changes : List Change)
  | delete (name : String)
  | compare (name attr value : String)
  | extended (name : String) (value : Option Bytes)
  | abandon (target : MessageId)
deriving DecidableEq, Repr

namespace Request

def kind : Request → OperationKind
  | .bind _ _ _ => .bind
  | .search _ => .search
  | .add _ => .add
  | .modify _ _ => .modify
  | .delete _ => .delete
  | .compare _ _ _ => .compare
  | .extended _ _ => .extended
  | .abandon _ => .abandon

def targetName? : Request → Option String
  | .bind name _ _ => some name
  | .search query => some query.base
  | .add entry => some entry.name
  | .modify name _ => some name
  | .delete name => some name
  | .compare name _ _ => some name
  | .extended _ _ => none
  | .abandon _ => none

end Request

structure Message where
  id : MessageId
  request : Request
deriving DecidableEq, Repr

structure Outcome where
  code : ResultCode
  diagnostic : String := ""
deriving DecidableEq, Repr

inductive Response where
  | bind (outcome : Outcome)
  | entry (entry : Entry)
  | searchDone (outcome : Outcome)
  | add (outcome : Outcome)
  | modify (outcome : Outcome)
  | delete (outcome : Outcome)
  | compare (outcome : Outcome)
  | extended (outcome : Outcome) (name : Option String) (value : Option Bytes)
deriving DecidableEq, Repr

namespace Response

def kindName : Response → String
  | .bind _ => "bind"
  | .entry _ => "entry"
  | .searchDone _ => "search"
  | .add _ => "add"
  | .modify _ => "modify"
  | .delete _ => "delete"
  | .compare _ => "compare"
  | .extended _ _ _ => "extended"

def outcome? : Response → Option Outcome
  | .bind outcome => some outcome
  | .entry _ => none
  | .searchDone outcome => some outcome
  | .add outcome => some outcome
  | .modify outcome => some outcome
  | .delete outcome => some outcome
  | .compare outcome => some outcome
  | .extended outcome _ _ => some outcome

end Response

def OperationKind.finalResponse? (kind : OperationKind) (outcome : Outcome) : Option Response :=
  match kind with
  | .bind => some (.bind outcome)
  | .search => some (.searchDone outcome)
  | .add => some (.add outcome)
  | .modify => some (.modify outcome)
  | .delete => some (.delete outcome)
  | .compare => some (.compare outcome)
  | .extended => some (.extended outcome none none)
  | .abandon => none

end DirectoryServer
