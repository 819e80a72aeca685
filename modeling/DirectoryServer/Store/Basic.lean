import DirectoryServer.Filter.Evaluate
import DirectoryServer.Message.Basic
import DirectoryServer.Store.EntryFile

set_option autoImplicit false

namespace DirectoryServer

structure Store where
  folder : Folder
  entries : List Entry

namespace Store

def ofFolder (folder : Folder) : Except StoreError Store :=
  (EntryFile.load "" folder).map fun entries => ⟨folder, entries⟩

def get? (store : Store) (name : String) : Option Entry :=
  store.entries.find? (·.hasName name)

-- The name has to be exact, and the first password of its entry has to match.
def bind (store : Store) (name mechanism : String) (credentials : Bytes) : ResultCode :=
  if Text.eqIgnoreAsciiCase mechanism "simple" then
    match (store.entries.find? fun entry => entry.name = name).bind (·.first? userPassword) with
    | some password => if password.value = credentials then .success else .invalidCredentials
    | none => .invalidCredentials
  else .unwillingToPerform

def select (filter : Filter) (attributes : List String) :
    List Entry → Except ResultCode (List Entry)
  | [] => .ok []
  | entry :: rest =>
      match filter.evaluate entry with
      | .error code => .error code
      | .ok true => (select filter attributes rest).map (entry.project attributes :: ·)
      | .ok false => select filter attributes rest

def search (store : Store) (base : String) (filter : Filter) (attributes : List String) :
    Except ResultCode (List Entry) :=
  select filter attributes (store.entries.filter (·.isWithin base))

def add (store : Store) (entry : Entry) : ResultCode × Store :=
  if entry.name.isEmpty then (.unwillingToPerform, store)
  else if store.entries.any (·.hasName entry.name) then (.operationsError, store)
  else
    match EntryFile.persist store.folder entry with
    | .error _ => (.operationsError, store)
    | .ok folder => (.success, ⟨folder, store.entries ++ [entry]⟩)

def compare (store : Store) (name attr value : String) : ResultCode :=
  match store.get? name with
  | none => .noSuchObject
  | some entry =>
      if (entry.values attr).any (·.valueEquals value) then .compareTrue else .compareFalse

end Store

end DirectoryServer
