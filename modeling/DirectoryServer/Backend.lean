import DirectoryServer.Store.Basic

set_option autoImplicit false

namespace DirectoryServer

structure Found where
  -- Requests of the same connection that are given up while the search goes on.
  abandons : List MessageId := []
  answer : Except ResultCode (List Entry)

structure Backend (σ : Type) where
  name : String
  bind : (name mechanism : String) → (credentials : Bytes) → σ → ResultCode × σ
  search : (base : String) → Filter → (attributes : List String) → σ → Found × σ
  add : Entry → σ → ResultCode × σ
  compare : (name attr value : String) → σ → ResultCode × σ :=
    fun _ _ _ state => (.unwillingToPerform, state)
  modify : (name : String) → List Change → σ → ResultCode × σ :=
    fun _ _ state => (.unwillingToPerform, state)
  delete : (name : String) → σ → ResultCode × σ :=
    fun _ state => (.unwillingToPerform, state)
  -- Whether a search below `base` waits until it is let go.
  holds : (base : String) → Bool := fun _ => false

namespace Backend

def null (σ : Type) : Backend σ where
  name := "null"
  bind _ _ _ state := (.unwillingToPerform, state)
  search _ _ _ state := (⟨[], .ok []⟩, state)
  add _ state := (.unwillingToPerform, state)

def debug (σ : Type) : Backend σ where
  name := "debug"
  bind _ _ _ state := (.unwillingToPerform, state)
  search _ _ _ state := (⟨[], .ok []⟩, state)
  add _ state := (.operationsError, state)
  compare _ _ _ state := (.compareTrue, state)
  modify _ _ state := (.success, state)
  delete _ state := (.success, state)

def heldBase : List Char := ['h', 'o', 'l', 'd']

def scripted (σ : Type) (bind add : ResultCode) (found : Found) : Backend σ where
  name := "scripted"
  bind _ _ _ state := (bind, state)
  search _ _ _ state := (found, state)
  add _ state := (add, state)
  holds base := heldBase.isPrefixOf base.toList

def ldif : Backend Store where
  name := "ldif"
  bind name mechanism credentials store := (store.bind name mechanism credentials, store)
  search base filter attributes store := (⟨[], store.search base filter attributes⟩, store)
  add entry store := store.add entry
  compare name attr value store := (store.compare name attr value, store)

def nth {σ : Type} (index : Nat) (fallback : σ) (backend : Backend σ) : Backend (List σ) :=
  let on {α : Type} (run : σ → α × σ) (states : List σ) : α × List σ :=
    let answer := run (states.getD index fallback)
    (answer.1, states.set index answer.2)
  { name := backend.name
    bind := fun name mechanism credentials => on (backend.bind name mechanism credentials)
    search := fun base filter attributes => on (backend.search base filter attributes)
    add := fun entry => on (backend.add entry)
    compare := fun name attr value => on (backend.compare name attr value)
    modify := fun name changes => on (backend.modify name changes)
    delete := fun name => on (backend.delete name)
    holds := backend.holds }

end Backend

end DirectoryServer
