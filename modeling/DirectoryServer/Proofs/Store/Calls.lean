import DirectoryServer.Backend
import DirectoryServer.Proofs.Store.Reopen

set_option autoImplicit false

namespace DirectoryServer

inductive BackendCall where
  | bind (name mechanism : String) (credentials : Bytes)
  | search (base : String) (filter : Filter) (attributes : List String)
  | add (entry : Entry)
  | compare (name attr value : String)
  | modify (name : String) (changes : List Change)
  | delete (name : String)

namespace Backend

variable {σ : Type}

def after (backend : Backend σ) (state : σ) : BackendCall → σ
  | .bind name mechanism credentials => (backend.bind name mechanism credentials state).2
  | .search base filter attributes => (backend.search base filter attributes state).2
  | .add entry => (backend.add entry state).2
  | .compare name attr value => (backend.compare name attr value state).2
  | .modify name changes => (backend.modify name changes state).2
  | .delete name => (backend.delete name state).2

def afterAll (backend : Backend σ) (state : σ) (calls : List BackendCall) : σ :=
  calls.foldl backend.after state

end Backend

namespace Store

open EntryFile

theorem call_keeps (store : Store) (call : BackendCall) (other : ∀ entry, call ≠ .add entry) :
    Backend.ldif.after store call = store := by
  cases call with
  | add entry => exact absurd rfl (other entry)
  | _ => rfl

theorem call_distinct (store : Store) (call : BackendCall)
    (distinct : (store.entries.map Entry.key).Nodup) :
    ((Backend.ldif.after store call).entries.map Entry.key).Nodup := by
  by_cases other : ∀ entry, call ≠ .add entry
  · rw [call_keeps store call other]
    exact distinct
  · obtain ⟨entry, rfl⟩ : ∃ entry, call = .add entry := by
      simpa using other
    change ((store.add entry).2.entries.map Entry.key).Nodup
    by_cases accepts : store.Accepts entry
    · rw [(add_accepted store entry accepts).2.entries, List.map_append]
      exact List.perm_append_comm.nodup_iff.mp (List.nodup_cons.mpr ⟨accepts.unseen, distinct⟩)
    · rw [(add_refused store entry accepts).2]
      exact distinct

theorem calls_distinct (store : Store) (calls : List BackendCall)
    (distinct : (store.entries.map Entry.key).Nodup) :
    ((Backend.ldif.afterAll store calls).entries.map Entry.key).Nodup := by
  induction calls generalizing store with
  | nil => exact distinct
  | cons call rest ih => exact ih _ (call_distinct store call distinct)

theorem calls_change_together (folder : Folder) (store : Store) (opened : ofFolder folder = .ok store)
    (calls : List BackendCall) :
    let now := Backend.ldif.afterAll store calls
    (now.entries.map Entry.key).Nodup ∧
      (∀ entry, let answer := Backend.ldif.add entry now
        (answer.1 = .success ↔ now.Accepts entry) ∧
          if answer.1 = .success then now.Gains entry answer.2 else answer.2 = now) ∧
      ∀ call, (∀ entry, call ≠ .add entry) → Backend.ldif.after now call = now := by
  obtain ⟨_, loads⟩ := (of_folder_iff folder store).mp opened
  refine ⟨calls_distinct store calls loads.fresh.distinct, fun entry => ?_, call_keeps _⟩
  generalize Backend.ldif.afterAll store calls = now
  change (_ ↔ _) ∧ if (now.add entry).1 = .success then now.Gains entry (now.add entry).2
    else (now.add entry).2 = now
  refine ⟨add_success_iff now entry, ?_⟩
  by_cases accepts : now.Accepts entry
  · obtain ⟨success, gains⟩ := add_accepted now entry accepts
    rw [if_pos success]
    exact gains
  · obtain ⟨refused, same⟩ := add_refused now entry accepts
    rw [if_neg refused]
    exact same

def blockedFolder : Folder :=
  [("cn=b.ldif", .folder [])]

def blockedCalls : List BackendCall :=
  [.add ⟨"cn=a", []⟩, .search "" (.present "cn") [], .delete "cn=a"]

theorem blocked_folder_changes_together :
    ofFolder blockedFolder = .ok ⟨blockedFolder, []⟩ ∧
      let now := Backend.ldif.afterAll ⟨blockedFolder, []⟩ blockedCalls
      now.entries = [⟨"cn=a", []⟩] ∧ (Backend.ldif.add ⟨"CN=A", []⟩ now).2 = now ∧
        (Backend.ldif.add ⟨"cn=b", []⟩ now).2 = now ∧
        now.Gains ⟨"cn=c", []⟩ (Backend.ldif.add ⟨"cn=c", []⟩ now).2 := by
  have opened : ofFolder blockedFolder = .ok ⟨blockedFolder, []⟩ := by
    rw [ofFolder, load, Folder.files, blockedFolder, List.filterMap_cons, List.filterMap_nil,
      List.mergeSort_nil]
    rfl
  obtain ⟨_, adds, _⟩ := calls_change_together blockedFolder _ opened blockedCalls
  have taken := (adds ⟨"CN=A", []⟩).2
  have blocked := (adds ⟨"cn=b", []⟩).2
  have fresh := (adds ⟨"cn=c", []⟩).2
  rw [if_neg (by decide)] at taken blocked
  rw [if_pos (by decide)] at fresh
  exact ⟨opened, rfl, taken, blocked, fresh⟩

end Store

end DirectoryServer
