import DirectoryServer.Store.Basic
import DirectoryServer.Proofs.Ldif.Records

set_option autoImplicit false

namespace DirectoryServer

theorem Folder.create_iff (folder later : Folder) (name : String) (data : Bytes) :
    folder.create name data = .ok later ↔ allowsName name = true ∧ folder.find? name = none ∧
      later = folder ++ [(name, .file data)] := by
  rw [create]
  by_cases allowed : allowsName name = true
  · cases taken : folder.find? name <;> simp [allowed, eq_comm]
  · simp [allowed]

namespace Store

open EntryFile

theorem has_name_iff (entry : Entry) (name : String) :
    entry.hasName name = true ↔ entry.key = Text.lowerChars name.toList := by
  rw [Entry.hasName, Text.eqIgnoreCase, beq_iff_eq]
  rfl

structure Accepts (store : Store) (entry : Entry) : Prop where
  named : entry.name ≠ ""
  unseen : entry.key ∉ store.entries.map Entry.key
  allowed : Folder.allowsName (fileName entry.name) = true
  free : store.folder.find? (fileName entry.name) = none

structure Gains (store : Store) (entry : Entry) (later : Store) : Prop where
  entries : later.entries = store.entries ++ [entry]
  free : store.folder.find? (fileName entry.name) = none
  folder : later.folder =
    store.folder ++ [(fileName entry.name, .file (Text.encode entry.display))]

theorem persist_iff (folder later : Folder) (entry : Entry) :
    persist folder entry = .ok later ↔ entry.name ≠ "" ∧
      folder.create (fileName entry.name) (Text.encode entry.display) = .ok later := by
  rw [persist]
  by_cases empty : entry.name = ""
  · simp [empty]
  · rw [if_neg (fun none => empty (String.isEmpty_iff.mp none))]
    cases created : folder.create (fileName entry.name) (Text.encode entry.display) with
    | ok made => simp [empty]
    | error fault => cases fault <;> simp

theorem any_has_name_iff (entries : List Entry) (entry : Entry) :
    entries.any (·.hasName entry.name) = true ↔ entry.key ∈ entries.map Entry.key := by
  simp only [List.any_eq_true, has_name_iff, List.mem_map]
  rfl

theorem add_accepted (store : Store) (entry : Entry) (accepts : store.Accepts entry) :
    (store.add entry).1 = .success ∧ store.Gains entry (store.add entry).2 := by
  have named : ¬ entry.name.isEmpty = true := fun empty => accepts.named (String.isEmpty_iff.mp empty)
  have unseen : ¬ store.entries.any (·.hasName entry.name) = true :=
    fun seen => accepts.unseen ((any_has_name_iff _ _).mp seen)
  have created := (Folder.create_iff store.folder _ _ (Text.encode entry.display)).mpr
    ⟨accepts.allowed, accepts.free, rfl⟩
  rw [add, if_neg named, if_neg unseen, (persist_iff _ _ entry).mpr ⟨accepts.named, created⟩]
  exact ⟨rfl, rfl, accepts.free, rfl⟩

theorem add_refused (store : Store) (entry : Entry) (refuses : ¬ store.Accepts entry) :
    (store.add entry).1 ≠ .success ∧ (store.add entry).2 = store := by
  rw [add]
  by_cases empty : entry.name.isEmpty = true
  · simp [empty]
  · rw [if_neg empty]
    by_cases seen : store.entries.any (·.hasName entry.name) = true
    · simp [seen]
    · rw [if_neg seen]
      cases written : persist store.folder entry with
      | error fault => simp
      | ok folder =>
          obtain ⟨named, created⟩ := (persist_iff _ _ entry).mp written
          obtain ⟨allowed, free, _⟩ := (Folder.create_iff _ _ _ _).mp created
          have unseen := fun member => seen ((any_has_name_iff _ _).mpr member)
          exact absurd ⟨named, unseen, allowed, free⟩ refuses

theorem add_success_iff (store : Store) (entry : Entry) :
    (store.add entry).1 = .success ↔ store.Accepts entry := by
  by_cases accepts : store.Accepts entry
  · simp only [accepts, (add_accepted store entry accepts).1]
  · simp only [accepts, (add_refused store entry accepts).1]

end Store

end DirectoryServer
