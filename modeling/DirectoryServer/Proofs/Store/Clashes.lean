import DirectoryServer.Proofs.Store.Reopen

set_option autoImplicit false

namespace DirectoryServer

namespace EntryFile

def isMark (c : Char) : Bool :=
  isSeparator c || c = '_'

inductive SharesFile : List Char → List Char → Prop where
  | nil : SharesFile [] []
  | same (c : Char) {name other : List Char} (more : SharesFile name other) :
      SharesFile (c :: name) (c :: other)
  | marks {c d : Char} {name other : List Char} (first : isMark c = true) (second : isMark d = true)
      (more : SharesFile name other) : SharesFile (c :: name) (d :: other)

def masked (c : Char) : Char :=
  if isSeparator c then '_' else c

theorem masked_same_iff (c d : Char) :
    masked c = masked d ↔ c = d ∨ isMark c = true ∧ isMark d = true := by
  unfold masked isMark
  cases first : isSeparator c <;> cases second : isSeparator d
  · simp only [Bool.false_eq_true, if_false, Bool.false_or, decide_eq_true_eq]
    exact ⟨.inl, fun same => same.elim id fun both => both.1.trans both.2.symm⟩
  · have apart : c ≠ d := fun same => by rw [same, second] at first; cases first
    simp [apart]
  · have apart : c ≠ d := fun same => by rw [same, second] at first; cases first
    simp [apart, eq_comm]
  · simp

theorem masked_all_iff (name other : List Char) :
    name.map masked = other.map masked ↔ SharesFile name other := by
  constructor
  · intro same
    induction name generalizing other with
    | nil =>
        rw [List.map_nil, eq_comm, List.map_eq_nil_iff] at same
        rw [same]
        exact .nil
    | cons c rest ih =>
        cases other with
        | nil => cases same
        | cons d behind =>
            obtain ⟨here, later⟩ := List.cons.inj same
            rcases (masked_same_iff c d).mp here with rfl | ⟨first, second⟩
            · exact .same c (ih behind later)
            · exact .marks first second (ih behind later)
  · intro shares
    induction shares with
    | nil => rfl
    | same c more ih => rw [List.map_cons, List.map_cons, ih]
    | marks first second more ih =>
        rw [List.map_cons, List.map_cons, ih, (masked_same_iff _ _).mpr (.inr ⟨first, second⟩)]

theorem file_name_same_iff (name other : String) :
    fileName name = fileName other ↔ SharesFile name.toList other.toList := by
  rw [← masked_all_iff]
  unfold fileName masked
  rw [← String.toList_inj, String.toList_append, String.toList_append, List.append_cancel_right_eq,
    String.toList_ofList, String.toList_ofList]

end EntryFile

namespace Store

open EntryFile

def Filed (store : Store) : Prop :=
  store.folder.map Prod.fst = store.entries.map fun entry => fileName entry.name

theorem add_filed (store : Store) (entry : Entry) (filed : store.Filed) : (store.add entry).2.Filed := by
  by_cases accepts : store.Accepts entry
  · have gains := (add_accepted store entry accepts).2
    rw [Filed, gains.folder, gains.entries, List.map_append, List.map_append, filed]
    rfl
  · rw [(add_refused store entry accepts).2]
    exact filed

theorem add_all_filed (store : Store) (entries : List Entry) (filed : store.Filed) :
    (store.addAll entries).Filed := by
  induction entries generalizing store with
  | nil => exact filed
  | cons entry rest ih => exact ih (store.add entry).2 (add_filed store entry filed)

theorem free_iff (store : Store) (name : String) (filed : store.Filed) :
    store.folder.find? (fileName name) = none ↔
      ∀ entry ∈ store.entries, ¬ SharesFile entry.name.toList name.toList := by
  have keys : store.folder.find? (fileName name) = none ↔ fileName name ∉ store.folder.map Prod.fst := by
    rw [Folder.find?, List.lookup_eq_none_iff, List.mem_map, not_exists]
    refine forall_congr' fun node => ?_
    rw [not_and, bne_iff_ne, ne_eq, eq_comm]
  rw [keys, filed, List.mem_map, not_exists]
  refine forall_congr' fun entry => ?_
  rw [not_and, file_name_same_iff]

theorem add_codes (store : Store) (entry : Entry) (named : entry.name ≠ "") :
    (store.add entry).1 = .success ∨ (store.add entry).1 = .operationsError := by
  rw [add, if_neg (fun empty => named (String.isEmpty_iff.mp empty))]
  split
  · exact .inr rfl
  · split
    · exact .inr rfl
    · exact .inl rfl

theorem added_unless_clashes (store : Store) (opened : ofFolder [] = .ok store) (added : List Entry)
    (entry : Entry) (named : entry.name ≠ "") (allowed : Folder.allowsName (fileName entry.name) = true) :
    let now := store.addAll added
    ((now.add entry).1 = .success ↔ ∀ held ∈ now.entries,
      held.key ≠ entry.key ∧ ¬ SharesFile held.name.toList entry.name.toList) ∧
    ((now.add entry).1 ≠ .success → now.add entry = (.operationsError, now)) := by
  intro now
  have empty : store = ⟨[], []⟩ := by
    rw [ofFolder, load, Folder.files, List.filterMap_nil, List.mergeSort_nil] at opened
    exact (Except.ok.inj opened).symm
  have filed : now.Filed := add_all_filed store added (by rw [empty]; rfl)
  constructor
  · rw [add_success_iff]
    constructor
    · intro accepts held member
      refine ⟨fun same => accepts.unseen ?_, (free_iff now entry.name filed).mp accepts.free held member⟩
      exact same ▸ List.mem_map_of_mem member
    · intro apart
      refine ⟨named, fun seen => ?_, allowed, (free_iff now entry.name filed).mpr fun held member => ?_⟩
      · obtain ⟨held, member, same⟩ := List.mem_map.mp seen
        exact (apart held member).1 same
      · exact (apart held member).2
  · intro failed
    have refuses : ¬ now.Accepts entry := fun accepts => failed ((add_success_iff now entry).mpr accepts)
    exact Prod.ext ((add_codes now entry named).resolve_left failed) (add_refused now entry refuses).2

theorem opened_empty : ofFolder [] = .ok ⟨[], []⟩ := by
  rw [ofFolder, load, Folder.files, List.filterMap_nil, List.mergeSort_nil]
  rfl

-- The names differ, also up to case, and yet the first entry keeps the second one out.
theorem slash_keeps_out_low_line :
    ofFolder [] = .ok ⟨[], []⟩ ∧
      let now := addAll ⟨[], []⟩ [⟨"cn=a/b", []⟩]
      now.entries = [⟨"cn=a/b", []⟩] ∧ Folder.allowsName (fileName "cn=a_b") = true ∧
        (⟨"cn=a_b", []⟩ : Entry).key ∉ now.entries.map Entry.key ∧
        (now.add ⟨"cn=a_b", []⟩).1 = .operationsError :=
  ⟨opened_empty, rfl, by decide, by decide, rfl⟩

theorem marked_names_clash :
    let now := addAll ⟨[], []⟩ [⟨"cn=a/b", []⟩, ⟨"cn=A_b", []⟩]
    ofFolder [] = .ok ⟨[], []⟩ ∧ now.entries = [⟨"cn=a/b", []⟩, ⟨"cn=A_b", []⟩] ∧
      now.add ⟨"cn=A\\b", []⟩ = (.operationsError, now) ∧ (now.add ⟨"cn=a/c", []⟩).1 = .success := by
  intro now
  have clashes := added_unless_clashes ⟨[], []⟩ opened_empty [⟨"cn=a/b", []⟩, ⟨"cn=A_b", []⟩]
  have entries : now.entries = [⟨"cn=a/b", []⟩, ⟨"cn=A_b", []⟩] := by decide +kernel
  have refused := clashes ⟨"cn=A\\b", []⟩ (by decide) (by decide +kernel)
  have taken := clashes ⟨"cn=a/c", []⟩ (by decide) (by decide +kernel)
  refine ⟨opened_empty, entries, refused.2 fun success => ?_, taken.1.mpr fun held member => ?_⟩
  · refine (refused.1.mp success ⟨"cn=A_b", []⟩ ?_).2 ((file_name_same_iff _ _).mp (by decide +kernel))
    exact entries ▸ List.mem_cons_of_mem _ List.mem_cons_self
  · have apart : ∀ held ∈ [(⟨"cn=a/b", []⟩ : Entry), ⟨"cn=A_b", []⟩],
        held.key ≠ (⟨"cn=a/c", []⟩ : Entry).key ∧ fileName held.name ≠ fileName "cn=a/c" := by
      decide +kernel
    obtain ⟨keys, files⟩ := apart held (entries ▸ member)
    exact ⟨keys, fun shares => files ((file_name_same_iff _ _).mpr shares)⟩

end Store

end DirectoryServer
