import DirectoryServer.Proofs.Ldif.Reread
import DirectoryServer.Proofs.Store.Adding

set_option autoImplicit false

namespace DirectoryServer

namespace EntryFile

def entryFiles (folder : Folder) : List (String × Bytes) :=
  folder.files.filter fun (file, _) => isEntryFile file

def fileContents (data : Bytes) : Option (List Entry) :=
  (Text.decode? data).bind Ldif.contents

def held (file : String × Bytes) : List Entry :=
  (fileContents file.2).getD []

def written (entry : Entry) : String × Bytes :=
  (fileName entry.name, Text.encode entry.display)

theorem written_contents (entry : Entry) :
    fileContents (written entry).2 = Ldif.contents entry.display := by
  rw [fileContents, written, (Text.decode_some_iff _ _).mpr rfl, Option.bind_some]

structure Loads (seen : List (List Char)) (files : List (String × Bytes)) (entries : List Entry) :
    Prop where
  readable : ∀ file ∈ files, (fileContents file.2).isSome
  same : entries = files.flatMap held
  fresh : Fresh seen entries

theorem loads_cons (seen : List (List Char)) (file : String × Bytes) (rest : List (String × Bytes))
    (entries : List Entry) :
    Loads seen (file :: rest) entries ↔
      ∃ first more, fileContents file.2 = some first ∧ Fresh seen first ∧
        Loads (first.map Entry.key ++ seen) rest more ∧ first ++ more = entries := by
  constructor
  · rintro ⟨readable, rfl, fresh⟩
    obtain ⟨here, later⟩ := List.forall_mem_cons.mp readable
    obtain ⟨first, read⟩ := Option.isSome_iff_exists.mp here
    have holds : held file = first := by rw [held, read, Option.getD_some]
    rw [List.flatMap_cons, holds] at fresh
    obtain ⟨front, behind⟩ := (fresh_append _ _ _).mp fresh
    exact ⟨first, rest.flatMap held, read, front, ⟨later, rfl, behind⟩, by rw [List.flatMap_cons, holds]⟩
  · rintro ⟨first, more, read, front, ⟨later, rfl, behind⟩, rfl⟩
    have holds : held file = first := by rw [held, read, Option.getD_some]
    refine ⟨List.forall_mem_cons.mpr ⟨by rw [read]; rfl, later⟩, ?_, (fresh_append _ _ _).mpr ⟨front, behind⟩⟩
    rw [List.flatMap_cons, holds]

theorem load_files_iff (dir : String) (seen : List (List Char)) (files : List (String × Bytes))
    (entries : List Entry) :
    loadFiles dir seen files = .ok entries ↔ Loads seen files entries := by
  induction files generalizing seen entries with
  | nil =>
      rw [loadFiles, Except.ok.injEq]
      constructor
      · rintro rfl
        exact ⟨List.forall_mem_nil _, rfl, fresh_nil seen⟩
      · intro loads
        exact loads.same.symm
  | cons file rest ih =>
      obtain ⟨name, data⟩ := file
      rw [loads_cons, loadFiles, fileContents, Text.decode?]
      cases Text.decode data with
      | error fault => simp [Except.toOption]
      | ok text =>
          have parsed := Ldif.parse_beside_iff seen text
          dsimp only [Except.toOption, Option.bind_some]
          cases beside : Ldif.parseBeside seen text with
          | error malformed =>
              rw [beside] at parsed
              constructor
              · intro refused
                cases refused
              · rintro ⟨first, more, read, front, _⟩
                cases (parsed first).mpr ⟨read, front⟩
          | ok first =>
              rw [beside] at parsed
              obtain ⟨read, front⟩ := (parsed first).mp rfl
              dsimp only
              rw [map_ok_iff]
              constructor
              · rintro ⟨more, later, same⟩
                exact ⟨first, more, read, front, (ih _ _).mp later, same⟩
              · rintro ⟨other, more, again, _, loads, same⟩
                rw [read] at again
                cases again
                exact ⟨more, (ih _ _).mpr loads, same⟩

theorem files_append (folder : Folder) (name : String) (data : Bytes) :
    (Folder.files (folder ++ [(name, .file data)])).Perm ((name, data) :: folder.files) := by
  rw [Folder.files, Folder.files, List.filterMap_append]
  exact ((List.mergeSort_perm _ _).trans List.perm_append_comm).trans
    ((List.mergeSort_perm _ _).symm.cons (name, data))

theorem entry_file_name (name : String) (filled : name ≠ "") : isEntryFile (fileName name) = true := by
  have chars : (fileName name).toList =
      (name.toList.map fun c => if isSeparator c then '_' else c) ++ extension.toList := by
    rw [fileName, String.toList_append, String.toList_ofList]
  rw [isEntryFile, Bool.and_eq_true, List.isSuffixOf_iff_suffix, decide_eq_true_eq]
  refine ⟨⟨_, chars.symm⟩, fun same => ?_⟩
  rw [same, List.self_eq_append_left, List.map_eq_nil_iff] at chars
  exact filled (String.toList_eq_nil_iff.mp chars)

end EntryFile

namespace Store

open EntryFile

def addAll (store : Store) (entries : List Entry) : Store :=
  entries.foldl (fun store entry => (store.add entry).2) store

theorem of_folder_iff (folder : Folder) (store : Store) :
    ofFolder folder = .ok store ↔ store.folder = folder ∧ Loads [] (entryFiles folder) store.entries := by
  rw [ofFolder, map_ok_iff, ← load_files_iff ""]
  constructor
  · rintro ⟨entries, loaded, rfl⟩
    exact ⟨rfl, loaded⟩
  · rintro ⟨rfl, loaded⟩
    exact ⟨store.entries, loaded, rfl⟩

theorem gains_files (store later : Store) (entry : Entry) (named : entry.name ≠ "")
    (gains : store.Gains entry later) :
    (entryFiles later.folder).Perm (written entry :: entryFiles store.folder) := by
  have files := (files_append store.folder (fileName entry.name) (Text.encode entry.display)).filter
    fun file => isEntryFile file.1
  rw [List.filter_cons, if_pos (entry_file_name entry.name named)] at files
  rwa [gains.folder]

theorem add_cases (store : Store) (entry : Entry) :
    (store.add entry).2 = store ∨
      (entry.key ∉ store.entries.map Entry.key ∧
        (store.add entry).2.entries = store.entries ++ [entry] ∧
        (entryFiles (store.add entry).2.folder).Perm (written entry :: entryFiles store.folder)) := by
  by_cases accepts : store.Accepts entry
  · have gains := (add_accepted store entry accepts).2
    exact .inr ⟨accepts.unseen, gains.entries, gains_files store _ entry accepts.named gains⟩
  · exact .inl (add_refused store entry accepts).2

structure Grown (store later : Store) (added : List Entry) : Prop where
  entries : later.entries = store.entries ++ added
  files : (entryFiles later.folder).Perm (added.map written ++ entryFiles store.folder)
  fresh : Fresh (store.entries.map Entry.key) added

theorem grown_nothing (store : Store) : Grown store store [] :=
  ⟨(List.append_nil _).symm, List.Perm.refl _, fresh_nil _⟩

theorem grown_trans (store middle later : Store) (first more : List Entry)
    (front : Grown store middle first) (behind : Grown middle later more) :
    Grown store later (first ++ more) := by
  refine ⟨?_, ?_, (fresh_append _ _ _).mpr ⟨front.fresh, ?_⟩⟩
  · rw [behind.entries, front.entries, List.append_assoc]
  · rw [List.map_append, List.append_assoc]
    refine behind.files.trans ((front.files.append_left _).trans ?_)
    exact List.perm_append_comm_assoc _ _ _
  · have fresh := behind.fresh
    rw [front.entries, List.map_append] at fresh
    exact ⟨fresh.distinct, fun entry member found =>
      fresh.unseen entry member (List.perm_append_comm.mem_iff.mp found)⟩

theorem add_grown (store : Store) (entry : Entry) :
    ∃ added, Grown store (store.add entry).2 added := by
  rcases add_cases store entry with same | ⟨unseen, entries, files⟩
  · rw [same]
    exact ⟨[], grown_nothing store⟩
  · exact ⟨[entry], entries, files, List.pairwise_singleton _ _, List.forall_mem_singleton.mpr unseen⟩

theorem add_all_grown (store : Store) (entries : List Entry) :
    ∃ added, Grown store (store.addAll entries) added := by
  induction entries generalizing store with
  | nil => exact ⟨[], grown_nothing store⟩
  | cons entry rest ih =>
      obtain ⟨first, front⟩ := add_grown store entry
      obtain ⟨more, behind⟩ := ih (store.add entry).2
      exact ⟨first ++ more, grown_trans _ _ _ _ _ front behind⟩

theorem mem_later (store later : Store) (added : List Entry) (grown : Grown store later added)
    (opened : Loads [] (entryFiles store.folder) store.entries) (entry : Entry)
    (new : entry ∈ added) (found : entry ∈ (entryFiles later.folder).flatMap held) :
    ∃ source ∈ added, entry ∈ held (written source) := by
  obtain ⟨file, listed, inside⟩ := List.mem_flatMap.mp found
  rcases List.mem_append.mp (grown.files.mem_iff.mp listed) with made | there
  · obtain ⟨source, member, rfl⟩ := List.mem_map.mp made
    exact ⟨source, member, inside⟩
  · have old : entry ∈ store.entries := by
      rw [opened.same]
      exact List.mem_flatMap.mpr ⟨file, there, inside⟩
    exact absurd (List.mem_map_of_mem old) (grown.fresh.unseen entry new)

theorem mem_held_written (source entry : Entry) (inside : entry ∈ held (written source)) :
    ∃ entries, Ldif.contents source.display = some entries ∧ entry ∈ entries := by
  rw [held, written_contents] at inside
  cases read : Ldif.contents source.display with
  | none =>
      rw [read] at inside
      cases inside
  | some entries =>
      rw [read] at inside
      exact ⟨entries, rfl, inside⟩

-- Every entry that was added is read from the file of one that was added, so it was itself read; and
-- a text written for an entry that was read gives an entry that can be stored.
theorem storable_of_reopened (store later : Store) (added : List Entry)
    (grown : Grown store later added) (opened : Loads [] (entryFiles store.folder) store.entries)
    (back : ∀ entry ∈ added, entry ∈ (entryFiles later.folder).flatMap held) :
    ∀ entry ∈ added, entry.Storable := by
  have author : ∀ entry ∈ added, ∃ source ∈ added, entry ∈ held (written source) :=
    fun entry new => mem_later store later added grown opened entry new (back entry new)
  have lined : ∀ entry ∈ added, entry.Lined := by
    intro entry new
    obtain ⟨source, _, inside⟩ := author entry new
    obtain ⟨entries, read, member⟩ := mem_held_written source entry inside
    exact Ldif.contents_lined _ entries read entry member
  intro entry new
  obtain ⟨source, listed, inside⟩ := author entry new
  obtain ⟨entries, read, member⟩ := mem_held_written source entry inside
  rw [Ldif.contents_display source (lined source listed)] at read
  obtain ⟨again, reread, rfl⟩ := Option.map_eq_some_iff.mp read
  rw [List.mem_singleton.mp member]
  exact source.storable_reread again (lined source listed) reread

theorem storable_file (entry : Entry) (storable : entry.Storable) :
    fileContents (written entry).2 = some [entry] := by
  rw [written_contents, Ldif.contents_display entry (entry.lined_of_storable storable),
    entry.reread_storable storable]
  rfl

theorem held_written (added : List Entry) (storable : ∀ entry ∈ added, entry.Storable) :
    (added.map written).flatMap held = added := by
  induction added with
  | nil => rfl
  | cons entry rest ih =>
      obtain ⟨first, later⟩ := List.forall_mem_cons.mp storable
      rw [List.map_cons, List.flatMap_cons, ih later, held, storable_file entry first]
      rfl

theorem loads_of_storable (store later : Store) (added : List Entry)
    (grown : Grown store later added) (opened : Loads [] (entryFiles store.folder) store.entries)
    (storable : ∀ entry ∈ added, entry.Storable) :
    ∃ entries, Loads [] (entryFiles later.folder) entries ∧ entries.Perm later.entries := by
  have same : ((entryFiles later.folder).flatMap held).Perm later.entries := by
    rw [grown.entries]
    refine (grown.files.flatMap_right held).trans ?_
    rw [List.flatMap_append, held_written added storable, ← opened.same]
    exact List.perm_append_comm
  refine ⟨_, ⟨?_, rfl, ?_⟩, same⟩
  · intro file listed
    rcases List.mem_append.mp (grown.files.mem_iff.mp listed) with made | there
    · obtain ⟨entry, member, rfl⟩ := List.mem_map.mp made
      rw [storable_file entry (storable entry member)]
      rfl
    · exact opened.readable file there
  · rw [fresh_perm [] _ _ same, grown.entries, fresh_append, List.append_nil]
    exact ⟨opened.fresh, grown.fresh⟩

theorem reopens_same_iff (folder : Folder) (store : Store) (opened : ofFolder folder = .ok store)
    (entries : List Entry) :
    (∃ reopened, ofFolder (store.addAll entries).folder = .ok reopened ∧
        reopened.entries.Perm (store.addAll entries).entries) ↔
      ∀ entry ∈ (store.addAll entries).entries, entry ∈ store.entries ∨ entry.Storable := by
  obtain ⟨rfl, loads⟩ := (of_folder_iff folder store).mp opened
  obtain ⟨added, grown⟩ := add_all_grown store entries
  have apart : ∀ entry ∈ added, entry ∉ store.entries := fun entry new old =>
    grown.fresh.unseen entry new (List.mem_map_of_mem old)
  constructor
  · rintro ⟨reopened, again, same⟩
    obtain ⟨_, back⟩ := (of_folder_iff _ _).mp again
    have storable := storable_of_reopened store _ added grown loads fun entry new => by
      rw [← back.same, same.mem_iff, grown.entries]
      exact List.mem_append_right _ new
    intro entry member
    rw [grown.entries] at member
    exact (List.mem_append.mp member).imp_right (storable entry)
  · intro each
    have storable : ∀ entry ∈ added, entry.Storable := fun entry new =>
      (each entry (by rw [grown.entries]; exact List.mem_append_right _ new)).resolve_left
        (apart entry new)
    obtain ⟨found, back, same⟩ := loads_of_storable store _ added grown loads storable
    exact ⟨⟨_, found⟩, (of_folder_iff _ _).mpr ⟨rfl, back⟩, same⟩

theorem files_single (name : String) (data : Bytes) :
    Folder.files [(name, .file data)] = [(name, data)] :=
  List.mergeSort_singleton (name, data)

def heldStore : Store :=
  ⟨[("a.ldif", .file (Text.encode "dn: cn=a\n"))], [⟨"cn=a", []⟩]⟩

theorem coded_entries_reopen :
    ofFolder heldStore.folder = .ok heldStore ∧
      (heldStore.addAll Ldif.codedEntries).entries = heldStore.entries ++ Ldif.codedEntries ∧
      ∃ reopened, ofFolder (heldStore.addAll Ldif.codedEntries).folder = .ok reopened ∧
        reopened.entries.Perm (heldStore.addAll Ldif.codedEntries).entries := by
  have opened : ofFolder heldStore.folder = .ok heldStore := by
    rw [ofFolder, load, heldStore, files_single]
    rfl
  have added : (heldStore.addAll Ldif.codedEntries).entries =
      heldStore.entries ++ Ldif.codedEntries := rfl
  refine ⟨opened, added, (reopens_same_iff _ _ opened Ldif.codedEntries).mpr fun entry member => ?_⟩
  rw [added] at member
  exact (List.mem_append.mp member).imp_right (Ldif.coded_entries_storable entry)

-- A line feed in a name ends the name line early, and what is behind it is no line of an entry.
theorem feed_in_name_unreadable :
    ofFolder [] = .ok ⟨[], []⟩ ∧
      (add ⟨[], []⟩ (.ofValues "cn=a\nb" [])).1 = .success ∧
      (addAll ⟨[], []⟩ [.ofValues "cn=a\nb" []]).entries = [⟨"cn=a\nb", []⟩] ∧
      ofFolder (addAll ⟨[], []⟩ [.ofValues "cn=a\nb" []]).folder =
        .error (.malformed "cn=a\nb.ldif" 2 .missingColon) := by
  have opened : ofFolder [] = .ok ⟨[], []⟩ := by
    rw [ofFolder, load, Folder.files, List.filterMap_nil, List.mergeSort_nil]
    rfl
  have made : (addAll ⟨[], []⟩ [.ofValues "cn=a\nb" []]).folder =
      [("cn=a\nb.ldif", .file (Text.encode "dn: cn=a\nb\n"))] := rfl
  refine ⟨opened, rfl, rfl, ?_⟩
  rw [made, ofFolder, load, files_single]
  rfl

end Store

end DirectoryServer
