import DirectoryServer.Proofs.Store.Clashes

set_option autoImplicit false

namespace DirectoryServer

namespace Folder

def isRooted (path : String) : Bool :=
  path.toList.head? = some '/'

structure ChildOf (dir file path : String) : Prop where
  rooted : isRooted path = isRooted dir
  steps : steps path = steps dir ++ [file]

theorem steps_slash (dir rest : String) : steps (dir ++ "/" ++ rest) = steps dir ++ steps rest := by
  have chars : (dir ++ "/" ++ rest).toList = dir.toList ++ '/' :: rest.toList := by
    rw [String.toList_append, String.toList_append, List.append_assoc]
    rfl
  rw [steps, segments, chars, List.splitOn_append_cons_self, List.map_append, List.filter_append]
  rfl

theorem steps_behind_slash (dir rest : String) (slash : dir.toList.getLast? = some '/') :
    steps (dir ++ rest) = steps dir ++ steps rest := by
  obtain ⟨front, chars⟩ := List.getLast?_eq_some_iff.mp slash
  have cut : dir = String.ofList front ++ "/" := by
    rw [← String.toList_inj, chars, String.toList_append, String.toList_ofList]
    rfl
  have whole : steps dir = steps (String.ofList front) := by
    rw [cut, ← String.append_empty (s := String.ofList front ++ "/"), steps_slash]
    exact List.append_nil _
  rw [whole, cut, steps_slash]

theorem is_rooted_append (dir rest : String) (filled : dir ≠ "") :
    isRooted (dir ++ rest) = isRooted dir := by
  rw [isRooted, isRooted, String.toList_append]
  cases chars : dir.toList with
  | nil => exact absurd (String.toList_eq_nil_iff.mp chars) filled
  | cons c more => rfl

theorem steps_single (file : String) (no_slash : '/' ∉ file.toList) (moves : isStill file = false) :
    steps file = [file] := by
  rw [steps, segments, List.splitOn_eq_singleton no_slash, List.map_singleton, String.ofList_toList,
    List.filter_cons_of_pos (by rw [moves]; rfl), List.filter_nil]

theorem walk_from_last (above : List Folder) (folder : Folder) (name : String) (down : name ≠ "..") :
    walkFrom? above folder [name] = folder.find? name := by
  rw [walkFrom?.eq_def]
  dsimp only
  rw [if_neg down]
  cases folder.find? name with
  | none => rfl
  | some node => cases node <;> rfl

theorem walk_from_down (above : List Folder) (folder inner : Folder) (name : String) (path : List String)
    (down : name ≠ "..") (held : folder.find? name = some (.folder inner)) :
    walkFrom? above folder (name :: path) = walkFrom? (folder :: above) inner path := by
  rw [walkFrom?.eq_def]
  dsimp only
  rw [if_neg down, held]

theorem walk_from_child (above : List Folder) (folder nodes : Folder) (path : List String) (file : String)
    (down : file ≠ "..") (found : walkFrom? above folder path = some (.folder nodes)) :
    walkFrom? above folder (path ++ [file]) = nodes.find? file := by
  fun_induction walkFrom? above folder path with
  | case1 above folder =>
      cases found
      exact walk_from_last above _ file down
  | case2 folder path => cases found
  | case3 folder path parent above ih =>
      rw [List.cons_append, walkFrom?, if_pos rfl]
      exact ih found
  | case4 above folder name path onward missing => cases found
  | case5 above folder name path onward data held last => cases found
  | case6 above folder name path onward data held more => cases found
  | case7 above folder name path onward inner held ih =>
      rw [List.cons_append, walk_from_down above folder inner name _ onward held]
      exact ih found

theorem mem_files (folder : Folder) (name : String) (data : Bytes) (there : (name, .file data) ∈ folder) :
    (name, data) ∈ folder.files := by
  rw [files, (List.mergeSort_perm _ _).mem_iff, List.mem_filterMap]
  exact ⟨_, there, rfl⟩

end Folder

namespace EntryFile

theorem join_path_child (dir file : String) (no_slash : '/' ∉ file.toList)
    (moves : Folder.isStill file = false) : Folder.ChildOf dir file (joinPath dir file) := by
  have single := Folder.steps_single file no_slash moves
  rw [joinPath]
  by_cases empty : dir = ""
  · rw [if_pos (.inl (String.isEmpty_iff.mpr empty)), empty, String.empty_append]
    refine ⟨?_, single⟩
    rw [Folder.isRooted, decide_eq_false fun first => no_slash (List.mem_of_head? first)]
    rfl
  · by_cases slash : dir.toList.getLast? = some '/'
    · rw [if_pos (.inr slash)]
      exact ⟨Folder.is_rooted_append dir file empty, by rw [Folder.steps_behind_slash dir file slash, single]⟩
    · rw [if_neg (not_or.mpr ⟨fun none => empty (String.isEmpty_iff.mp none), slash⟩)]
      refine ⟨?_, by rw [Folder.steps_slash, single]⟩
      rw [String.append_assoc, Folder.is_rooted_append dir _ empty]

theorem file_name_chars (name : String) :
    (fileName name).toList = name.toList.map masked ++ extension.toList := by
  rw [fileName, String.toList_append, String.toList_ofList]
  rfl

theorem masked_not_separator (c : Char) : isSeparator (masked c) = false := by
  unfold masked
  split
  · rfl
  · exact Bool.eq_false_iff.mpr ‹_›

theorem file_name_unseparated (name : String) (c : Char) (separator : isSeparator c = true) :
    c ∉ (fileName name).toList := by
  rw [file_name_chars]
  intro member
  rcases List.mem_append.mp member with inside | behind
  · obtain ⟨source, _, rfl⟩ := List.mem_map.mp inside
    rw [masked_not_separator] at separator
    cases separator
  · have plain : ∀ c ∈ extension.toList, isSeparator c = false := by simp [extension, isSeparator]
    rw [plain c behind] at separator
    cases separator

-- A name has no extension where nothing stands before its last dot, and neither has the way up, "..".
def fileExtension? (file : String) : Option String :=
  match file.toList.reverse.dropWhile (· ≠ '.') with
  | [] => none
  | _ :: stem =>
      if stem.isEmpty || file = ".." then none
      else some (String.ofList (file.toList.reverse.takeWhile (· ≠ '.')).reverse)

theorem file_extension_iff (file ext : String) :
    fileExtension? file = some ext ↔
      file ≠ ".." ∧ '.' ∉ ext.toList ∧ ∃ stem, stem ≠ [] ∧ file.toList = stem ++ '.' :: ext.toList := by
  rw [fileExtension?]
  constructor
  · intro found
    -- Read from its end, the name is a part without dots, then the dot, then the stem.
    have cut := List.takeWhile_append_dropWhile (p := (· ≠ '.')) (l := file.toList.reverse)
    have first := List.head?_dropWhile_not (· ≠ '.') file.toList.reverse
    have plain : '.' ∉ file.toList.reverse.takeWhile (· ≠ '.') := fun dot => by
      simpa using List.all_eq_true.mp List.all_takeWhile '.' dot
    generalize file.toList.reverse.takeWhile (· ≠ '.') = ending at found cut plain
    split at found
    · cases found
    · rename_i dot stem front
      rw [front] at cut first
      have dotted : dot = '.' := by simpa using first
      split at found
      · cases found
      · rename_i kept
        rw [Bool.or_eq_true, not_or, List.isEmpty_iff, decide_eq_true_eq] at kept
        obtain rfl := Option.some.inj found
        rw [String.toList_ofList, List.mem_reverse]
        refine ⟨kept.2, plain, stem.reverse, ?_, ?_⟩
        · exact fun empty => kept.1 (List.reverse_eq_nil_iff.mp empty)
        · rw [← List.reverse_reverse file.toList, ← cut, dotted, List.reverse_append, List.reverse_cons,
            List.append_assoc, List.singleton_append]
  · rintro ⟨onward, plain, stem, filled, chars⟩
    have passed : ∀ c ∈ ext.toList.reverse, decide (c ≠ '.') = true := fun c member => by
      rw [decide_eq_true_eq]
      rintro rfl
      exact plain (List.mem_reverse.mp member)
    have turned : file.toList.reverse = ext.toList.reverse ++ '.' :: stem.reverse := by simp [chars]
    rw [turned, List.dropWhile_append_of_pos passed, List.takeWhile_append_of_pos passed]
    simp [filled, onward]

theorem is_entry_file_iff (file : String) :
    isEntryFile file = true ↔ fileExtension? file = some "ldif" := by
  rw [isEntryFile, Bool.and_eq_true, List.isSuffixOf_iff_suffix, decide_eq_true_eq, file_extension_iff]
  constructor
  · rintro ⟨⟨stem, chars⟩, apart⟩
    refine ⟨?_, by decide, stem, fun empty => apart ?_, chars.symm⟩
    · rintro rfl
      simpa [extension] using congrArg List.length chars
    · rw [← String.toList_inj, ← chars, empty, List.nil_append]
  · rintro ⟨_, _, stem, filled, chars⟩
    refine ⟨⟨stem, chars.symm⟩, fun same => filled ?_⟩
    rw [same] at chars
    exact List.self_eq_append_left.mp chars

theorem file_name_longer (name other : String) (short : other.toList.length < extension.toList.length) :
    fileName name ≠ other := by
  rintro rfl
  rw [file_name_chars, List.length_append] at short
  omega

structure TakesUp (dir : String) (folder : Folder) (file : String × Bytes) : Prop where
  listed : file ∈ entryFiles folder
  given : ∀ entries, load dir folder = .ok entries →
    ∃ own, fileContents file.2 = some own ∧ own ⊆ entries

theorem takes_up (dir : String) (folder : Folder) (name : String) (data : Bytes)
    (there : (name, .file data) ∈ folder) (named : isEntryFile name = true) :
    TakesUp dir folder (name, data) := by
  have listed : (name, data) ∈ entryFiles folder :=
    List.mem_filter.mpr ⟨Folder.mem_files folder name data there, named⟩
  refine ⟨listed, fun entries loaded => ?_⟩
  have loads := (load_files_iff dir [] (entryFiles folder) entries).mp loaded
  obtain ⟨own, read⟩ := Option.isSome_iff_exists.mp (loads.readable _ listed)
  refine ⟨own, read, fun entry member => ?_⟩
  rw [loads.same]
  exact List.mem_flatMap.mpr ⟨_, listed, by rw [held, read]; exact member⟩

theorem entry_file_in_folder (dir name : String) (named : name ≠ "") :
    let file := fileName name
    ('/' ∉ file.toList ∧ '\\' ∉ file.toList ∧ '\x00' ∉ file.toList ∧ file ≠ "." ∧ file ≠ "..") ∧
      Folder.ChildOf dir file (path dir name) ∧
      (∀ top nodes : Folder, top.walk? (Folder.steps dir) = some (.folder nodes) →
        top.walk? (Folder.steps (path dir name)) = nodes.find? file) ∧
      fileExtension? file = some "ldif" ∧
      ∀ (folder later : Folder) (entry : Entry), entry.name = name → persist folder entry = .ok later →
        later = folder ++ [(file, .file (Text.encode entry.display))] ∧
        ∀ now : Folder, (file, .file (Text.encode entry.display)) ∈ now →
          TakesUp dir now (file, Text.encode entry.display) := by
  intro file
  have no_slash : '/' ∉ file.toList := file_name_unseparated name '/' rfl
  have no_backslash : '\\' ∉ file.toList := file_name_unseparated name '\\' rfl
  have no_null : '\x00' ∉ file.toList := file_name_unseparated name '\x00' rfl
  have not_empty : file ≠ "" := file_name_longer name "" (by decide)
  have not_dot : file ≠ "." := file_name_longer name "." (by decide)
  have not_dots : file ≠ ".." := file_name_longer name ".." (by decide)
  have child : Folder.ChildOf dir file (path dir name) :=
    join_path_child dir file no_slash (by simp [Folder.isStill, not_empty, not_dot])
  have kept : isEntryFile file = true := entry_file_name name named
  refine ⟨⟨no_slash, no_backslash, no_null, not_dot, not_dots⟩, child, ?_, (is_entry_file_iff file).mp kept,
    ?_⟩
  · intro top nodes found
    rw [child.steps]
    exact Folder.walk_from_child [] top nodes _ file not_dots found
  · rintro folder later entry rfl persisted
    obtain ⟨_, created⟩ := (Store.persist_iff folder later entry).mp persisted
    obtain ⟨_, _, made⟩ := (Folder.create_iff _ _ _ _).mp created
    exact ⟨made, fun now there => takes_up dir now file _ there kept⟩

theorem climbing_name_stays_inside :
    let data := Text.encode "dn: ../.\n"
    let later : Folder := [(".._..ldif", .file data)]
    "../." ≠ "" ∧ path "data/" "../." = "data/.._..ldif" ∧
      Folder.ChildOf "data/" ".._..ldif" "data/.._..ldif" ∧ fileExtension? ".._..ldif" = some "ldif" ∧
      Folder.walk? [("data", .folder later)] (Folder.steps "data/") = some (.folder later) ∧
      Folder.walk? [("data", .folder later)] (Folder.steps "data/.._..ldif") = some (.file data) ∧
      persist [] ⟨"../.", []⟩ = .ok later ∧ TakesUp "data/" later (".._..ldif", data) ∧
      load "data/" later = .ok [⟨"../.", []⟩] := by
  intro data later
  have named : "../." ≠ "" := by decide
  have inside : Folder.walk? [("data", .folder later)] (Folder.steps "data/") = some (.folder later) := rfl
  have persisted : persist [] ⟨"../.", []⟩ = .ok later := rfl
  obtain ⟨_, child, walks, extended, creates⟩ := entry_file_in_folder "data/" "../." named
  obtain ⟨_, taken⟩ := creates [] later ⟨"../.", []⟩ rfl persisted
  refine ⟨named, rfl, child, extended, inside, walks _ later inside, persisted,
    taken later List.mem_cons_self, ?_⟩
  rw [load, Store.files_single]
  rfl

end EntryFile

end DirectoryServer
