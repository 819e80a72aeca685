import DirectoryServer.Ldif.Reader
import DirectoryServer.Proofs.Ldif.Lines
import DirectoryServer.Proofs.Text.Utf8

set_option autoImplicit false

namespace DirectoryServer

def Entry.key (entry : Entry) : List Char :=
  Text.lowerChars entry.name.toList

def Entry.push (entry : Entry) (attr : Attribute) : Entry :=
  { entry with attributes := entry.attributes ++ [attr] }

structure Fresh (seen : List (List Char)) (entries : List Entry) : Prop where
  distinct : (entries.map Entry.key).Nodup
  unseen : ∀ entry ∈ entries, entry.key ∉ seen

theorem fresh_nil (seen : List (List Char)) : Fresh seen [] :=
  ⟨List.nodup_nil, List.forall_mem_nil _⟩

theorem fresh_append (seen : List (List Char)) (first more : List Entry) :
    Fresh seen (first ++ more) ↔ Fresh seen first ∧ Fresh (first.map Entry.key ++ seen) more := by
  constructor
  · rintro ⟨distinct, unseen⟩
    rw [List.map_append, List.nodup_append] at distinct
    obtain ⟨front, behind, apart⟩ := distinct
    refine ⟨⟨front, fun entry member => unseen entry (List.mem_append_left _ member)⟩, behind, ?_⟩
    intro entry member found
    rcases List.mem_append.mp found with found | found
    · exact apart _ found _ (List.mem_map_of_mem member) rfl
    · exact unseen entry (List.mem_append_right _ member) found
  · rintro ⟨front, behind⟩
    constructor
    · rw [List.map_append, List.nodup_append]
      refine ⟨front.distinct, behind.distinct, ?_⟩
      rintro key found other later rfl
      obtain ⟨entry, member, same⟩ := List.mem_map.mp later
      exact behind.unseen entry member (same ▸ List.mem_append_left _ found)
    · intro entry member
      rcases List.mem_append.mp member with member | member
      · exact front.unseen entry member
      · exact fun found => behind.unseen entry member (List.mem_append_right _ found)

theorem fresh_cons (seen : List (List Char)) (entry : Entry) (more : List Entry) :
    Fresh seen (entry :: more) ↔ entry.key ∉ seen ∧ Fresh (entry.key :: seen) more := by
  have single : Fresh seen [entry] ↔ entry.key ∉ seen :=
    ⟨fun fresh => fresh.unseen entry List.mem_cons_self,
      fun unseen => ⟨List.pairwise_singleton _ _, List.forall_mem_singleton.mpr unseen⟩⟩
  rw [← List.singleton_append, fresh_append, single]
  rfl

theorem fresh_perm (seen : List (List Char)) (entries others : List Entry) (same : entries.Perm others) :
    Fresh seen entries ↔ Fresh seen others := by
  constructor
  · rintro ⟨distinct, unseen⟩
    exact ⟨(same.map _).nodup_iff.mp distinct, fun entry member => unseen entry (same.mem_iff.mpr member)⟩
  · rintro ⟨distinct, unseen⟩
    exact ⟨(same.map _).nodup_iff.mpr distinct, fun entry member => unseen entry (same.mem_iff.mp member)⟩

namespace Ldif

def readEntries (current : Option Entry) : List (List Char) → Option (List Entry)
  | [] => some current.toList
  | line :: rest =>
      match readLine current.isSome line with
      | .error _ => none
      | .ok (.name name) => (readEntries (some ⟨name, []⟩) rest).map (current.toList ++ ·)
      | .ok (.value attr) => readEntries (current.map (·.push attr)) rest

def contents (text : String) : Option (List Entry) :=
  readEntries none (logicalLines text.toList)

theorem read_records_entries (current : Option Record) (lines : List Logical) :
    (readRecords current lines).toOption.map (·.map Record.entry) =
      readEntries (current.map Record.entry) (lines.map Prod.snd) := by
  induction lines generalizing current with
  | nil => cases current <;> rfl
  | cons logical rest ih =>
      obtain ⟨number, line⟩ := logical
      rw [List.map_cons, readRecords, readEntries, Option.isSome_map]
      cases readLine current.isSome line with
      | error fault => rfl
      | ok item =>
          cases item with
          | name name =>
              have behind := ih (some ⟨number, ⟨name, []⟩⟩)
              rw [Option.map_some] at behind
              dsimp only
              rw [← behind]
              cases readRecords (some ⟨number, ⟨name, []⟩⟩) rest with
              | error malformed => rfl
              | ok records =>
                  cases current <;> rfl
          | value attr =>
              dsimp only
              rw [ih]
              cases current <;> rfl

theorem check_names_iff (seen : List (List Char)) (records : List Record) (entries : List Entry) :
    checkNames seen records = .ok entries ↔ entries = records.map Record.entry ∧ Fresh seen entries := by
  induction records generalizing seen entries with
  | nil =>
      rw [checkNames, List.map_nil, Except.ok.injEq]
      constructor
      · rintro rfl
        exact ⟨rfl, fresh_nil seen⟩
      · rintro ⟨rfl, _⟩
        rfl
  | cons record rest ih =>
      rw [checkNames, List.map_cons]
      by_cases found : Text.lowerChars record.entry.name.toList ∈ seen
      · rw [if_pos (List.contains_iff_mem.mpr found)]
        constructor
        · intro refused
          cases refused
        · rintro ⟨rfl, fresh⟩
          exact absurd found ((fresh_cons _ _ _).mp fresh).1
      · rw [if_neg (fun present => found (List.contains_iff_mem.mp present))]
        rw [map_ok_iff]
        constructor
        · rintro ⟨others, later, rfl⟩
          obtain ⟨rfl, fresh⟩ := (ih _ _).mp later
          exact ⟨rfl, (fresh_cons _ _ _).mpr ⟨found, fresh⟩⟩
        · rintro ⟨rfl, fresh⟩
          exact ⟨_, (ih _ _).mpr ⟨rfl, ((fresh_cons _ _ _).mp fresh).2⟩, rfl⟩

theorem parse_beside_iff (seen : List (List Char)) (text : String) (entries : List Entry) :
    parseBeside seen text = .ok entries ↔ contents text = some entries ∧ Fresh seen entries := by
  have numbered := read_records_entries none (unfold text.toList)
  rw [Option.map_none] at numbered
  rw [parseBeside, contents, logicalLines, ← numbered]
  cases readRecords none (unfold text.toList) with
  | error malformed => simp [Except.toOption]
  | ok records =>
      rw [check_names_iff]
      exact and_congr_left fun _ => ⟨fun same => congrArg some same.symm, fun same => (Option.some.inj same).symm⟩

end Ldif

end DirectoryServer
