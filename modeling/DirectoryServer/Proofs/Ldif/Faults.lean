import DirectoryServer.Proofs.Ldif.Reread

set_option autoImplicit false

namespace DirectoryServer.Ldif

def Says (line : List Char) (attr : String) (value : List Char) : Prop :=
  ∃ left, line = left ++ ':' :: value ∧ ':' ∉ left ∧ attr = String.ofList (Text.trimChars left)

def Opens (line : List Char) : Prop :=
  ∃ attr value, Says line attr value ∧ isNameWord attr = true

def CodesName (encoded : List Char) (name : String) : Prop :=
  Base64.decodeText (String.ofList encoded) = .ok (Text.encode name) ∧
    ∀ c ∈ name.toList, Text.isControl c = false

inductive Names (line : List Char) : String → Prop where
  | plain {attr : String} {value : List Char} (said : Says line attr value) (word : isNameWord attr = true)
      (uncoded : value.head? ≠ some ':') : Names line (String.ofList (Text.trimChars value))
  | coded {attr name : String} {encoded : List Char} (said : Says line attr (':' :: encoded))
      (word : isNameWord attr = true) (codes : CodesName encoded name) : Names line name

inductive Gives (line : List Char) : Attribute → Prop where
  | plain {attr : String} {value : List Char} (said : Says line attr value) (filled : attr ≠ "")
      (other : isNameWord attr = false) (uncoded : value.head? ≠ some ':') :
      Gives line (.ofText attr (String.ofList (Text.trimStartChars value)))
  | coded {attr : String} {encoded : List Char} {octets : Bytes} (said : Says line attr (':' :: encoded))
      (filled : attr ≠ "") (other : isNameWord attr = false)
      (decoded : Base64.decodeText (String.ofList encoded) = .ok octets) : Gives line (.ofValue attr octets)

inductive Wrong (opened : Prop) (line : List Char) : Fault → Prop where
  | missingColon (absent : ':' ∉ line) : Wrong opened line .missingColon
  | emptyAttribute {value : List Char} (said : Says line "" value) : Wrong opened line .emptyAttribute
  | badName {attr : String} {encoded : List Char} (said : Says line attr (':' :: encoded))
      (word : isNameWord attr = true) (uncoded : ∀ name, ¬ CodesName encoded name) :
      Wrong opened line .badName
  | strayAttribute {attr : String} {value : List Char} (said : Says line attr value) (filled : attr ≠ "")
      (other : isNameWord attr = false) (unopened : ¬ opened) : Wrong opened line .strayAttribute
  | badValue {attr : String} {encoded : List Char} {cause : Base64.DecodeError}
      (said : Says line attr (':' :: encoded)) (filled : attr ≠ "") (other : isNameWord attr = false)
      (inside : opened) (undecoded : Base64.decodeText (String.ofList encoded) = .error cause) :
      Wrong opened line (.badValue cause)

def Opened (front : List Logical) : Prop :=
  ∃ logical ∈ front, Opens logical.2

def BadLine (lines front : List Logical) (malformed : Malformed) : Prop :=
  ∃ line behind, lines = front ++ (malformed.line, line) :: behind ∧ Wrong (Opened front) line malformed.fault

def Sound (lines : List Logical) : Prop :=
  ∀ front malformed, ¬ BadLine lines front malformed

def FirstBad (lines : List Logical) (malformed : Malformed) : Prop :=
  ∃ front, BadLine lines front malformed ∧ Sound front

inductive Values : List Logical → List Attribute → Prop where
  | nil : Values [] []
  | cons {number : Nat} {line : List Char} {attr : Attribute} {lines : List Logical}
      {attributes : List Attribute} (gives : Gives line attr) (more : Values lines attributes) :
      Values ((number, line) :: lines) (attr :: attributes)

inductive Sections : List Logical → List Record → Prop where
  | nil : Sections [] []
  | cons {number : Nat} {line : List Char} {name : String} {values rest : List Logical}
      {attributes : List Attribute} {records : List Record} (names : Names line name)
      (gives : Values values attributes) (behind : Sections rest records) :
      Sections ((number, line) :: (values ++ rest)) (⟨number, ⟨name, attributes⟩⟩ :: records)

def FirstRepeat (records : List Record) (malformed : Malformed) : Prop :=
  ∃ front record behind, records = front ++ record :: behind ∧ (front.map (·.entry.key)).Nodup ∧
    record.entry.key ∈ front.map (·.entry.key) ∧ malformed = ⟨record.line, .duplicate record.entry.name⟩

theorem said_cut (line : List Char) (attr : String) (value : List Char) (said : Says line attr value) :
    ∃ left, cutColon line = some (left, value) ∧ attr = String.ofList (Text.trimChars left) := by
  obtain ⟨left, rfl, no_colon, same⟩ := said
  exact ⟨left, cut_colon_at left value no_colon, same⟩

theorem cut_colon_none_iff (line : List Char) : cutColon line = none ↔ ':' ∉ line := by
  induction line with
  | nil => simp [cutColon]
  | cons c rest ih =>
      rw [cutColon]
      by_cases colon : c = ':'
      · simp [colon]
      · rw [if_neg colon, Option.map_eq_none_iff, ih, List.mem_cons, not_or]
        exact ⟨fun absent => ⟨Ne.symm colon, absent⟩, And.right⟩

theorem said_unless_missing (line : List Char) : ':' ∉ line ∨ ∃ attr value, Says line attr value := by
  cases cut : cutColon line with
  | none => exact .inl ((cut_colon_none_iff line).mp cut)
  | some parts =>
      obtain ⟨whole, no_colon⟩ := cut_colon_split line parts.1 parts.2 cut
      exact .inr ⟨_, parts.2, parts.1, whole, no_colon, rfl⟩

theorem said_same (line : List Char) (attr other : String) (value rest : List Char)
    (said : Says line attr value) (again : Says line other rest) : attr = other ∧ value = rest := by
  obtain ⟨left, cut, rfl⟩ := said_cut line attr value said
  obtain ⟨left', cut', rfl⟩ := said_cut line other rest again
  rw [cut] at cut'
  cases cut'
  exact ⟨rfl, rfl⟩

theorem read_line_missing (inEntry : Bool) (line : List Char) (absent : ':' ∉ line) :
    readLine inEntry line = .error .missingColon := by
  rw [readLine, (cut_colon_none_iff line).mpr absent]

theorem read_line_said (inEntry : Bool) (line : List Char) (attr : String) (value : List Char)
    (said : Says line attr value) :
    readLine inEntry line =
      if attr = "" then .error .emptyAttribute
      else if isNameWord attr then (readName value).map .name
      else if inEntry then (readValue attr value).map .value
      else .error .strayAttribute := by
  obtain ⟨left, cut, rfl⟩ := said_cut line attr value said
  rw [readLine, cut]
  simp only [String.isEmpty_iff]

theorem name_word_filled (attr : String) (word : isNameWord attr = true) : attr ≠ "" := by
  rintro rfl
  exact absurd word (by decide)

theorem coded_or_plain (value : List Char) :
    (∃ encoded, value = ':' :: encoded) ∨ value.head? ≠ some ':' := by
  cases value with
  | nil => exact .inr (by simp)
  | cons c rest =>
      by_cases colon : c = ':'
      · exact .inl ⟨rest, by rw [colon]⟩
      · exact .inr (by simpa using colon)

theorem read_name_plain (value : List Char) (uncoded : value.head? ≠ some ':') :
    readName value = .ok (String.ofList (Text.trimChars value)) := by
  unfold readName
  split
  · exact absurd rfl uncoded
  · rfl

theorem read_name_coded_iff (encoded : List Char) (name : String) :
    readName (':' :: encoded) = .ok name ↔ CodesName encoded name := by
  rw [readName, Attribute.ofBase64, CodesName]
  cases Base64.decodeText (String.ofList encoded) with
  | error cause => simp [Except.map]
  | ok octets =>
      rw [Except.ok.injEq, @eq_comm _ octets, ← Attribute.text_of_value_iff "dn"]
      dsimp only [Except.map]
      cases (Attribute.ofValue "dn" octets).text? <;> simp

theorem read_name_error_iff (value : List Char) (fault : Fault) :
    readName value = .error fault ↔
      fault = .badName ∧ ∃ encoded, value = ':' :: encoded ∧ ∀ name, ¬ CodesName encoded name := by
  rcases coded_or_plain value with ⟨encoded, rfl⟩ | uncoded
  · cases read : readName (':' :: encoded) with
    | ok name =>
        have codes := (read_name_coded_iff encoded name).mp read
        simp only [reduceCtorEq, List.cons.injEq, true_and, exists_eq_left', false_iff, not_and]
        exact fun _ none => none name codes
    | error actual =>
        have none : ∀ name, ¬ CodesName encoded name := fun name codes => by
          rw [(read_name_coded_iff encoded name).mpr codes] at read
          cases read
        have only : actual = .badName := by
          unfold readName at read
          split at read
          · split at read
            · cases read
              rfl
            · split at read <;> cases read
              rfl
          · cases read
        simp [only, none, eq_comm]
  · rw [read_name_plain value uncoded]
    constructor
    · intro refused
      cases refused
    · rintro ⟨_, encoded, rfl, _⟩
      exact absurd rfl uncoded

theorem read_value_plain (attr : String) (value : List Char) (uncoded : value.head? ≠ some ':') :
    readValue attr value = .ok (.ofText attr (String.ofList (Text.trimStartChars value))) := by
  unfold readValue
  split
  · exact absurd rfl uncoded
  · rfl

theorem read_value_coded (attr : String) (encoded : List Char) :
    readValue attr (':' :: encoded) =
      match Base64.decodeText (String.ofList encoded) with
      | .error cause => .error (.badValue cause)
      | .ok octets => .ok (.ofValue attr octets) := by
  rw [readValue, Attribute.ofBase64]
  cases Base64.decodeText (String.ofList encoded) <;> rfl

inductive Means (inEntry : Bool) (line : List Char) : Except Fault Item → Prop where
  | wrong {fault : Fault} (wrong : Wrong (inEntry = true) line fault) : Means inEntry line (.error fault)
  | name {name : String} (names : Names line name) : Means inEntry line (.ok (.name name))
  | value {attr : Attribute} (inside : inEntry = true) (gives : Gives line attr) :
      Means inEntry line (.ok (.value attr))

theorem name_means (inEntry : Bool) (line : List Char) (attr : String) (value : List Char)
    (said : Says line attr value) (word : isNameWord attr = true) :
    Means inEntry line ((readName value).map .name) := by
  rcases coded_or_plain value with ⟨encoded, rfl⟩ | uncoded
  · cases read : readName (':' :: encoded) with
    | ok name => exact .name (.coded said word ((read_name_coded_iff encoded name).mp read))
    | error fault =>
        obtain ⟨rfl, _, same, none⟩ := (read_name_error_iff _ fault).mp read
        cases same
        exact .wrong (.badName said word none)
  · rw [read_name_plain value uncoded]
    exact .name (.plain said word uncoded)

theorem value_means (line : List Char) (attr : String) (value : List Char) (said : Says line attr value)
    (filled : attr ≠ "") (other : isNameWord attr = false) :
    Means true line ((readValue attr value).map .value) := by
  rcases coded_or_plain value with ⟨encoded, rfl⟩ | uncoded
  · rw [read_value_coded]
    cases decoded : Base64.decodeText (String.ofList encoded) with
    | ok octets => exact .value rfl (.coded said filled other decoded)
    | error cause => exact .wrong (.badValue said filled other rfl decoded)
  · rw [read_value_plain attr value uncoded]
    exact .value rfl (.plain said filled other uncoded)

theorem read_line_means (inEntry : Bool) (line : List Char) : Means inEntry line (readLine inEntry line) := by
  rcases said_unless_missing line with absent | ⟨attr, value, said⟩
  · rw [read_line_missing inEntry line absent]
    exact .wrong (.missingColon absent)
  · rw [read_line_said inEntry line attr value said]
    by_cases empty : attr = ""
    · subst empty
      exact .wrong (.emptyAttribute said)
    · rw [if_neg empty]
      cases word : isNameWord attr with
      | true => exact name_means inEntry line attr value said word
      | false =>
          cases inEntry with
          | true => exact value_means line attr value said empty word
          | false => exact .wrong (.strayAttribute said empty word (by simp))

theorem read_line_name_iff (inEntry : Bool) (line : List Char) (name : String) :
    readLine inEntry line = .ok (.name name) ↔ Names line name := by
  constructor
  · intro read
    have outcome := read_line_means inEntry line
    rw [read] at outcome
    cases outcome with
    | name names => exact names
  · intro names
    cases names with
    | plain said word uncoded =>
        rw [read_line_said inEntry line _ _ said, if_neg (name_word_filled _ word), if_pos word,
          read_name_plain _ uncoded]
        rfl
    | coded said word codes =>
        rw [read_line_said inEntry line _ _ said, if_neg (name_word_filled _ word), if_pos word,
          (read_name_coded_iff _ name).mpr codes]
        rfl

theorem read_line_value_iff (inEntry : Bool) (line : List Char) (attr : Attribute) :
    readLine inEntry line = .ok (.value attr) ↔ inEntry = true ∧ Gives line attr := by
  constructor
  · intro read
    have outcome := read_line_means inEntry line
    rw [read] at outcome
    cases outcome with
    | value inside gives => exact ⟨inside, gives⟩
  · rintro ⟨inside, gives⟩
    cases gives with
    | plain said filled other uncoded =>
        rw [read_line_said inEntry line _ _ said, if_neg filled, if_neg (Bool.eq_false_iff.mp other),
          if_pos inside, read_value_plain _ _ uncoded]
        rfl
    | coded said filled other decoded =>
        rw [read_line_said inEntry line _ _ said, if_neg filled, if_neg (Bool.eq_false_iff.mp other),
          if_pos inside, read_value_coded, decoded]
        rfl

theorem read_line_error_iff (inEntry : Bool) (line : List Char) (fault : Fault) :
    readLine inEntry line = .error fault ↔ Wrong (inEntry = true) line fault := by
  constructor
  · intro read
    have outcome := read_line_means inEntry line
    rw [read] at outcome
    cases outcome with
    | wrong wrong => exact wrong
  · intro wrong
    cases wrong with
    | missingColon absent => exact read_line_missing inEntry line absent
    | emptyAttribute said => rw [read_line_said inEntry line _ _ said, if_pos rfl]
    | badName said word uncoded =>
        rw [read_line_said inEntry line _ _ said, if_neg (name_word_filled _ word), if_pos word,
          (read_name_error_iff _ _).mpr ⟨rfl, _, rfl, uncoded⟩]
        rfl
    | strayAttribute said filled other unopened =>
        rw [read_line_said inEntry line _ _ said, if_neg filled, if_neg (Bool.eq_false_iff.mp other),
          if_neg unopened]
    | badValue said filled other inside undecoded =>
        rw [read_line_said inEntry line _ _ said, if_neg filled, if_neg (Bool.eq_false_iff.mp other),
          if_pos inside, read_value_coded, undecoded]
        rfl

theorem opens_of_names (line : List Char) (name : String) (names : Names line name) : Opens line := by
  cases names with
  | plain said word => exact ⟨_, _, said, word⟩
  | coded said word => exact ⟨_, _, said, word⟩

theorem closed_of_gives (line : List Char) (attr : Attribute) (gives : Gives line attr) : ¬ Opens line := by
  have closed : ∀ word value, Says line word value → isNameWord word = false → ¬ Opens line := by
    rintro word value said other ⟨again, rest, later, named⟩
    rw [(said_same line word again value rest said later).1, named] at other
    cases other
  cases gives with
  | plain said _ other => exact closed _ _ said other
  | coded said _ other => exact closed _ _ said other

theorem opened_behind (front : List Logical) (number : Nat) (line : List Char) :
    Opened (front ++ [(number, line)]) ↔ Opened front ∨ Opens line := by
  simp [Opened, or_and_right, exists_or]

theorem wrong_same (opened : Prop) (line : List Char) (fault other : Fault) (wrong : Wrong opened line fault)
    (again : Wrong opened line other) : fault = other := by
  obtain ⟨inEntry, same⟩ : ∃ inEntry : Bool, (inEntry = true) = opened := by
    by_cases inside : opened
    · exact ⟨true, by simp [inside]⟩
    · exact ⟨false, by simp [inside]⟩
  subst same
  rw [← read_line_error_iff] at wrong again
  rw [wrong] at again
  exact Except.error.inj again

theorem sound_behind (front : List Logical) (number : Nat) (line : List Char) (sound : Sound front)
    (right : ∀ fault, ¬ Wrong (Opened front) line fault) : Sound (front ++ [(number, line)]) := by
  rintro shorter malformed ⟨bad, behind, split, wrong⟩
  rcases List.eq_nil_or_concat behind with rfl | ⟨more, last, rfl⟩
  · obtain ⟨rfl, same⟩ := List.append_inj' split rfl
    cases same
    exact right _ wrong
  · rw [List.concat_eq_append, ← List.cons_append, ← List.append_assoc] at split
    exact sound shorter malformed ⟨bad, more, (List.append_inj' split rfl).1, wrong⟩

theorem sound_not_longer (lines front sound : List Logical) (malformed : Malformed)
    (bad : BadLine lines front malformed) (free : Sound sound) (part : sound <+: lines) :
    sound.length ≤ front.length := by
  obtain ⟨line, behind, rfl, wrong⟩ := bad
  obtain ⟨back, split⟩ := part
  rcases List.append_eq_append_iff.mp split with ⟨more, rfl, _⟩ | ⟨more, whole, rest⟩
  · rw [List.length_append]
    exact Nat.le_add_right _ _
  · cases more with
    | nil => exact Nat.le_of_eq (by rw [whole, List.append_nil])
    | cons logical more =>
        obtain ⟨rfl, _⟩ := List.cons.inj rest
        exact absurd ⟨line, more, whole, wrong⟩ (free front malformed)

theorem first_bad_same (lines : List Logical) (malformed other : Malformed) (first : FirstBad lines malformed)
    (again : FirstBad lines other) : malformed = other := by
  obtain ⟨front, bad, sound⟩ := first
  obtain ⟨front', bad', sound'⟩ := again
  obtain ⟨line, behind, whole, wrong⟩ := id bad
  obtain ⟨line', behind', whole', wrong'⟩ := id bad'
  have level : front.length = front'.length :=
    Nat.le_antisymm (sound_not_longer lines front' front other bad' sound ⟨_, whole.symm⟩)
      (sound_not_longer lines front front' malformed bad sound' ⟨_, whole'.symm⟩)
  obtain ⟨rfl, rest⟩ := List.append_inj (whole.symm.trans whole') level
  obtain ⟨same, _⟩ := List.cons.inj rest
  obtain ⟨numbers, rfl⟩ := Prod.mk.inj same
  have faults := wrong_same _ _ _ _ wrong wrong'
  obtain ⟨number, fault⟩ := malformed
  rw [show number = other.line from numbers, show fault = other.fault from faults]

theorem read_records_bad (above lines : List Logical) (current : Option Record) (sound : Sound above)
    (started : current.isSome = true ↔ Opened above) :
    (∀ malformed, readRecords current lines = .error malformed → FirstBad (above ++ lines) malformed) ∧
      ∀ records, readRecords current lines = .ok records → Sound (above ++ lines) := by
  induction lines generalizing above current with
  | nil =>
      rw [List.append_nil, readRecords]
      exact ⟨fun _ refused => (by cases refused), fun _ _ => sound⟩
  | cons logical rest ih =>
      obtain ⟨number, line⟩ := logical
      have wrong_iff := read_line_error_iff current.isSome line
      rw [propext started] at wrong_iff
      rw [readRecords]
      cases read : readLine current.isSome line with
      | error fault =>
          refine ⟨fun malformed refused => ?_, fun _ done => (by cases done)⟩
          cases refused
          exact ⟨above, ⟨line, rest, rfl, (wrong_iff fault).mp read⟩, sound⟩
      | ok item =>
          have right : ∀ fault, ¬ Wrong (Opened above) line fault := fun fault wrong => by
            rw [(wrong_iff fault).mpr wrong] at read
            cases read
          have sound' := sound_behind above number line sound right
          rw [List.append_cons]
          cases item with
          | name name =>
              have opens := opens_of_names line name ((read_line_name_iff _ line name).mp read)
              have opened := (opened_behind above number line).mpr (.inr opens)
              obtain ⟨refused, done⟩ :=
                ih (above ++ [(number, line)]) (some ⟨number, ⟨name, []⟩⟩) sound' (iff_of_true rfl opened)
              refine ⟨fun malformed failed => refused malformed ((map_error_iff _ _ _).mp failed), ?_⟩
              intro records found
              obtain ⟨more, behind, _⟩ := (map_ok_iff _ _ _).mp found
              exact done more behind
          | value attr =>
              obtain ⟨inside, gives⟩ := (read_line_value_iff _ line attr).mp read
              refine ih (above ++ [(number, line)]) (current.map (·.push attr)) sound' ?_
              rw [Option.isSome_map, started, opened_behind]
              exact (or_iff_left (closed_of_gives line attr gives)).symm

theorem read_records_names (current : Option Record) (number : Nat) (line : List Char) (name : String)
    (rest : List Logical) (names : Names line name) :
    readRecords current ((number, line) :: rest) =
      (readRecords (some ⟨number, ⟨name, []⟩⟩) rest).map (current.toList ++ ·) := by
  rw [readRecords, (read_line_name_iff _ line name).mpr names]

theorem read_records_gives (current : Record) (number : Nat) (line : List Char) (attr : Attribute)
    (rest : List Logical) (gives : Gives line attr) :
    readRecords (some current) ((number, line) :: rest) = readRecords (some (current.push attr)) rest := by
  rw [readRecords, (read_line_value_iff (some current).isSome line attr).mpr ⟨rfl, gives⟩]
  rfl

theorem read_records_cases (current : Option Record) (number : Nat) (line : List Char)
    (rest : List Logical) (records : List Record)
    (read : readRecords current ((number, line) :: rest) = .ok records) :
    (∃ name, Names line name ∧ ∃ more, readRecords (some ⟨number, ⟨name, []⟩⟩) rest = .ok more ∧
        current.toList ++ more = records) ∨
      ∃ record attr, current = some record ∧ Gives line attr ∧
        readRecords (some (record.push attr)) rest = .ok records := by
  rw [readRecords] at read
  split at read
  · cases read
  · rename_i name named
    exact .inl ⟨name, (read_line_name_iff _ line name).mp named, (map_ok_iff _ _ _).mp read⟩
  · rename_i attr valued
    obtain ⟨inside, gives⟩ := (read_line_value_iff _ line attr).mp valued
    obtain ⟨record, rfl⟩ := Option.isSome_iff_exists.mp inside
    exact .inr ⟨record, attr, rfl, gives, read⟩

def Record.extend (record : Record) (attributes : List Attribute) : Record :=
  { record with entry := { record.entry with attributes := record.entry.attributes ++ attributes } }

theorem extend_push (record : Record) (attr : Attribute) (attributes : List Attribute) :
    (record.push attr).extend attributes = record.extend (attr :: attributes) := by
  simp [Record.extend, Record.push]

theorem extend_nothing (record : Record) : record.extend [] = record := by
  simp [Record.extend]

def Completes (current : Record) (lines : List Logical) (records : List Record) : Prop :=
  ∃ values rest attributes more, lines = values ++ rest ∧ Values values attributes ∧ Sections rest more ∧
    records = current.extend attributes :: more

theorem completes_nil_iff (current : Record) (records : List Record) :
    Completes current [] records ↔ records = [current] := by
  constructor
  · rintro ⟨values, rest, attributes, more, whole, gives, sections, rfl⟩
    obtain ⟨rfl, rfl⟩ := List.nil_eq_append_iff.mp whole
    cases gives
    cases sections
    rw [extend_nothing]
  · rintro rfl
    exact ⟨[], [], [], [], rfl, .nil, .nil, by rw [extend_nothing]⟩

theorem sections_cons_iff (number : Nat) (line : List Char) (rest : List Logical) (records : List Record)
    (behind : ∀ current more, readRecords (some current) rest = .ok more ↔ Completes current rest more) :
    readRecords none ((number, line) :: rest) = .ok records ↔ Sections ((number, line) :: rest) records := by
  constructor
  · intro read
    rcases read_records_cases none number line rest records read with
      ⟨name, names, more, found, rfl⟩ | ⟨record, _, absent, _⟩
    · obtain ⟨values, later, attributes, others, rfl, gives, sections, rfl⟩ := (behind _ _).mp found
      exact .cons names gives sections
    · cases absent
  · intro sections
    cases sections with
    | cons names gives sections =>
        rw [read_records_names none number line _ _ names,
          (behind _ _).mpr ⟨_, _, _, _, rfl, gives, sections, rfl⟩]
        rfl

theorem completes_cons_iff (current : Record) (number : Nat) (line : List Char) (rest : List Logical)
    (records : List Record)
    (behind : ∀ current more, readRecords (some current) rest = .ok more ↔ Completes current rest more) :
    readRecords (some current) ((number, line) :: rest) = .ok records ↔
      Completes current ((number, line) :: rest) records := by
  constructor
  · intro read
    rcases read_records_cases _ number line rest records read with
      ⟨name, names, more, found, rfl⟩ | ⟨record, attr, same, gives, found⟩
    · have sections := (sections_cons_iff number line rest more behind).mp
        (by rw [read_records_names none number line name rest names, found]; rfl)
      exact ⟨[], _, [], more, rfl, .nil, sections, by rw [extend_nothing]; rfl⟩
    · cases same
      obtain ⟨values, later, attributes, more, rfl, others, sections, rfl⟩ := (behind _ _).mp found
      exact ⟨(number, line) :: values, later, attr :: attributes, more, rfl, .cons gives others, sections,
        by rw [extend_push]⟩
  · rintro ⟨values, later, attributes, more, whole, gives, sections, rfl⟩
    cases gives with
    | nil =>
        rw [List.nil_append] at whole
        subst whole
        cases sections with
        | cons names gives sections =>
            rw [read_records_names (some current) number line _ _ names,
              (behind _ _).mpr ⟨_, _, _, _, rfl, gives, sections, rfl⟩, extend_nothing]
            rfl
    | cons gives others =>
        obtain ⟨same, rfl⟩ := List.cons.inj whole
        cases same
        rw [read_records_gives current number line _ _ gives, ← extend_push]
        exact (behind _ _).mpr ⟨_, _, _, _, rfl, others, sections, rfl⟩

theorem read_records_completes (lines : List Logical) (current : Record) (records : List Record) :
    readRecords (some current) lines = .ok records ↔ Completes current lines records := by
  induction lines generalizing current records with
  | nil =>
      rw [readRecords, Except.ok.injEq, completes_nil_iff]
      exact eq_comm
  | cons logical rest ih => exact completes_cons_iff current logical.1 logical.2 rest records ih

theorem read_records_sections (lines : List Logical) (records : List Record) :
    readRecords none lines = .ok records ↔ Sections lines records := by
  cases lines with
  | nil =>
      rw [readRecords, Except.ok.injEq]
      constructor
      · rintro rfl
        exact .nil
      · intro sections
        cases sections
        rfl
  | cons logical rest =>
      exact sections_cons_iff logical.1 logical.2 rest records (read_records_completes rest)

theorem check_names_error_iff (seen : List (List Char)) (records : List Record) (malformed : Malformed) :
    checkNames seen records = .error malformed ↔
      ∃ front record behind, records = front ++ record :: behind ∧ Fresh seen (front.map Record.entry) ∧
        record.entry.key ∈ front.map (·.entry.key) ++ seen ∧
        malformed = ⟨record.line, .duplicate record.entry.name⟩ := by
  induction records generalizing seen with
  | nil => simp [checkNames]
  | cons record rest ih =>
      rw [checkNames]
      by_cases found : Text.lowerChars record.entry.name.toList ∈ seen
      · rw [if_pos (List.contains_iff_mem.mpr found), Except.error.injEq]
        constructor
        · rintro rfl
          exact ⟨[], record, rest, rfl, fresh_nil seen, found, rfl⟩
        · rintro ⟨front, other, behind, split, fresh, _, rfl⟩
          cases front with
          | nil =>
              obtain ⟨rfl, _⟩ := List.cons.inj split
              rfl
          | cons first front =>
              obtain ⟨rfl, _⟩ := List.cons.inj split
              exact absurd found ((fresh_cons seen record.entry _).mp fresh).1
      · rw [if_neg (fun present => found (List.contains_iff_mem.mp present)), map_error_iff, ih]
        constructor
        · rintro ⟨front, other, behind, rfl, fresh, again, rfl⟩
          exact ⟨record :: front, other, behind, rfl, (fresh_cons _ _ _).mpr ⟨found, fresh⟩,
            List.perm_middle.mem_iff.mp again, rfl⟩
        · rintro ⟨front, other, behind, split, fresh, again, rfl⟩
          cases front with
          | nil =>
              obtain ⟨rfl, _⟩ := List.cons.inj split
              exact absurd again found
          | cons first front =>
              obtain ⟨rfl, rfl⟩ := List.cons.inj split
              exact ⟨front, other, behind, rfl, ((fresh_cons _ _ _).mp fresh).2,
                List.perm_middle.mem_iff.mpr again, rfl⟩

theorem fresh_among_none (records : List Record) :
    Fresh [] (records.map Record.entry) ↔ (records.map (·.entry.key)).Nodup := by
  have same : (records.map Record.entry).map Entry.key = records.map (·.entry.key) := List.map_map
  rw [← same]
  exact ⟨Fresh.distinct, fun distinct => ⟨distinct, fun _ _ => List.not_mem_nil⟩⟩

theorem check_names_first (records : List Record) (malformed : Malformed) :
    checkNames [] records = .error malformed ↔ FirstRepeat records malformed := by
  simp only [check_names_error_iff, FirstRepeat, fresh_among_none, List.append_nil]

theorem read_records_whole (lines : List Logical) :
    (∀ bad, readRecords none lines = .error bad → FirstBad lines bad) ∧
      ∀ records, readRecords none lines = .ok records →
        Sound lines ∧ ∀ others, Sections lines others ↔ others = records := by
  have started : (none : Option Record).isSome = true ↔ Opened [] := by simp [Opened]
  have bare : Sound [] := by
    rintro front malformed ⟨line, behind, split, _⟩
    simp at split
  obtain ⟨refused, done⟩ := read_records_bad [] lines none bare started
  refine ⟨refused, fun records read => ⟨done records read, fun others => ?_⟩⟩
  rw [← read_records_sections lines others, read, Except.ok.injEq]
  exact eq_comm

theorem first_fault_reported (text : String) :
    let lines := unfold text.toList
    (∀ malformed, parse text = .error malformed ↔
      FirstBad lines malformed ∨
        Sound lines ∧ ∃ records, Sections lines records ∧ FirstRepeat records malformed) ∧
    ∀ entries, parse text = .ok entries ↔
      Sound lines ∧ ∃ records, Sections lines records ∧ (records.map (·.entry.key)).Nodup ∧
        entries = records.map Record.entry := by
  intro lines
  have unfolded : unfold text.toList = lines := rfl
  obtain ⟨refused, accepted⟩ := read_records_whole lines
  rw [parse, parseBeside, unfolded]
  cases read : readRecords none lines with
  | error bad =>
      have first : FirstBad lines bad := refused bad read
      have unsound : ¬ Sound lines := fun sound => first.elim fun front worse => sound front bad worse.1
      refine ⟨fun malformed => ?_, fun entries => ?_⟩
      · rw [Except.error.injEq, or_iff_left fun both => unsound both.1]
        exact ⟨fun same => same ▸ first, fun other => first_bad_same lines bad malformed first other⟩
      · exact ⟨fun done => (by cases done), fun both => absurd both.1 unsound⟩
  | ok records =>
      obtain ⟨sound, only⟩ := accepted records read
      have regular : ∀ malformed, ¬ FirstBad lines malformed :=
        fun malformed first => first.elim fun front worse => sound front malformed worse.1
      simp only [only, exists_eq_left, sound, true_and, regular, false_or]
      refine ⟨fun malformed => check_names_first records malformed, fun entries => ?_⟩
      rw [check_names_iff, and_comm, ← fresh_among_none]
      exact and_congr_left fun same => by rw [same]

-- The name on the third line repeats the first one, but the fourth line is bad.
example : parse "dn: cn=a

dn: CN=A
cn a
" = .error ⟨4, .missingColon⟩ := rfl

example : parse "# c
dn: cn=a
cn: a
dn: CN=A
dn: cn=b
dn: cn=A
" = .error ⟨4, .duplicate "CN=A"⟩ := rfl

end DirectoryServer.Ldif
