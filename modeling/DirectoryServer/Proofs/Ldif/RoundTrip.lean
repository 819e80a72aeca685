import DirectoryServer.Proofs.Ldif.Fields

set_option autoImplicit false

namespace DirectoryServer

namespace Ldif

theorem whole_of_visible (text : List Char) (visible : ∀ c ∈ text, Text.isControl c = false) :
    Whole text := by
  constructor
  · intro feed
    exact absurd (visible _ feed) (by decide)
  · intro last
    exact absurd (visible _ (List.mem_of_getLast? last)) (by decide)

theorem whole_behind (word text : List Char) (one_line : '\n' ∉ word) (whole : Whole text) :
    Whole (word ++ ':' :: ' ' :: text) := by
  constructor
  · intro feed
    rcases List.mem_append.mp feed with feed | feed
    · exact one_line feed
    · exact whole.one_line (by simpa using feed)
  · intro last
    rw [List.getLast?_append] at last
    cases text with
    | nil => simp at last
    | cons c rest =>
        have filled := List.getLast?_eq_some_getLast (List.cons_ne_nil c rest)
        rw [List.getLast?_cons_cons, List.getLast?_cons_cons, filled, Option.some_or, ← filled] at last
        exact whole.no_return last

theorem coded_visible (octets : Bytes) :
    ∀ c ∈ (Base64.encodeText octets).toList, Text.isControl c = false := by
  intro c member
  have range := Base64.encode_text_range octets c member
  simp only [Text.isControl, Bool.or_eq_false_iff, Bool.and_eq_false_iff, decide_eq_false_iff_not]
  omega

theorem skipped_iff_comment (c : Char) (rest : List Char) (visible : Text.isBlank c = false) :
    isSkipped (c :: rest) = decide (c = '#') := by
  rw [isSkipped, List.all_cons, visible]
  simp

end Ldif

namespace Attribute

theorem display_whole (attr : Attribute) (lined : attr.Lined) : Ldif.Whole attr.display.toList := by
  cases plain : attr.plain? with
  | some text =>
      rw [display_plain attr text plain]
      exact Ldif.whole_behind _ _ lined.one_line
        (Ldif.whole_of_visible _ (plain_visible attr lined text plain))
  | none =>
      rw [display_coded attr plain]
      have word : '\n' ∉ attr.name.toList ++ [':'] := by simp [lined.one_line]
      have whole := Ldif.whole_behind _ _ word (Ldif.whole_of_visible _ (Ldif.coded_visible attr.value))
      rwa [List.append_assoc, List.singleton_append] at whole

theorem display_opens (attr : Attribute) :
    ∃ rest, attr.display.toList = attr.name.toList ++ ':' :: rest := by
  cases plain : attr.plain? with
  | some text => exact ⟨_, display_plain attr text plain⟩
  | none => exact ⟨_, display_coded attr plain⟩

theorem display_fresh (attr : Attribute) (lined : attr.Lined) :
    attr.display.toList.head? ≠ some ' ' := by
  obtain ⟨c, more, chars, visible⟩ := lined_head attr lined
  obtain ⟨rest, line⟩ := display_opens attr
  rw [line, chars]
  rintro ⟨⟩
  exact absurd visible (by decide)

theorem display_skipped (attr : Attribute) (lined : attr.Lined) :
    Ldif.isSkipped attr.display.toList = attr.isComment := by
  obtain ⟨c, more, chars, visible⟩ := lined_head attr lined
  obtain ⟨rest, line⟩ := display_opens attr
  rw [line, isComment, chars, List.cons_append, Ldif.skipped_iff_comment _ _ visible]
  simp

end Attribute

def NameLined (name : String) : Prop :=
  ('\n' ∉ name.toList ∧ Text.trim name = name) ∨ ∀ c ∈ name.toList, Text.isControl c = false

theorem name_whole (name : String) (lined : NameLined name) : Ldif.Whole name.toList := by
  rcases lined with ⟨one_line, trimmed⟩ | visible
  · refine ⟨one_line, fun last => ?_⟩
    exact absurd (((Text.trim_text_iff name).mp trimmed).2 _ last) (by decide)
  · exact Ldif.whole_of_visible _ visible

namespace Entry

structure Lined (entry : Entry) : Prop where
  name : NameLined entry.name
  attributes : ∀ attr ∈ entry.attributes, attr.Lined

def lines (entry : Entry) : List (List Char) :=
  entry.nameLine.toList :: entry.attributes.map (·.display.toList)

def shownLines (entry : Entry) : List (List Char) :=
  entry.nameLine.toList :: (entry.attributes.filter (!·.isComment)).map (·.display.toList)

theorem name_line_opens (entry : Entry) : ∃ rest, entry.nameLine.toList = 'd' :: rest := by
  by_cases safe : isSafeText entry.name = true
  · exact ⟨_, name_line_plain entry safe⟩
  · exact ⟨_, name_line_coded entry safe⟩

theorem name_line_whole (entry : Entry) (lined : NameLined entry.name) :
    Ldif.Whole entry.nameLine.toList := by
  by_cases safe : isSafeText entry.name = true
  · rw [name_line_plain entry safe]
    exact Ldif.whole_behind ['d', 'n'] _ (by decide) (name_whole _ lined)
  · rw [name_line_coded entry safe]
    exact Ldif.whole_behind ['d', 'n', ':'] _ (by decide)
      (Ldif.whole_of_visible _ (Ldif.coded_visible _))

theorem lines_whole (entry : Entry) (lined : entry.Lined) :
    ∀ line ∈ entry.lines, Ldif.Whole line ∧ line.head? ≠ some ' ' := by
  refine List.forall_mem_cons.mpr ⟨⟨name_line_whole entry lined.name, ?_⟩, ?_⟩
  · obtain ⟨rest, line⟩ := name_line_opens entry
    rw [line]
    simp
  · intro line member
    obtain ⟨attr, found, rfl⟩ := List.mem_map.mp member
    have inside := lined.attributes attr found
    exact ⟨attr.display_whole inside, attr.display_fresh inside⟩

theorem shown_lines (entry : Entry) (lined : entry.Lined) :
    entry.lines.filter (!Ldif.isSkipped ·) = entry.shownLines := by
  obtain ⟨rest, line⟩ := name_line_opens entry
  rw [lines, shownLines, List.filter_cons_of_pos, List.filter_map]
  · congr 2
    apply List.filter_congr
    intro attr member
    exact congrArg (! ·) (attr.display_skipped (lined.attributes attr member))
  · rw [line, Ldif.skipped_iff_comment _ _ (by decide)]
    decide

theorem display_lines (entry : Entry) : entry.display.toList = Ldif.writeLines entry.lines := by
  rw [display, lines, Ldif.writeLines, String.toList_append, String.toList_append, String.toList_join,
    List.flatMap_cons, List.flatMap_map, List.flatMap_map]
  simp

theorem displays_lines (entries : List Entry) :
    (String.join (entries.map display)).toList = Ldif.writeLines (entries.flatMap lines) := by
  rw [String.toList_join, Ldif.writeLines, List.flatMap_assoc, List.flatMap_map]
  exact congrArg (List.flatMap · entries) (funext display_lines)

def reread? (entry : Entry) : Option Entry :=
  (rereadName entry.name).map fun name =>
    ⟨name, (entry.attributes.filter (!·.isComment)).map (·.reread)⟩

end Entry

namespace Ldif

theorem read_values (entry : Entry) (attributes : List Attribute) (rest : List (List Char))
    (lined : ∀ attr ∈ attributes, attr.Lined) :
    readEntries (some entry) (attributes.map (·.display.toList) ++ rest) =
      readEntries (some ⟨entry.name, entry.attributes ++ attributes.map (·.reread)⟩) rest := by
  induction attributes generalizing entry with
  | nil => rw [List.map_nil, List.map_nil, List.append_nil, List.nil_append]
  | cons attr attributes ih =>
      obtain ⟨first, later⟩ := List.forall_mem_cons.mp lined
      rw [List.map_cons, List.cons_append, readEntries, Option.isSome_some, read_value_line attr first]
      dsimp only [Option.map_some]
      rw [ih _ later, Entry.push, List.map_cons, List.append_assoc, List.singleton_append]

theorem read_shown (current : Option Entry) (entry : Entry) (rest : List (List Char))
    (lined : entry.Lined) :
    readEntries current (entry.shownLines ++ rest) =
      entry.reread?.bind fun again =>
        (readEntries (some again) rest).map (current.toList ++ ·) := by
  have shown : ∀ attr ∈ entry.attributes.filter (!·.isComment), attr.Lined :=
    fun attr member => lined.attributes attr (List.mem_filter.mp member).1
  rw [Entry.shownLines, List.cons_append, readEntries, read_name_line, Entry.reread?]
  cases rereadName entry.name with
  | none => rfl
  | some name =>
      dsimp only [Option.map_some, Option.bind_some]
      rw [read_values _ _ _ shown, List.nil_append]

theorem logical_lines_displays (entries : List Entry) (lined : ∀ entry ∈ entries, entry.Lined) :
    logicalLines (String.join (entries.map Entry.display)).toList = entries.flatMap Entry.shownLines := by
  have each : ∀ line ∈ entries.flatMap Entry.lines, Whole line ∧ line.head? ≠ some ' ' := by
    intro line member
    obtain ⟨entry, found, inside⟩ := List.mem_flatMap.mp member
    exact entry.lines_whole (lined entry found) line inside
  rw [Entry.displays_lines, logical_lines_write _ (fun line member => (each line member).1)
    (fun line member => (each line member).2), List.filter_flatMap]
  rw [List.flatMap_def, List.flatMap_def]
  exact congrArg List.flatten
    (List.map_congr_left fun entry member => entry.shown_lines (lined entry member))

theorem contents_display (entry : Entry) (lined : entry.Lined) :
    contents entry.display = entry.reread?.map ([·]) := by
  have lines := logical_lines_displays [entry] (List.forall_mem_singleton.mpr lined)
  have whole : String.join ([entry].map Entry.display) = entry.display := by simp
  rw [whole, List.flatMap_singleton] at lines
  rw [contents, lines, ← List.append_nil entry.shownLines, read_shown none entry [] lined]
  cases entry.reread? <;> rfl

theorem contents_displays (entries : List Entry) (lined : ∀ entry ∈ entries, entry.Lined)
    (kept : ∀ entry ∈ entries, entry.reread? = some entry) :
    contents (String.join (entries.map Entry.display)) = some entries := by
  have read : ∀ current : Option Entry,
      readEntries current (entries.flatMap Entry.shownLines) = some (current.toList ++ entries) := by
    induction entries with
    | nil =>
        intro current
        rw [List.flatMap_nil, readEntries, List.append_nil]
    | cons entry entries ih =>
        intro current
        obtain ⟨first, later⟩ := List.forall_mem_cons.mp lined
        obtain ⟨same, others⟩ := List.forall_mem_cons.mp kept
        rw [List.flatMap_cons, read_shown _ _ _ first, same, Option.bind_some, ih later others,
          Option.map_some]
        rfl
  rw [contents, logical_lines_displays entries lined, read none]
  rfl

end Ldif

structure Attribute.Storable (attr : Attribute) : Prop extends attr.Lined where
  no_comment : attr.name.toList.head? ≠ some '#'
  visible : ∀ text, attr.text? = some text → isSafeText text = true →
    ∀ c, text.toList.head? = some c → Text.isBlank c = false

structure Entry.Storable (entry : Entry) : Prop where
  plain_name : isSafeText entry.name = true →
    '\n' ∉ entry.name.toList ∧ Text.trim entry.name = entry.name
  coded_name : isSafeText entry.name = false → ∀ c ∈ entry.name.toList, Text.isControl c = false
  attributes : ∀ attr ∈ entry.attributes, attr.Storable

namespace Attribute

theorem of_value_classified (attr : Attribute) (classified : attr.kind = .classify attr.value) :
    ofValue attr.name attr.value = attr := by
  rw [ofValue, ← classified]

theorem reread_storable (attr : Attribute) (storable : attr.Storable) : attr.reread = attr := by
  rw [reread]
  cases plain : attr.plain? with
  | none => exact of_value_classified attr storable.classified
  | some text =>
      obtain ⟨found, safe⟩ := (plain_some_iff attr text).mp plain
      have same : Text.trimStart text = text := by
        rw [Text.trimStart, Text.trimStartChars,
          Text.drop_blank_of_head _ (storable.visible text found safe), String.ofList_toList]
      dsimp only
      rw [same, ofText, ((text_some_iff attr text).mp found).2,
        of_value_classified attr storable.classified]

end Attribute

namespace Entry

theorem lined_of_storable (entry : Entry) (storable : entry.Storable) : entry.Lined := by
  refine ⟨?_, fun attr member => (storable.attributes attr member).toLined⟩
  cases safe : isSafeText entry.name with
  | true => exact .inl (storable.plain_name safe)
  | false => exact .inr (storable.coded_name safe)

theorem reread_storable (entry : Entry) (storable : entry.Storable) : entry.reread? = some entry := by
  have name : rereadName entry.name = some entry.name := by
    rw [rereadName]
    cases safe : isSafeText entry.name with
    | true => rw [if_pos rfl, (storable.plain_name safe).2]
    | false =>
        rw [if_neg (by simp), if_neg]
        simpa using storable.coded_name safe
  have shown : entry.attributes.filter (!·.isComment) = entry.attributes := by
    rw [List.filter_eq_self]
    intro attr member
    simpa [Attribute.isComment] using (storable.attributes attr member).no_comment
  have kept : entry.attributes.map (·.reread) = entry.attributes.map id :=
    List.map_congr_left fun attr member => attr.reread_storable (storable.attributes attr member)
  rw [reread?, name, shown, kept, List.map_id]
  rfl

end Entry

namespace Ldif

theorem parse_display (entries : List Entry) (distinct : (entries.map Entry.key).Nodup)
    (storable : ∀ entry ∈ entries, entry.Storable) :
    parse (String.join (entries.map Entry.display)) = .ok entries := by
  rw [parse, parse_beside_iff]
  refine ⟨?_, distinct, fun entry _ => List.not_mem_nil⟩
  exact contents_displays entries (fun entry member => entry.lined_of_storable (storable entry member))
    fun entry member => entry.reread_storable (storable entry member)

def codedEntries : List Entry :=
  [⟨" cn=a", [.ofText "cn" "x\u00a0", .ofValue "photo" [0xff, 0]]⟩, ⟨"cn=é", []⟩]

theorem coded_entries_storable : ∀ entry ∈ codedEntries, entry.Storable := by
  have plain : (Attribute.ofText "cn" "x\u00a0").Storable := by
    refine ⟨⟨rfl, ?_, rfl, ?_, ?_, rfl⟩, ?_, fun text found _ => ?_⟩
    iterate 4 simp [Attribute.ofText, Attribute.ofValue]
    have read : (Attribute.ofText "cn" "x\u00a0").text? = some "x\u00a0" := rfl
    rw [read] at found
    cases found
    rintro c ⟨⟩
    rfl
  have coded : (Attribute.ofValue "photo" [0xff, 0]).Storable := by
    refine ⟨⟨rfl, ?_, rfl, ?_, ?_, rfl⟩, ?_, fun text found _ => ?_⟩
    iterate 4 simp [Attribute.ofValue]
    have read : (Attribute.ofValue "photo" [0xff, 0]).text? = none := rfl
    rw [read] at found
    cases found
  have first : Entry.Storable ⟨" cn=a", [.ofText "cn" "x\u00a0", .ofValue "photo" [0xff, 0]]⟩ :=
    ⟨by simp [isSafeText], by simp [Text.isControl], by
      rw [List.forall_mem_cons, List.forall_mem_singleton]
      exact ⟨plain, coded⟩⟩
  have second : Entry.Storable ⟨"cn=é", []⟩ :=
    ⟨fun _ => ⟨by simp, rfl⟩, by simp [isSafeText], List.forall_mem_nil _⟩
  rw [codedEntries, List.forall_mem_cons, List.forall_mem_singleton]
  exact ⟨first, second⟩

theorem coded_entries_parse_display :
    (codedEntries.map Entry.key).Nodup ∧ (∀ entry ∈ codedEntries, entry.Storable) ∧
      parse (String.join (codedEntries.map Entry.display)) = .ok codedEntries := by
  have distinct : (codedEntries.map Entry.key).Nodup := by decide
  exact ⟨distinct, coded_entries_storable, parse_display codedEntries distinct coded_entries_storable⟩

end Ldif

end DirectoryServer
