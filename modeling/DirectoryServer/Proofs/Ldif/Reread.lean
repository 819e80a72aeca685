import DirectoryServer.Proofs.Ldif.RoundTrip

set_option autoImplicit false

namespace DirectoryServer

namespace Ldif

theorem cut_colon_split (line left right : List Char) (cut : cutColon line = some (left, right)) :
    line = left ++ ':' :: right ∧ ':' ∉ left := by
  induction line generalizing left with
  | nil => cases cut
  | cons c rest ih =>
      rw [cutColon] at cut
      by_cases colon : c = ':'
      · rw [if_pos colon] at cut
        cases cut
        exact ⟨by rw [colon]; rfl, List.not_mem_nil⟩
      · rw [if_neg colon] at cut
        obtain ⟨⟨before, after⟩, later, same⟩ := Option.map_eq_some_iff.mp cut
        cases same
        obtain ⟨whole, none_before⟩ := ih before later
        exact ⟨by rw [whole, List.cons_append],
          List.not_mem_cons_of_ne_of_not_mem (Ne.symm colon) none_before⟩

theorem read_line_cases (inEntry : Bool) (line : List Char) (item : Item)
    (read : readLine inEntry line = .ok item) :
    ∃ left right, cutColon line = some (left, right) ∧
      String.ofList (Text.trimChars left) ≠ "" ∧
      ((∃ name, readName right = .ok name ∧ item = .name name) ∨
        (isNameWord (String.ofList (Text.trimChars left)) = false ∧ inEntry = true ∧
          ∃ attr, readValue (String.ofList (Text.trimChars left)) right = .ok attr ∧
            item = .value attr)) := by
  rw [readLine] at read
  cases cut : cutColon line with
  | none =>
      rw [cut] at read
      cases read
  | some parts =>
      obtain ⟨left, right⟩ := parts
      rw [cut] at read
      dsimp only at read
      refine ⟨left, right, rfl, ?_⟩
      by_cases empty : String.ofList (Text.trimChars left) = ""
      · rw [if_pos (String.isEmpty_iff.mpr empty)] at read
        cases read
      · rw [if_neg (fun none => empty (String.isEmpty_iff.mp none))] at read
        refine ⟨empty, ?_⟩
        cases word : isNameWord (String.ofList (Text.trimChars left)) with
        | true =>
            rw [word, if_pos rfl] at read
            obtain ⟨name, found, same⟩ := (map_ok_iff _ _ _).mp read
            exact .inl ⟨name, found, same.symm⟩
        | false =>
            rw [word, if_neg (by simp)] at read
            cases inEntry with
            | false => cases read
            | true =>
                rw [if_pos rfl] at read
                obtain ⟨attr, found, same⟩ := (map_ok_iff _ _ _).mp read
                exact .inr ⟨rfl, rfl, attr, found, same.symm⟩

theorem of_base64_cases (name text : String) (attr : Attribute)
    (read : Attribute.ofBase64 name text = .ok attr) : ∃ value, attr = .ofValue name value := by
  obtain ⟨value, _, same⟩ := (map_ok_iff _ _ _).mp read
  exact ⟨value, same.symm⟩

theorem read_name_lined (right : List Char) (name : String) (one_line : '\n' ∉ right)
    (read : readName right = .ok name) : NameLined name := by
  unfold readName at read
  split at read
  · split at read
    · cases read
    · rename_i attr coded
      obtain ⟨value, rfl⟩ := of_base64_cases _ _ attr coded
      split at read
      · rename_i text found
        cases read
        exact .inr ((Attribute.text_of_value_iff _ _ _).mp found).2
      · cases read
  · cases read
    rw [NameLined, String.toList_ofList]
    exact .inl ⟨fun feed => one_line ((Text.trim_part right).subset feed), Text.trim_trim right⟩

theorem read_value_cases (name : String) (right : List Char) (attr : Attribute)
    (read : readValue name right = .ok attr) : ∃ value, attr = .ofValue name value := by
  unfold readValue at read
  split at read
  · split at read
    · cases read
    · rename_i value coded
      cases read
      exact of_base64_cases _ _ _ coded
  · cases read
    exact ⟨_, rfl⟩

def Item.Lined : Item → Prop
  | .name word => NameLined word
  | .value attr => attr.Lined

theorem read_line_lined (inEntry : Bool) (line : List Char) (item : Item) (one_line : '\n' ∉ line)
    (read : readLine inEntry line = .ok item) : item.Lined := by
  obtain ⟨left, right, cut, filled, said⟩ := read_line_cases inEntry line item read
  obtain ⟨rfl, no_colon⟩ := cut_colon_split line left right cut
  have left_line : '\n' ∉ left := fun feed => one_line (List.mem_append_left _ feed)
  have right_line : '\n' ∉ right := fun feed =>
    one_line (List.mem_append_right _ (List.mem_cons_of_mem _ feed))
  rcases said with ⟨name, name_read, rfl⟩ | ⟨no_name_word, _, attr, value_read, rfl⟩
  · exact read_name_lined right name right_line name_read
  · obtain ⟨value, rfl⟩ := read_value_cases _ _ _ value_read
    have part := (Text.trim_part left).subset
    refine ⟨rfl, filled, Text.trim_trim left, ?_, ?_, no_name_word⟩
    · rw [Attribute.ofValue, String.toList_ofList]
      exact fun colon => no_colon (part colon)
    · rw [Attribute.ofValue, String.toList_ofList]
      exact fun feed => left_line (part feed)

theorem read_entries_lined (current : Option Entry) (lines : List (List Char)) (entries : List Entry)
    (started : ∀ entry ∈ current, entry.Lined) (one_line : ∀ line ∈ lines, '\n' ∉ line)
    (read : readEntries current lines = some entries) : ∀ entry ∈ entries, entry.Lined := by
  induction lines generalizing current entries with
  | nil =>
      cases read
      simpa using started
  | cons line rest ih =>
      obtain ⟨first, later⟩ := List.forall_mem_cons.mp one_line
      rw [readEntries] at read
      split at read
      · cases read
      · rename_i name found
        obtain ⟨more, behind, rfl⟩ := Option.map_eq_some_iff.mp read
        have named : NameLined name := read_line_lined _ _ _ first found
        have others := ih (some ⟨name, []⟩) more
          (by rintro _ ⟨⟩; exact ⟨named, List.forall_mem_nil _⟩) later behind
        intro entry member
        rcases List.mem_append.mp member with member | member
        · exact started entry (by simpa using member)
        · exact others entry member
      · rename_i attr found
        have lined : attr.Lined := read_line_lined _ _ _ first found
        refine ih (current.map (·.push attr)) entries ?_ later read
        intro entry pushed
        obtain ⟨before, present, rfl⟩ := Option.map_eq_some_iff.mp pushed
        obtain ⟨name, attributes⟩ := started before present
        refine ⟨name, fun other member => ?_⟩
        rcases List.mem_append.mp member with member | member
        · exact attributes other member
        · rw [List.mem_singleton.mp member]
          exact lined

theorem contents_lined (text : String) (entries : List Entry) (read : contents text = some entries) :
    ∀ entry ∈ entries, entry.Lined :=
  read_entries_lined none _ entries (fun _ none => by cases none)
    (logical_line_no_feed text.toList) read

end Ldif

namespace Attribute

theorem storable_value (attr : Attribute) (lined : attr.Lined) (shown : attr.isComment = false)
    (value : Bytes)
    (visible : ∀ text, (ofValue attr.name value).text? = some text → isSafeText text = true →
      ∀ c, text.toList.head? = some c → Text.isBlank c = false) :
    (ofValue attr.name value).Storable :=
  ⟨⟨rfl, lined.filled, lined.trimmed, lined.no_colon, lined.one_line, lined.no_name_word⟩,
    of_decide_eq_false shown, visible⟩

theorem storable_reread (attr : Attribute) (lined : attr.Lined) (shown : attr.isComment = false) :
    attr.reread.Storable := by
  rw [reread]
  cases plain : attr.plain? with
  | none =>
      refine storable_value attr lined shown _ fun text found safe => ?_
      rw [of_value_classified attr lined.classified] at found
      rw [(plain_some_iff attr text).mpr ⟨found, safe⟩] at plain
      cases plain
  | some text =>
      refine storable_value attr lined shown _ fun other found _ => ?_
      have octets := ((text_of_value_iff _ _ other).mp found).1
      have same : other.toList = (Text.trimStart text).toList := Text.encode_chars_inj _ _ octets
      rw [same, Text.trimStart, String.toList_ofList]
      exact Text.head_drop_blank text.toList

end Attribute

theorem trim_subset (name : String) : (Text.trim name).toList ⊆ name.toList := by
  rw [Text.trim, String.toList_ofList]
  exact (Text.trim_part name.toList).subset

namespace Entry

theorem reread_name_cases (name again : String) (lined : NameLined name)
    (read : rereadName name = some again) :
    (isSafeText again = true → '\n' ∉ again.toList ∧ Text.trim again = again) ∧
      (isSafeText again = false → ∀ c ∈ again.toList, Text.isControl c = false) := by
  rw [rereadName] at read
  by_cases safe : isSafeText name = true
  · rw [if_pos safe] at read
    cases read
    constructor
    · exact fun _ => ⟨fun feed => (name_whole name lined).one_line (trim_subset name feed),
        Text.trim_trim name.toList⟩
    · intro coded
      rcases lined with ⟨_, trimmed⟩ | visible
      · rw [trimmed, safe] at coded
        cases coded
      · exact fun c member => visible c (trim_subset name member)
  · rw [if_neg safe] at read
    split at read
    · cases read
    · rename_i visible
      cases read
      exact ⟨fun plain => absurd plain safe, fun _ => by simpa using visible⟩

theorem storable_reread (entry again : Entry) (lined : entry.Lined)
    (read : entry.reread? = some again) : again.Storable := by
  obtain ⟨name, found, rfl⟩ := Option.map_eq_some_iff.mp read
  obtain ⟨plain, coded⟩ := reread_name_cases entry.name name lined.name found
  refine ⟨plain, coded, fun attr member => ?_⟩
  obtain ⟨source, present, rfl⟩ := List.mem_map.mp member
  obtain ⟨inside, shown⟩ := List.mem_filter.mp present
  exact source.storable_reread (lined.attributes source inside) (by simpa using shown)

end Entry

end DirectoryServer
