import DirectoryServer.Proofs.Entry.Coded
import DirectoryServer.Proofs.Ldif.Records

set_option autoImplicit false

namespace DirectoryServer

theorem classify_encode (text : String) :
    ValueKind.classify (Text.encode text) =
      if text.toList.any Text.isControl then .binary else .text := by
  rw [ValueKind.classify, Text.encode, Text.decode_chars_encode]

namespace Attribute

theorem text_some_iff (attr : Attribute) (text : String) :
    attr.text? = some text ↔ attr.kind = .text ∧ Text.encode text = attr.value := by
  rw [text?]
  cases attr.kind with
  | text => simp [Text.decode_some_iff]
  | binary => simp

theorem text_of_value_iff (name : String) (value : Bytes) (text : String) :
    (ofValue name value).text? = some text ↔
      Text.encode text = value ∧ ∀ c ∈ text.toList, Text.isControl c = false := by
  rw [text_some_iff, ofValue, and_comm]
  refine and_congr_right ?_
  rintro rfl
  rw [classify_encode]
  simp

theorem text_of_encode (name text : String) :
    (ofValue name (Text.encode text)).text? =
      if text.toList.any Text.isControl then none else some text := by
  rw [text?, ofValue, classify_encode]
  cases text.toList.any Text.isControl with
  | true => rfl
  | false => exact (Text.decode_some_iff _ text).mpr rfl

def plain? (attr : Attribute) : Option String :=
  attr.text?.filter isSafeText

theorem plain_some_iff (attr : Attribute) (text : String) :
    attr.plain? = some text ↔ attr.text? = some text ∧ isSafeText text = true :=
  Option.filter_eq_some_iff

theorem display_plain (attr : Attribute) (text : String) (plain : attr.plain? = some text) :
    attr.display.toList = attr.name.toList ++ ':' :: ' ' :: text.toList := by
  obtain ⟨found, safe⟩ := (plain_some_iff attr text).mp plain
  rw [display, found]
  dsimp only
  rw [if_pos safe]
  simp

theorem display_coded (attr : Attribute) (coded : attr.plain? = none) :
    attr.display.toList = attr.name.toList ++ ':' :: ':' :: ' ' :: attr.base64.toList := by
  rw [plain?] at coded
  cases found : attr.text? with
  | none =>
      rw [display, found]
      simp
  | some text =>
      rw [found] at coded
      rw [display, found]
      dsimp only
      rw [if_neg (by simpa using coded)]
      simp

def reread (attr : Attribute) : Attribute :=
  match attr.plain? with
  | some text => .ofText attr.name (Text.trimStart text)
  | none => .ofValue attr.name attr.value

structure Lined (attr : Attribute) : Prop where
  classified : attr.kind = .classify attr.value
  filled : attr.name ≠ ""
  trimmed : Text.trim attr.name = attr.name
  no_colon : ':' ∉ attr.name.toList
  one_line : '\n' ∉ attr.name.toList
  no_name_word : Ldif.isNameWord attr.name = false

def isComment (attr : Attribute) : Bool :=
  attr.name.toList.head? = some '#'

theorem plain_visible (attr : Attribute) (lined : attr.Lined) (text : String)
    (plain : attr.plain? = some text) : ∀ c ∈ text.toList, Text.isControl c = false := by
  obtain ⟨kind, octets⟩ := (text_some_iff attr text).mp ((plain_some_iff attr text).mp plain).1
  rw [lined.classified, ← octets, classify_encode] at kind
  simpa using kind

theorem lined_head (attr : Attribute) (lined : attr.Lined) :
    ∃ c rest, attr.name.toList = c :: rest ∧ Text.isBlank c = false := by
  cases chars : attr.name.toList with
  | nil => exact absurd (String.toList_eq_nil_iff.mp chars) lined.filled
  | cons c rest =>
      refine ⟨c, rest, rfl, ((Text.trim_text_iff attr.name).mp lined.trimmed).1 c ?_⟩
      rw [chars]
      rfl

end Attribute

namespace Ldif

theorem cut_colon_at (left right : List Char) (none_before : ':' ∉ left) :
    cutColon (left ++ ':' :: right) = some (left, right) := by
  induction left with
  | nil => rfl
  | cons c left ih =>
      rw [List.cons_append, cutColon, if_neg (Ne.symm (List.ne_of_not_mem_cons none_before)),
        ih (List.not_mem_of_not_mem_cons none_before)]
      rfl

theorem of_base64_spaced (name : String) (octets : Bytes) :
    Attribute.ofBase64 name (String.ofList (' ' :: (Base64.encodeText octets).toList)) =
      .ok (.ofValue name octets) := by
  rw [Attribute.ofBase64, Base64.decode_spaced_text]
  rfl

theorem read_value_line (attr : Attribute) (lined : attr.Lined) :
    readLine true attr.display.toList = .ok (.value attr.reread) := by
  have word : String.ofList (Text.trimChars attr.name.toList) = attr.name := lined.trimmed
  have filled : ¬attr.name.isEmpty = true := fun empty => lined.filled (String.isEmpty_iff.mp empty)
  cases plain : attr.plain? with
  | some text =>
      rw [readLine, Attribute.display_plain attr text plain, cut_colon_at _ _ lined.no_colon]
      dsimp only
      rw [word, if_neg filled, lined.no_name_word, if_neg (by simp), if_pos rfl, Attribute.reread, plain]
      rfl
  | none =>
      rw [readLine, Attribute.display_coded attr plain, cut_colon_at _ _ lined.no_colon]
      dsimp only
      rw [word, if_neg filled, lined.no_name_word, if_neg (by simp), if_pos rfl, Attribute.reread, plain,
        readValue, Attribute.base64, of_base64_spaced]
      rfl

end Ldif

namespace Entry

theorem name_line_plain (entry : Entry) (safe : isSafeText entry.name = true) :
    entry.nameLine.toList = 'd' :: 'n' :: ':' :: ' ' :: entry.name.toList := by
  rw [nameLine, if_pos safe]
  simp

theorem name_line_coded (entry : Entry) (coded : ¬isSafeText entry.name = true) :
    entry.nameLine.toList =
      'd' :: 'n' :: ':' :: ':' :: ' ' :: (Base64.encodeText (Text.encode entry.name)).toList := by
  rw [nameLine, if_neg coded]
  simp

end Entry

def rereadName (name : String) : Option String :=
  if isSafeText name then some (Text.trim name)
  else if name.toList.any Text.isControl then none
  else some name

namespace Ldif

theorem read_name_word (inEntry : Bool) (right : List Char) :
    readLine inEntry ('d' :: 'n' :: ':' :: right) = (readName right).map .name :=
  rfl

theorem read_name_line (inEntry : Bool) (entry : Entry) :
    readLine inEntry entry.nameLine.toList =
      match rereadName entry.name with
      | some name => .ok (.name name)
      | none => .error .badName := by
  rw [rereadName]
  by_cases safe : isSafeText entry.name = true
  · rw [if_pos safe, Entry.name_line_plain entry safe]
    rfl
  · rw [if_neg safe, Entry.name_line_coded entry safe, read_name_word, readName, of_base64_spaced]
    dsimp only
    rw [Attribute.text_of_encode]
    cases entry.name.toList.any Text.isControl <;> rfl

end Ldif

end DirectoryServer
