import DirectoryServer.Entry
import DirectoryServer.Proofs.Text.Base64
import DirectoryServer.Proofs.Text.Trim

set_option autoImplicit false

namespace DirectoryServer

namespace Base64

theorem symbol_range (value : Nat) : 43 ≤ (symbol value).toNat ∧ (symbol value).toNat ≤ 122 := by
  unfold symbol
  split
  · rw [Text.octet_of_lt _ (by omega)]
    omega
  · split
    · rw [Text.octet_of_lt _ (by omega)]
      omega
    · split
      · rw [Text.octet_of_lt _ (by omega)]
        omega
      · split <;> decide

theorem encode_range (octets : Bytes) :
    ∀ octet ∈ encode octets, 43 ≤ octet.toNat ∧ octet.toNat ≤ 122 := by
  have padded : 43 ≤ pad.toNat ∧ pad.toNat ≤ 122 := by decide
  fun_induction encode octets with
  | case1 => exact List.forall_mem_nil _
  | case2 a => simp [symbol_range, padded]
  | case3 a b => simp [symbol_range, padded]
  | case4 a b c rest n ih =>
      simp only [List.forall_mem_cons]
      exact ⟨symbol_range _, symbol_range _, symbol_range _, symbol_range _, ih⟩

theorem encode_text_range (octets : Bytes) :
    ∀ c ∈ (encodeText octets).toList, 43 ≤ c.toNat ∧ c.toNat ≤ 122 := by
  rw [encodeText, String.toList_ofList]
  intro c member
  obtain ⟨octet, found, rfl⟩ := List.mem_map.mp member
  have range := encode_range octets octet found
  rwa [Text.char_of_valid _ (by omega)]

theorem encode_encode_text (octets : Bytes) : Text.encode (encodeText octets) = encode octets := by
  have written : ∀ plain : Bytes, (∀ octet ∈ plain, 43 ≤ octet.toNat ∧ octet.toNat ≤ 122) →
      Text.encodeChars (plain.map fun octet => Char.ofNat octet.toNat) = plain := by
    intro plain range
    induction plain with
    | nil => rfl
    | cons octet rest ih =>
        obtain ⟨first, behind⟩ := List.forall_mem_cons.mp range
        have code := Text.char_of_valid octet.toNat (by omega)
        rw [List.map_cons, Text.encodeChars, List.flatMap_cons, ← Text.encodeChars, ih behind,
          Text.encode_one _ (by omega), code, UInt8.ofNat_toNat, List.singleton_append]
  rw [Text.encode, encodeText, String.toList_ofList]
  exact written _ (encode_range octets)

theorem blank_of_range (c : Char) (range : 43 ≤ c.toNat ∧ c.toNat ≤ 122) : Text.isBlank c = false := by
  simp only [Text.isBlank, Bool.or_eq_false_iff, Bool.and_eq_false_iff, decide_eq_false_iff_not]
  omega

theorem trim_encode_text (octets : Bytes) : Text.trim (encodeText octets) = encodeText octets := by
  have visible : ∀ c ∈ (encodeText octets).toList, Text.isBlank c = false :=
    fun c member => blank_of_range c (encode_text_range octets c member)
  rw [Text.trim_text_iff]
  exact ⟨fun c first => visible c (List.mem_of_mem_head? first),
    fun c last => visible c (List.mem_of_getLast? last)⟩

theorem decode_text_iff (text : String) (octets : Bytes) :
    decodeText text = .ok octets ↔ Text.trim text = encodeText octets := by
  rw [decodeText, decode_iff, ← encode_encode_text, Text.encode, Text.encode]
  constructor
  · intro same
    exact String.toList_inj.mp (Text.encode_chars_inj _ _ same)
  · intro same
    rw [same]

theorem decode_spaced_text (octets : Bytes) :
    decodeText (String.ofList (' ' :: (encodeText octets).toList)) = .ok octets := by
  have trimmed := trim_encode_text octets
  rwa [decode_text_iff, Text.trim, String.toList_ofList, Text.trim_space, ← Text.trim]

end Base64

namespace Attribute

theorem of_base64_iff (name text : String) (attr : Attribute) :
    ofBase64 name text = .ok attr ↔
      Text.trim text = Base64.encodeText attr.value ∧ attr = ofValue name attr.value := by
  rw [ofBase64, map_ok_iff]
  constructor
  · rintro ⟨octets, read, rfl⟩
    exact ⟨(Base64.decode_text_iff text octets).mp read, rfl⟩
  · rintro ⟨coded, same⟩
    exact ⟨attr.value, (Base64.decode_text_iff text attr.value).mpr coded, same.symm⟩

theorem value_equals_binary (attr : Attribute) (assertion : String) (binary : attr.kind = .binary) :
    attr.valueEquals assertion = true ↔ assertion = attr.base64 := by
  rw [valueEquals, binary]
  exact beq_iff_eq.trans eq_comm

theorem one_text_for_value (name : String) :
    (∀ value, ofBase64 name (ofValue name value).base64 = .ok (ofValue name value)) ∧
      (∀ text attr, ofBase64 name text = .ok attr → attr.base64 = Text.trim text) ∧
      ∀ attr : Attribute, attr.kind = .binary → ∃ text, Text.trim text = text ∧
        (∀ assertion, attr.valueEquals assertion = true ↔ assertion = text) ∧
        ∀ other, (ofBase64 name other).map (·.value) = .ok attr.value ↔ Text.trim other = text := by
  refine ⟨fun value => ?_, fun text attr read => ?_, fun attr binary => ?_⟩
  · exact (of_base64_iff _ _ _).mpr ⟨Base64.trim_encode_text value, rfl⟩
  · exact ((of_base64_iff name text attr).mp read).1.symm
  · refine ⟨attr.base64, Base64.trim_encode_text attr.value,
      fun assertion => value_equals_binary attr assertion binary, fun other => ?_⟩
    rw [map_ok_iff]
    constructor
    · rintro ⟨found, read, same⟩
      rw [((of_base64_iff name other found).mp read).1, same, base64]
    · intro coded
      exact ⟨ofValue name attr.value, (of_base64_iff _ _ _).mpr ⟨coded, rfl⟩, rfl⟩

def photo : Attribute :=
  .ofValue "photo" [0x00, 0xFF, 0x10]

theorem photo_one_text :
    ofBase64 "photo" " AP8Q\n" = .ok photo ∧ photo.base64 = Text.trim " AP8Q\n" ∧ photo.kind = .binary ∧
      (∀ assertion, photo.valueEquals assertion = true ↔ assertion = "AP8Q") ∧
      photo.valueEquals " AP8Q\n" = false := by
  obtain ⟨_, written, binary⟩ := one_text_for_value "photo"
  have trimmed : Text.trim " AP8Q\n" = "AP8Q" := rfl
  have coded : Base64.encodeText photo.value = "AP8Q" := rfl
  have read : ofBase64 "photo" " AP8Q\n" = .ok photo :=
    (of_base64_iff _ _ _).mpr ⟨trimmed.trans coded.symm, rfl⟩
  obtain ⟨text, _, equals, _⟩ := binary photo rfl
  have same : text = "AP8Q" := ((equals "AP8Q").mp rfl).symm
  subst same
  exact ⟨read, written _ photo read, rfl, equals, rfl⟩

end Attribute

end DirectoryServer
