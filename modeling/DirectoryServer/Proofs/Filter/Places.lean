import DirectoryServer.Filter.Scanner
import DirectoryServer.Proofs.Text.Utf8

set_option autoImplicit false

namespace DirectoryServer.Filter

def StandsAt (whole : List Char) (position : Nat) (rest : List Char) : Prop :=
  ∃ front, whole = front ++ rest ∧ position = width front

theorem width_append (front back : List Char) : width (front ++ back) = width front + width back := by
  induction front with
  | nil => exact (Nat.zero_add _).symm
  | cons c front ih => rw [List.cons_append, width, width, ih, Nat.add_assoc]

theorem width_opened (front : List Char) (mark : Char) (size : mark.utf8Size = 1) :
    width (front ++ ['(', mark]) = width front + 2 := by
  rw [width_append, width, width, size]
  rfl

theorem octets_append (front back : List Char) :
    Text.encodeChars (front ++ back) = Text.encodeChars front ++ Text.encodeChars back :=
  List.flatMap_append

theorem octets_length (text : List Char) : (Text.encodeChars text).length = width text := by
  induction text with
  | nil => rfl
  | cons c text ih =>
      rw [Text.encodeChars, List.flatMap_cons, List.length_append, ← Text.encodeChars, ih, width,
        String.length_utf8EncodeChar]

theorem width_positive (text : List Char) (filled : text ≠ []) : 0 < width text := by
  cases text with
  | nil => exact absurd rfl filled
  | cons c rest => exact Nat.add_pos_left c.utf8Size_pos (width rest)

theorem skip_cons (c : Char) (rest : List Char) (count : Nat) :
    skip? (c.utf8Size + count) (c :: rest) = skip? count rest := by
  obtain ⟨more, size⟩ : ∃ more, c.utf8Size + count = more + 1 :=
    Nat.exists_eq_add_one.mpr (Nat.add_pos_left c.utf8Size_pos count)
  rw [size, skip?, if_pos (by omega), show more + 1 - c.utf8Size = count by omega]

theorem keep_cons (c : Char) (rest : List Char) (count : Nat) :
    keep? (c.utf8Size + count) (c :: rest) = (keep? count rest).map (c :: ·) := by
  obtain ⟨more, size⟩ : ∃ more, c.utf8Size + count = more + 1 :=
    Nat.exists_eq_add_one.mpr (Nat.add_pos_left c.utf8Size_pos count)
  rw [size, keep?, if_pos (by omega), show more + 1 - c.utf8Size = count by omega]

theorem skip_append (front back : List Char) : skip? (width front) (front ++ back) = some back := by
  induction front with
  | nil => rw [width, List.nil_append, skip?]
  | cons c front ih => rw [width, List.cons_append, skip_cons, ih]

theorem keep_append (front back : List Char) : keep? (width front) (front ++ back) = some front := by
  induction front with
  | nil => rw [width, keep?]
  | cons c front ih =>
      rw [width, List.cons_append, keep_cons, ih]
      rfl

theorem slice_append (front middle back : List Char) :
    slice? (front ++ (middle ++ back)) (width front) (width front + width middle) = some middle := by
  rw [slice?, if_pos (Nat.le_add_right _ _), skip_append, Option.bind_some, Nat.add_sub_cancel_left, keep_append]

theorem slice_rest (front back : List Char) :
    slice? (front ++ back) (width front) (width (front ++ back)) = some back := by
  have whole := slice_append front back []
  rwa [List.append_nil, ← width_append] at whole

theorem place_cut (mark : Char) (text : List Char) :
    place? mark text = (cut mark text).map fun sides => width sides.1 := by
  induction text with
  | nil => rfl
  | cons c rest ih =>
      rw [place?, cut]
      by_cases same : c = mark
      · rw [if_pos same, if_pos same]
        rfl
      · rw [if_neg same, if_neg same, ih]
        cases cut mark rest <;> rfl

theorem octet_own (mark c : Char) (ascii : mark.toNat < 0x80) (octets : Bytes) :
    (String.utf8EncodeChar c ++ octets).head? = some (Scanner.octet mark) ↔ c = mark := by
  have value : (Scanner.octet mark).toNat = mark.toNat := Text.octet_of_lt _ (by omega)
  constructor
  · intro starts
    have member : Scanner.octet mark ∈ String.utf8EncodeChar c := by
      cases own : String.utf8EncodeChar c with
      | nil => exact absurd own String.utf8EncodeChar_ne_nil
      | cons first rest =>
          rw [own] at starts
          exact Option.some.inj starts ▸ List.mem_cons_self
    have code := Text.code_of_octet c _ member (by omega)
    rw [← Char.ofNat_toNat c, ← code, value, Char.ofNat_toNat]
  · rintro rfl
    rw [Text.encode_one c ascii]
    rfl

namespace Scanner

theorem peek_append (front back : List Char) :
    peek (front ++ back) (width front) = (Text.encodeChars back).head? := by
  rw [peek, octets_append, List.getElem?_append_right (Nat.le_of_eq (octets_length front)), octets_length,
    Nat.sub_self, List.head?_eq_getElem?]

theorem peek_nil (front : List Char) : peek (front ++ []) (width front) = none :=
  peek_append front []

theorem peek_mark (mark : Char) (ascii : mark.toNat < 0x80) (front back : List Char) :
    peek (front ++ back) (width front) = some (octet mark) ↔ back.head? = some mark := by
  rw [peek_append]
  cases back with
  | nil => simp [Text.encodeChars]
  | cons c rest =>
      rw [Text.encodeChars, List.flatMap_cons, octet_own mark c ascii, List.head?_cons, Option.some.injEq]

theorem peek_filled (front : List Char) (c : Char) (rest : List Char) :
    ∃ own, peek (front ++ c :: rest) (width front) = some own ∧
      ∀ mark : Char, mark.toNat < 0x80 → (own = octet mark ↔ c = mark) := by
  cases seen : peek (front ++ c :: rest) (width front) with
  | none =>
      rw [peek_append, Text.encodeChars, List.flatMap_cons, List.head?_eq_none_iff] at seen
      exact absurd (List.append_eq_nil_iff.mp seen).1 String.utf8EncodeChar_ne_nil
  | some own =>
      refine ⟨own, rfl, fun mark ascii => ?_⟩
      have stands := peek_mark mark ascii front (c :: rest)
      rwa [seen, Option.some.injEq, List.head?_cons, Option.some.injEq] at stands

theorem expect_reads (mark : Char) (ascii : mark.toNat < 0x80) (front back : List Char) :
    expect (front ++ back) mark (width front) =
      (Filter.expect mark (width front) back).map fun _ => width front + 1 := by
  cases back with
  | nil =>
      rw [expect, peek_nil]
      rfl
  | cons c rest =>
      obtain ⟨own, seen, stands⟩ := peek_filled front c rest
      rw [expect, seen, Filter.expect]
      by_cases same : c = mark
      · simp [same, (stands mark ascii).mpr same, Except.map]
      · simp [same, mt (stands mark ascii).mp same, Except.map]

end Scanner

end DirectoryServer.Filter
