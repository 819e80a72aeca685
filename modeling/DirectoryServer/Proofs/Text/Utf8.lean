import DirectoryServer.Text.Utf8

set_option autoImplicit false

namespace DirectoryServer

theorem map_ok_iff {ε α β : Type} (make : α → β) (reading : Except ε α) (value : β) :
    reading.map make = .ok value ↔ ∃ found, reading = .ok found ∧ make found = value := by
  cases reading with
  | error fault => simp [Except.map]
  | ok found => simp [Except.map]

theorem map_error_iff {ε α β : Type} (make : α → β) (reading : Except ε α) (fault : ε) :
    reading.map make = .error fault ↔ reading = .error fault := by
  cases reading <;> simp [Except.map]

theorem bind_ok_iff {ε α β : Type} (reading : Except ε α) (next : α → Except ε β) (value : β) :
    reading >>= next = .ok value ↔ ∃ found, reading = .ok found ∧ next found = .ok value := by
  cases reading with
  | error fault => simp [bind, Except.bind]
  | ok found => simp [bind, Except.bind]

namespace Text

theorem octet_of_lt (n : Nat) (small : n < 256) : (UInt8.ofNat n).toNat = n :=
  UInt8.toNat_ofNat_of_lt' small

theorem char_of_valid (n : Nat) (valid : n < 0xD800 ∨ 0xDFFF < n ∧ n < 0x110000) :
    (Char.ofNat n).toNat = n := by
  rw [Char.ofNat, dif_pos (show n.isValidChar from valid)]
  rfl

theorem code_valid (c : Char) : c.toNat < 0xD800 ∨ 0xDFFF < c.toNat ∧ c.toNat < 0x110000 :=
  c.valid

theorem encode_one (c : Char) (code : c.toNat < 0x80) :
    String.utf8EncodeChar c = [UInt8.ofNat c.toNat] := by
  have bound : c.val.toNat ≤ 127 := Nat.le_of_lt_succ code
  simp only [String.utf8EncodeChar, if_pos bound]
  rfl

theorem encode_two (c : Char) (above : 0x80 ≤ c.toNat) (code : c.toNat < 0x800) :
    String.utf8EncodeChar c =
      [UInt8.ofNat (c.toNat / 64 + 0xC0), UInt8.ofNat (c.toNat % 64 + 0x80)] := by
  have lower : ¬ c.val.toNat ≤ 127 := Nat.not_le_of_lt above
  have bound : c.val.toNat ≤ 0x7ff := Nat.le_of_lt_succ code
  have first : c.toNat / 64 % 32 = c.toNat / 64 := Nat.mod_eq_of_lt (by omega)
  rw [← first]
  simp only [String.utf8EncodeChar, if_neg lower, if_pos bound]
  rfl

theorem encode_three (c : Char) (above : 0x800 ≤ c.toNat) (code : c.toNat < 0x10000) :
    String.utf8EncodeChar c =
      [UInt8.ofNat (c.toNat / 4096 + 0xE0), UInt8.ofNat (c.toNat / 64 % 64 + 0x80),
        UInt8.ofNat (c.toNat % 64 + 0x80)] := by
  have lower : ¬ c.val.toNat ≤ 127 := Nat.not_le_of_lt (Nat.lt_of_lt_of_le (by decide) above)
  have lower' : ¬ c.val.toNat ≤ 0x7ff := Nat.not_le_of_lt above
  have bound : c.val.toNat ≤ 0xffff := Nat.le_of_lt_succ code
  have first : c.toNat / 4096 % 16 = c.toNat / 4096 := Nat.mod_eq_of_lt (by omega)
  rw [← first]
  simp only [String.utf8EncodeChar, if_neg lower, if_neg lower', if_pos bound]
  rfl

theorem encode_four (c : Char) (above : 0x10000 ≤ c.toNat) :
    String.utf8EncodeChar c =
      [UInt8.ofNat (c.toNat / 262144 + 0xF0), UInt8.ofNat (c.toNat / 4096 % 64 + 0x80),
        UInt8.ofNat (c.toNat / 64 % 64 + 0x80), UInt8.ofNat (c.toNat % 64 + 0x80)] := by
  have lower : ¬ c.val.toNat ≤ 127 := Nat.not_le_of_lt (Nat.lt_of_lt_of_le (by decide) above)
  have lower' : ¬ c.val.toNat ≤ 0x7ff := Nat.not_le_of_lt (Nat.lt_of_lt_of_le (by decide) above)
  have lower'' : ¬ c.val.toNat ≤ 0xffff := Nat.not_le_of_lt above
  have limit := code_valid c
  have first : c.toNat / 262144 % 8 = c.toNat / 262144 := Nat.mod_eq_of_lt (by omega)
  rw [← first]
  simp only [String.utf8EncodeChar, if_neg lower, if_neg lower', if_neg lower'']
  rfl

theorem code_of_octet (c : Char) (octet : UInt8) (member : octet ∈ String.utf8EncodeChar c)
    (ascii : octet.toNat < 0x80) : octet.toNat = c.toNat := by
  have valid := code_valid c
  by_cases one : c.toNat < 0x80
  · rw [encode_one c one, List.mem_singleton] at member
    rw [member, octet_of_lt _ (by omega)]
  · by_cases two : c.toNat < 0x800
    · rw [encode_two c (by omega) two] at member
      simp only [List.mem_cons, List.not_mem_nil, or_false] at member
      rcases member with rfl | rfl <;> rw [octet_of_lt _ (by omega)] at ascii <;> omega
    · by_cases three : c.toNat < 0x10000
      · rw [encode_three c (by omega) three] at member
        simp only [List.mem_cons, List.not_mem_nil, or_false] at member
        rcases member with rfl | rfl | rfl <;> rw [octet_of_lt _ (by omega)] at ascii <;> omega
      · rw [encode_four c (by omega)] at member
        simp only [List.mem_cons, List.not_mem_nil, or_false] at member
        rcases member with rfl | rfl | rfl | rfl <;>
          rw [octet_of_lt _ (by omega)] at ascii <;> omega

inductive Opens (n : Nat) : Sequence → Prop where
  | two (above : 0xC2 ≤ n) (below : n < 0xE0) : Opens n ⟨1, n - 0xC0, 0x80, 0xBF, 1⟩
  | three (low high : UInt8) (above : 0xE0 ≤ n) (below : n < 0xF0)
      (least : low.toNat = if n = 0xE0 then 0xA0 else 0x80)
      (most : high.toNat = if n = 0xED then 0x9F else 0xBF) : Opens n ⟨2, n - 0xE0, low, high, 1⟩
  | four (low high : UInt8) (above : 0xF0 ≤ n) (below : n < 0xF5)
      (least : low.toNat = if n = 0xF0 then 0x90 else 0x80)
      (most : high.toNat = if n = 0xF4 then 0x8F else 0xBF) : Opens n ⟨3, n - 0xF0, low, high, 1⟩

theorem lead_single (octet : UInt8) (small : octet.toNat < 0x80) :
    lead octet = .single (Char.ofNat octet.toNat) := by
  simp only [lead, if_pos small]

theorem lead_cases (octet : UInt8) :
    (octet.toNat < 0x80 ∧ lead octet = .single (Char.ofNat octet.toNat)) ∨
      (∃ seq, Opens octet.toNat seq ∧ lead octet = .opens seq) ∨
      ((octet.toNat < 0xC2 ∨ 0xF5 ≤ octet.toNat) ∧ lead octet = .stray) := by
  have bound := octet.toNat_lt
  unfold lead
  dsimp only
  generalize octet.toNat = n at bound
  by_cases h₁ : n < 0x80
  · exact .inl ⟨h₁, if_pos h₁⟩
  rw [if_neg h₁]
  by_cases h₂ : n < 0xC2
  · exact .inr (.inr ⟨.inl h₂, if_pos h₂⟩)
  rw [if_neg h₂]
  by_cases h₃ : n < 0xE0
  · exact .inr (.inl ⟨_, .two (Nat.le_of_not_lt h₂) h₃, if_pos h₃⟩)
  rw [if_neg h₃]
  by_cases h₄ : n = 0xE0
  · subst h₄
    exact .inr (.inl ⟨_, .three 0xA0 0xBF (by decide) (by decide) rfl rfl, rfl⟩)
  rw [if_neg h₄]
  by_cases h₅ : n = 0xED
  · subst h₅
    exact .inr (.inl ⟨_, .three 0x80 0x9F (by decide) (by decide) rfl rfl, rfl⟩)
  rw [if_neg h₅]
  by_cases h₆ : n < 0xF0
  · refine .inr (.inl ⟨_, .three 0x80 0xBF (Nat.le_of_not_lt h₃) h₆ ?_ ?_, if_pos h₆⟩)
    · rw [if_neg h₄]; rfl
    · rw [if_neg h₅]; rfl
  rw [if_neg h₆]
  by_cases h₇ : n = 0xF0
  · subst h₇
    exact .inr (.inl ⟨_, .four 0x90 0xBF (by decide) (by decide) rfl rfl, rfl⟩)
  rw [if_neg h₇]
  by_cases h₈ : n < 0xF4
  · refine .inr (.inl ⟨_, .four 0x80 0xBF (by omega) (by omega) ?_ ?_, if_pos h₈⟩)
    · rw [if_neg h₇]; rfl
    · rw [if_neg (Nat.ne_of_lt h₈)]; rfl
  rw [if_neg h₈]
  by_cases h₉ : n = 0xF4
  · subst h₉
    exact .inr (.inl ⟨_, .four 0x80 0x8F (by decide) (by decide) rfl rfl, rfl⟩)
  · exact .inr (.inr ⟨.inr (by omega), if_neg h₉⟩)

def Continues (low high octet : UInt8) : Prop :=
  low.toNat ≤ octet.toNat ∧ octet.toNat ≤ high.toNat

theorem decode_last (start value taken : Nat) (low high octet : UInt8) (rest : Bytes)
    (fits : Continues low high octet) :
    decodeFrom start (some ⟨1, value, low, high, taken⟩) (octet :: rest) =
      (decodeFrom (start + taken + 1) none rest).map
        (Char.ofNat (value * 64 + (octet.toNat - 0x80)) :: ·) := by
  have fits' : low ≤ octet ∧ octet ≤ high := fits
  rw [decodeFrom, if_pos fits']
  rfl

theorem decode_next (start needed value taken : Nat) (low high octet : UInt8) (rest : Bytes)
    (fits : Continues low high octet) :
    decodeFrom start (some ⟨needed + 2, value, low, high, taken⟩) (octet :: rest) =
      decodeFrom start (some ⟨needed + 1, value * 64 + (octet.toNat - 0x80), 0x80, 0xBF, taken + 1⟩)
        rest := by
  have fits' : low ≤ octet ∧ octet ≤ high := fits
  rw [decodeFrom, if_pos fits']
  exact if_neg (Nat.not_le_of_lt (Nat.lt_add_left needed (Nat.lt_succ_self 1)))

theorem continues_of_decoded (start : Nat) (seq : Sequence) (bytes : Bytes) (text : List Char)
    (decoded : decodeFrom start (some seq) bytes = .ok text) :
    ∃ octet rest, bytes = octet :: rest ∧ Continues seq.low seq.high octet := by
  cases bytes with
  | nil => cases decoded
  | cons octet rest =>
      rw [decodeFrom] at decoded
      by_cases fits : seq.low ≤ octet ∧ octet ≤ seq.high
      · exact ⟨octet, rest, rfl, fits⟩
      · rw [if_neg fits] at decoded
        cases decoded

theorem lead_opens (n : Nat) (above : 0xC2 ≤ n) (below : n < 0xF5) :
    ∃ seq, Opens n seq ∧ lead (UInt8.ofNat n) = .opens seq := by
  have value := octet_of_lt n (by omega)
  rcases lead_cases (UInt8.ofNat n) with ⟨small, _⟩ | ⟨seq, opens, leads⟩ | ⟨outside, _⟩
  · omega
  · exact ⟨seq, value ▸ opens, leads⟩
  · omega

theorem continues_ofNat (low high : UInt8) (n : Nat) (small : n < 256) (least : low.toNat ≤ n)
    (most : n ≤ high.toNat) : Continues low high (UInt8.ofNat n) := by
  rw [Continues, octet_of_lt n small]
  exact ⟨least, most⟩

theorem decode_opens (start : Nat) (octet : UInt8) (rest : Bytes) (seq : Sequence)
    (leads : lead octet = .opens seq) :
    decodeFrom start none (octet :: rest) = decodeFrom start (some seq) rest := by
  rw [decodeFrom, leads]

theorem continues_later (n : Nat) : Continues 0x80 0xBF (UInt8.ofNat (n % 64 + 0x80)) := by
  refine continues_ofNat _ _ _ (by omega) (Nat.le_add_left _ _) ?_
  exact Nat.add_le_add_right (Nat.le_of_lt_succ (Nat.mod_lt n (by decide))) 0x80

theorem decode_two (start : Nat) (c : Char) (rest : Bytes) (above : 0x80 ≤ c.toNat)
    (code : c.toNat < 0x800) :
    decodeFrom start none (String.utf8EncodeChar c ++ rest) =
      (decodeFrom (start + 2) none rest).map (c :: ·) := by
  obtain ⟨seq, opens, leads⟩ := lead_opens (c.toNat / 64 + 0xC0) (by omega) (by omega)
  rw [encode_two c above code, List.cons_append, List.cons_append, List.nil_append,
    decode_opens _ _ _ seq leads]
  cases opens with
  | three | four => omega
  | two =>
      rw [decode_last _ _ _ _ _ _ _ (continues_later _), octet_of_lt _ (by omega)]
      have same : (c.toNat / 64 + 0xC0 - 0xC0) * 64 + (c.toNat % 64 + 0x80 - 0x80) = c.toNat := by omega
      rw [same, Char.ofNat_toNat]

theorem decode_three (start : Nat) (c : Char) (rest : Bytes) (above : 0x800 ≤ c.toNat)
    (code : c.toNat < 0x10000) :
    decodeFrom start none (String.utf8EncodeChar c ++ rest) =
      (decodeFrom (start + 3) none rest).map (c :: ·) := by
  have valid := code_valid c
  obtain ⟨seq, opens, leads⟩ := lead_opens (c.toNat / 4096 + 0xE0) (by omega) (by omega)
  rw [encode_three c above code, List.cons_append, List.cons_append, List.cons_append,
    List.nil_append, decode_opens _ _ _ seq leads]
  cases opens with
  | two | four => omega
  | three low high _ _ least most =>
      have second : Continues low high (UInt8.ofNat (c.toNat / 64 % 64 + 0x80)) := by
        refine continues_ofNat _ _ _ (by omega) ?_ ?_
        · split at least <;> omega
        · split at most <;> omega
      rw [decode_next _ _ _ _ _ _ _ _ second, decode_last _ _ _ _ _ _ _ (continues_later _),
        octet_of_lt _ (by omega), octet_of_lt _ (by omega)]
      have same : ((c.toNat / 4096 + 0xE0 - 0xE0) * 64 + (c.toNat / 64 % 64 + 0x80 - 0x80)) * 64 +
          (c.toNat % 64 + 0x80 - 0x80) = c.toNat := by omega
      rw [same, Char.ofNat_toNat]

theorem decode_four (start : Nat) (c : Char) (rest : Bytes) (above : 0x10000 ≤ c.toNat) :
    decodeFrom start none (String.utf8EncodeChar c ++ rest) =
      (decodeFrom (start + 4) none rest).map (c :: ·) := by
  have valid := code_valid c
  obtain ⟨seq, opens, leads⟩ := lead_opens (c.toNat / 262144 + 0xF0) (by omega) (by omega)
  rw [encode_four c above, List.cons_append, List.cons_append, List.cons_append, List.cons_append,
    List.nil_append, decode_opens _ _ _ seq leads]
  cases opens with
  | two | three => omega
  | four low high _ _ least most =>
      have second : Continues low high (UInt8.ofNat (c.toNat / 4096 % 64 + 0x80)) := by
        refine continues_ofNat _ _ _ (by omega) ?_ ?_
        · split at least <;> omega
        · split at most <;> omega
      rw [decode_next _ _ _ _ _ _ _ _ second, decode_next _ _ _ _ _ _ _ _ (continues_later _),
        decode_last _ _ _ _ _ _ _ (continues_later _), octet_of_lt _ (by omega),
        octet_of_lt _ (by omega), octet_of_lt _ (by omega)]
      have same : (((c.toNat / 262144 + 0xF0 - 0xF0) * 64 + (c.toNat / 4096 % 64 + 0x80 - 0x80)) * 64 +
          (c.toNat / 64 % 64 + 0x80 - 0x80)) * 64 + (c.toNat % 64 + 0x80 - 0x80) = c.toNat := by omega
      rw [same, Char.ofNat_toNat]

theorem decode_char (start : Nat) (c : Char) (rest : Bytes) :
    ∃ next, decodeFrom start none (String.utf8EncodeChar c ++ rest) =
      (decodeFrom next none rest).map (c :: ·) := by
  by_cases one : c.toNat < 0x80
  · refine ⟨start + 1, ?_⟩
    have value := octet_of_lt c.toNat (by omega)
    rw [encode_one c one, List.singleton_append, decodeFrom, lead_single _ (by omega), value,
      Char.ofNat_toNat]
  · by_cases two : c.toNat < 0x800
    · exact ⟨start + 2, decode_two start c rest (by omega) two⟩
    · by_cases three : c.toNat < 0x10000
      · exact ⟨start + 3, decode_three start c rest (by omega) three⟩
      · exact ⟨start + 4, decode_four start c rest (by omega)⟩

theorem decode_from_encode (start : Nat) (text : List Char) :
    decodeFrom start none (encodeChars text) = .ok text := by
  induction text generalizing start with
  | nil => rfl
  | cons c text ih =>
      obtain ⟨next, decoded⟩ := decode_char start c (encodeChars text)
      rw [encodeChars, List.flatMap_cons, ← encodeChars, decoded, ih next]
      rfl

theorem decode_chars_encode (text : List Char) : decodeChars (encodeChars text) = .ok text :=
  decode_from_encode 0 text

def ReadsFirst (bytes : Bytes) (text : List Char) : Prop :=
  ∃ c more next rest, bytes = String.utf8EncodeChar c ++ more ∧ text = c :: rest ∧
    decodeFrom next none more = .ok rest

theorem first_of_two (start n : Nat) (bytes : Bytes) (text : List Char) (above : 0xC2 ≤ n)
    (below : n < 0xE0)
    (decoded : decodeFrom start (some ⟨1, n - 0xC0, 0x80, 0xBF, 1⟩) bytes = .ok text) :
    ReadsFirst (UInt8.ofNat n :: bytes) text := by
  obtain ⟨b, more, rfl, low, high⟩ := continues_of_decoded _ _ _ _ decoded
  rw [decode_last _ _ _ _ _ _ _ ⟨low, high⟩] at decoded
  obtain ⟨rest, behind, rfl⟩ := (map_ok_iff _ _ _).mp decoded
  replace low : 0x80 ≤ b.toNat := low
  replace high : b.toNat ≤ 0xBF := high
  refine ⟨_, more, _, rest, ?_, rfl, behind⟩
  have code := char_of_valid ((n - 0xC0) * 64 + (b.toNat - 0x80)) (by omega)
  rw [encode_two _ (by omega) (by omega), code]
  have first : ((n - 0xC0) * 64 + (b.toNat - 0x80)) / 64 + 0xC0 = n := by omega
  have second : ((n - 0xC0) * 64 + (b.toNat - 0x80)) % 64 + 0x80 = b.toNat := by omega
  rw [first, second, UInt8.ofNat_toNat]
  rfl

theorem first_of_three (start n : Nat) (low high : UInt8) (bytes : Bytes) (text : List Char)
    (above : 0xE0 ≤ n) (below : n < 0xF0) (least : low.toNat = if n = 0xE0 then 0xA0 else 0x80)
    (most : high.toNat = if n = 0xED then 0x9F else 0xBF)
    (decoded : decodeFrom start (some ⟨2, n - 0xE0, low, high, 1⟩) bytes = .ok text) :
    ReadsFirst (UInt8.ofNat n :: bytes) text := by
  obtain ⟨b, more, rfl, low_b, high_b⟩ := continues_of_decoded _ _ _ _ decoded
  rw [decode_next _ _ _ _ _ _ _ _ ⟨low_b, high_b⟩] at decoded
  obtain ⟨d, more, rfl, low_d, high_d⟩ := continues_of_decoded _ _ _ _ decoded
  rw [decode_last _ _ _ _ _ _ _ ⟨low_d, high_d⟩] at decoded
  obtain ⟨rest, behind, rfl⟩ := (map_ok_iff _ _ _).mp decoded
  replace low_b : low.toNat ≤ b.toNat := low_b
  replace high_b : b.toNat ≤ high.toNat := high_b
  replace low_d : 0x80 ≤ d.toNat := low_d
  replace high_d : d.toNat ≤ 0xBF := high_d
  have range : 0x80 ≤ b.toNat ∧ b.toNat ≤ 0xBF ∧ (n = 0xE0 → 0xA0 ≤ b.toNat) ∧
      (n = 0xED → b.toNat ≤ 0x9F) := by
    split at least <;> split at most <;> omega
  clear least most low_b high_b
  refine ⟨_, more, _, rest, ?_, rfl, behind⟩
  generalize value : ((n - 0xE0) * 64 + (b.toNat - 0x80)) * 64 + (d.toNat - 0x80) = v
  have code := char_of_valid v (by omega)
  rw [encode_three _ (by omega) (by omega), code]
  have first : v / 4096 + 0xE0 = n := by omega
  have second : v / 64 % 64 + 0x80 = b.toNat := by omega
  have third : v % 64 + 0x80 = d.toNat := by omega
  rw [first, second, third, UInt8.ofNat_toNat, UInt8.ofNat_toNat]
  rfl

theorem first_of_four (start n : Nat) (low high : UInt8) (bytes : Bytes) (text : List Char)
    (above : 0xF0 ≤ n) (below : n < 0xF5) (least : low.toNat = if n = 0xF0 then 0x90 else 0x80)
    (most : high.toNat = if n = 0xF4 then 0x8F else 0xBF)
    (decoded : decodeFrom start (some ⟨3, n - 0xF0, low, high, 1⟩) bytes = .ok text) :
    ReadsFirst (UInt8.ofNat n :: bytes) text := by
  obtain ⟨b, more, rfl, low_b, high_b⟩ := continues_of_decoded _ _ _ _ decoded
  rw [decode_next _ _ _ _ _ _ _ _ ⟨low_b, high_b⟩] at decoded
  obtain ⟨d, more, rfl, low_d, high_d⟩ := continues_of_decoded _ _ _ _ decoded
  rw [decode_next _ _ _ _ _ _ _ _ ⟨low_d, high_d⟩] at decoded
  obtain ⟨e, more, rfl, low_e, high_e⟩ := continues_of_decoded _ _ _ _ decoded
  rw [decode_last _ _ _ _ _ _ _ ⟨low_e, high_e⟩] at decoded
  obtain ⟨rest, behind, rfl⟩ := (map_ok_iff _ _ _).mp decoded
  replace low_b : low.toNat ≤ b.toNat := low_b
  replace high_b : b.toNat ≤ high.toNat := high_b
  replace low_d : 0x80 ≤ d.toNat := low_d
  replace high_d : d.toNat ≤ 0xBF := high_d
  replace low_e : 0x80 ≤ e.toNat := low_e
  replace high_e : e.toNat ≤ 0xBF := high_e
  have range : 0x80 ≤ b.toNat ∧ b.toNat ≤ 0xBF ∧ (n = 0xF0 → 0x90 ≤ b.toNat) ∧
      (n = 0xF4 → b.toNat ≤ 0x8F) := by
    split at least <;> split at most <;> omega
  clear least most low_b high_b
  refine ⟨_, more, _, rest, ?_, rfl, behind⟩
  generalize value : (((n - 0xF0) * 64 + (b.toNat - 0x80)) * 64 + (d.toNat - 0x80)) * 64 +
    (e.toNat - 0x80) = v
  have code := char_of_valid v (by omega)
  rw [encode_four _ (by omega), code]
  have first : v / 262144 + 0xF0 = n := by omega
  have second : v / 4096 % 64 + 0x80 = b.toNat := by omega
  have third : v / 64 % 64 + 0x80 = d.toNat := by omega
  have fourth : v % 64 + 0x80 = e.toNat := by omega
  rw [first, second, third, fourth, UInt8.ofNat_toNat, UInt8.ofNat_toNat, UInt8.ofNat_toNat]
  rfl

theorem first_of_decoded (start : Nat) (octet : UInt8) (bytes : Bytes) (text : List Char)
    (decoded : decodeFrom start none (octet :: bytes) = .ok text) :
    ReadsFirst (octet :: bytes) text := by
  rcases lead_cases octet with ⟨small, leads⟩ | ⟨seq, opens, leads⟩ | ⟨_, leads⟩
  · rw [decodeFrom, leads] at decoded
    obtain ⟨rest, behind, rfl⟩ := (map_ok_iff _ _ _).mp decoded
    have code := char_of_valid octet.toNat (by omega)
    refine ⟨_, bytes, _, rest, ?_, rfl, behind⟩
    rw [encode_one _ (by omega), code, UInt8.ofNat_toNat]
    rfl
  · rw [decode_opens _ _ _ seq leads] at decoded
    rw [← UInt8.ofNat_toNat (x := octet)]
    cases opens with
    | two above below => exact first_of_two _ _ bytes text above below decoded
    | three low high above below least most =>
        exact first_of_three _ _ low high bytes text above below least most decoded
    | four low high above below least most =>
        exact first_of_four _ _ low high bytes text above below least most decoded
  · rw [decodeFrom, leads] at decoded
    cases decoded

-- The induction is on the text; each of its characters accounts for the octets in front.
theorem encode_of_decoded (start : Nat) (bytes : Bytes) (text : List Char)
    (decoded : decodeFrom start none bytes = .ok text) : encodeChars text = bytes := by
  induction text generalizing start bytes with
  | nil =>
      cases bytes with
      | nil => rfl
      | cons octet bytes =>
          obtain ⟨c, more, next, rest, _, same, _⟩ := first_of_decoded start octet bytes [] decoded
          cases same
  | cons c text ih =>
      cases bytes with
      | nil => cases decoded
      | cons octet bytes =>
          obtain ⟨c', more, next, rest, split, same, behind⟩ :=
            first_of_decoded start octet bytes _ decoded
          cases same
          rw [split, encodeChars, List.flatMap_cons, ← encodeChars, ih next more behind]

theorem decode_chars_iff (bytes : Bytes) (text : List Char) :
    decodeChars bytes = .ok text ↔ encodeChars text = bytes := by
  constructor
  · exact encode_of_decoded 0 bytes text
  · intro same
    rw [← same, decode_chars_encode]

theorem encode_chars_inj (text other : List Char) (same : encodeChars text = encodeChars other) :
    text = other := by
  have read := decode_chars_encode text
  rw [same, decode_chars_encode] at read
  exact (Except.ok.inj read).symm

theorem decode_iff (bytes : Bytes) (text : String) :
    decode bytes = .ok text ↔ encode text = bytes := by
  unfold decode encode
  constructor
  · intro read
    cases chars : decodeChars bytes with
    | error fault =>
        rw [chars] at read
        cases read
    | ok found =>
        rw [chars] at read
        cases read
        rw [String.toList_ofList]
        exact (decode_chars_iff bytes found).mp chars
  · intro same
    rw [(decode_chars_iff bytes text.toList).mpr same]
    exact congrArg Except.ok String.ofList_toList

theorem decode_some_iff (bytes : Bytes) (text : String) :
    decode? bytes = some text ↔ encode text = bytes := by
  rw [← decode_iff, decode?]
  cases decode bytes <;> simp [Except.toOption]

end Text

end DirectoryServer
