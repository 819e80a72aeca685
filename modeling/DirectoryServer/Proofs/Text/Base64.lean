import DirectoryServer.Text.Base64
import DirectoryServer.Proofs.Text.Utf8

set_option autoImplicit false

namespace DirectoryServer.Base64

theorem value_symbol (value : Nat) (small : value < 64) : value? (symbol value) = some value := by
  have table : ∀ value < 64, value? (symbol value) = some value := by decide
  exact table value small

theorem symbol_not_pad (value : Nat) (small : value < 64) : symbol value ≠ pad := by
  have table : ∀ value < 64, symbol value ≠ pad := by decide
  exact table value small

theorem encode_length (octets : Bytes) : (encode octets).length % 4 = 0 := by
  fun_induction encode octets with
  | case1 => rfl
  | case2 => simp
  | case3 => simp
  | case4 a b c rest n ih =>
      simp only [List.length_cons]
      omega

theorem ofNat_octet (n : Nat) (octet : UInt8) (low : n % 256 = octet.toNat) : UInt8.ofNat n = octet := by
  rw [← UInt8.toNat_inj, UInt8.toNat_ofNat', low]

theorem read_tail_symbol (offset index : Nat) (values : List Nat) (last : UInt8) (pads value : Nat)
    (rest : Bytes) (small : value < 64) :
    readTail offset index ⟨values, last, none, pads⟩ (symbol value :: rest) =
      readTail offset (index + 1) ⟨values ++ [value], symbol value, none, pads⟩ rest := by
  rw [readTail, if_neg (symbol_not_pad value small)]
  dsimp only
  rw [value_symbol value small]

theorem read_tail_pad (offset index : Nat) (tail : Tail) (rest : Bytes) (late : 2 ≤ index) :
    readTail offset index tail (pad :: rest) =
      readTail offset (index + 1)
        { tail with padded := tail.padded.or (some index), pads := tail.pads + 1 } rest := by
  rw [readTail, if_pos rfl, if_neg (Nat.not_lt_of_le late)]

theorem decode_quad (offset : Nat) (a b c d : UInt8) :
    decodeFrom offset [a, b, c, d] =
      match readTail offset 0 ⟨[], 0, none, 0⟩ [a, b, c, d] with
      | .error fault => .error fault
      | .ok tail => tailBytes offset tail := by
  rw [decodeFrom]
  · cases readTail offset 0 ⟨[], 0, none, 0⟩ [a, b, c, d] <;> rfl
  · simp
  · simp

theorem decode_one (offset : Nat) (a : UInt8) : decodeFrom offset (encode [a]) = .ok [a] := by
  have bound := a.toNat_lt
  rw [encode, decode_quad, read_tail_symbol _ _ _ _ _ _ _ (by omega),
    read_tail_symbol _ _ _ _ _ _ _ (by omega), read_tail_pad _ _ _ _ (by decide),
    read_tail_pad _ _ _ _ (by decide), readTail]
  dsimp only [List.nil_append, List.cons_append]
  rw [tailBytes, if_neg (by simp), if_neg (by simp)]
  dsimp only
  rw [if_neg (by omega), ofNat_octet _ a (by omega)]

theorem decode_two (offset : Nat) (a b : UInt8) : decodeFrom offset (encode [a, b]) = .ok [a, b] := by
  have bound := a.toNat_lt
  have bound' := b.toNat_lt
  rw [encode, decode_quad, read_tail_symbol _ _ _ _ _ _ _ (by omega),
    read_tail_symbol _ _ _ _ _ _ _ (by omega), read_tail_symbol _ _ _ _ _ _ _ (by omega),
    read_tail_pad _ _ _ _ (by decide), readTail]
  dsimp only [List.nil_append, List.cons_append]
  rw [tailBytes, if_neg (by simp), if_neg (by simp)]
  dsimp only
  rw [if_neg (by omega), ofNat_octet _ a (by omega), ofNat_octet _ b (by omega)]

theorem decode_three (offset : Nat) (a b c : UInt8) :
    decodeFrom offset (encode [a, b, c]) = .ok [a, b, c] := by
  have bound := a.toNat_lt
  have bound' := b.toNat_lt
  have bound'' := c.toNat_lt
  rw [encode, encode, decode_quad, read_tail_symbol _ _ _ _ _ _ _ (by omega),
    read_tail_symbol _ _ _ _ _ _ _ (by omega), read_tail_symbol _ _ _ _ _ _ _ (by omega),
    read_tail_symbol _ _ _ _ _ _ _ (by omega), readTail]
  dsimp only [List.nil_append, List.cons_append]
  rw [tailBytes, if_neg (by simp), if_neg (by simp)]
  dsimp only
  rw [ofNat_octet _ a (by omega), ofNat_octet _ b (by omega), ofNat_octet _ c (by omega)]

theorem read_symbol (offset value : Nat) (small : value < 64) :
    readSymbol offset (symbol value) = .ok value := by
  rw [readSymbol, value_symbol value small]

theorem decode_front (offset p q r s : Nat) (next : UInt8) (more : Bytes) (first : p < 64)
    (second : q < 64) (third : r < 64) (fourth : s < 64) :
    decodeFrom offset (symbol p :: symbol q :: symbol r :: symbol s :: next :: more) =
      (decodeFrom (offset + 4) (next :: more)).map fun rest =>
        UInt8.ofNat ((((p * 64 + q) * 64 + r) * 64 + s) / 65536) ::
          UInt8.ofNat ((((p * 64 + q) * 64 + r) * 64 + s) / 256) ::
          UInt8.ofNat (((p * 64 + q) * 64 + r) * 64 + s) :: rest := by
  rw [decodeFrom, read_symbol _ p first, read_symbol _ q second, read_symbol _ r third,
    read_symbol _ s fourth]
  cases decodeFrom (offset + 4) (next :: more) <;> rfl

theorem encode_filled (octets : Bytes) (filled : octets ≠ []) : encode octets ≠ [] := by
  unfold encode
  split
  · exact absurd rfl filled
  · simp
  · simp
  · simp

theorem decode_encode_from (offset : Nat) (octets : Bytes) (filled : octets ≠ []) :
    decodeFrom offset (encode octets) = .ok octets := by
  fun_induction encode octets generalizing offset with
  | case1 => exact absurd rfl filled
  | case2 a => exact decode_one offset a
  | case3 a b => exact decode_two offset a b
  | case4 a b c rest n ih =>
      cases rest with
      | nil => exact decode_three offset a b c
      | cons d rest =>
          have bound := a.toNat_lt
          have bound' := b.toNat_lt
          have bound'' := c.toNat_lt
          have behind := ih (offset + 4) (by simp)
          cases more : encode (d :: rest) with
          | nil => exact absurd more (encode_filled _ (by simp))
          | cons next more' =>
              rw [more] at behind
              rw [decode_front _ _ _ _ _ _ _ (by omega) (by omega) (by omega) (by omega), behind,
                ofNat_octet _ a (by omega), ofNat_octet _ b (by omega), ofNat_octet _ c (by omega)]
              rfl

theorem decode_encode (octets : Bytes) : decode (encode octets) = .ok octets := by
  cases octets with
  | nil => rfl
  | cons a rest =>
      have whole := encode_length (a :: rest)
      rw [decode]
      cases last : (encode (a :: rest)).getLast? with
      | none => exact absurd (List.getLast?_eq_none_iff.mp last) (encode_filled _ (by simp))
      | some octet =>
          dsimp only
          rw [if_neg (fun odd => by omega), decode_encode_from 0 _ (by simp)]

theorem symbol_of_value (octet : UInt8) (value : Nat) (read : value? octet = some value) :
    value < 64 ∧ symbol value = octet := by
  have table : ∀ n < 256, ∀ value ∈ value? (UInt8.ofNat n), value < 64 ∧ symbol value = UInt8.ofNat n := by
    decide +kernel
  have found := table octet.toNat octet.toNat_lt
  rw [UInt8.ofNat_toNat] at found
  exact found value read

theorem symbol_of_read (offset : Nat) (octet : UInt8) (value : Nat)
    (read : readSymbol offset octet = .ok value) : value < 64 ∧ symbol value = octet := by
  apply symbol_of_value
  unfold readSymbol at read
  split at read
  · cases read
    assumption
  · cases read

theorem read_tail_spelt (offset index : Nat) (tail result : Tail) (quad : Bytes)
    (read : readTail offset index tail quad = .ok result) :
    ∃ values pads, quad = values.map symbol ++ List.replicate pads pad ∧ (∀ value ∈ values, value < 64) ∧
      result.values = tail.values ++ values ∧ result.pads = tail.pads + pads ∧
      (tail.padded ≠ none → values = []) := by
  induction quad generalizing index tail with
  | nil =>
      cases read
      exact ⟨[], 0, rfl, List.forall_mem_nil _, by simp, by simp, fun _ => rfl⟩
  | cons octet rest ih =>
      unfold readTail at read
      by_cases padding : octet = pad
      · rw [if_pos padding] at read
        split at read
        · cases read
        · obtain ⟨values, pads, rfl, small, same, count, late⟩ := ih _ _ read
          have none_ : values = [] := late (by cases tail.padded <;> simp)
          subst none_
          refine ⟨[], pads + 1, ?_, List.forall_mem_nil _, same, ?_, fun _ => rfl⟩
          · rw [padding, List.replicate_succ]
            rfl
          · rw [count]
            dsimp only
            omega
      · rw [if_neg padding] at read
        cases open_ : tail.padded with
        | some place =>
            rw [open_] at read
            cases read
        | none =>
            rw [open_] at read
            dsimp only at read
            cases known : value? octet with
            | none =>
                rw [known] at read
                cases read
            | some value =>
                rw [known] at read
                obtain ⟨values, pads, rfl, small, same, count, late⟩ := ih _ _ read
                obtain ⟨least, written⟩ := symbol_of_value octet value known
                refine ⟨value :: values, pads, ?_, List.forall_mem_cons.mpr ⟨least, small⟩, ?_, count, ?_⟩
                · rw [List.map_cons, written, List.cons_append]
                · rw [same, List.append_assoc, List.singleton_append]
                · exact fun closed => absurd rfl closed

theorem encode_quad (p q r s : Nat) (rest : Bytes) (first : p < 64) (second : q < 64) (third : r < 64)
    (fourth : s < 64) :
    encode (UInt8.ofNat ((((p * 64 + q) * 64 + r) * 64 + s) / 65536) ::
        UInt8.ofNat ((((p * 64 + q) * 64 + r) * 64 + s) / 256) ::
        UInt8.ofNat (((p * 64 + q) * 64 + r) * 64 + s) :: rest) =
      symbol p :: symbol q :: symbol r :: symbol s :: encode rest := by
  generalize whole : ((p * 64 + q) * 64 + r) * 64 + s = n
  have octets : ((UInt8.ofNat (n / 65536)).toNat * 256 + (UInt8.ofNat (n / 256)).toNat) * 256 +
      (UInt8.ofNat n).toNat = n := by
    simp only [UInt8.toNat_ofNat']
    omega
  rw [encode, octets, show n / 262144 = p by omega, show n / 4096 % 64 = q by omega,
    show n / 64 % 64 = r by omega, show n % 64 = s by omega]

theorem encode_two_symbols (p q : Nat) (first : p < 64) (second : q < 64) (unused : (p * 64 + q) % 16 = 0) :
    encode [UInt8.ofNat ((p * 64 + q) / 16)] = [symbol p, symbol q, pad, pad] := by
  have octet : (UInt8.ofNat ((p * 64 + q) / 16)).toNat * 16 = p * 64 + q := by
    rw [UInt8.toNat_ofNat']
    omega
  rw [encode, octet, show (p * 64 + q) / 64 = p by omega, show (p * 64 + q) % 64 = q by omega]

theorem encode_three_symbols (p q r : Nat) (first : p < 64) (second : q < 64) (third : r < 64)
    (unused : ((p * 64 + q) * 64 + r) % 4 = 0) :
    encode [UInt8.ofNat (((p * 64 + q) * 64 + r) / 1024), UInt8.ofNat (((p * 64 + q) * 64 + r) / 4)] =
      [symbol p, symbol q, symbol r, pad] := by
  generalize whole : (p * 64 + q) * 64 + r = n at unused ⊢
  have octets : ((UInt8.ofNat (n / 1024)).toNat * 256 + (UInt8.ofNat (n / 4)).toNat) * 4 = n := by
    simp only [UInt8.toNat_ofNat']
    omega
  rw [encode, octets, show n / 4096 = p by omega, show n / 64 % 64 = q by omega, show n % 64 = r by omega]

theorem encode_of_tail (offset : Nat) (tail : Tail) (octets : Bytes) (small : ∀ value ∈ tail.values, value < 64)
    (room : tail.values.length + tail.pads ≤ 4) (read : tailBytes offset tail = .ok octets) :
    encode octets = tail.values.map symbol ++ List.replicate tail.pads pad := by
  obtain ⟨values, last, padded, pads⟩ := tail
  unfold tailBytes at read
  dsimp only at small room read ⊢
  split at read
  · cases read
  · rename_i two
    split at read
    · cases read
    · rename_i full
      match values with
      | [] => simp at two
      | [_] => simp at two
      | [p, q] =>
          simp only [List.length_cons, List.length_nil] at room full
          have count : pads = 2 := by omega
          dsimp only at read
          split at read
          · cases read
          · rename_i unused
            cases read
            subst count
            simp only [List.forall_mem_cons] at small
            exact encode_two_symbols p q small.1 small.2.1 (by omega)
      | [p, q, r] =>
          simp only [List.length_cons, List.length_nil] at room full
          have count : pads = 1 := by omega
          dsimp only at read
          split at read
          · cases read
          · rename_i unused
            cases read
            subst count
            simp only [List.forall_mem_cons] at small
            exact encode_three_symbols p q r small.1 small.2.1 small.2.2.1 (by omega)
      | p :: q :: r :: s :: more =>
          simp only [List.length_cons] at room
          have count : pads = 0 := by omega
          have none_ : more = [] := List.eq_nil_of_length_eq_zero (by omega)
          cases read
          subst count none_
          simp only [List.forall_mem_cons] at small
          exact encode_quad p q r s [] small.1 small.2.1 small.2.2.1 small.2.2.2.1

-- By the recursion of the reader: quads with more behind them, then the last one.
theorem encode_of_decode_from (offset : Nat) (text octets : Bytes)
    (read : decodeFrom offset text = .ok octets) : encode octets = text := by
  fun_induction decodeFrom offset text generalizing octets with
  | case1 offset =>
      cases read
      rfl
  | case2 offset a b c d next more ih =>
      obtain ⟨p, first, read⟩ := (bind_ok_iff _ _ _).mp read
      obtain ⟨q, second, read⟩ := (bind_ok_iff _ _ _).mp read
      obtain ⟨r, third, read⟩ := (bind_ok_iff _ _ _).mp read
      obtain ⟨s, fourth, read⟩ := (bind_ok_iff _ _ _).mp read
      obtain ⟨rest, behind, read⟩ := (bind_ok_iff _ _ _).mp read
      cases read
      obtain ⟨smallP, rfl⟩ := symbol_of_read _ a p first
      obtain ⟨smallQ, rfl⟩ := symbol_of_read _ b q second
      obtain ⟨smallR, rfl⟩ := symbol_of_read _ c r third
      obtain ⟨smallS, rfl⟩ := symbol_of_read _ d s fourth
      rw [encode_quad p q r s rest smallP smallQ smallR smallS, ih rest behind]
  | case3 offset quad filled last =>
      obtain ⟨tail, taken, given⟩ := (bind_ok_iff _ _ _).mp read
      obtain ⟨values, pads, rfl, small, same, count, _⟩ := read_tail_spelt offset 0 _ tail quad taken
      rw [List.nil_append] at same
      rw [Nat.zero_add] at count
      subst same count
      have room : tail.values.length + tail.pads ≤ 4 := by
        match quad : tail.values.map symbol ++ List.replicate tail.pads pad with
        | a :: b :: c :: d :: e :: rest => exact (last a b c d e rest quad).elim
        | [] | [_] | [_, _] | [_, _, _] | [_, _, _, _] =>
            have size := congrArg List.length quad
            simp only [List.length_append, List.length_map, List.length_replicate, List.length_cons,
              List.length_nil] at size
            omega
      exact encode_of_tail offset tail octets small room given

theorem decode_iff (text octets : Bytes) : decode text = .ok octets ↔ text = encode octets := by
  constructor
  · intro read
    unfold decode at read
    split at read
    · split at read
      · cases read
      · exact (encode_of_decode_from 0 text octets read).symm
    · rename_i empty
      cases read
      exact List.getLast?_eq_none_iff.mp empty
  · rintro rfl
    exact decode_encode octets

end DirectoryServer.Base64
