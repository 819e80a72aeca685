import DirectoryServer.Proofs.Frame.Printing

set_option autoImplicit false

namespace DirectoryServer.Frame

theorem encode_chars_length (text : List Char) : text.length ≤ (Text.encodeChars text).length := by
  induction text with
  | nil => exact Nat.le_refl 0
  | cons c rest ih =>
      have own := List.length_pos_iff.mpr (String.utf8EncodeChar_ne_nil (c := c))
      rw [Text.encodeChars, List.flatMap_cons, List.length_append, ← Text.encodeChars, List.length_cons]
      omega

theorem encode_digits_length (text : List Char) (digits : ∀ c ∈ text, c = '-' ∨ c.isDigit = true) :
    (Text.encodeChars text).length = text.length := by
  induction text with
  | nil => rfl
  | cons c rest ih =>
      have small : c.toNat < 0x80 := by
        rcases digits c List.mem_cons_self with rfl | digit
        · decide
        · have most : c.toNat ≤ 57 := (Char.isDigit_iff_toNat.mp digit).2
          omega
      rw [Text.encodeChars, List.flatMap_cons, ← Text.encodeChars, Text.encode_one c small, List.length_append,
        ih fun d member => digits d (List.mem_cons_of_mem c member), List.length_cons, Nat.add_comm]
      rfl

theorem read_line_spelt (body : Bytes) (text : List Char) (size : Nat)
    (done : readLine body = .ok (some (text, size))) :
    ¬ lineEnd <:+: Text.encodeChars text ∧ (Text.encodeChars text).length + 3 = size := by
  rw [readLine] at done
  cases found : beforeLineEnd body with
  | none =>
      rw [found] at done
      cases done
  | some bytes =>
      rw [found] at done
      dsimp only at done
      cases decoded : Text.decodeChars bytes with
      | error fault =>
          rw [decoded] at done
          cases done
      | ok chars =>
          rw [decoded] at done
          cases done
          rw [(Text.decode_chars_iff bytes text).mp decoded]
          exact ⟨before_line_end_free body bytes found, rfl⟩

theorem read_integer_spelt (marker : Marker) (body : Bytes) (value : Int64) (size : Nat)
    (done : readInteger body = .ok (some (value, size))) :
    (line marker (Text.int64Digits value)).length ≤ size := by
  rw [readInteger] at done
  split at done
  · cases done
  · cases done
  · rename_i text consumed first
    split at done
    · cases done
    · rename_i number
      cases done
      have short := Text.int64_digits_shortest text value number
      have octets := encode_chars_length text
      obtain ⟨_, same⟩ := read_line_spelt body text _ first
      rw [line_length, encode_digits_length _ (Text.int64_digits_chars value)]
      omega

theorem count_digits (count : Int64) (counts : ¬ count < 0) :
    Text.int64Digits count = Text.natDigits count.toInt.toNat ∧ count.toInt.toNat ≤ Text.maxInt64 := by
  rw [Int64.lt_iff_toInt_lt, show (0 : Int64).toInt = 0 from rfl] at counts
  have most := count.toInt_lt
  have same : count.toInt.natAbs = count.toInt.toNat := by omega
  rw [Text.int64Digits, if_neg counts, same, Text.maxInt64]
  exact ⟨rfl, by omega⟩

inductive Taken (read : Bytes → Reading Frame) : List Frame → Nat → Prop where
  | nil : Taken read [] 0
  | cons {part : Bytes} {element : Frame} {elements : List Frame} {taken more : Nat}
      (first : read part = .ok (some (element, taken))) (behind : Taken read elements more) :
      Taken read (element :: elements) (taken + more)

inductive Spelt (less : Nat) : Frame → Nat → Prop where
  | leaf {frame : Frame} {size : Nat} (portable : Portable frame) (leaf : ∀ elements, frame ≠ .array elements)
      (short : (serialize frame).length ≤ size) : Spelt less frame size
  | array {elements : List Frame} {header size : Nat} (counted : elements.length ≤ Text.maxInt64)
      (short : (line .array (Text.natDigits elements.length)).length ≤ header)
      (inside : Taken (read less) elements size) : Spelt less (.array elements) (header + size)

theorem read_elements_taken (read : Bytes → Reading Frame) (count : Nat) (buffer : Bytes)
    (elements : List Frame) (size : Nat)
    (done : readElements read count buffer = .ok (some (elements, size))) :
    elements.length = count ∧ Taken read elements size := by
  induction count generalizing buffer elements size with
  | zero =>
      cases done
      exact ⟨rfl, .nil⟩
  | succ count ih =>
      cases buffer with
      | nil => cases done
      | cons octet body =>
          cases first : read (octet :: body) with
          | error fault =>
              rw [read_elements_cons, first] at done
              cases done
          | ok found =>
              cases found with
              | none =>
                  rw [read_elements_cons, first] at done
                  cases done
              | some pair =>
                  obtain ⟨head, consumed⟩ := pair
                  rw [read_elements_next _ _ _ _ _ _ first] at done
                  obtain ⟨⟨tail, more⟩, behind, same⟩ := of_map_some _ _ _ done
                  cases same
                  obtain ⟨counted, inside⟩ := ih _ tail more behind
                  exact ⟨congrArg (· + 1) counted, .cons first inside⟩

theorem read_bulk_spelt (less : Nat) (buffer : Bytes) (length : Int64) (header : Nat) (frame : Frame) (size : Nat)
    (short : (line .bulk (Text.int64Digits length)).length ≤ header)
    (done : readBulk buffer length header = .ok (some (frame, size))) : Spelt less frame size := by
  rw [readBulk] at done
  by_cases absent : length = -1
  · rw [if_pos absent] at done
    cases done
    rw [absent] at short
    exact .leaf trivial (by simp) short
  · rw [if_neg absent] at done
    by_cases negative : length < 0
    · rw [if_pos negative] at done
      cases done
    · rw [if_neg negative] at done
      rw [(count_digits length negative).1] at short
      dsimp only at done
      generalize length.toInt.toNat = count at done short
      by_cases large : maxBulk < count
      · rw [if_pos large] at done
        cases done
      · rw [if_neg large] at done
        split at done
        · cases done
        · cases done
        · rename_i a b rest tail
          split at done
          · cases done
            have whole : ((buffer.drop header).take count).length = count := by
              have octets := congrArg List.length tail
              rw [List.length_drop, List.length_cons, List.length_cons] at octets
              rw [List.length_take]
              omega
            refine .leaf (by rw [Portable, whole]; exact Nat.le_of_not_lt large) (by simp) ?_
            rw [serialize, List.length_append, List.length_append, whole]
            exact Nat.add_le_add_right (Nat.add_le_add_right short count) 2
          · cases done

theorem read_array_spelt (less : Nat) (count : Int64) (header : Nat) (buffer : Bytes) (frame : Frame) (size : Nat)
    (short : (line .array (Text.int64Digits count)).length ≤ header)
    (done : readArray (read less) count header buffer = .ok (some (frame, size))) : Spelt less frame size := by
  rw [readArray] at done
  by_cases absent : count = -1
  · rw [if_pos absent] at done
    cases done
    rw [absent] at short
    exact .leaf trivial (by simp) short
  · rw [if_neg absent] at done
    by_cases negative : count < 0
    · rw [if_pos negative] at done
      cases done
    · rw [if_neg negative] at done
      obtain ⟨digits, fits⟩ := count_digits count negative
      obtain ⟨⟨elements, consumed⟩, behind, same⟩ := of_map_some _ _ _ done
      cases same
      obtain ⟨counted, inside⟩ := read_elements_taken (read less) _ _ elements consumed behind
      rw [digits, ← counted] at short
      exact .array (by rw [counted]; exact fits) short inside

theorem of_read_headed (behind : Int64 → Nat → Bytes → Reading Frame) (marker : Marker) (octet : UInt8)
    (body : Bytes) (value : Frame × Nat) (done : readHeaded behind octet body = .ok (some value)) :
    ∃ number header, (line marker (Text.int64Digits number)).length ≤ header ∧
      behind number header (octet :: body) = .ok (some value) := by
  rw [readHeaded] at done
  split at done
  · cases done
  · cases done
  · rename_i number header first
    exact ⟨number, header, read_integer_spelt marker body number header first, done⟩

theorem read_behind_spelt (less : Nat) (octet : UInt8) (marker : Marker) (body : Bytes) (frame : Frame) (size : Nat)
    (done : readBehind less octet marker body = .ok (some (frame, size))) : Spelt less frame size := by
  cases marker with
  | simple | error =>
      obtain ⟨⟨text, consumed⟩, first, same⟩ := of_map_some _ _ _ done
      cases same
      obtain ⟨free, taken⟩ := read_line_spelt body text _ first
      refine .leaf ?_ (by simp) ?_
      · rwa [Portable, Text.encode, String.toList_ofList]
      · exact Nat.le_of_eq (by rw [serialize, line_length, String.toList_ofList, taken])
  | integer =>
      obtain ⟨⟨value, consumed⟩, first, same⟩ := of_map_some _ _ _ done
      cases same
      exact .leaf trivial (by simp) (read_integer_spelt .integer body value _ first)
  | bulk =>
      obtain ⟨length, header, short, behind⟩ := of_read_headed
        (fun length header buffer => readBulk buffer length header) .bulk octet body _ done
      exact read_bulk_spelt less _ length header frame size short behind
  | array =>
      obtain ⟨count, header, short, behind⟩ := of_read_headed _ .array octet body _ done
      exact read_array_spelt less count header _ frame size short behind

theorem read_spelt (room : Nat) (buffer : Bytes) (frame : Frame) (size : Nat)
    (done : read room buffer = .ok (some (frame, size))) : ∃ less, room = less + 1 ∧ Spelt less frame size := by
  cases buffer with
  | nil =>
      rw [read_nil] at done
      cases done
  | cons octet body =>
      cases room with
      | zero => cases done
      | succ less =>
          rw [read_cons] at done
          split at done
          · cases done
          · exact ⟨less, rfl, read_behind_spelt less octet _ body frame size done⟩

theorem taken_short (read : Bytes → Reading Frame) (room : Nat)
    (each : ∀ part element taken, read part = .ok (some (element, taken)) →
      Fits room element ∧ (serialize element).length ≤ taken)
    (elements : List Frame) (size : Nat) (taken : Taken read elements size) :
    (∀ element ∈ elements, Fits room element) ∧ (serializeAll elements).length ≤ size := by
  induction taken with
  | nil => exact ⟨List.forall_mem_nil _, Nat.le_refl 0⟩
  | @cons part element elements taken more first behind ih =>
      obtain ⟨fits, short⟩ := each part element taken first
      obtain ⟨others, rest⟩ := ih
      refine ⟨List.forall_mem_cons.mpr ⟨fits, others⟩, ?_⟩
      rw [serializeAll, List.length_append]
      exact Nat.add_le_add short rest

-- The induction is on how many arrays may still open.
theorem read_shortest (room : Nat) (buffer : Bytes) (frame : Frame) (size : Nat)
    (done : read room buffer = .ok (some (frame, size))) :
    Fits room frame ∧ (serialize frame).length ≤ size := by
  induction room generalizing buffer frame size with
  | zero =>
      obtain ⟨less, none, _⟩ := read_spelt 0 buffer frame size done
      cases none
  | succ room ih =>
      obtain ⟨less, same, spelt⟩ := read_spelt _ buffer frame size done
      cases same
      cases spelt with
      | leaf portable leaf short => exact ⟨fits_leaf room frame leaf portable, short⟩
      | @array elements header size counted short inside =>
          obtain ⟨fits, rest⟩ := taken_short (read room) room ih elements size inside
          refine ⟨fits_array room elements counted fits, ?_⟩
          rw [serialize, List.length_append]
          exact Nat.add_le_add short rest

end DirectoryServer.Frame
