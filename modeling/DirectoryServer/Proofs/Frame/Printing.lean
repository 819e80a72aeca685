import DirectoryServer.Frame.Printer
import DirectoryServer.Proofs.Frame.Prefix
import DirectoryServer.Proofs.Text.Utf8
import DirectoryServer.Proofs.Text.Decimal

set_option autoImplicit false

namespace DirectoryServer.Frame

inductive Lies : (depth : Nat) → (node frame : Frame) → Prop where
  | here (frame : Frame) : Lies 0 frame frame
  | inside {depth : Nat} {node element : Frame} {elements : List Frame} (member : element ∈ elements)
      (lies : Lies depth node element) : Lies (depth + 1) node (.array elements)

theorem lies_leaf {depth : Nat} {node frame : Frame} (leaf : ∀ elements, frame ≠ .array elements) :
    Lies depth node frame ↔ depth = 0 ∧ node = frame := by
  constructor
  · intro lies
    cases lies with
    | here => exact ⟨rfl, rfl⟩
    | inside => exact absurd rfl (leaf _)
  · rintro ⟨rfl, rfl⟩
    exact .here node

theorem lies_array {depth : Nat} {node : Frame} {elements : List Frame} :
    Lies depth node (.array elements) ↔ (depth = 0 ∧ node = .array elements) ∨
      ∃ less, depth = less + 1 ∧ ∃ element ∈ elements, Lies less node element := by
  constructor
  · intro lies
    cases lies with
    | here => exact .inl ⟨rfl, rfl⟩
    | inside member lies => exact .inr ⟨_, rfl, _, member, lies⟩
  · rintro (⟨rfl, rfl⟩ | ⟨less, rfl, element, member, lies⟩)
    · exact .here _
    · exact .inside member lies

def Portable : Frame → Prop
  | .simple text | .error text => ¬ lineEnd <:+: Text.encode text
  | .bulk data => data.length ≤ maxBulk
  | .integer _ | .null | .array _ => True

theorem before_line_end_split (body line : Bytes) (found : beforeLineEnd body = some line) :
    ∃ rest, body = line ++ lineEnd ++ rest := by
  induction body generalizing line with
  | nil => cases found
  | cons a body ih =>
      cases body with
      | nil => cases found
      | cons b rest =>
          rw [beforeLineEnd] at found
          by_cases ends : a = cr ∧ b = lf
          · rw [if_pos ends] at found
            cases found
            exact ⟨rest, by rw [ends.1, ends.2]; rfl⟩
          · rw [if_neg ends] at found
            obtain ⟨later, behind, rfl⟩ := Option.map_eq_some_iff.mp found
            obtain ⟨more, split⟩ := ih later behind
            exact ⟨more, by rw [split]; rfl⟩

theorem before_line_end_free (body line : Bytes) (found : beforeLineEnd body = some line) :
    ¬ lineEnd <:+: line := by
  induction body generalizing line with
  | nil => cases found
  | cons a body ih =>
      cases body with
      | nil => cases found
      | cons b rest =>
          rw [beforeLineEnd] at found
          by_cases ends : a = cr ∧ b = lf
          · rw [if_pos ends] at found
            cases found
            intro inside
            cases List.infix_nil.mp inside
          · rw [if_neg ends] at found
            obtain ⟨later, behind, rfl⟩ := Option.map_eq_some_iff.mp found
            intro inside
            rcases List.infix_cons_iff.mp inside with ⟨tail, front⟩ | inside
            · obtain ⟨more, split⟩ := before_line_end_split _ _ behind
              injection front with first next
              rw [← next] at split
              injection split with second
              exact ends ⟨first.symm, second⟩
            · exact ih later behind inside

theorem before_line_end_print (line rest : Bytes) (free : ¬ lineEnd <:+: line) :
    beforeLineEnd (line ++ (lineEnd ++ rest)) = some line := by
  induction line with
  | nil => rfl
  | cons a line ih =>
      have later := ih fun inside => free (List.infix_cons inside)
      obtain ⟨b, more, split, ends⟩ : ∃ b more, line ++ (lineEnd ++ rest) = b :: more ∧
          ¬ (a = cr ∧ b = lf) := by
        cases line with
        | nil => exact ⟨cr, lf :: rest, rfl, fun ends => absurd ends.2 (by decide)⟩
        | cons b line =>
            refine ⟨b, line ++ (lineEnd ++ rest), rfl, fun ends => free ?_⟩
            rw [ends.1, ends.2]
            exact (List.prefix_append lineEnd line).isInfix
      rw [List.cons_append, split, beforeLineEnd, if_neg ends, ← split, later]
      rfl

theorem read_line_print (text : List Char) (rest : Bytes)
    (free : ¬ lineEnd <:+: Text.encodeChars text) :
    readLine (Text.encodeChars text ++ (lineEnd ++ rest)) =
      .ok (some (text, (Text.encodeChars text).length + 3)) := by
  rw [readLine, before_line_end_print _ _ free]
  dsimp only
  rw [Text.decode_chars_encode]

theorem read_integer_print (text : List Char) (value : Int64) (rest : Bytes)
    (free : ¬ lineEnd <:+: Text.encodeChars text) (reads : Text.readInt64Chars text = .ok value) :
    readInteger (Text.encodeChars text ++ (lineEnd ++ rest)) =
      .ok (some (value, (Text.encodeChars text).length + 3)) := by
  rw [readInteger, read_line_print text rest free]
  dsimp only
  rw [reads]

theorem digits_free (text : List Char) (digits : ∀ c ∈ text, c = '-' ∨ c.isDigit = true) :
    ¬ lineEnd <:+: Text.encodeChars text := by
  intro inside
  have member : cr ∈ Text.encodeChars text := inside.subset (by decide)
  obtain ⟨c, known, octet⟩ := List.mem_flatMap.mp member
  have code := Text.code_of_octet c cr octet (by decide)
  have same : c = '\r' := by
    rw [← Char.ofNat_toNat c, ← code]
    rfl
  subst same
  rcases digits _ known with minus | digit
  · cases minus
  · cases digit

theorem nat_digits_free (n : Nat) : ¬ lineEnd <:+: Text.encodeChars (Text.natDigits n) :=
  digits_free _ fun _ member =>
    .inr (Nat.isDigit_of_mem_toDigits (by decide) (by decide) member)

theorem int64_digits_free (value : Int64) :
    ¬ lineEnd <:+: Text.encodeChars (Text.int64Digits value) :=
  digits_free _ (Text.int64_digits_chars value)

theorem line_append (marker : Marker) (text : List Char) (rest : Bytes) :
    line marker text ++ rest = marker.octet :: (Text.encodeChars text ++ (lineEnd ++ rest)) := by
  rw [line, List.append_assoc, List.cons_append]

theorem line_length (marker : Marker) (text : List Char) :
    (line marker text).length = (Text.encodeChars text).length + 3 := by
  simp only [line, List.length_append, List.length_cons]
  rfl

theorem read_print_cons (room : Nat) (marker : Marker) (text : List Char) (rest : Bytes) :
    read (room + 1) (line marker text ++ rest) =
      readBehind room marker.octet marker (Text.encodeChars text ++ (lineEnd ++ rest)) := by
  rw [line_append, read_cons, Marker.of_octet_octet]

theorem read_headed_print (behind : Int64 → Nat → Bytes → Reading Frame) (marker : Marker)
    (text : List Char) (value : Int64) (rest : Bytes) (free : ¬ lineEnd <:+: Text.encodeChars text)
    (reads : Text.readInt64Chars text = .ok value) :
    readHeaded behind marker.octet (Text.encodeChars text ++ (lineEnd ++ rest)) =
      behind value (line marker text).length (line marker text ++ rest) := by
  rw [readHeaded, read_integer_print text value rest free reads, line_append, line_length]

theorem positive_counts (n : Nat) (fits : n ≤ Text.maxInt64) :
    Text.positive n ≠ -1 ∧ ¬ Text.positive n < 0 ∧ (Text.positive n).toInt.toNat = n := by
  have value := Text.positive_toInt n fits
  refine ⟨fun same => ?_, fun negative => ?_, by rw [value]; rfl⟩
  · rw [same] at value
    exact absurd value (by
      rw [show ((-1 : Int64).toInt) = -1 from rfl]
      omega)
  · rw [Int64.lt_iff_toInt_lt, value] at negative
    exact absurd negative (Int.not_lt_of_ge (Int.natCast_nonneg n))

theorem read_bulk_print (front data rest : Bytes) (fits : data.length ≤ maxBulk) :
    readBulk (front ++ (data ++ (lineEnd ++ rest))) (Text.positive data.length) front.length =
      .ok (some (.bulk data, front.length + data.length + 2)) := by
  have small : data.length ≤ Text.maxInt64 := Nat.le_trans fits (by decide)
  obtain ⟨present, counts, size⟩ := positive_counts data.length small
  rw [readBulk, if_neg present, if_neg counts, size]
  dsimp only
  rw [if_neg (Nat.not_lt_of_le fits), List.drop_left, List.drop_left, List.take_left]
  rfl

def Fits (room : Nat) (frame : Frame) : Prop :=
  ∀ depth node, Lies depth node frame → Portable node ∧ depth < room ∧
    ∀ elements, node = .array elements → elements.length ≤ Text.maxInt64

theorem fits_room {room : Nat} {frame : Frame} (fits : Fits room frame) :
    ∃ less, room = less + 1 ∧ ∀ elements, frame = .array elements → ∀ element ∈ elements,
      Fits less element := by
  obtain ⟨_, positive, _⟩ := fits 0 frame (.here frame)
  cases room with
  | zero => cases positive
  | succ less =>
      refine ⟨less, rfl, ?_⟩
      rintro elements rfl element member depth node lies
      obtain ⟨portable, inside, counted⟩ := fits (depth + 1) node (.inside member lies)
      exact ⟨portable, Nat.lt_of_succ_lt_succ inside, counted⟩

theorem fits_leaf (room : Nat) (frame : Frame) (leaf : ∀ elements, frame ≠ .array elements)
    (portable : Portable frame) : Fits (room + 1) frame := by
  intro depth node lies
  obtain ⟨rfl, rfl⟩ := (lies_leaf leaf).mp lies
  exact ⟨portable, Nat.succ_pos room, fun elements same => absurd same (leaf elements)⟩

theorem fits_bulk (room : Nat) (data : Bytes) (small : data.length ≤ maxBulk) :
    Fits (room + 1) (.bulk data) :=
  fits_leaf room _ (by simp) small

theorem fits_text (room : Nat) (text : String) (small : (Text.encode text).length ≤ maxBulk) :
    Fits (room + 1) (.text text) :=
  fits_bulk room _ small

theorem fits_integer (room : Nat) (value : Int64) : Fits (room + 1) (.integer value) :=
  fits_leaf room _ (by simp) trivial

theorem fits_array (room : Nat) (elements : List Frame) (counted : elements.length ≤ Text.maxInt64)
    (each : ∀ element ∈ elements, Fits room element) : Fits (room + 1) (.array elements) := by
  intro depth node lies
  rcases lies_array.mp lies with ⟨rfl, rfl⟩ | ⟨less, rfl, element, member, inside⟩
  · refine ⟨trivial, Nat.succ_pos room, fun others same => ?_⟩
    cases same
    exact counted
  · obtain ⟨portable, shallow, small⟩ := each element member less node inside
    exact ⟨portable, Nat.succ_lt_succ shallow, small⟩

theorem read_nil (room : Nat) : read room [] = .ok none := by
  cases room <;> rfl

theorem read_elements_next (read : Bytes → Reading Frame) (count consumed : Nat) (octet : UInt8)
    (body : Bytes) (element : Frame) (first : read (octet :: body) = .ok (some (element, consumed))) :
    readElements read (count + 1) (octet :: body) =
      (readElements read count ((octet :: body).drop consumed)).map
        (Option.map fun (rest, more) => (element :: rest, consumed + more)) := by
  rw [read_elements_cons, first]

mutual
theorem read_serialize (room : Nat) (frame : Frame) (rest : Bytes) (fits : Fits room frame) :
    read room (serialize frame ++ rest) = .ok (some (frame, (serialize frame).length)) := by
  obtain ⟨portable, _, counted⟩ := fits 0 frame (.here frame)
  obtain ⟨less, rfl, smaller⟩ := fits_room fits
  cases frame with
  | simple text =>
      rw [serialize, read_print_cons, readBehind, read_line_print _ _ portable, line_length]
      simp only [Except.map, Option.map_some, String.ofList_toList]
  | error text =>
      rw [serialize, read_print_cons, readBehind, read_line_print _ _ portable, line_length]
      simp only [Except.map, Option.map_some, String.ofList_toList]
  | integer value =>
      rw [serialize, read_print_cons, readBehind,
        read_integer_print _ value _ (int64_digits_free value) (Text.read_int64_digits value),
        line_length]
      rfl
  | bulk data =>
      have small : data.length ≤ Text.maxInt64 := Nat.le_trans portable (by decide)
      rw [serialize, List.append_assoc, List.append_assoc, read_print_cons, readBehind,
        read_headed_print _ _ _ _ _ (nat_digits_free _) (Text.read_nat_digits _ small),
        read_bulk_print _ _ _ portable, List.length_append, List.length_append, Nat.add_assoc]
      rfl
  | null =>
      rw [serialize, read_print_cons, readBehind,
        read_headed_print _ _ ['-', '1'] (-1) _ (digits_free _ (by simp [Char.isDigit])) rfl]
      rfl
  | array elements =>
      obtain ⟨present, counts, size⟩ := positive_counts elements.length (counted elements rfl)
      rw [serialize, List.append_assoc, read_print_cons, readBehind,
        read_headed_print _ _ _ _ _ (nat_digits_free _)
          (Text.read_nat_digits _ (counted elements rfl)),
        readArray, if_neg present, if_neg counts, size, List.drop_left,
        read_elements_serialize less elements rest (smaller elements rfl), List.length_append]
      rfl

theorem read_elements_serialize (room : Nat) (elements : List Frame) (rest : Bytes)
    (fits : ∀ element ∈ elements, Fits room element) :
    readElements (read room) elements.length (serializeAll elements ++ rest) =
      .ok (some (elements, (serializeAll elements).length)) := by
  cases elements with
  | nil => rfl
  | cons element elements =>
      have first := read_serialize room element (serializeAll elements ++ rest)
        (fits element List.mem_cons_self)
      have later := read_elements_serialize room elements rest
        fun other member => fits other (List.mem_cons_of_mem element member)
      have whole : serializeAll (element :: elements) ++ rest =
          serialize element ++ (serializeAll elements ++ rest) := by
        rw [serializeAll, List.append_assoc]
      obtain ⟨octet, body, cut⟩ : ∃ octet body,
          serialize element ++ (serializeAll elements ++ rest) = octet :: body := by
        cases cut : serialize element ++ (serializeAll elements ++ rest) with
        | nil =>
            rw [cut, read_nil] at first
            cases first
        | cons octet body => exact ⟨octet, body, rfl⟩
      have behind : (octet :: body).drop (serialize element).length = serializeAll elements ++ rest := by
        rw [← cut, List.drop_left]
      rw [cut] at first
      rw [whole, cut, List.length_cons, read_elements_next _ _ _ _ _ _ first, behind, later,
        serializeAll, List.length_append]
      rfl
end

end DirectoryServer.Frame
