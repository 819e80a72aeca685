import DirectoryServer.Frame.Scanner
import DirectoryServer.Proofs.Frame.Stream

set_option autoImplicit false

namespace DirectoryServer.Frame

theorem cut_width (buffer : Bytes) (start width : Nat) (inside : start + width ≤ buffer.length) :
    cut buffer start (start + width) = some ((buffer.drop start).take width) := by
  rw [cut, if_pos ⟨Nat.le_add_right start width, inside⟩, Nat.add_sub_cancel_left]

theorem cut_rest (buffer : Bytes) (start : Nat) (inside : start ≤ buffer.length) :
    cut buffer start buffer.length = some (buffer.drop start) := by
  rw [cut, if_pos ⟨inside, Nat.le_refl _⟩, ← List.length_drop, List.take_length]

theorem is_line_end (a b : UInt8) : [a, b] = lineEnd ↔ a = cr ∧ b = lf := by
  simp [lineEnd]

theorem before_line_end_at (body : Bytes) : beforeLineEnd body = (lineEndAt? body).map body.take := by
  induction body with
  | nil => rfl
  | cons a rest ih =>
      cases rest with
      | nil => rfl
      | cons b rest =>
          by_cases ends : a = cr ∧ b = lf
          · rw [beforeLineEnd, if_pos ends, lineEndAt?, if_pos ((is_line_end a b).mpr ends)]
            rfl
          · rw [beforeLineEnd, if_neg ends, lineEndAt?, if_neg (mt (is_line_end a b).mp ends), ih]
            cases lineEndAt? (b :: rest) <;> rfl

theorem line_end_inside (body : Bytes) (position : Nat) (place : lineEndAt? body = some position) :
    beforeLineEnd body = some (body.take position) ∧ position + 2 ≤ body.length := by
  have found : beforeLineEnd body = some (body.take position) := by
    rw [before_line_end_at, place]
    rfl
  have inside := (before_line_end_append body _ found).1
  rw [List.length_take] at inside
  exact ⟨found, by omega⟩

theorem cut_line_reads (octet : UInt8) (body : Bytes) : cutLine (octet :: body) = some (readLine body) := by
  rw [cutLine, cut_rest (octet :: body) 1 (by simp), readLine]
  cases place : lineEndAt? body with
  | none =>
      have found := before_line_end_at body
      rw [place] at found
      simp [found, place]
  | some position =>
      obtain ⟨found, inside⟩ := line_end_inside body position place
      have bytes : cut (octet :: body) 1 (1 + position) = some (body.take position) :=
        cut_width (octet :: body) 1 position (by rw [List.length_cons]; omega)
      have size : (body.take position).length + 3 = 1 + position + 2 := by
        rw [List.length_take]
        omega
      simp only [List.drop_one, List.tail_cons, Option.bind_eq_bind, Option.bind_some, place, bytes, found, size]
      cases Text.decodeChars (body.take position) <;> rfl

theorem cut_integer_reads (octet : UInt8) (body : Bytes) :
    cutInteger (octet :: body) = some (readInteger body) := by
  rw [cutInteger, cut_line_reads, readInteger]
  cases readLine body with
  | error fault => rfl
  | ok found =>
      cases found with
      | none => rfl
      | some line =>
          obtain ⟨text, consumed⟩ := line
          cases number : Text.readInt64Chars text <;> simp [number]

theorem cut_value (buffer : Bytes) (header size : Nat) (a b : UInt8) (rest : Bytes)
    (tail : (buffer.drop header).drop size = a :: b :: rest) :
    header + size + 2 ≤ buffer.length ∧
      cut buffer (header + size) (header + size + 2) = some [a, b] ∧
      cut buffer header (header + size) = some ((buffer.drop header).take size) := by
  rw [List.drop_drop] at tail
  have length := congrArg List.length tail
  rw [List.length_drop, List.length_cons, List.length_cons] at length
  have inside : header + size + 2 ≤ buffer.length := by omega
  refine ⟨inside, ?_, cut_width buffer header size (by omega)⟩
  rw [cut_width buffer (header + size) 2 inside, tail]
  rfl

theorem cut_bulk_reads (buffer : Bytes) (length : Int64) (header : Nat) :
    cutBulk buffer length header = some (readBulk buffer length header) := by
  unfold cutBulk readBulk
  by_cases absent : length = -1
  · rw [if_pos absent, if_pos absent]
  · rw [if_neg absent, if_neg absent]
    by_cases negative : length < 0
    · rw [if_pos negative, if_pos negative]
    · rw [if_neg negative, if_neg negative]
      dsimp only
      generalize length.toInt.toNat = size
      by_cases large : maxBulk < size
      · rw [if_pos large, if_pos large]
      · rw [if_neg large, if_neg large]
        have left : ((buffer.drop header).drop size).length = buffer.length - (header + size) := by
          rw [List.drop_drop, List.length_drop]
        cases tail : (buffer.drop header).drop size with
        | nil =>
            rw [tail, List.length_nil] at left
            rw [if_pos (by omega)]
        | cons a rest =>
            cases rest with
            | nil =>
                rw [tail, List.length_singleton] at left
                rw [if_pos (by omega)]
            | cons b rest =>
                obtain ⟨inside, ending, data⟩ := cut_value buffer header size a b rest tail
                rw [if_neg (Nat.not_lt.mpr inside), ending, data]
                by_cases ends : a = cr ∧ b = lf
                · simp [is_line_end, ends]
                · simp [is_line_end, ends]

-- The scanner's cuts lie in the buffer and its answer is the reading's. If it got something, it counts
-- as many arrays as before; otherwise it may have stopped inside of some.
def Scans {α : Type} (scanner : Scanner) (reading : Reading α) (scan : Option (Reading α × Scanner)) : Prop :=
  ∃ left, scan = some (reading, left) ∧ ∀ found, reading = .ok (some found) → left = scanner

theorem scans_self {α : Type} (scanner : Scanner) (reading : Reading α) :
    Scans scanner reading (some (reading, scanner)) :=
  ⟨scanner, rfl, fun _ _ => rfl⟩

theorem scans_map {α β : Type} (make : α × Nat → β × Nat) (scanner : Scanner) (reading : Reading α)
    (scan : Option (Reading α × Scanner)) (scans : Scans scanner reading scan) :
    Scans scanner (reading.map (Option.map make))
      (scan.map fun (reading, left) => (reading.map (Option.map make), left)) := by
  obtain ⟨left, rfl, kept⟩ := scans
  refine ⟨left, rfl, fun found done => ?_⟩
  obtain ⟨pair, got, _⟩ := of_map_some make reading found done
  exact kept pair got

theorem consumed_before (element : Frame) (before size : Nat) (reading : Reading (List Frame)) :
    (reading.map (Option.map fun (later, more) => (element :: later, size + more))).map
        (Option.map fun (elements, more) => (elements, before + more)) =
      (reading.map (Option.map fun (later, more) => (later, before + size + more))).map
        (Option.map fun (later, consumed) => (element :: later, consumed)) := by
  cases reading with
  | error fault => rfl
  | ok found =>
      cases found with
      | none => rfl
      | some pair => simp [Except.map, Nat.add_assoc]

-- The induction is on the elements still to come; the scanner has taken `consumed` octets for those
-- before.
theorem elements_scan (read : Bytes → Reading Frame) (value : Scanner → Bytes → Option (Reading Frame × Scanner))
    (scanner : Scanner) (takes : Takes 0 read) (each : ∀ buffer, Scans scanner (read buffer) (value scanner buffer))
    (buffer : Bytes) (count consumed : Nat) (inside : consumed ≤ buffer.length) :
    Scans scanner
      ((readElements read count (buffer.drop consumed)).map
        (Option.map fun (elements, more) => (elements, consumed + more)))
      (Scanner.elements value buffer count consumed scanner) := by
  induction count generalizing consumed with
  | zero => exact scans_self scanner _
  | succ count ih =>
      rw [Scanner.elements]
      by_cases spent : buffer.length ≤ consumed
      · rw [if_pos spent, List.drop_eq_nil_of_le spent]
        exact scans_self scanner _
      · rw [if_neg spent, cut_rest buffer consumed inside]
        cases rest : buffer.drop consumed with
        | nil => exact absurd (List.drop_eq_nil_iff.mp rest) spent
        | cons octet body =>
            obtain ⟨left, scanned, kept⟩ := each (octet :: body)
            rw [read_elements_cons]
            simp only [Option.bind_eq_bind, Option.bind_some, scanned]
            cases first : read (octet :: body) with
            | error fault => exact ⟨left, rfl, by simp [Except.map]⟩
            | ok found =>
                cases found with
                | none => exact ⟨left, rfl, by simp [Except.map]⟩
                | some pair =>
                    obtain ⟨element, size⟩ := pair
                    cases kept _ first
                    have within := takes _ _ _ first
                    rw [← rest, List.length_drop] at within
                    have later := scans_map (fun (later, consumed) => (element :: later, consumed)) _ _ _
                      (ih (consumed + size) (by omega))
                    rw [← List.drop_drop, rest, ← consumed_before] at later
                    exact later

theorem array_scan (read : Bytes → Reading Frame) (value : Scanner → Bytes → Option (Reading Frame × Scanner))
    (scanner : Scanner) (takes : Takes 0 read)
    (each : ∀ buffer, Scans ⟨scanner.depth + 1⟩ (read buffer) (value ⟨scanner.depth + 1⟩ buffer))
    (buffer : Bytes) (count : Int64) (header : Nat) (inside : header ≤ buffer.length) :
    Scans scanner (readArray read count header buffer) (Scanner.array value scanner buffer count header) := by
  unfold readArray Scanner.array
  by_cases absent : count = -1
  · rw [if_pos absent, if_pos absent]
    exact scans_self scanner _
  · rw [if_neg absent, if_neg absent]
    by_cases negative : count < 0
    · rw [if_pos negative, if_pos negative]
      exact scans_self scanner _
    · rw [if_neg negative, if_neg negative]
      obtain ⟨left, scanned, kept⟩ :=
        elements_scan read value ⟨scanner.depth + 1⟩ takes each buffer count.toInt.toNat header inside
      dsimp only
      rw [scanned]
      cases elements : readElements read count.toInt.toNat (buffer.drop header) with
      | error fault => exact ⟨left, rfl, by simp [Except.map]⟩
      | ok found =>
          cases found with
          | none => exact ⟨left, rfl, by simp [Except.map]⟩
          | some pair =>
              rw [elements] at kept
              rw [kept _ rfl]
              exact scans_self scanner _

theorem headed_scan (behind : Int64 → Nat → Bytes → Reading Frame)
    (scan : Int64 → Nat → Option (Reading Frame × Scanner)) (scanner : Scanner) (octet : UInt8) (body : Bytes)
    (each : ∀ number header, header ≤ (octet :: body).length →
      Scans scanner (behind number header (octet :: body)) (scan number header)) :
    Scans scanner (readHeaded behind octet body) (scanner.headed (octet :: body) scan) := by
  rw [readHeaded, Scanner.headed, cut_integer_reads]
  cases first : readInteger body with
  | error fault => exact scans_self scanner _
  | ok found =>
      cases found with
      | none => exact scans_self scanner _
      | some pair =>
          obtain ⟨number, header⟩ := pair
          have inside := read_integer_takes body number header first
          exact each number header (by rw [List.length_cons]; omega)

-- The induction is on how many arrays may still open, which the scanner's count leaves.
theorem value_scan (room : Nat) (scanner : Scanner) (counted : scanner.depth + room = maxDepth + 1)
    (buffer : Bytes) : Scans scanner (read room buffer) (Scanner.value (room + 1) scanner buffer) := by
  induction room generalizing scanner buffer with
  | zero =>
      cases buffer with
      | nil => exact scans_self scanner _
      | cons octet body =>
          rw [Scanner.value, if_pos (by omega)]
          exact scans_self scanner _
  | succ room ih =>
      cases buffer with
      | nil => exact scans_self scanner _
      | cons octet body =>
          rw [Scanner.value, if_neg (by omega), read_cons]
          cases Marker.ofOctet? octet with
          | none => exact scans_self scanner _
          | some marker =>
              cases marker with
              | simple =>
                  dsimp only
                  rw [cut_line_reads]
                  exact scans_self scanner _
              | error =>
                  dsimp only
                  rw [cut_line_reads]
                  exact scans_self scanner _
              | integer =>
                  dsimp only
                  rw [cut_integer_reads]
                  exact scans_self scanner _
              | bulk =>
                  refine headed_scan (fun length header buffer => readBulk buffer length header)
                    (fun length header => (cutBulk (octet :: body) length header).map fun reading => (reading, scanner))
                    scanner octet body fun length header _ => ?_
                  rw [cut_bulk_reads]
                  exact scans_self scanner _
              | array =>
                  refine headed_scan _ _ scanner octet body fun count header inside => ?_
                  exact array_scan (read room) _ scanner (read_settled room).2
                    (ih ⟨scanner.depth + 1⟩ (by dsimp only; omega)) _ count header inside

theorem parse_scanned (scanner : Scanner) (buffer : Bytes) :
    ∃ left, scanner.parse buffer = some (parse buffer, left) := by
  obtain ⟨left, scanned, _⟩ := value_scan (maxDepth + 1) ⟨0⟩ (Nat.zero_add _) buffer
  exact ⟨left, scanned⟩

-- The induction is on the batch that the buffer holds; every frame in it leaves less of the buffer.
theorem holds_scanned {buffer : Bytes} {batch : Batch} (holds : Holds buffer batch) (scanner : Scanner) :
    ∃ left, scanner.takeFrames buffer = some (batch, left) := by
  induction holds generalizing scanner with
  | @part buffer short =>
      obtain ⟨left, scanned⟩ := parse_scanned scanner buffer
      rw [Scanner.takeFrames]
      by_cases empty : buffer = []
      · rw [if_pos empty, empty]
        exact ⟨scanner, rfl⟩
      · rw [if_neg empty, scanned, short]
        exact ⟨left, rfl⟩
  | @fault buffer cause wrong =>
      obtain ⟨left, scanned⟩ := parse_scanned scanner buffer
      have nonempty : buffer ≠ [] := by
        intro empty
        rw [empty] at wrong
        cases wrong
      rw [Scanner.takeFrames, if_neg nonempty, scanned, wrong]
      exact ⟨left, rfl⟩
  | @frame buffer frame size batch parsed behind ih =>
      obtain ⟨left, scanned⟩ := parse_scanned scanner buffer
      have nonempty : buffer ≠ [] := by
        intro empty
        rw [empty] at parsed
        cases parsed
      have inside := parse_takes buffer frame size parsed
      have positive := parse_advances buffer frame size parsed
      have shorter : (buffer.drop size).length < buffer.length := by
        rw [List.length_drop]
        omega
      obtain ⟨last, taken⟩ := ih left
      rw [Scanner.takeFrames, if_neg nonempty, scanned, parsed]
      dsimp only
      rw [cut_rest buffer size inside]
      dsimp only
      rw [dif_pos shorter, taken]
      exact ⟨last, rfl⟩

theorem feed_all_scanned (scanner : Scanner) (buffer : Bytes) (chunks : List Bytes) :
    scanner.feedAll buffer chunks = some (feedAll buffer chunks) := by
  induction chunks generalizing scanner buffer with
  | nil => rfl
  | cons chunk chunks ih =>
      obtain ⟨left, taken⟩ := holds_scanned (take_frames_holds (buffer ++ chunk)) scanner
      simp only [Scanner.feedAll, taken, Option.bind_eq_bind, Option.bind_some, ih, feedAll]

theorem verdict_final (scanner : Scanner) (buffer : Bytes) :
    (scanner.parse buffer).map Prod.fst = some (parse buffer) ∧
      (∀ frame size, parse buffer = .ok (some (frame, size)) →
        3 ≤ size ∧ size ≤ buffer.length ∧
          ∀ (later : Scanner) (more : Bytes),
            (later.parse (buffer ++ more)).map Prod.fst = some (.ok (some (frame, size)))) ∧
      (∀ fault, parse buffer = .error fault →
        ∀ (later : Scanner) (more : Bytes), (later.parse (buffer ++ more)).map Prod.fst = some (.error fault)) ∧
      (scanner.takeFrames buffer).map Prod.fst = some (takeFrames buffer) ∧
      Holds buffer (takeFrames buffer) := by
  have answers : ∀ (later : Scanner) (octets : Bytes), (later.parse octets).map Prod.fst = some (parse octets) := by
    intro later octets
    obtain ⟨left, scanned⟩ := parse_scanned later octets
    rw [scanned]
    rfl
  refine ⟨answers scanner buffer, fun frame size parsed => ?_, fun fault wrong later more => ?_, ?_,
    take_frames_holds buffer⟩
  · refine ⟨parse_advances buffer frame size parsed, parse_takes buffer frame size parsed, fun later more => ?_⟩
    rw [answers, parse_append buffer more (by simp [parsed]), parsed]
  · rw [answers, parse_append buffer more (by simp [wrong]), wrong]
  · obtain ⟨left, taken⟩ := holds_scanned (take_frames_holds buffer) scanner
    rw [taken]
    rfl

-- An octet that starts no frame leaves the scanner inside of two arrays; `:7` is read all the same.
theorem stale_scanner_verdict_final :
    ({} : Scanner).parse [42, 49, 13, 10, 42, 49, 13, 10, 64] = some (.error (.unknownMarker 64), ⟨2⟩) ∧
      ((⟨2⟩ : Scanner).parse [58, 55, 13, 10]).map Prod.fst = some (.ok (some (.integer 7, 4))) ∧
      ∀ (later : Scanner) (more : Bytes),
        (later.parse ([58, 55, 13, 10] ++ more)).map Prod.fst = some (.ok (some (.integer 7, 4))) := by
  have parsed : parse [58, 55, 13, 10] = .ok (some (.integer 7, 4)) := rfl
  obtain ⟨answers, read, _⟩ := verdict_final ⟨2⟩ [58, 55, 13, 10]
  rw [parsed] at answers
  exact ⟨rfl, answers, (read _ _ parsed).2.2⟩

end DirectoryServer.Frame
