import DirectoryServer.Frame.Stream
import DirectoryServer.Proofs.Frame.Prefix

set_option autoImplicit false

namespace DirectoryServer.Frame

def Advances {α : Type} (read : Bytes → Reading α) : Prop :=
  ∀ buffer value size, read buffer = .ok (some (value, size)) → 3 ≤ size

theorem read_line_advances : Advances readLine := by
  intro body text size done
  unfold readLine at done
  split at done
  · cases done
  · split at done
    · cases done
    · cases done
      exact Nat.le_add_left _ _

theorem read_integer_advances : Advances readInteger := by
  intro body value size done
  unfold readInteger at done
  split at done
  · cases done
  · cases done
  · rename_i line
    split at done
    · cases done
    · cases done
      exact read_line_advances body _ _ line

theorem read_bulk_header (length : Int64) (header : Nat) (buffer : Bytes) (frame : Frame) (size : Nat)
    (done : readBulk buffer length header = .ok (some (frame, size))) : header ≤ size := by
  unfold readBulk at done
  by_cases absent : length = -1
  · rw [if_pos absent] at done
    cases done
    exact Nat.le_refl _
  · rw [if_neg absent] at done
    by_cases negative : length < 0
    · rw [if_pos negative] at done
      cases done
    · rw [if_neg negative] at done
      dsimp only at done
      split at done
      · cases done
      · split at done
        · cases done
        · cases done
        · split at done
          · cases done
            omega
          · cases done

theorem read_array_header (read : Bytes → Reading Frame) (count : Int64) (header : Nat) (buffer : Bytes)
    (frame : Frame) (size : Nat) (done : readArray read count header buffer = .ok (some (frame, size))) :
    header ≤ size := by
  unfold readArray at done
  by_cases absent : count = -1
  · rw [if_pos absent] at done
    cases done
    exact Nat.le_refl _
  · rw [if_neg absent] at done
    by_cases negative : count < 0
    · rw [if_pos negative] at done
      cases done
    · rw [if_neg negative] at done
      obtain ⟨⟨elements, consumed⟩, _, same⟩ := of_map_some _ _ _ done
      cases same
      exact Nat.le_add_right _ _

theorem map_advances {α β : Type} {read : Bytes → Reading α} (make : α → β) (advances : Advances read) :
    Advances fun body => (read body).map (Option.map fun (value, consumed) => (make value, consumed)) := by
  intro body value size done
  obtain ⟨⟨first, consumed⟩, readFirst, same⟩ := of_map_some _ _ _ done
  cases same
  exact advances body _ _ readFirst

theorem read_headed_advances (behind : Int64 → Nat → Bytes → Reading Frame) (octet : UInt8)
    (covers : ∀ number header buffer frame size,
      behind number header buffer = .ok (some (frame, size)) → header ≤ size) :
    Advances (readHeaded behind octet) := by
  intro body frame size done
  unfold readHeaded at done
  split at done
  · cases done
  · cases done
  · rename_i number header first
    exact Nat.le_trans (read_integer_advances body number header first)
      (covers number header _ frame size done)

theorem read_behind_advances (room : Nat) (octet : UInt8) (marker : Marker) :
    Advances (readBehind room octet marker) := by
  cases marker with
  | simple => exact map_advances (fun text => Frame.simple (String.ofList text)) read_line_advances
  | error => exact map_advances (fun text => Frame.error (String.ofList text)) read_line_advances
  | integer => exact map_advances Frame.integer read_integer_advances
  | bulk =>
      apply read_headed_advances (fun length header buffer => readBulk buffer length header)
      intro length header buffer frame size done
      exact read_bulk_header length header buffer frame size done
  | array => exact read_headed_advances _ octet (read_array_header (read room))

theorem parse_advances : Advances parse := by
  intro buffer frame size done
  cases buffer with
  | nil => cases done
  | cons octet body =>
      rw [parse, read_cons] at done
      split at done
      · cases done
      · exact read_behind_advances _ octet _ body frame size done

def Batch.behind (front : List Frame) (batch : Batch) : Batch :=
  { batch with frames := front ++ batch.frames }

theorem Batch.behind_behind (first second : List Frame) (batch : Batch) :
    (batch.behind second).behind first = batch.behind (first ++ second) := by
  simp only [behind, List.append_assoc]

inductive Holds : Bytes → Batch → Prop where
  | part {buffer : Bytes} (short : parse buffer = .ok none) : Holds buffer ⟨[], none, buffer⟩
  | fault {buffer : Bytes} (cause : ParseError) (wrong : parse buffer = .error cause) :
      Holds buffer ⟨[], some cause, []⟩
  | frame {buffer : Bytes} (frame : Frame) (size : Nat) (batch : Batch)
      (parsed : parse buffer = .ok (some (frame, size))) (behind : Holds (buffer.drop size) batch) :
      Holds buffer (batch.behind [frame])

theorem holds_unique {buffer : Bytes} {batch other : Batch} (holds : Holds buffer batch)
    (holds' : Holds buffer other) : batch = other := by
  induction holds generalizing other with
  | part short =>
      cases holds' with
      | part => rfl
      | fault cause wrong => simp [short] at wrong
      | frame frame size later parsed => simp [short] at parsed
  | fault cause wrong =>
      cases holds' with
      | part short => simp [wrong] at short
      | fault cause' wrong' =>
          cases wrong.symm.trans wrong'
          rfl
      | frame frame size later parsed => simp [wrong] at parsed
  | frame frame size later parsed behind ih =>
      cases holds' with
      | part short => simp [parsed] at short
      | fault cause wrong => simp [parsed] at wrong
      | frame frame' size' later' parsed' behind' =>
          cases parsed.symm.trans parsed'
          rw [ih behind']

-- The induction is on the fuel; every frame leaves less of the buffer.
theorem take_frames_within_holds (fuel : Nat) (buffer : Bytes) (enough : buffer.length ≤ fuel) :
    Holds buffer (takeFramesWithin fuel buffer) := by
  induction fuel generalizing buffer with
  | zero =>
      cases List.eq_nil_of_length_eq_zero (Nat.le_zero.mp enough)
      exact .part rfl
  | succ fuel ih =>
      cases buffer with
      | nil => exact .part rfl
      | cons octet body =>
          rw [takeFramesWithin.eq_3 _ _ (by simp)]
          split
          · exact .fault _ ‹_›
          · exact .part ‹_›
          · rename_i frame size parsed
            have positive := parse_advances _ frame size parsed
            refine .frame frame size _ parsed (ih _ ?_)
            rw [List.length_drop]
            omega

theorem take_frames_holds (buffer : Bytes) : Holds buffer (takeFrames buffer) :=
  take_frames_within_holds buffer.length buffer (Nat.le_refl _)

theorem take_frames_of_holds {buffer : Bytes} {batch : Batch} (holds : Holds buffer batch) :
    takeFrames buffer = batch :=
  holds_unique (take_frames_holds buffer) holds

theorem holds_rest {buffer : Bytes} {batch : Batch} (holds : Holds buffer batch)
    (sound : batch.fault = none) : parse batch.rest = .ok none := by
  induction holds with
  | part short => exact short
  | fault cause wrong => cases sound
  | frame frame size batch parsed behind ih => exact ih sound

theorem holds_append {buffer : Bytes} {batch : Batch} (more : Bytes) (holds : Holds buffer batch) :
    Holds (buffer ++ more)
      (if batch.fault = none then (takeFrames (batch.rest ++ more)).behind batch.frames else batch) := by
  induction holds with
  | @part buffer short => exact take_frames_holds (buffer ++ more)
  | @fault buffer cause wrong =>
      refine .fault cause ?_
      rw [parse_append buffer more (by simp [wrong]), wrong]
  | @frame buffer frame size batch parsed behind ih =>
      have grown : parse (buffer ++ more) = .ok (some (frame, size)) := by
        rw [parse_append buffer more (by simp [parsed]), parsed]
      rw [← drop_append_inside buffer more size (parse_takes buffer frame size parsed)] at ih
      have whole := Holds.frame frame size _ grown ih
      by_cases sound : batch.fault = none
      · rw [if_pos sound, Batch.behind_behind] at whole
        rwa [if_pos (show (batch.behind [frame]).fault = none from sound)]
      · rw [if_neg sound] at whole
        rwa [if_neg (show ¬ (batch.behind [frame]).fault = none from sound)]

def delivered (rest : Bytes) : List Batch → Batch
  | [] => ⟨[], none, rest⟩
  | batch :: later =>
      if batch.fault = none then (delivered batch.rest later).behind batch.frames else batch

theorem feed_all_holds (buffer : Bytes) (chunks : List Bytes) (short : parse buffer = .ok none) :
    Holds (buffer ++ chunks.flatten) (delivered buffer (feedAll buffer chunks)) := by
  induction chunks generalizing buffer with
  | nil =>
      rw [List.flatten_nil, List.append_nil]
      exact .part short
  | cons chunk later ih =>
      have front := take_frames_holds (buffer ++ chunk)
      have whole := holds_append later.flatten front
      rw [List.flatten_cons, ← List.append_assoc, feedAll, delivered]
      by_cases sound : (takeFrames (buffer ++ chunk)).fault = none
      · rw [if_pos sound] at whole ⊢
        rwa [take_frames_of_holds (ih _ (holds_rest front sound))] at whole
      · rw [if_neg sound] at whole
        rwa [if_neg sound]

theorem any_cut_delivers_same (chunks others : List Bytes) (same : chunks.flatten = others.flatten) :
    delivered [] (feedAll [] chunks) = delivered [] (feedAll [] others) ∧
      Holds chunks.flatten (delivered [] (feedAll [] chunks)) := by
  have first : Holds chunks.flatten (delivered [] (feedAll [] chunks)) := feed_all_holds [] chunks rfl
  have second : Holds others.flatten (delivered [] (feedAll [] others)) := feed_all_holds [] others rfl
  rw [← same] at second
  exact ⟨holds_unique first second, first⟩

theorem cut_line_end_delivers_same :
    let chunks : List Bytes := [[42, 49, 13], [10, 58, 49, 13, 10, 64]]
    let others : List Bytes := [[42, 49, 13, 10, 58, 49, 13, 10, 64]]
    chunks.flatten = others.flatten ∧
      delivered [] (feedAll [] chunks) = delivered [] (feedAll [] others) ∧
      (delivered [] (feedAll [] chunks)).frames = [.array [.integer 1]] ∧
      (delivered [] (feedAll [] chunks)).fault = some (.unknownMarker 64) := by
  intro chunks others
  have same : chunks.flatten = others.flatten := by decide
  refine ⟨same, (any_cut_delivers_same chunks others same).1, ?_, ?_⟩
  · decide +kernel
  · decide +kernel

end DirectoryServer.Frame
