import DirectoryServer.Frame.Parser

set_option autoImplicit false

namespace DirectoryServer.Frame

def Settled {α : Type} (read : Bytes → Reading α) : Prop :=
  ∀ buffer more, read buffer ≠ .ok none → read (buffer ++ more) = read buffer

-- `ahead` octets were taken before those of the buffer.
def Takes {α : Type} (ahead : Nat) (read : Bytes → Reading α) : Prop :=
  ∀ buffer value size, read buffer = .ok (some (value, size)) → size ≤ ahead + buffer.length

theorem before_line_end_append (body bytes : Bytes) (found : beforeLineEnd body = some bytes) :
    bytes.length + 2 ≤ body.length ∧ ∀ more, beforeLineEnd (body ++ more) = some bytes := by
  induction body generalizing bytes with
  | nil => cases found
  | cons a rest ih =>
      cases rest with
      | nil => cases found
      | cons b rest =>
          by_cases ends : a = cr ∧ b = lf
          · rw [beforeLineEnd, if_pos ends] at found
            cases found
            refine ⟨by simp, fun more => ?_⟩
            rw [List.cons_append, List.cons_append, beforeLineEnd, if_pos ends]
          · rw [beforeLineEnd, if_neg ends] at found
            obtain ⟨line, later, rfl⟩ := Option.map_eq_some_iff.mp found
            obtain ⟨short, stays⟩ := ih line later
            refine ⟨by simp only [List.length_cons] at short ⊢; omega, fun more => ?_⟩
            have still := stays more
            rw [List.cons_append] at still
            rw [List.cons_append, List.cons_append, beforeLineEnd, if_neg ends, still]
            rfl

theorem read_line_settled : Settled readLine := by
  intro body more settled
  cases found : beforeLineEnd body with
  | none =>
      simp only [readLine, found] at settled
      exact absurd rfl settled
  | some bytes =>
      have stays := (before_line_end_append body bytes found).2 more
      simp only [readLine, found, stays]

theorem read_line_takes : Takes 1 readLine := by
  intro body text size read
  cases found : beforeLineEnd body with
  | none =>
      simp only [readLine, found] at read
      cases read
  | some bytes =>
      have short := (before_line_end_append body bytes found).1
      simp only [readLine, found] at read
      split at read
      · cases read
      · cases read
        omega

theorem read_integer_settled : Settled readInteger := by
  intro body more settled
  have line : readLine body ≠ .ok none := by
    intro open_
    simp only [readInteger, open_] at settled
    exact settled rfl
  rw [readInteger, read_line_settled body more line, ← readInteger]

theorem read_integer_takes : Takes 1 readInteger := by
  intro body value size read
  unfold readInteger at read
  split at read
  · cases read
  · cases read
  · rename_i line
    split at read
    · cases read
    · cases read
      exact read_line_takes body _ _ line

theorem drop_append_inside (front back : Bytes) (count : Nat) (inside : count ≤ front.length) :
    (front ++ back).drop count = front.drop count ++ back := by
  rw [List.drop_append, Nat.sub_eq_zero_of_le inside, List.drop_zero]

theorem take_append_inside (front back : Bytes) (count : Nat) (inside : count ≤ front.length) :
    (front ++ back).take count = front.take count := by
  rw [List.take_append, Nat.sub_eq_zero_of_le inside, List.take_zero, List.append_nil]

theorem read_bulk_settled (length : Int64) (header : Nat) (buffer more : Bytes)
    (inside : header ≤ buffer.length) (settled : readBulk buffer length header ≠ .ok none) :
    readBulk (buffer ++ more) length header = readBulk buffer length header := by
  unfold readBulk at settled ⊢
  by_cases absent : length = -1
  · rw [if_pos absent, if_pos absent]
  · rw [if_neg absent] at settled ⊢
    rw [if_neg absent]
    by_cases negative : length < 0
    · rw [if_pos negative, if_pos negative]
    · rw [if_neg negative] at settled ⊢
      rw [if_neg negative]
      dsimp only at settled ⊢
      by_cases large : maxBulk < length.toInt.toNat
      · rw [if_pos large, if_pos large]
      · rw [if_neg large] at settled ⊢
        rw [if_neg large]
        generalize length.toInt.toNat = size at settled ⊢
        cases tail : (buffer.drop header).drop size with
        | nil =>
            rw [tail] at settled
            exact absurd rfl settled
        | cons a rest =>
            have enough : size ≤ (buffer.drop header).length := by
              have nonempty := congrArg List.length tail
              simp only [List.length_drop, List.length_cons] at nonempty ⊢
              omega
            have grown : ((buffer ++ more).drop header).drop size = (a :: rest) ++ more := by
              rw [drop_append_inside buffer more header inside,
                drop_append_inside _ more size enough, tail]
            have same : ((buffer ++ more).drop header).take size = (buffer.drop header).take size := by
              rw [drop_append_inside buffer more header inside, take_append_inside _ more size enough]
            rw [tail] at settled
            cases rest with
            | nil => exact absurd rfl settled
            | cons b rest =>
                rw [grown, same]
                rfl

theorem read_bulk_takes (length : Int64) (header : Nat) (buffer : Bytes) (inside : header ≤ buffer.length)
    (frame : Frame) (size : Nat) (read : readBulk buffer length header = .ok (some (frame, size))) :
    size ≤ buffer.length := by
  unfold readBulk at read
  split at read
  · cases read
    exact inside
  · split at read
    · cases read
    · dsimp only at read
      split at read
      · cases read
      · split at read
        · cases read
        · cases read
        · rename_i a b rest tail
          split at read
          · cases read
            have long := congrArg List.length tail
            simp only [List.length_drop, List.length_cons] at long
            omega
          · cases read

theorem read_elements_cons (read : Bytes → Reading Frame) (count : Nat) (octet : UInt8) (body : Bytes) :
    readElements read (count + 1) (octet :: body) =
      match read (octet :: body) with
      | .error fault => .error fault
      | .ok none => .ok none
      | .ok (some (element, size)) =>
          (readElements read count ((octet :: body).drop size)).map
            (Option.map fun (later, more) => (element :: later, size + more)) := by
  rw [readElements.eq_3 _ _ _ (by simp)]
  cases read (octet :: body) with
  | error fault => rfl
  | ok found =>
      cases found with
      | none => rfl
      | some pair =>
          obtain ⟨element, size⟩ := pair
          dsimp only
          cases readElements read count ((octet :: body).drop size) with
          | error fault => rfl
          | ok found => cases found <;> rfl

theorem read_elements_settled (read : Bytes → Reading Frame) (settles : Settled read) (takes : Takes 0 read)
    (count : Nat) : Settled (readElements read count) := by
  induction count with
  | zero => exact fun _ _ _ => rfl
  | succ count ih =>
      intro buffer more settled
      cases buffer with
      | nil => exact absurd rfl settled
      | cons octet rest =>
          have grown := settles (octet :: rest) more
          rw [List.cons_append] at grown ⊢
          unfold readElements at settled ⊢
          cases first : read (octet :: rest) with
          | error fault => rw [grown (by rw [first]; nofun), first]
          | ok found =>
              cases found with
              | none =>
                  rw [first] at settled
                  exact absurd rfl settled
              | some pair =>
                  obtain ⟨element, consumed⟩ := pair
                  have inside := takes _ _ _ first
                  rw [Nat.zero_add] at inside
                  rw [first] at settled
                  rw [grown (by rw [first]; nofun), first, ← List.cons_append]
                  dsimp only at settled ⊢
                  rw [drop_append_inside _ more consumed inside]
                  cases later : readElements read count ((octet :: rest).drop consumed) with
                  | error fault => rw [ih _ more (by rw [later]; nofun), later]
                  | ok more_ =>
                      cases more_ with
                      | none =>
                          rw [later] at settled
                          exact absurd rfl settled
                      | some pair => rw [ih _ more (by rw [later]; nofun), later]

theorem read_elements_takes (read : Bytes → Reading Frame) (takes : Takes 0 read) (count : Nat) :
    Takes 0 (readElements read count) := by
  induction count with
  | zero =>
      intro buffer value size done
      cases done
      exact Nat.zero_le _
  | succ count ih =>
      intro buffer value size done
      cases buffer with
      | nil => cases done
      | cons octet rest =>
          unfold readElements at done
          split at done
          · cases done
          · cases done
          · rename_i element consumed first
            split at done
            · cases done
            · cases done
            · rename_i later extra behind
              cases done
              have inside := takes _ _ _ first
              have outside := ih _ _ _ behind
              rw [List.length_drop] at outside
              omega

theorem map_settled {α β : Type} {read : Bytes → Reading α} (make : α × Nat → β × Nat)
    (settles : Settled read) : Settled fun body => (read body).map (Option.map make) := by
  intro body more settled
  have first : read body ≠ .ok none := by
    intro open_
    dsimp only at settled
    rw [open_] at settled
    exact settled rfl
  dsimp only
  rw [settles body more first]

theorem of_map_some {α β : Type} (make : α × Nat → β × Nat) (reading : Reading α) (value : β × Nat)
    (mapped : reading.map (Option.map make) = .ok (some value)) :
    ∃ pair, reading = .ok (some pair) ∧ make pair = value := by
  cases reading with
  | error fault => cases mapped
  | ok found =>
      cases found with
      | none => cases mapped
      | some pair =>
          cases mapped
          exact ⟨pair, rfl, rfl⟩

def readArray (read : Bytes → Reading Frame) (count : Int64) (header : Nat) (buffer : Bytes) :
    Reading Frame :=
  if count = -1 then .ok (some (.null, header))
  else if count < 0 then .error (.invalidArrayLength count)
  else
    (readElements read count.toInt.toNat (buffer.drop header)).map
      (Option.map fun (elements, consumed) => (.array elements, header + consumed))

theorem read_array_settled (read : Bytes → Reading Frame) (settles : Settled read) (takes : Takes 0 read)
    (count : Int64) (header : Nat) (buffer more : Bytes) (inside : header ≤ buffer.length)
    (settled : readArray read count header buffer ≠ .ok none) :
    readArray read count header (buffer ++ more) = readArray read count header buffer := by
  unfold readArray at settled ⊢
  by_cases absent : count = -1
  · rw [if_pos absent, if_pos absent]
  · rw [if_neg absent] at settled ⊢
    rw [if_neg absent]
    by_cases negative : count < 0
    · rw [if_pos negative, if_pos negative]
    · rw [if_neg negative] at settled ⊢
      rw [if_neg negative, drop_append_inside buffer more header inside]
      exact map_settled _ (read_elements_settled read settles takes _) _ more settled

theorem read_array_takes (read : Bytes → Reading Frame) (takes : Takes 0 read) (count : Int64) (header : Nat)
    (buffer : Bytes) (inside : header ≤ buffer.length) (frame : Frame) (size : Nat)
    (done : readArray read count header buffer = .ok (some (frame, size))) :
    size ≤ buffer.length := by
  unfold readArray at done
  split at done
  · cases done
    exact inside
  · split at done
    · cases done
    · obtain ⟨⟨elements, consumed⟩, elementsRead, same⟩ := of_map_some _ _ _ done
      cases same
      have behind := read_elements_takes read takes _ _ _ _ elementsRead
      rw [List.length_drop] at behind
      omega

def readHeaded (behind : Int64 → Nat → Bytes → Reading Frame) (octet : UInt8) (body : Bytes) :
    Reading Frame :=
  match readInteger body with
  | .error fault => .error fault
  | .ok none => .ok none
  | .ok (some (number, header)) => behind number header (octet :: body)

theorem read_headed_settled (behind : Int64 → Nat → Bytes → Reading Frame) (octet : UInt8)
    (settles : ∀ number header buffer more, header ≤ buffer.length → behind number header buffer ≠ .ok none →
      behind number header (buffer ++ more) = behind number header buffer) :
    Settled (readHeaded behind octet) := by
  intro body more settled
  unfold readHeaded at settled ⊢
  cases first : readInteger body with
  | error fault => rw [read_integer_settled body more (by rw [first]; nofun), first]
  | ok found =>
      cases found with
      | none =>
          rw [first] at settled
          exact absurd rfl settled
      | some pair =>
          obtain ⟨number, header⟩ := pair
          have inside := read_integer_takes body number header first
          rw [Nat.add_comm, ← List.length_cons ] at inside
          rw [first] at settled
          rw [read_integer_settled body more (by rw [first]; nofun), first]
          exact settles number header (octet :: body) more inside settled

theorem read_headed_takes (behind : Int64 → Nat → Bytes → Reading Frame) (octet : UInt8)
    (takes : ∀ number header buffer frame size, header ≤ buffer.length →
      behind number header buffer = .ok (some (frame, size)) → size ≤ buffer.length) :
    Takes 1 (readHeaded behind octet) := by
  intro body frame size done
  unfold readHeaded at done
  split at done
  · cases done
  · cases done
  · rename_i number header first
    have inside := read_integer_takes body number header first
    rw [Nat.add_comm, ← List.length_cons ] at inside ⊢
    exact takes number header (octet :: body) frame size inside done

def readBehind (room : Nat) (octet : UInt8) : Marker → Bytes → Reading Frame
  | .simple, body =>
      (readLine body).map (Option.map fun (text, consumed) => (.simple (String.ofList text), consumed))
  | .error, body =>
      (readLine body).map (Option.map fun (text, consumed) => (.error (String.ofList text), consumed))
  | .integer, body =>
      (readInteger body).map (Option.map fun (value, consumed) => (.integer value, consumed))
  | .bulk, body => readHeaded (fun length header buffer => readBulk buffer length header) octet body
  | .array, body => readHeaded (readArray (read room)) octet body

theorem read_cons (room : Nat) (octet : UInt8) (body : Bytes) :
    read (room + 1) (octet :: body) =
      match Marker.ofOctet? octet with
      | none => .error (.unknownMarker octet)
      | some marker => readBehind room octet marker body := by
  rw [read]
  cases Marker.ofOctet? octet with
  | none => rfl
  | some marker => cases marker <;> rfl

theorem read_behind_settled (room : Nat) (settles : Settled (read room)) (takes : Takes 0 (read room))
    (octet : UInt8) (marker : Marker) : Settled (readBehind room octet marker) := by
  cases marker with
  | simple => exact map_settled _ read_line_settled
  | error => exact map_settled _ read_line_settled
  | integer => exact map_settled _ read_integer_settled
  | bulk => exact read_headed_settled _ octet read_bulk_settled
  | array => exact read_headed_settled _ octet (read_array_settled (read room) settles takes)

theorem map_takes {α β : Type} {read : Bytes → Reading α} {ahead : Nat} (make : α → β)
    (takes : Takes ahead read) :
    Takes ahead fun body => (read body).map (Option.map fun (value, consumed) => (make value, consumed)) := by
  intro body value size done
  obtain ⟨⟨first, consumed⟩, readFirst, same⟩ := of_map_some _ _ _ done
  cases same
  exact takes body _ _ readFirst

theorem read_behind_takes (room : Nat) (takes : Takes 0 (read room)) (octet : UInt8) (marker : Marker) :
    Takes 1 (readBehind room octet marker) := by
  cases marker with
  | simple => exact map_takes (fun text => Frame.simple (String.ofList text)) read_line_takes
  | error => exact map_takes (fun text => Frame.error (String.ofList text)) read_line_takes
  | integer => exact map_takes Frame.integer read_integer_takes
  | bulk =>
      refine read_headed_takes (fun length header buffer => readBulk buffer length header) octet fun length header buffer frame size inside done => ?_
      exact read_bulk_takes length header buffer inside frame size done
  | array =>
      refine read_headed_takes (readArray (read room)) octet fun count header buffer frame size inside done => ?_
      exact read_array_takes (read room) takes count header buffer inside frame size done

-- The induction is on how many arrays may still open.
theorem read_settled (room : Nat) : Settled (read room) ∧ Takes 0 (read room) := by
  induction room with
  | zero =>
      refine ⟨fun buffer more settled => ?_, fun buffer frame size done => ?_⟩
      · cases buffer with
        | nil => exact absurd rfl settled
        | cons octet body => rfl
      · cases buffer with
        | nil => cases done
        | cons octet body => cases done
  | succ room ih =>
      obtain ⟨settles, takes⟩ := ih
      refine ⟨fun buffer more settled => ?_, fun buffer frame size done => ?_⟩
      · cases buffer with
        | nil => exact absurd rfl settled
        | cons octet body =>
            rw [List.cons_append]
            rw [read_cons] at settled ⊢
            rw [read_cons]
            cases kind : Marker.ofOctet? octet with
            | none => rfl
            | some marker =>
                rw [kind] at settled
                exact read_behind_settled room settles takes octet marker body more settled
      · cases buffer with
        | nil => cases done
        | cons octet body =>
            rw [read_cons] at done
            split at done
            · cases done
            · have inside := read_behind_takes room takes octet _ body frame size done
              rw [List.length_cons]
              omega

theorem parse_append (buffer more : Bytes) (settled : parse buffer ≠ .ok none) :
    parse (buffer ++ more) = parse buffer :=
  (read_settled (maxDepth + 1)).1 buffer more settled

theorem parse_takes (buffer : Bytes) (frame : Frame) (size : Nat)
    (parsed : parse buffer = .ok (some (frame, size))) : size ≤ buffer.length := by
  have inside := (read_settled (maxDepth + 1)).2 buffer frame size parsed
  rwa [Nat.zero_add] at inside

theorem parse_short (front back : Bytes) (frame : Frame)
    (whole : parse (front ++ back) = .ok (some (frame, (front ++ back).length))) (more : back ≠ []) :
    parse front = .ok none := by
  by_cases settled : parse front = .ok none
  · exact settled
  · have early := parse_append front back settled
    rw [whole] at early
    have inside := parse_takes front frame _ early.symm
    have positive := List.length_pos_iff.mpr more
    rw [List.length_append] at inside
    omega

end DirectoryServer.Frame
