import DirectoryServer.Proofs.Frame.Spelling

set_option autoImplicit false

namespace DirectoryServer.Frame

theorem read_portable (room : Nat) (buffer : Bytes) (frame : Frame) (size : Nat)
    (done : read room buffer = .ok (some (frame, size))) (depth : Nat) (node : Frame)
    (lies : Lies depth node frame) : Portable node ∧ depth < room := by
  obtain ⟨portable, inside, _⟩ := (read_shortest room buffer frame size done).1 depth node lies
  exact ⟨portable, inside⟩

theorem parse_serialize_iff (frame : Frame)
    (counted : ∀ depth elements, Lies depth (.array elements) frame →
      elements.length ≤ Text.maxInt64) :
    (∀ rest, parse (serialize frame ++ rest) = .ok (some (frame, (serialize frame).length))) ↔
      ∀ depth node, Lies depth node frame → Portable node ∧ depth ≤ maxDepth := by
  constructor
  · intro back depth node lies
    obtain ⟨portable, inside⟩ := read_portable _ _ frame _ (back []) depth node lies
    exact ⟨portable, Nat.le_of_lt_succ inside⟩
  · intro fits rest
    apply read_serialize
    intro depth node lies
    obtain ⟨portable, inside⟩ := fits depth node lies
    refine ⟨portable, Nat.lt_succ_of_le inside, ?_⟩
    rintro elements rfl
    exact counted depth elements lies

def nestedFrame : Frame :=
  .array [.simple "a\r", .array [.bulk lineEnd, .array []], .null, .integer (-1)]

theorem nested_frame_places (depth : Nat) (node : Frame) (lies : Lies depth node nestedFrame) :
    depth ≤ 2 ∧ Portable node ∧ ∀ elements, node = .array elements → elements.length ≤ 4 := by
  have ends_in_return : ¬ lineEnd <:+: Text.encode "a\r" :=
    before_line_end_free [97, 13, 13, 10] [97, 13] rfl
  simp only [nestedFrame, lies_array, List.mem_cons, List.not_mem_nil, or_false, ne_eq, reduceCtorEq,
    not_false_eq_true, implies_true, lies_leaf, exists_eq_or_imp, exists_eq_left, false_and,
    exists_false, and_false] at lies
  rcases lies with ⟨rfl, rfl⟩ | ⟨_, rfl, ⟨rfl, rfl⟩ |
    (⟨rfl, rfl⟩ | ⟨_, rfl, ⟨rfl, rfl⟩ | ⟨rfl, rfl⟩⟩) | ⟨rfl, rfl⟩ | ⟨rfl, rfl⟩⟩
  · exact ⟨by decide, trivial, fun elements same => by cases same; decide⟩
  · exact ⟨by decide, ends_in_return, fun elements same => by cases same⟩
  · exact ⟨by decide, trivial, fun elements same => by cases same; decide⟩
  · exact ⟨by decide, by simp [Portable, maxBulk, lineEnd], fun elements same => by cases same⟩
  · exact ⟨by decide, trivial, fun elements same => by cases same; decide⟩
  · exact ⟨by decide, trivial, fun elements same => by cases same⟩
  · exact ⟨by decide, trivial, fun elements same => by cases same⟩

theorem nested_frame_parse_serialize :
    (∀ depth elements, Lies depth (.array elements) nestedFrame →
      elements.length ≤ Text.maxInt64) ∧
    (∀ depth node, Lies depth node nestedFrame → Portable node ∧ depth ≤ maxDepth) ∧
    ∀ rest, parse (serialize nestedFrame ++ rest) =
      .ok (some (nestedFrame, (serialize nestedFrame).length)) := by
  have counted : ∀ depth elements, Lies depth (.array elements) nestedFrame →
      elements.length ≤ Text.maxInt64 := by
    intro depth elements lies
    exact Nat.le_trans ((nested_frame_places depth _ lies).2.2 elements rfl) (by decide)
  have portable : ∀ depth node, Lies depth node nestedFrame → Portable node ∧ depth ≤ maxDepth := by
    intro depth node lies
    obtain ⟨shallow, portable, _⟩ := nested_frame_places depth node lies
    exact ⟨portable, Nat.le_trans shallow (by decide)⟩
  exact ⟨counted, portable, (parse_serialize_iff nestedFrame counted).mpr portable⟩

theorem parsed_frame_rewritten (buffer : Bytes) (frame : Frame) (size : Nat)
    (parsed : parse buffer = .ok (some (frame, size))) :
    (serialize frame).length ≤ size ∧
      parse (serialize frame) = .ok (some (frame, (serialize frame).length)) := by
  obtain ⟨fits, short⟩ := read_shortest (maxDepth + 1) buffer frame size parsed
  have back := read_serialize (maxDepth + 1) frame [] fits
  rw [List.append_nil] at back
  exact ⟨short, back⟩

-- `*+02 :-007 *-01` and a further octet: counts and numbers with signs and zeros, and the absent value in
-- the form of an array.
theorem signed_counts_rewritten :
    let buffer : Bytes := [42, 43, 48, 50, 13, 10, 58, 45, 48, 48, 55, 13, 10, 42, 45, 48, 49, 13, 10, 43]
    let frame : Frame := .array [.integer (-7), .null]
    parse buffer = .ok (some (frame, 19)) ∧ (serialize frame).length = 14 ∧ (serialize frame).length ≤ 19 ∧
      parse (serialize frame) = .ok (some (frame, (serialize frame).length)) := by
  intro buffer frame
  have parsed : parse buffer = .ok (some (frame, 19)) := rfl
  exact ⟨parsed, rfl, parsed_frame_rewritten buffer frame 19 parsed⟩

end DirectoryServer.Frame
