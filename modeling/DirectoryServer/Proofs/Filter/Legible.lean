import DirectoryServer.Proofs.Filter.RoundTrip

set_option autoImplicit false

namespace DirectoryServer.Filter

def Contained (attr : String) : Prop :=
  '=' ∉ attr.toList ∧ ')' ∉ attr.toList ∧ ∀ mark ∈ ['&', '|', '!'], attr.toList.head? ≠ some mark

def Settled (attr : String) : Prop :=
  attr ≠ "" ∧ Text.trim attr = attr ∧ ∀ sign ∈ ['>', '<', '~', ':'], attr.toList.getLast? ≠ some sign

def Legible : Filter → Prop
  | .and _ | .or _ | .not _ => True
  | .equality attr _ | .present attr => Contained attr ∧ Settled attr
  | .substrings attr pieces => (Contained attr ∧ Settled attr) ∧ texts pieces ≠ [] ∧ "" ∉ texts pieces
  | .unsupported _ attr _ => Contained attr

theorem unsigned_iff (attr : List Char) :
    Unsigned attr ↔ ∀ sign ∈ ['>', '<', '~', ':'], attr.getLast? ≠ some sign := by
  constructor
  · intro unsigned sign listed
    have known : ∃ relation : UnsupportedMatch, relation.sign = sign := by
      simp only [List.mem_cons, List.not_mem_nil, or_false] at listed
      rcases listed with rfl | rfl | rfl | rfl
      · exact ⟨.greaterOrEqual, rfl⟩
      · exact ⟨.lessOrEqual, rfl⟩
      · exact ⟨.approximate, rfl⟩
      · exact ⟨.extensible, rfl⟩
    obtain ⟨relation, rfl⟩ := known
    exact unsigned relation
  · intro free relation
    exact free relation.sign (by cases relation <;> simp [UnsupportedMatch.sign])

theorem contained_iff (attr : String) : Contained attr ↔ '=' ∉ attr.toList ∧ Unmarked attr.toList :=
  Iff.rfl

theorem settled_iff (attr : String) :
    Settled attr ↔ attr.toList ≠ [] ∧ Text.Trimmed attr.toList ∧ Unsigned attr.toList := by
  rw [Settled, unsigned_iff, Text.trim_text_iff, ne_eq, ne_eq, ← String.toList_inj, String.toList_empty]

theorem named_iff (attr : String) : Contained attr ∧ Settled attr ↔
    Named attr.toList ∧ Unmarked attr.toList ∧ Unsigned attr.toList := by
  rw [contained_iff, settled_iff, Named]
  constructor
  · rintro ⟨⟨free, unmarked⟩, filled, trimmed, unsigned⟩
    exact ⟨⟨filled, trimmed, free⟩, unmarked, unsigned⟩
  · rintro ⟨⟨filled, trimmed, free⟩, unmarked, unsigned⟩
    exact ⟨⟨free, unmarked⟩, filled, trimmed, unsigned⟩

theorem legible_iff (filter : Filter) : Legible filter ↔ WellRead filter ∧ Clear filter := by
  cases filter with
  | and | or | not => simp [Legible, WellRead, Clear]
  | equality attr | present attr => exact named_iff attr
  | substrings attr pieces =>
      rw [Legible, named_iff, WellRead, Clear]
      constructor
      · rintro ⟨⟨named, unmarked, unsigned⟩, several, filled⟩
        exact ⟨⟨named, filled⟩, unmarked, unsigned, several⟩
      · rintro ⟨⟨named, filled⟩, unmarked, unsigned, several⟩
        exact ⟨⟨named, unmarked, unsigned⟩, several, filled⟩
  | unsupported relation attr value => exact contained_iff attr

theorem fits_of_read {room position next : Nat} {text rest : List Char} {filter : Filter}
    (done : read room position text = .ok (filter, next, rest))
    (clear : ∀ depth node, Lies depth node filter → Clear node) : Fits room filter := by
  intro depth node lies
  obtain ⟨well, inside⟩ := read_well_read room position next text rest filter done depth node lies
  exact ⟨well, clear depth node lies, inside⟩

theorem parse_print_iff_fits (filter : Filter) :
    parse (print filter) = .ok filter ↔ Fits (maxDepth + 1) filter := by
  rw [parse_print, ← List.append_nil (printChars filter)]
  constructor
  · rintro ⟨next, done⟩
    exact fits_of_read done (clear_of_read_print _ 0 next filter [] [] done).1
  · exact read_print (maxDepth + 1) 0 filter []

theorem parse_print_iff_legible (filter : Filter) : parse (print filter) = .ok filter ↔
    ∀ depth node, Lies depth node filter → depth ≤ maxDepth ∧ Legible node := by
  rw [parse_print_iff_fits]
  constructor
  · intro fits depth node lies
    obtain ⟨well, clear, inside⟩ := fits depth node lies
    exact ⟨Nat.le_of_lt_succ inside, (legible_iff node).mpr ⟨well, clear⟩⟩
  · intro legible depth node lies
    obtain ⟨inside, own⟩ := legible depth node lies
    obtain ⟨well, clear⟩ := (legible_iff node).mp own
    exact ⟨well, clear, Nat.lt_succ_of_le inside⟩

end DirectoryServer.Filter
