import DirectoryServer.Proofs.Filter.Escape
import DirectoryServer.Proofs.Text.Trim

set_option autoImplicit false

namespace DirectoryServer.Filter

def texts (pieces : Substrings) : List String :=
  pieces.initial.toList ++ pieces.any ++ pieces.final.toList

inductive ItemOf (start : Nat) (left right : List Char) : Filter → Prop where
  | unsupported {relation : UnsupportedMatch} {attr : List Char} {value : String}
      (sign : unsupportedSign? left = some (relation, attr)) (read : unescape start right = .ok value) :
      ItemOf start left right (.unsupported relation (String.ofList attr) value)
  | present (unsigned : unsupportedSign? left = none) (named : Text.trimChars left ≠ [])
      (star : right = ['*']) : ItemOf start left right (.present (String.ofList (Text.trimChars left)))
  | substrings {pieces : Substrings} (unsigned : unsupportedSign? left = none)
      (named : Text.trimChars left ≠ []) (several : right ≠ ['*']) (star : '*' ∈ right)
      (read : readSubstrings start right = .ok pieces) :
      ItemOf start left right (.substrings (String.ofList (Text.trimChars left)) pieces)
  | equality {value : String} (unsigned : unsupportedSign? left = none)
      (named : Text.trimChars left ≠ []) (plain : '*' ∉ right) (read : unescape start right = .ok value) :
      ItemOf start left right (.equality (String.ofList (Text.trimChars left)) value)

theorem item_of_read (position : Nat) (item : List Char) (filter : Filter)
    (read : readItem position item = .ok filter) :
    ∃ left right, item = left ++ '=' :: right ∧ '=' ∉ left ∧
      ItemOf (position + width left + 1) left right filter := by
  rw [readItem] at read
  cases cutAt : cut '=' item with
  | none =>
      rw [cutAt] at read
      cases read
  | some sides =>
      obtain ⟨left, right⟩ := sides
      obtain ⟨whole, free⟩ := cut_found '=' item left right cutAt
      refine ⟨left, right, whole, free, ?_⟩
      rw [cutAt] at read
      dsimp only at read
      cases sign : unsupportedSign? left with
      | some found =>
          obtain ⟨relation, attr⟩ := found
          rw [sign] at read
          obtain ⟨value, decoded, rfl⟩ := (map_ok_iff _ _ _).mp read
          exact .unsupported sign decoded
      | none =>
          rw [sign] at read
          dsimp only at read
          by_cases named : (Text.trimChars left).isEmpty = true
          · rw [if_pos named] at read
            cases read
          · rw [if_neg named] at read
            replace named : Text.trimChars left ≠ [] := fun same => named (by rw [same]; rfl)
            by_cases star : right = ['*']
            · rw [if_pos star] at read
              cases read
              exact .present sign named star
            · rw [if_neg star] at read
              by_cases several : right.contains '*' = true
              · rw [if_pos several] at read
                obtain ⟨pieces, decoded, rfl⟩ := (map_ok_iff _ _ _).mp read
                exact .substrings sign named star (List.contains_iff_mem.mp several) decoded
              · rw [if_neg several] at read
                obtain ⟨value, decoded, rfl⟩ := (map_ok_iff _ _ _).mp read
                exact .equality sign named (fun member => several (List.contains_iff_mem.mpr member)) decoded

theorem read_of_item (position : Nat) (left right : List Char) (filter : Filter) (free : '=' ∉ left)
    (stands : ItemOf (position + width left + 1) left right filter) :
    readItem position (left ++ '=' :: right) = .ok filter := by
  rw [readItem, cut_append '=' left right free]
  dsimp only
  cases stands with
  | unsupported sign read =>
      rw [sign]
      dsimp only
      rw [read]
      rfl
  | present unsigned named star =>
      have filled : ¬ (Text.trimChars left).isEmpty = true := fun empty => named (List.isEmpty_iff.mp empty)
      rw [unsigned]
      dsimp only
      rw [if_neg filled, if_pos star]
  | substrings unsigned named several star read =>
      have filled : ¬ (Text.trimChars left).isEmpty = true := fun empty => named (List.isEmpty_iff.mp empty)
      rw [unsigned]
      dsimp only
      rw [if_neg filled, if_neg several, if_pos (List.contains_iff_mem.mpr star), read]
      rfl
  | equality unsigned named plain read =>
      have filled : ¬ (Text.trimChars left).isEmpty = true := fun empty => named (List.isEmpty_iff.mp empty)
      have several : ¬ right = ['*'] := by
        rintro rfl
        exact plain List.mem_cons_self
      rw [unsigned]
      dsimp only
      rw [if_neg filled, if_neg several, if_neg (fun star => plain (List.contains_iff_mem.mp star)), read]
      rfl

theorem of_sign_iff (sign : Char) (relation : UnsupportedMatch) :
    UnsupportedMatch.ofSign? sign = some relation ↔ sign = relation.sign := by
  constructor
  · intro found
    unfold UnsupportedMatch.ofSign? at found
    split at found <;> cases found <;> rfl
  · rintro rfl
    cases relation <;> rfl

theorem unsupported_sign_append (attr : List Char) (relation : UnsupportedMatch) :
    unsupportedSign? (attr ++ [relation.sign]) = some (relation, attr) := by
  rw [unsupportedSign?, List.getLast?_concat]
  dsimp only
  rw [(of_sign_iff _ relation).mpr rfl, List.dropLast_concat]
  rfl

theorem unsupported_sign_found (left attr : List Char) (relation : UnsupportedMatch)
    (found : unsupportedSign? left = some (relation, attr)) : left = attr ++ [relation.sign] := by
  rw [unsupportedSign?] at found
  cases last : left.getLast? with
  | none =>
      rw [last] at found
      cases found
  | some sign =>
      rw [last] at found
      obtain ⟨relation', known, same⟩ := Option.map_eq_some_iff.mp found
      cases same
      obtain ⟨front, rfl⟩ := List.getLast?_eq_some_iff.mp last
      rw [List.dropLast_concat, (of_sign_iff sign relation).mp known]

theorem unsupported_sign_none (left : List Char) :
    unsupportedSign? left = none ↔ ∀ relation : UnsupportedMatch, left.getLast? ≠ some relation.sign := by
  rw [unsupportedSign?]
  cases last : left.getLast? with
  | none => simp
  | some sign =>
      dsimp only
      rw [Option.map_eq_none_iff, Option.eq_none_iff_forall_ne_some]
      constructor
      · intro unknown relation same
        exact unknown relation ((of_sign_iff sign relation).mpr (Option.some.inj same))
      · intro different relation known
        exact different relation (congrArg some ((of_sign_iff sign relation).mp known))

def Named (attr : List Char) : Prop :=
  attr ≠ [] ∧ Text.Trimmed attr ∧ '=' ∉ attr

def Unmarked (attr : List Char) : Prop :=
  ')' ∉ attr ∧ ∀ mark ∈ ['&', '|', '!'], attr.head? ≠ some mark

def Unsigned (attr : List Char) : Prop :=
  ∀ relation : UnsupportedMatch, attr.getLast? ≠ some relation.sign

def WellRead : Filter → Prop
  | .and _ | .or _ | .not _ => True
  | .equality attr _ | .present attr => Named attr.toList
  | .substrings attr pieces => Named attr.toList ∧ "" ∉ texts pieces
  | .unsupported _ attr _ => '=' ∉ attr.toList

-- Whether an assertion is written so that nothing else is written like it.
def Clear : Filter → Prop
  | .and _ | .or _ | .not _ => True
  | .equality attr _ | .present attr => Unmarked attr.toList ∧ Unsigned attr.toList
  | .substrings attr pieces => Unmarked attr.toList ∧ Unsigned attr.toList ∧ texts pieces ≠ []
  | .unsupported _ attr _ => Unmarked attr.toList

def sides? : Filter → Option (List Char × List Char)
  | .and _ | .or _ | .not _ => none
  | .equality attr value => some (attr.toList, escape value)
  | .present attr => some (attr.toList, ['*'])
  | .substrings attr pieces => some (attr.toList, printSubstrings pieces)
  | .unsupported relation attr value => some (attr.toList ++ [relation.sign], escape value)

theorem named_trim (left : List Char) (free : '=' ∉ left) (filled : Text.trimChars left ≠ []) :
    Named (String.ofList (Text.trimChars left)).toList := by
  rw [String.toList_ofList]
  exact ⟨filled, Text.trim_trimmed left, fun member => free ((Text.trim_part left).subset member)⟩

theorem read_piece_filled (position : Nat) (piece : List Char) (found : List String)
    (read : readPiece position piece = .ok found) : "" ∉ found := by
  rw [readPiece] at read
  by_cases empty : piece.isEmpty = true
  · rw [if_pos empty] at read
    cases read
    exact List.not_mem_nil
  · rw [if_neg empty] at read
    obtain ⟨value, decoded, rfl⟩ := (map_ok_iff _ _ _).mp read
    intro member
    exact unescape_filled position piece value (fun same => empty (List.isEmpty_iff.mpr same)) decoded
      (List.mem_singleton.mp member).symm

theorem read_pieces_filled (position : Nat) (pieces : List (List Char)) (any : List String)
    (final : Option String) (read : readPieces position pieces = .ok (any, final)) :
    "" ∉ any ∧ "" ∉ final.toList := by
  induction pieces generalizing position any with
  | nil =>
      cases read
      exact ⟨List.not_mem_nil, List.not_mem_nil⟩
  | cons piece rest ih =>
      cases rest with
      | nil =>
          rw [readPieces] at read
          obtain ⟨found, decoded, same⟩ := (map_ok_iff _ _ _).mp read
          cases same
          have filled := read_piece_filled position piece found decoded
          refine ⟨List.not_mem_nil, fun member => filled ?_⟩
          exact List.mem_of_mem_head? (Option.mem_toList.mp member)
      | cons next rest =>
          rw [readPieces] at read
          cases decoded : readPiece position piece with
          | error fault =>
              rw [decoded] at read
              cases read
          | ok found =>
              rw [decoded] at read
              obtain ⟨⟨more, last⟩, behind, same⟩ := (map_ok_iff _ _ _).mp read
              cases same
              obtain ⟨later, ends⟩ := ih _ more behind
              refine ⟨fun member => ?_, ends⟩
              rcases List.mem_append.mp member with head | tail
              · exact read_piece_filled position piece found decoded head
              · exact later tail
          · simp

theorem read_substrings_filled (position : Nat) (value : List Char) (pieces : Substrings)
    (read : readSubstrings position value = .ok pieces) : "" ∉ texts pieces := by
  rw [readSubstrings] at read
  cases split : splitStars [] value with
  | nil =>
      rw [split] at read
      cases read
      exact List.not_mem_nil
  | cons first rest =>
      rw [split] at read
      dsimp only at read
      cases decoded : readPiece position first with
      | error fault =>
          rw [decoded] at read
          cases read
      | ok initial =>
          rw [decoded] at read
          obtain ⟨⟨any, final⟩, behind, same⟩ := (map_ok_iff _ _ _).mp read
          cases same
          obtain ⟨later, ends⟩ := read_pieces_filled _ rest any final behind
          intro member
          rcases List.mem_append.mp member with front | back
          · rcases List.mem_append.mp front with head | middle
            · exact read_piece_filled position first initial decoded
                (List.mem_of_mem_head? (Option.mem_toList.mp head))
            · exact later middle
          · exact ends back

theorem item_well_read (start : Nat) (left right : List Char) (filter : Filter) (free : '=' ∉ left)
    (stands : ItemOf start left right filter) : WellRead filter := by
  cases stands with
  | @unsupported relation attr value sign read =>
      rw [unsupported_sign_found left attr relation sign] at free
      rw [WellRead, String.toList_ofList]
      exact fun member => free (List.mem_append_left _ member)
  | present unsigned named star => exact named_trim left free named
  | substrings unsigned named several star read =>
      exact ⟨named_trim left free named, read_substrings_filled start right _ read⟩
  | equality unsigned named plain read => exact named_trim left free named

theorem escape_filled (value : String) (filled : value ≠ "") : escape value ≠ [] := by
  intro empty
  have read := unescape_escape 0 value
  rw [empty] at read
  exact filled (Except.ok.inj read).symm

def printOptional (piece : Option String) : List Char :=
  (piece.map escape).getD []

theorem print_optional_free (mark : Char) (marked : mark ∈ ['*', '(', ')']) (piece : Option String) :
    mark ∉ printOptional piece := by
  cases piece with
  | none => exact List.not_mem_nil
  | some value => exact escape_free mark marked value

theorem read_piece_escape (position : Nat) (value : String) (filled : value ≠ "") :
    readPiece position (escape value) = .ok [value] := by
  have written : ¬ (escape value).isEmpty = true := fun empty =>
    escape_filled value filled (List.isEmpty_iff.mp empty)
  rw [readPiece, if_neg written, unescape_escape]
  rfl

theorem read_piece_print (position : Nat) (piece : Option String) (filled : "" ∉ piece.toList) :
    readPiece position (printOptional piece) = .ok piece.toList := by
  cases piece with
  | none => rfl
  | some value => exact read_piece_escape position value fun same => filled (by simp [same])

theorem read_pieces_print (position : Nat) (any : List String) (final : Option String)
    (filled : "" ∉ any) (ends : "" ∉ final.toList) :
    readPieces position (any.map escape ++ [printOptional final]) = .ok (any, final) := by
  induction any generalizing position with
  | nil =>
      rw [List.map_nil, List.nil_append, readPieces, read_piece_print position final ends]
      cases final <;> rfl
  | cons piece any ih =>
      rw [List.map_cons, List.cons_append, readPieces.eq_3 _ _ _ (by simp),
        read_piece_escape position piece (fun same => filled (by simp [same]))]
      dsimp only
      rw [ih _ fun member => filled (List.mem_cons_of_mem piece member)]
      rfl

theorem split_print_any (any : List String) (final : Option String) :
    splitStars [] (any.flatMap (fun piece => escape piece ++ ['*']) ++ printOptional final) =
      any.map escape ++ [printOptional final] := by
  induction any with
  | nil => exact split_stars_free [] _ (print_optional_free '*' (by decide) final)
  | cons piece any ih =>
      rw [List.flatMap_cons, List.append_assoc, List.append_assoc, List.singleton_append,
        split_stars_append [] _ _ (escape_free '*' (by decide) piece), ih]
      rfl

theorem read_substrings_print (start : Nat) (pieces : Substrings) (filled : "" ∉ texts pieces) :
    readSubstrings start (printSubstrings pieces) = .ok pieces := by
  have split : splitStars [] (printSubstrings pieces) =
      printOptional pieces.initial :: (pieces.any.map escape ++ [printOptional pieces.final]) := by
    rw [← split_print_any, printSubstrings, List.append_assoc, List.append_assoc]
    exact split_stars_append [] _ _ (print_optional_free '*' (by decide) pieces.initial)
  simp only [texts, List.mem_append, not_or] at filled
  rw [readSubstrings, split]
  dsimp only
  rw [read_piece_print start pieces.initial filled.1.1]
  dsimp only
  rw [read_pieces_print _ pieces.any pieces.final filled.1.2 filled.2]
  obtain ⟨initial, any, final⟩ := pieces
  cases initial <;> rfl

theorem print_substrings_star (pieces : Substrings) : '*' ∈ printSubstrings pieces := by
  simp [printSubstrings]

theorem print_substrings_iff (pieces : Substrings) (filled : "" ∉ texts pieces) :
    printSubstrings pieces = ['*'] ↔ texts pieces = [] := by
  constructor
  · intro bare
    have read := read_substrings_print 0 pieces filled
    rw [bare] at read
    cases read
    rfl
  · intro none
    obtain ⟨initial, any, final⟩ := pieces
    simp only [texts, List.append_eq_nil_iff, Option.toList_eq_nil_iff] at none
    obtain ⟨⟨rfl, rfl⟩, rfl⟩ := none
    rfl

theorem unmarked_sign (attr : List Char) (relation : UnsupportedMatch) :
    Unmarked (attr ++ [relation.sign]) ↔ Unmarked attr := by
  have known : relation.sign ∉ [')', '&', '|', '!'] := by cases relation <;> decide
  have inside : ')' ∈ attr ++ [relation.sign] ↔ ')' ∈ attr := by
    rw [List.mem_append, List.mem_singleton]
    exact or_iff_left fun same => known (by rw [← same]; decide)
  cases attr with
  | nil =>
      refine ⟨fun _ => ⟨List.not_mem_nil, fun _ _ => by simp⟩, fun _ => ⟨by simpa using inside, ?_⟩⟩
      intro mark marked same
      refine known (List.mem_cons_of_mem ')' ?_)
      rwa [Option.some.inj same]
  | cons c attr => rw [Unmarked, Unmarked, inside, List.cons_append, List.head?_cons, List.head?_cons]

theorem unmarked_of_clear {filter : Filter} {left right : List Char}
    (sides : sides? filter = some (left, right)) (clear : Clear filter) : Unmarked left := by
  cases filter with
  | and | or | not => cases sides
  | equality | present | substrings =>
      cases sides
      exact clear.1
  | unsupported relation attr value =>
      cases sides
      exact (unmarked_sign attr.toList relation).mpr clear

theorem left_free {filter : Filter} {left right : List Char} (sides : sides? filter = some (left, right))
    (read : WellRead filter) : '=' ∉ left := by
  cases filter with
  | and | or | not => cases sides
  | equality | present =>
      cases sides
      exact read.2.2
  | substrings =>
      cases sides
      exact read.1.2.2
  | unsupported relation attr value =>
      cases sides
      intro member
      rcases List.mem_append.mp member with inside | last
      · exact read inside
      · cases relation <;> exact absurd last (by decide)

theorem item_of_clear (start : Nat) {filter : Filter} {left right : List Char}
    (sides : sides? filter = some (left, right)) (read : WellRead filter) (clear : Clear filter) :
    ItemOf start left right filter := by
  have trimmed : ∀ attr : String, Named attr.toList →
      Text.trimChars attr.toList ≠ [] ∧ String.ofList (Text.trimChars attr.toList) = attr := by
    intro attr named
    rw [Text.trim_of_trimmed _ named.2.1, String.ofList_toList]
    exact ⟨named.1, rfl⟩
  cases filter with
  | and | or | not => cases sides
  | equality attr value =>
      cases sides
      obtain ⟨filled, same⟩ := trimmed attr read
      have stands := @ItemOf.equality start _ _ _ ((unsupported_sign_none _).mpr clear.2) filled
        (escape_free '*' (by decide) value) (unescape_escape start value)
      rwa [same] at stands
  | present attr =>
      cases sides
      obtain ⟨filled, same⟩ := trimmed attr read
      have stands := @ItemOf.present start _ _ ((unsupported_sign_none _).mpr clear.2) filled rfl
      rwa [same] at stands
  | substrings attr pieces =>
      cases sides
      obtain ⟨filled, same⟩ := trimmed attr read.1
      have several : printSubstrings pieces ≠ ['*'] := fun bare =>
        clear.2.2 ((print_substrings_iff pieces read.2).mp bare)
      have stands := ItemOf.substrings ((unsupported_sign_none _).mpr clear.2.1) filled several
        (print_substrings_star pieces) (read_substrings_print start pieces read.2)
      rwa [same] at stands
  | unsupported relation attr value =>
      cases sides
      have stands := ItemOf.unsupported (unsupported_sign_append attr.toList relation)
        (unescape_escape start value)
      rwa [String.ofList_toList] at stands

theorem item_unsigned {start : Nat} {left right : List Char} {filter : Filter}
    (stands : ItemOf start left right filter)
    (supported : ∀ relation attr value, filter ≠ .unsupported relation attr value) : Unsigned left := by
  rw [Unsigned, ← unsupported_sign_none]
  cases stands with
  | unsupported => exact absurd rfl (supported _ _ _)
  | present unsigned | substrings unsigned | equality unsigned => exact unsigned

theorem item_several {start : Nat} {left right : List Char} {filter : Filter}
    (stands : ItemOf start left right filter) (attr : String) (pieces : Substrings)
    (same : filter = .substrings attr pieces) : right ≠ ['*'] := by
  cases stands with
  | substrings _ _ several => exact several
  | unsupported | present | equality => cases same

theorem clear_of_item {start : Nat} {filter : Filter} {left right : List Char}
    (sides : sides? filter = some (left, right)) (unmarked : Unmarked left)
    (stands : ItemOf start left right filter) : Clear filter := by
  cases filter with
  | and | or | not => trivial
  | equality attr value =>
      cases sides
      exact ⟨unmarked, item_unsigned stands (by simp)⟩
  | present attr =>
      cases sides
      exact ⟨unmarked, item_unsigned stands (by simp)⟩
  | substrings attr pieces =>
      cases sides
      refine ⟨unmarked, item_unsigned stands (by simp), fun none => ?_⟩
      have filled : "" ∉ texts pieces := by
        rw [none]
        exact List.not_mem_nil
      exact item_several stands attr pieces rfl ((print_substrings_iff pieces filled).mpr none)
  | unsupported relation attr value =>
      cases sides
      exact (unmarked_sign attr.toList relation).mp unmarked

end DirectoryServer.Filter
