import DirectoryServer.Proofs.Filter.Item
import DirectoryServer.Text.Lowercase

set_option autoImplicit false

namespace DirectoryServer.Filter

def hexDigits : List Char :=
  ['0', '1', '2', '3', '4', '5', '6', '7', '8', '9', 'a', 'b', 'c', 'd', 'e', 'f']

def HexDigit (c : Char) (value : Nat) : Prop :=
  hexDigits.idxOf? (Text.asciiLowerChar c) = some value

-- Two characters that are a number in base sixteen: digits, with or without a plus sign before them.
inductive HexOctet : (first second : Char) → UInt8 → Prop where
  | digits {first second : Char} {high low : Nat} (upper : HexDigit first high) (lower : HexDigit second low) :
      HexOctet first second (UInt8.ofNat (high * 16 + low))
  | signed {second : Char} {low : Nat} (lower : HexDigit second low) : HexOctet '+' second (UInt8.ofNat low)

inductive Decodes : List Char → Bytes → Prop where
  | nil : Decodes [] []
  | code {first second : Char} {octet : UInt8} {rest : List Char} {octets : Bytes}
      (number : HexOctet first second octet) (behind : Decodes rest octets) :
      Decodes ('\\' :: first :: second :: rest) (octet :: octets)
  | plain {c : Char} {rest : List Char} {octets : Bytes} (own : c ≠ '\\') (behind : Decodes rest octets) :
      Decodes (c :: rest) (String.utf8EncodeChar c ++ octets)

def Spells (value : List Char) (text : String) : Prop :=
  Decodes value (Text.encode text)

inductive PiecesOf : List (List Char) → List String → Prop where
  | nil : PiecesOf [] []
  | dropped {rest : List (List Char)} {found : List String} (behind : PiecesOf rest found) :
      PiecesOf ([] :: rest) found
  | spelt {piece : List Char} {text : String} {rest : List (List Char)} {found : List String}
      (filled : piece ≠ []) (spells : Spells piece text) (behind : PiecesOf rest found) :
      PiecesOf (piece :: rest) (text :: found)

inductive SubstringsOf : List Char → Substrings → Prop where
  | cut {first last : List Char} {middle : List (List Char)} {initial final : Option String}
      {any : List String} (free : ∀ piece ∈ first :: (middle ++ [last]), '*' ∉ piece)
      (starts : PiecesOf [first] initial.toList) (between : PiecesOf middle any)
      (ends : PiecesOf [last] final.toList) :
      SubstringsOf (List.intercalate ['*'] (first :: (middle ++ [last]))) ⟨initial, any, final⟩

inductive Asserts : List Char → Filter → Prop where
  | unsupported {attr right : List Char} {relation : UnsupportedMatch} {value : String}
      (first : '=' ∉ attr ++ [relation.sign]) (spells : Spells right value) :
      Asserts (attr ++ [relation.sign] ++ '=' :: right) (.unsupported relation (String.ofList attr) value)
  | present {left : List Char} (first : '=' ∉ left) (unsigned : Unsigned left)
      (named : Text.trimChars left ≠ []) :
      Asserts (left ++ '=' :: ['*']) (.present (String.ofList (Text.trimChars left)))
  | substrings {left right : List Char} {pieces : Substrings} (first : '=' ∉ left) (unsigned : Unsigned left)
      (named : Text.trimChars left ≠ []) (several : right ≠ ['*']) (star : '*' ∈ right)
      (split : SubstringsOf right pieces) :
      Asserts (left ++ '=' :: right) (.substrings (String.ofList (Text.trimChars left)) pieces)
  | equality {left right : List Char} {value : String} (first : '=' ∉ left) (unsigned : Unsigned left)
      (named : Text.trimChars left ≠ []) (plain : '*' ∉ right) (spells : Spells right value) :
      Asserts (left ++ '=' :: right) (.equality (String.ofList (Text.trimChars left)) value)

theorem hex_value_ascii : ∀ code : Fin 128,
    hexValue? (Char.ofNat code) = hexDigits.idxOf? (Text.asciiLowerChar (Char.ofNat code)) := by
  decide

theorem hex_value_above (c : Char) (high : 128 ≤ c.toNat) :
    hexValue? c = none ∧ hexDigits.idxOf? (Text.asciiLowerChar c) = none := by
  have above : ∀ bound : Char, bound.toNat < 128 → ¬ c ≤ bound := fun bound low below =>
    Nat.not_le_of_lt (Nat.lt_of_lt_of_le low high) (UInt32.le_iff_toNat_le.mp (Char.le_def.mp below))
  constructor
  · rw [hexValue?, if_neg fun range => above '9' (by decide) range.2,
      if_neg fun range => above 'f' (by decide) range.2, if_neg fun range => above 'F' (by decide) range.2]
  · have same : Text.asciiLowerChar c = c := by
      rw [Text.asciiLowerChar, Text.isAsciiUpper, if_neg (by simp [above 'Z' (by decide)])]
    have listed : hexDigits.all (·.toNat < 128) = true := rfl
    rw [same, List.idxOf?_eq_none_iff]
    exact fun member => Nat.not_lt_of_le high (of_decide_eq_true (List.all_eq_true.mp listed c member))

-- A table for ASCII; no character above it is a digit.
theorem hex_value_iff (c : Char) (value : Nat) : hexValue? c = some value ↔ HexDigit c value := by
  rw [HexDigit]
  by_cases ascii : c.toNat < 128
  · have table := hex_value_ascii ⟨c.toNat, ascii⟩
    rw [Char.ofNat_toNat] at table
    rw [table]
  · obtain ⟨none, unlisted⟩ := hex_value_above c (Nat.le_of_not_lt ascii)
    rw [none, unlisted]

theorem hex_octet_iff (first second : Char) (octet : UInt8) :
    hexOctet? first second = some octet ↔ HexOctet first second octet := by
  rw [hexOctet?]
  constructor
  · intro found
    cases lower : hexValue? second with
    | none =>
        rw [lower] at found
        cases found
    | some low =>
        rw [lower] at found
        dsimp only at found
        have digit := (hex_value_iff second low).mp lower
        by_cases plus : first = '+'
        · rw [if_pos plus] at found
          cases found
          subst plus
          exact .signed digit
        · rw [if_neg plus] at found
          obtain ⟨high, upper, rfl⟩ := Option.map_eq_some_iff.mp found
          exact .digits ((hex_value_iff first high).mp upper) digit
  · intro number
    cases number with
    | @digits _ _ high low upper lower =>
        have known := (hex_value_iff first high).mpr upper
        have signless : first ≠ '+' := by
          rintro rfl
          cases known
        rw [(hex_value_iff second low).mpr lower]
        dsimp only
        rw [if_neg signless, known]
        rfl
    | @signed _ low lower =>
        rw [(hex_value_iff second low).mpr lower]
        rfl

theorem unescape_bytes_iff (position : Nat) (value : List Char) (octets : Bytes) :
    unescapeBytes position value = .ok octets ↔ Decodes value octets := by
  constructor
  · intro read
    fun_induction unescapeBytes position value generalizing octets with
    | case1 =>
        cases read
        exact .nil
    | case2 position first second rest none => cases read
    | case3 position first second rest octet code ih =>
        obtain ⟨behind, inner, rfl⟩ := (map_ok_iff _ _ _).mp read
        exact .code ((hex_octet_iff first second octet).mp code) (ih behind inner)
    | case4 => cases read
    | case5 position c rest _ own ih =>
        obtain ⟨behind, inner, rfl⟩ := (map_ok_iff _ _ _).mp read
        exact .plain own (ih behind inner)
  · intro decodes
    induction decodes generalizing position with
    | nil => rfl
    | code number behind ih =>
        rw [unescape_code _ _ _ _ _ ((hex_octet_iff _ _ _).mpr number), ih]
        rfl
    | plain own behind ih =>
        rw [unescape_plain _ _ _ own, ih]
        rfl

theorem unescape_iff (position : Nat) (value : List Char) (text : String) :
    unescape position value = .ok text ↔ Spells value text := by
  rw [Spells, ← unescape_bytes_iff position, unescape]
  cases unescapeBytes position value with
  | error fault => simp
  | ok octets =>
      dsimp only
      rw [Except.ok.injEq, @eq_comm _ octets, ← Text.decode_iff octets text]
      cases Text.decode octets <;> simp

theorem read_piece_iff (position : Nat) (piece : List Char) (found : List String) :
    readPiece position piece = .ok found ↔ PiecesOf [piece] found := by
  rw [readPiece]
  cases piece with
  | nil =>
      rw [if_pos List.isEmpty_nil]
      constructor
      · intro read
        cases read
        exact .dropped .nil
      · intro pieces
        cases pieces with
        | dropped behind =>
            cases behind
            rfl
        | spelt filled => exact absurd rfl filled
  | cons c rest =>
      rw [if_neg (by simp), map_ok_iff]
      constructor
      · rintro ⟨text, read, rfl⟩
        exact .spelt (List.cons_ne_nil c rest) ((unescape_iff _ _ _).mp read) .nil
      · intro pieces
        cases pieces with
        | @spelt _ text _ _ _ spells behind =>
            cases behind
            exact ⟨text, (unescape_iff _ _ _).mpr spells, rfl⟩

theorem pieces_cons (piece : List Char) (rest : List (List Char)) (found : List String) :
    PiecesOf (piece :: rest) found ↔
      ∃ own behind, found = own ++ behind ∧ PiecesOf [piece] own ∧ PiecesOf rest behind := by
  constructor
  · intro pieces
    cases pieces with
    | dropped behind => exact ⟨[], found, rfl, .dropped .nil, behind⟩
    | @spelt _ text _ found filled spells behind => exact ⟨[text], found, rfl, .spelt filled spells .nil, behind⟩
  · rintro ⟨own, behind, rfl, pieces, later⟩
    cases pieces with
    | dropped none =>
        cases none
        exact .dropped later
    | spelt filled spells none =>
        cases none
        exact .spelt filled spells later

theorem pieces_single {piece : List Char} {found : List String} (pieces : PiecesOf [piece] found) :
    found.head?.toList = found := by
  cases pieces with
  | dropped none | spelt _ _ none =>
      cases none
      rfl

theorem read_piece_head_iff (position : Nat) (piece : List Char) (asked : Option String) :
    (∃ found, readPiece position piece = .ok found ∧ found.head? = asked) ↔ PiecesOf [piece] asked.toList := by
  constructor
  · rintro ⟨found, read, rfl⟩
    have pieces := (read_piece_iff position piece found).mp read
    rwa [pieces_single pieces]
  · intro pieces
    exact ⟨asked.toList, (read_piece_iff position piece _).mpr pieces, Option.head?_toList⟩

theorem read_pieces_iff (position : Nat) (middle : List (List Char)) (last : List Char) (any : List String)
    (final : Option String) : readPieces position (middle ++ [last]) = .ok (any, final) ↔
      PiecesOf middle any ∧ PiecesOf [last] final.toList := by
  induction middle generalizing position any with
  | nil =>
      rw [List.nil_append, readPieces, map_ok_iff, ← read_piece_head_iff position]
      constructor
      · rintro ⟨found, read, same⟩
        cases same
        exact ⟨.nil, found, read, rfl⟩
      · rintro ⟨none, found, read, rfl⟩
        cases none
        exact ⟨found, read, rfl⟩
  | cons piece middle ih =>
      rw [List.cons_append, readPieces.eq_3 _ _ _ (by simp), pieces_cons]
      constructor
      · intro read
        cases own : readPiece position piece with
        | error fault =>
            rw [own] at read
            cases read
        | ok found =>
            rw [own] at read
            obtain ⟨⟨more, ending⟩, later, same⟩ := (map_ok_iff _ _ _).mp read
            cases same
            obtain ⟨behind, ends⟩ := (ih _ more).mp later
            exact ⟨⟨found, more, rfl, (read_piece_iff _ _ _).mp own, behind⟩, ends⟩
      · rintro ⟨⟨own, behind, rfl, pieces, later⟩, ends⟩
        rw [(read_piece_iff position piece own).mpr pieces]
        dsimp only
        rw [(ih _ behind).mpr ⟨later, ends⟩]
        rfl

-- By induction on the value, where `piece` is what stands since the last star, backwards.
theorem split_stars_cut (piece value : List Char) :
    ∃ first rest, splitStars piece value = (piece.reverse ++ first) :: rest ∧
      value = List.intercalate ['*'] (first :: rest) ∧ ∀ part ∈ first :: rest, '*' ∉ part := by
  induction value generalizing piece with
  | nil => exact ⟨[], [], by rw [splitStars, List.append_nil], by simp, by simp⟩
  | cons c value ih =>
      rw [splitStars]
      by_cases star : c = '*'
      · obtain ⟨first, rest, split, whole, free⟩ := ih []
        subst star
        refine ⟨[], first :: rest, ?_, ?_, ?_⟩
        · rw [if_pos rfl, split, List.append_nil]
          rfl
        · rw [List.intercalate_cons_cons, ← whole]
          rfl
        · intro part member
          rcases List.mem_cons.mp member with rfl | member
          · exact List.not_mem_nil
          · exact free part member
      · obtain ⟨first, rest, split, whole, free⟩ := ih (c :: piece)
        refine ⟨c :: first, rest, ?_, ?_, ?_⟩
        · rw [if_neg star, split, List.reverse_cons, List.append_assoc]
          rfl
        · rw [whole]
          cases rest <;> simp
        · intro part member
          rcases List.mem_cons.mp member with rfl | member
          · intro inside
            rcases List.mem_cons.mp inside with same | inside
            · exact star same.symm
            · exact free first List.mem_cons_self inside
          · exact free part (List.mem_cons_of_mem first member)

theorem split_stars_join (first : List Char) (rest : List (List Char))
    (free : ∀ part ∈ first :: rest, '*' ∉ part) :
    splitStars [] (List.intercalate ['*'] (first :: rest)) = first :: rest := by
  induction rest generalizing first with
  | nil => rw [List.intercalate_singleton, split_stars_free [] first (free first List.mem_cons_self)]; rfl
  | cons next rest ih =>
      rw [List.intercalate_cons_cons, List.append_assoc, List.singleton_append,
        split_stars_append [] first _ (free first List.mem_cons_self),
        ih next fun part member => free part (List.mem_cons_of_mem first member)]
      rfl

theorem read_substrings_iff (start : Nat) (right : List Char) (pieces : Substrings) (star : '*' ∈ right) :
    readSubstrings start right = .ok pieces ↔ SubstringsOf right pieces := by
  constructor
  · intro read
    obtain ⟨first, rest, split, whole, free⟩ := split_stars_cut [] right
    -- A star leaves two pieces at least, so there is a last one behind the first.
    obtain ⟨middle, last, rfl⟩ : ∃ middle last, rest = middle ++ [last] := by
      cases rest with
      | nil =>
          rw [whole, List.intercalate_singleton] at star
          exact absurd star (free first List.mem_cons_self)
      | cons next rest => exact ⟨_, _, (List.dropLast_concat_getLast (List.cons_ne_nil next rest)).symm⟩
    rw [readSubstrings, split] at read
    dsimp only [List.reverse_nil, List.nil_append] at read
    cases own : readPiece start first with
    | error fault =>
        rw [own] at read
        cases read
    | ok found =>
        rw [own] at read
        obtain ⟨⟨any, final⟩, later, rfl⟩ := (map_ok_iff _ _ _).mp read
        obtain ⟨between, ends⟩ := (read_pieces_iff _ _ _ _ _).mp later
        rw [whole]
        exact .cut free ((read_piece_head_iff start first _).mp ⟨found, own, rfl⟩) between ends
  · intro split
    cases split with
    | @cut first last middle initial final any free starts between ends =>
        obtain ⟨found, own, rfl⟩ := (read_piece_head_iff start first initial).mpr starts
        rw [readSubstrings, split_stars_join first _ free]
        dsimp only
        rw [own]
        dsimp only
        rw [(read_pieces_iff _ middle last any final).mpr ⟨between, ends⟩]
        rfl

theorem asserts_of_item {start : Nat} {left right : List Char} {filter : Filter} (free : '=' ∉ left)
    (stands : ItemOf start left right filter) : Asserts (left ++ '=' :: right) filter := by
  cases stands with
  | @unsupported relation attr value sign read =>
      rw [unsupported_sign_found left attr relation sign] at free ⊢
      exact .unsupported free ((unescape_iff _ _ _).mp read)
  | present unsigned named star =>
      rw [star]
      exact .present free ((unsupported_sign_none left).mp unsigned) named
  | substrings unsigned named several star read =>
      exact .substrings free ((unsupported_sign_none left).mp unsigned) named several star
        ((read_substrings_iff start right _ star).mp read)
  | equality unsigned named plain read =>
      exact .equality free ((unsupported_sign_none left).mp unsigned) named plain ((unescape_iff _ _ _).mp read)

theorem item_of_asserts {item : List Char} {filter : Filter} (asserts : Asserts item filter) :
    ∃ left right, item = left ++ '=' :: right ∧ '=' ∉ left ∧ ∀ start, ItemOf start left right filter := by
  cases asserts with
  | @unsupported attr right relation value first spells =>
      exact ⟨_, right, rfl, first, fun start =>
        .unsupported (unsupported_sign_append attr relation) ((unescape_iff start right value).mpr spells)⟩
  | @present left first unsigned named =>
      exact ⟨left, _, rfl, first, fun start => .present ((unsupported_sign_none left).mpr unsigned) named rfl⟩
  | @substrings left right pieces first unsigned named several star split =>
      exact ⟨left, right, rfl, first, fun start =>
        .substrings ((unsupported_sign_none left).mpr unsigned) named several star
          ((read_substrings_iff start right pieces star).mpr split)⟩
  | @equality left right value first unsigned named plain spells =>
      exact ⟨left, right, rfl, first, fun start =>
        .equality ((unsupported_sign_none left).mpr unsigned) named plain
          ((unescape_iff start right value).mpr spells)⟩

theorem read_item_iff (position : Nat) (item : List Char) (filter : Filter) :
    readItem position item = .ok filter ↔ Asserts item filter := by
  constructor
  · intro read
    obtain ⟨left, right, rfl, free, stands⟩ := item_of_read position item filter read
    exact asserts_of_item free stands
  · intro asserts
    obtain ⟨left, right, rfl, free, stands⟩ := item_of_asserts asserts
    exact read_of_item position left right filter free (stands _)

end DirectoryServer.Filter
