import DirectoryServer.Proofs.Filter.Scanner

set_option autoImplicit false

/-!
What the place in a refusal points at. The reader stands behind a front of the text that `Awaits` describes
whenever it looks for a filter, so what it refuses stands where the refusal says.
-/
namespace DirectoryServer.Filter

-- The fronts of a text behind which a filter may stand, `depth` levels down.
inductive Awaits : (depth : Nat) → (front : List Char) → Prop where
  | outside : Awaits 0 []
  | listed {depth : Nat} {front siblings : List Char} {mark : Char} {parts : List Filter}
      (outer : Awaits depth front) (lists : mark ∈ ['&', '|']) (before : DerivesAll (depth + 1) siblings parts) :
      Awaits (depth + 1) (front ++ '(' :: mark :: siblings)
  | negated {depth : Nat} {front : List Char} (outer : Awaits depth front) : Awaits (depth + 1) (front ++ ['(', '!'])

inductive ItemAt : (front item back : List Char) → Prop where
  | bare {item : List Char} (unopened : item.head? ≠ some '(') : ItemAt [] item []
  | inside {depth : Nat} {front item back : List Char} (awaits : Awaits depth front) (room : depth ≤ maxDepth)
      (unmarked : Unmarked item) : ItemAt (front ++ ['(']) item (')' :: back)

inductive ValueOf (left right : List Char) : (front value back : List Char) → Prop where
  | entire (signed : ¬ Unsigned left) : ValueOf left right [] right []
  | piece {front value back : List Char} (unsigned : Unsigned left) (whole : right = front ++ (value ++ back))
      (free : '*' ∉ value) (starts : front = [] ∨ front.getLast? = some '*')
      (ends : back = [] ∨ back.head? = some '*') : ValueOf left right front value back

inductive ValueAt (whole : List Char) (position : Nat) : (value rest : List Char) → Prop where
  | within {front left right back before value after : List Char} (item : ItemAt front (left ++ '=' :: right) back)
      (first : '=' ∉ left) (cut : ValueOf left right before value after)
      (same : whole = front ++ (left ++ '=' :: right ++ back))
      (starts : position = width (front ++ (left ++ '=' :: before))) : ValueAt whole position value (after ++ back)

def CodeFirst (text : List Char) : Prop :=
  ∃ first second rest octet, text = first :: second :: rest ∧ HexOctet first second octet

def Undecodable (value : List Char) : Prop :=
  '\\' ∈ value ∧ ∃ octets, Decodes value octets ∧ ∀ text, octets ≠ Text.encode text

def Accurate (whole : List Char) : ParseError → Prop
  | .expected char position =>
      position < width whole ∧ ∃ c rest, StandsAt whole position (c :: rest) ∧ c ≠ char
  | .trailing position =>
      0 < position ∧ position < width whole ∧
        ∃ front filter, slice? whole 0 position = some front ∧ parse (String.ofList front) = .ok filter
  | .invalidEscape position =>
      (∃ rest, StandsAt whole position ('\\' :: rest) ∧ ¬ CodeFirst rest) ∨
        ∃ value rest, ValueAt whole position value rest ∧ StandsAt whole position (value ++ rest) ∧
          Undecodable value
  | .empty | .unexpectedEnd | .missingOperator _ | .emptyAttribute _ | .tooDeep => True

theorem expect_accurate (char : Char) (front text : List Char) (fault : ParseError)
    (failed : expect char (width front) text = .error fault) : Accurate (front ++ text) fault := by
  cases text with
  | nil =>
      cases failed
      trivial
  | cons c rest =>
      rw [expect] at failed
      by_cases same : c = char
      · rw [if_pos same] at failed
        cases failed
      · rw [if_neg same] at failed
        cases failed
        have behind := width_positive (c :: rest) (List.cons_ne_nil c rest)
        exact ⟨by rw [width_append]; omega, c, rest, ⟨front, rfl, rfl⟩, same⟩

def Ends (back : List Char) : Prop :=
  ∀ c, back.head? = some c → c ∈ [')', '*']

theorem not_digit (mark : Char) (unknown : hexValue? mark = none) (value : Nat) : ¬ HexDigit mark value := by
  intro digit
  rw [(hex_value_iff mark value).mpr digit] at unknown
  cases unknown

theorem end_not_digit (mark : Char) (ends : mark ∈ [')', '*']) (value : Nat) : ¬ HexDigit mark value := by
  simp only [List.mem_cons, List.not_mem_nil, or_false] at ends
  rcases ends with rfl | rfl <;> exact not_digit _ rfl value

theorem code_first_inside (rest back : List Char) (ends : Ends back) (code : CodeFirst (rest ++ back)) :
    CodeFirst rest := by
  obtain ⟨first, second, more, octet, same, number⟩ := code
  cases rest with
  | nil =>
      have ending : first ∈ [')', '*'] := ends first (by rw [show back = first :: second :: more from same]; rfl)
      cases number with
      | digits upper _ => exact absurd upper (end_not_digit first ending _)
      | signed => exact absurd ending (by decide)
  | cons c rest =>
      cases rest with
      | nil =>
          cases same
          have ending : second ∈ [')', '*'] := ends second rfl
          cases number with
          | digits _ lower => exact absurd lower (end_not_digit second ending _)
          | signed lower => exact absurd lower (end_not_digit second ending _)
      | cons d rest =>
          cases same
          exact ⟨first, second, rest, octet, rfl, number⟩

theorem unescape_bytes_fault (position : Nat) (value : List Char) (fault : ParseError)
    (failed : unescapeBytes position value = .error fault) :
    ∃ front rest, value = front ++ '\\' :: rest ∧ fault = .invalidEscape (position + width front) ∧
      ¬ CodeFirst rest := by
  fun_induction unescapeBytes position value with
  | case1 => cases failed
  | case2 position first second rest none =>
      cases failed
      refine ⟨[], _, rfl, rfl, ?_⟩
      rintro ⟨_, _, _, octet, ⟨⟩, number⟩
      rw [(hex_octet_iff first second octet).mpr number] at none
      cases none
  | case3 position first second rest octet code ih =>
      obtain ⟨front, more, rfl, rfl, codeless⟩ := ih ((map_error_iff _ _ _).mp failed)
      obtain ⟨narrow, narrow'⟩ := hex_octet_narrow first second octet code
      refine ⟨'\\' :: first :: second :: front, more, rfl, congrArg _ ?_, codeless⟩
      rw [width, width, width, narrow, narrow', show '\\'.utf8Size = 1 from rfl]
      omega
  | case4 position rest short =>
      cases failed
      refine ⟨[], rest, rfl, rfl, ?_⟩
      rintro ⟨first, second, more, octet, same, _⟩
      exact short first second more rfl same
  | case5 position c rest _ own ih =>
      obtain ⟨front, more, rfl, rfl, codeless⟩ := ih ((map_error_iff _ _ _).mp failed)
      exact ⟨c :: front, more, rfl, congrArg _ (by rw [width, Nat.add_assoc]), codeless⟩

theorem unescape_fault (position : Nat) (value : List Char) (fault : ParseError)
    (failed : unescape position value = .error fault) :
    (∃ front rest, value = front ++ '\\' :: rest ∧ fault = .invalidEscape (position + width front) ∧
      ¬ CodeFirst rest) ∨ (fault = .invalidEscape position ∧ Undecodable value) := by
  rw [unescape] at failed
  cases octets : unescapeBytes position value with
  | error fault' =>
      rw [octets] at failed
      cases failed
      exact .inl (unescape_bytes_fault position value fault octets)
  | ok decoded =>
      rw [octets] at failed
      dsimp only at failed
      cases read : Text.decode decoded with
      | ok text =>
          rw [read] at failed
          cases failed
      | error _ =>
          rw [read] at failed
          have textless : ∀ text, decoded ≠ Text.encode text := by
            intro text same
            rw [(Text.decode_iff decoded text).mpr same.symm] at read
            cases read
          have escaped : '\\' ∈ value := by
            refine Classical.not_not.mp fun plain => textless (String.ofList value) ?_
            rw [unescape_bytes_plain position value plain] at octets
            rw [Text.encode, String.toList_ofList]
            exact (Except.ok.inj octets).symm
          exact .inr ⟨(Except.error.inj failed).symm, escaped, decoded,
            (unescape_bytes_iff position value decoded).mp octets, textless⟩

theorem value_accurate (start value back : List Char) (fault : ParseError) (ends : Ends back)
    (stands : ValueAt (start ++ (value ++ back)) (width start) value back)
    (failed : unescape (width start) value = .error fault) : Accurate (start ++ (value ++ back)) fault := by
  rcases unescape_fault (width start) value fault failed with
    ⟨front, rest, rfl, rfl, codeless⟩ | ⟨rfl, undecodable⟩
  · refine .inl ⟨rest ++ back, ⟨start ++ front, by simp, (width_append start front).symm⟩, ?_⟩
    exact fun code => codeless (code_first_inside rest back ends code)
  · exact .inr ⟨value, back, stands, ⟨start, rfl, rfl⟩, undecodable⟩

theorem read_piece_fault (position : Nat) (piece : List Char) (fault : ParseError)
    (failed : readPiece position piece = .error fault) : unescape position piece = .error fault := by
  rw [readPiece] at failed
  split at failed
  · cases failed
  · exact (map_error_iff _ _ _).mp failed

theorem read_pieces_fault (position : Nat) (pieces : List (List Char)) (fault : ParseError)
    (failed : readPieces position pieces = .error fault) :
    ∃ before piece after, pieces = before ++ piece :: after ∧
      unescape (position + width (before.flatMap (· ++ ['*']))) piece = .error fault := by
  fun_induction readPieces position pieces with
  | case1 => cases failed
  | case2 position piece =>
      exact ⟨[], piece, [], rfl, read_piece_fault position piece fault ((map_error_iff _ _ _).mp failed)⟩
  | case3 position piece rest several fault' own =>
      cases failed
      exact ⟨[], piece, rest, rfl, read_piece_fault position piece fault own⟩
  | case4 position piece rest several any own ih =>
      obtain ⟨before, other, after, rfl, refused⟩ := ih ((map_error_iff _ _ _).mp failed)
      refine ⟨piece :: before, other, after, rfl, ?_⟩
      rw [List.flatMap_cons, width_append, width_append, ← Nat.add_assoc, ← Nat.add_assoc]
      exact refused

theorem read_substrings_fault (start : Nat) (right : List Char) (fault : ParseError)
    (failed : readSubstrings start right = .error fault) : readPieces start (splitStars [] right) = .error fault := by
  rw [readSubstrings] at failed
  cases split : splitStars [] right with
  | nil =>
      rw [split] at failed
      cases failed
  | cons first rest =>
      rw [split] at failed
      dsimp only at failed
      cases own : readPiece start first with
      | error fault' =>
          rw [own] at failed
          cases failed
          exact read_pieces_refused start first rest fault own
      | ok found =>
          rw [own] at failed
          replace failed := (map_error_iff _ _ _).mp failed
          cases rest with
          | nil => cases failed
          | cons next rest =>
              rw [readPieces.eq_3 _ _ _ (List.cons_ne_nil next rest), own]
              exact (map_error_iff _ _ _).mpr failed

theorem intercalate_at (before after : List (List Char)) (piece : List Char) :
    List.intercalate ['*'] (before ++ piece :: after) =
      before.flatMap (· ++ ['*']) ++ (piece ++ after.flatMap ('*' :: ·)) := by
  induction before with
  | nil =>
      induction after generalizing piece with
      | nil => simp
      | cons next after ih =>
          have later := ih next
          rw [List.nil_append] at later ⊢
          rw [List.intercalate_cons_cons, later]
          simp
  | cons first before ih =>
      cases joined : before ++ piece :: after with
      | nil => simp at joined
      | cons next rest =>
          rw [joined] at ih
          rw [List.cons_append, joined, List.intercalate_cons_cons, ih]
          simp

theorem substrings_fault (start : Nat) (left right : List Char) (fault : ParseError) (unsigned : Unsigned left)
    (failed : readSubstrings start right = .error fault) :
    ∃ before value after, ValueOf left right before value after ∧
      unescape (start + width before) value = .error fault := by
  obtain ⟨first, rest, split, whole, free⟩ := split_stars_cut [] right
  obtain ⟨before, piece, after, pieces, refused⟩ :=
    read_pieces_fault start _ fault (read_substrings_fault start right fault failed)
  rw [List.reverse_nil, List.nil_append] at split
  rw [← split, pieces] at free whole
  rw [intercalate_at] at whole
  refine ⟨_, piece, _, .piece unsigned whole (free piece (by simp)) ?_ ?_, refused⟩
  · rcases List.eq_nil_or_concat before with rfl | ⟨front, last, rfl⟩
    · exact .inl rfl
    · right
      simp
  · cases after with
    | nil => exact .inl rfl
    | cons next after => exact .inr rfl

theorem value_of_ends {left right before value after back : List Char} (cut : ValueOf left right before value after)
    (ends : Ends back) : right = before ++ (value ++ after) ∧ Ends (after ++ back) := by
  cases cut with
  | entire => exact ⟨by simp, ends⟩
  | piece _ whole _ _ closes =>
      refine ⟨whole, ?_⟩
      rcases closes with rfl | star
      · exact ends
      · intro c first
        rw [List.head?_append, star] at first
        cases first
        decide

theorem item_ends {front item back : List Char} (stands : ItemAt front item back) : Ends back := by
  cases stands with
  | bare =>
      rintro c ⟨⟩
  | inside =>
      rintro c ⟨⟩
      decide

theorem item_fault (position : Nat) (left right : List Char) (fault : ParseError) (first : '=' ∉ left)
    (failed : readItem position (left ++ '=' :: right) = .error fault) :
    (Unsigned left ∧ Text.trimChars left = [] ∧ fault = .emptyAttribute (String.ofList (left ++ '=' :: right))) ∨
      ∃ before value after, ValueOf left right before value after ∧
        unescape (position + width left + 1 + width before) value = .error fault := by
  rw [readItem, cut_append '=' left right first] at failed
  dsimp only at failed
  cases sign : unsupportedSign? left with
  | some signed =>
      rw [sign] at failed
      have marked : ¬ Unsigned left := by
        intro unsigned
        rw [(unsupported_sign_none left).mpr unsigned] at sign
        cases sign
      exact .inr ⟨[], right, [], .entire marked, (map_error_iff _ _ _).mp failed⟩
  | none =>
      have unsigned : Unsigned left := (unsupported_sign_none left).mp sign
      rw [sign] at failed
      dsimp only at failed
      by_cases unnamed : (Text.trimChars left).isEmpty = true
      · rw [if_pos unnamed] at failed
        exact .inl ⟨unsigned, List.isEmpty_iff.mp unnamed, (Except.error.inj failed).symm⟩
      · rw [if_neg unnamed] at failed
        split at failed
        · cases failed
        split at failed
        · exact .inr (substrings_fault _ left right fault unsigned ((map_error_iff _ _ _).mp failed))
        · rename_i plain
          have free : '*' ∉ right := fun member => plain (List.contains_iff_mem.mpr member)
          exact .inr ⟨[], right, [], .piece unsigned (by simp) free (.inl rfl) (.inl rfl),
            (map_error_iff _ _ _).mp failed⟩

theorem item_accurate (front item back : List Char) (fault : ParseError) (stands : ItemAt front item back)
    (failed : readItem (width front) item = .error fault) : Accurate (front ++ (item ++ back)) fault := by
  cases found : cut '=' item with
  | none =>
      rw [readItem, found] at failed
      cases failed
      trivial
  | some halves =>
      obtain ⟨left, right⟩ := halves
      obtain ⟨rfl, first⟩ := cut_found '=' item left right found
      rcases item_fault (width front) left right fault first failed with
        ⟨_, _, rfl⟩ | ⟨before, value, after, cut, refused⟩
      · trivial
      -- Whichever value is refused, its place counts from the start of the whole text.
      · obtain ⟨whole, ends⟩ := value_of_ends cut (item_ends stands)
        have place : width front + width left + 1 + width before = width (front ++ (left ++ '=' :: before)) := by
          rw [width_append, width_append, width, show '='.utf8Size = 1 from rfl]
          omega
        have same : front ++ (left ++ '=' :: right ++ back) =
            front ++ (left ++ '=' :: before) ++ (value ++ (after ++ back)) := by
          simp [whole]
        rw [place] at refused
        rw [same]
        exact value_accurate _ value _ fault ends (.within stands first cut same.symm rfl) refused

theorem read_parts_fault (read : Nat → List Char → Step Filter) (fuel position : Nat) (text : List Char)
    (fault : ParseError) (failed : readParts read fuel position text = .error fault) :
    read position text = .error fault ∨ ∃ less part next rest, less < fuel ∧
      read position text = .ok (part, next, rest) ∧ readParts read less next rest = .error fault := by
  by_cases opens : text.head? = some '('
  · obtain ⟨tail, rfl⟩ := List.head?_eq_some_iff.mp opens
    cases fuel with
    | zero => cases failed
    | succ fuel =>
        rw [readParts] at failed
        cases first : read position ('(' :: tail) with
        | error fault' =>
            rw [first] at failed
            cases failed
            exact .inl rfl
        | ok found =>
            obtain ⟨part, next, rest⟩ := found
            rw [first] at failed
            exact .inr ⟨fuel, part, next, rest, Nat.lt_succ_self fuel, rfl, (map_error_iff _ _ _).mp failed⟩
  · rw [read_parts_stop read fuel position text opens] at failed
    cases failed

theorem parts_fault (room depth fuel position : Nat) (text : List Char) (fault : ParseError)
    (levels : room + depth = maxDepth + 1) (failed : readParts (read room) fuel position text = .error fault) :
    ∃ siblings parts rest, text = siblings ++ rest ∧ DerivesAll depth siblings parts ∧
      read room (position + width siblings) rest = .error fault := by
  induction fuel using Nat.strongRecOn generalizing position text with
  | ind fuel ih =>
      rcases read_parts_fault (read room) fuel position text fault failed with
        first | ⟨less, part, next, rest, fewer, first, later⟩
      · exact ⟨[], [], text, rfl, .nil, first⟩
      · obtain ⟨front, rfl, rfl, derives⟩ := derives_of_read room depth position next text rest part levels first
        obtain ⟨siblings, parts, behind, rfl, others, refused⟩ := ih less fewer _ rest later
        refine ⟨front ++ siblings, part :: parts, behind, by simp, .cons derives others, ?_⟩
        rwa [width_append, ← Nat.add_assoc]

theorem close_accurate (filter : Filter) (front text : List Char) (fault : ParseError)
    (failed : close (filter, width front, text) = .error fault) : Accurate (front ++ text) fault :=
  expect_accurate ')' front text fault ((map_error_iff _ _ _).mp failed)

theorem width_listed (front siblings : List Char) (mark : Char) (lists : mark ∈ ['&', '|']) :
    width (front ++ '(' :: mark :: siblings) = width front + 2 + width siblings := by
  have size : mark.utf8Size = 1 := by
    simp only [List.mem_cons, List.not_mem_nil, or_false] at lists
    rcases lists with rfl | rfl <;> rfl
  rw [← width_opened front mark size, ← width_append, List.append_assoc]
  rfl

theorem list_accurate (room depth : Nat) (front body : List Char) (mark : Char) (make : List Filter → Filter)
    (fault : ParseError) (levels : room + depth = maxDepth + 1) (lists : mark ∈ ['&', '|'])
    (each : ∀ siblings parts rest, DerivesAll depth siblings parts →
      read room (width (front ++ '(' :: mark :: siblings)) rest = .error fault →
      Accurate (front ++ '(' :: mark :: siblings ++ rest) fault)
    (failed : (match readParts (read room) body.length (width front + 2) body with
      | .error fault => .error fault
      | .ok (parts, after) => close (make parts, after)) = Except.error fault) :
    Accurate (front ++ '(' :: mark :: body) fault := by
  cases inner : readParts (read room) body.length (width front + 2) body with
  | error fault' =>
      rw [inner] at failed
      cases failed
      obtain ⟨siblings, parts, rest, rfl, derives, refused⟩ := parts_fault room depth _ _ body fault levels inner
      rw [← width_listed front siblings mark lists] at refused
      have accurate := each siblings parts rest derives refused
      rwa [List.append_assoc] at accurate
  | ok found =>
      obtain ⟨parts, after, rest⟩ := found
      rw [inner] at failed
      obtain ⟨siblings, rfl, rfl, _⟩ := derives_all_of_parts room depth _ _ _ _ _ _ levels inner
      dsimp only at failed
      rw [← width_listed front siblings mark lists] at failed
      have accurate := close_accurate (make parts) _ rest fault failed
      rwa [List.append_assoc] at accurate

theorem leaf_accurate (depth : Nat) (front : List Char) (c : Char) (body : List Char) (fault : ParseError)
    (room : depth ≤ maxDepth) (awaits : Awaits depth front) (plain : ∀ mark ∈ ['&', '|', '!'], c ≠ mark)
    (failed : (match cut ')' (c :: body) with
      | none => .error .unexpectedEnd
      | some (item, rest) => (readItem (width front + 1) item).map fun filter =>
          (filter, width front + 1 + width item + 1, rest)) = Except.error fault) :
    Accurate (front ++ '(' :: c :: body) fault := by
  cases found : cut ')' (c :: body) with
  | none =>
      rw [found] at failed
      cases failed
      trivial
  | some halves =>
      obtain ⟨item, rest⟩ := halves
      obtain ⟨whole, unmarked⟩ := cut_item c body item rest plain found
      have stands : ItemAt (front ++ ['(']) item (')' :: rest) := .inside awaits room unmarked
      have start : width (front ++ ['(']) = width front + 1 := width_append front ['(']
      rw [found] at failed
      have accurate := item_accurate _ item _ fault stands (start ▸ (map_error_iff _ _ _).mp failed)
      rwa [List.append_assoc, ← whole] at accurate

-- By induction on the room, which falls by one as the depth rises by one.
theorem read_accurate (room depth : Nat) (front text : List Char) (fault : ParseError)
    (levels : room + depth = maxDepth + 1) (awaits : Awaits depth front)
    (failed : read room (width front) text = .error fault) : Accurate (front ++ text) fault := by
  induction room generalizing depth front text with
  | zero =>
      cases failed
      trivial
  | succ less ih =>
      have deeper : less + (depth + 1) = maxDepth + 1 := by omega
      have listed : ∀ mark ∈ ['&', '|'], ∀ siblings parts rest, DerivesAll (depth + 1) siblings parts →
          read less (width (front ++ '(' :: mark :: siblings)) rest = .error fault →
          Accurate (front ++ '(' :: mark :: siblings ++ rest) fault :=
        fun mark lists siblings parts rest before =>
          ih (depth + 1) _ rest deeper (.listed awaits lists before)
      cases opening text with
      | unopened refused =>
          obtain ⟨fault', met⟩ := refused (width front)
          rw [read, met] at failed
          cases failed
          exact expect_accurate '(' front text fault met
      | alone =>
          cases failed
          trivial
      | and body =>
          rw [read_and] at failed
          exact list_accurate less (depth + 1) front body '&' .and fault deeper (by decide)
            (listed '&' (by decide)) failed
      | or body =>
          rw [read_or] at failed
          exact list_accurate less (depth + 1) front body '|' .or fault deeper (by decide)
            (listed '|' (by decide)) failed
      | not body =>
          have same : front ++ '(' :: '!' :: body = front ++ ['(', '!'] ++ body := by simp
          rw [read_not, ← width_opened front '!' rfl] at failed
          rw [same]
          cases inner : read less (width (front ++ ['(', '!'])) body with
          | error fault' =>
              rw [inner] at failed
              cases failed
              exact ih (depth + 1) _ body deeper (.negated awaits) inner
          | ok found =>
              obtain ⟨part, next, rest⟩ := found
              rw [inner] at failed
              obtain ⟨middle, rfl, rfl, _⟩ := derives_of_read less (depth + 1) _ _ _ _ _ deeper inner
              rw [← List.append_assoc]
              rw [← width_append] at failed
              exact close_accurate (.not part) _ rest fault failed
      | leaf c body plain =>
          rw [read_leaf _ _ _ _ plain] at failed
          exact leaf_accurate depth front c body fault (by omega) awaits plain failed

theorem derives_trimmed {depth : Nat} {text : List Char} {filter : Filter} (derives : Derives depth text filter) :
    Text.Trimmed text := by
  constructor
  · intro c first
    rw [derives_opens derives] at first
    cases first
    decide
  · intro c last
    have closes : text.getLast? = some ')' := by
      cases derives with
      | and | or | not => rw [← List.cons_append, ← List.cons_append, List.getLast?_concat]
      | item => rw [← List.cons_append, List.getLast?_concat]
    rw [closes] at last
    cases last
    decide

theorem parse_derived (text : List Char) (filter : Filter) (derives : Derives 0 text filter) :
    parse (String.ofList text) = .ok filter := by
  obtain ⟨tail, rfl⟩ := List.head?_eq_some_iff.mp (derives_opens derives)
  rw [parse, String.toList_ofList, Text.trim_of_trimmed _ (derives_trimmed derives), parse_trimmed_opens,
    read_iff_derives]
  exact derives

theorem trailing_accurate (whole rest : List Char) (c : Char) (position : Nat) (filter : Filter)
    (done : read (maxDepth + 1) 0 whole = .ok (filter, position, c :: rest)) :
    Accurate whole (.trailing position) := by
  obtain ⟨front, rfl, rfl, derives⟩ := derives_of_read (maxDepth + 1) 0 0 position whole (c :: rest) filter rfl done
  have filled : front ≠ [] := by
    rintro rfl
    cases derives_opens derives
  have before := width_positive front filled
  have behind := width_positive (c :: rest) (List.cons_ne_nil c rest)
  refine ⟨by omega, by rw [width_append]; omega, front, filter, ?_, parse_derived front filter derives⟩
  exact slice_append [] front (c :: rest)

theorem parse_trimmed_accurate (whole : List Char) (fault : ParseError) (failed : parseTrimmed whole = .error fault) :
    Accurate whole fault := by
  cases whole with
  | nil =>
      cases failed
      trivial
  | cons c tail =>
      by_cases opens : c = '('
      · subst opens
        rw [parseTrimmed] at failed
        cases done : read (maxDepth + 1) 0 ('(' :: tail) with
        | error fault' =>
            rw [done] at failed
            cases failed
            exact read_accurate (maxDepth + 1) 0 [] ('(' :: tail) fault rfl .outside done
        | ok found =>
            obtain ⟨filter, position, rest⟩ := found
            rw [done] at failed
            cases rest with
            | nil => cases failed
            | cons d rest =>
                cases failed
                exact trailing_accurate _ rest d position filter done
      · rw [parseTrimmed.eq_3 _ (by simp) (by simpa using opens)] at failed
        have accurate := item_accurate [] (c :: tail) [] fault (.bare (by simpa using opens)) failed
        rwa [List.append_nil] at accurate

theorem scanned_accurately (text : String) :
    Scanner.parse text = some (parse text) ∧
      ∀ fault, parse text = .error fault → Accurate (Text.trimChars text.toList) fault :=
  ⟨parse_scanned text, parse_trimmed_accurate (Text.trimChars text.toList)⟩

theorem wide_texts_scanned :
    Scanner.parse " (&(é=a)x)" = some (.error (.expected ')' 8)) ∧ Accurate "(&(é=a)x)".toList (.expected ')' 8) ∧
      Scanner.parse "(é=a)b" = some (.error (.trailing 6)) ∧ Accurate "(é=a)b".toList (.trailing 6) ∧
      Scanner.parse "(a=*é*\\5)" = some (.error (.invalidEscape 7)) ∧
      Accurate "(a=*é*\\5)".toList (.invalidEscape 7) ∧
      Scanner.parse "(é=x*y\\ff)" = some (.error (.invalidEscape 6)) ∧
      Accurate "(é=x*y\\ff)".toList (.invalidEscape 6) :=
  ⟨(scanned_accurately _).1, (scanned_accurately " (&(é=a)x)").2 _ rfl,
    (scanned_accurately _).1, (scanned_accurately "(é=a)b").2 _ rfl,
    (scanned_accurately _).1, (scanned_accurately "(a=*é*\\5)").2 _ rfl,
    (scanned_accurately _).1, (scanned_accurately "(é=x*y\\ff)").2 _ rfl⟩

end DirectoryServer.Filter
