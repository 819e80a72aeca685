import DirectoryServer.Proofs.Filter.Faults

set_option autoImplicit false

namespace DirectoryServer.Filter

def DigitsFirst (text : List Char) : Prop :=
  ∃ first second rest high low, text = first :: second :: rest ∧ HexDigit first high ∧ HexDigit second low

def SignFirst (text : List Char) : Prop :=
  ∃ digit rest low, text = '+' :: digit :: rest ∧ HexDigit digit low

def Coded (value : List Char) : Prop :=
  ∀ before behind, value = before ++ '\\' :: behind → DigitsFirst behind ∨ SignFirst behind

theorem code_first_iff (text : List Char) : CodeFirst text ↔ DigitsFirst text ∨ SignFirst text := by
  constructor
  · rintro ⟨first, second, rest, octet, rfl, number⟩
    cases number with
    | digits upper lower => exact .inl ⟨first, second, rest, _, _, rfl, upper, lower⟩
    | signed lower => exact .inr ⟨second, rest, _, rfl, lower⟩
  · rintro (⟨first, second, rest, high, low, rfl, upper, lower⟩ | ⟨digit, rest, low, rfl, lower⟩)
    · exact ⟨first, second, rest, _, rfl, .digits upper lower⟩
    · exact ⟨'+', digit, rest, _, rfl, .signed lower⟩

theorem code_first_append {text : List Char} (back : List Char) (code : CodeFirst text) :
    CodeFirst (text ++ back) := by
  obtain ⟨first, second, rest, octet, rfl, number⟩ := code
  exact ⟨first, second, rest ++ back, octet, rfl, number⟩

theorem octet_slashless {first second : Char} {octet : UInt8} (number : HexOctet first second octet) :
    first ≠ '\\' ∧ second ≠ '\\' := by
  have lower : second ≠ '\\' := by
    rintro rfl
    cases number with
    | digits _ lower | signed lower => exact not_digit '\\' rfl _ lower
  refine ⟨?_, lower⟩
  rintro rfl
  cases number with
  | digits upper _ => exact not_digit '\\' rfl _ upper

theorem coded_plain {value : List Char} (plain : '\\' ∉ value) : Coded value := by
  rintro before behind rfl
  exact absurd (List.mem_append_right before List.mem_cons_self) plain

theorem coded_cons {c : Char} {rest : List Char} (own : c ≠ '\\') (behind : Coded rest) : Coded (c :: rest) := by
  intro before more same
  cases before with
  | nil => exact absurd (List.cons.inj same).1 own
  | cons d before => exact behind before more (List.cons.inj same).2

theorem coded_slash {rest : List Char} (code : CodeFirst rest) (behind : Coded rest) : Coded ('\\' :: rest) := by
  intro before more same
  cases before with
  | nil =>
      cases same
      exact (code_first_iff rest).mp code
  | cons d before => exact behind before more (List.cons.inj same).2

theorem coded_append {front back : List Char} (first : Coded front) (behind : Coded back) :
    Coded (front ++ back) := by
  induction front with
  | nil => exact behind
  | cons c front ih =>
      have later : Coded (front ++ back) :=
        ih fun before more same => first (c :: before) more (congrArg (c :: ·) same)
      by_cases slash : c = '\\'
      · subst slash
        exact coded_slash (code_first_append back ((code_first_iff front).mpr (first [] front rfl))) later
      · exact coded_cons slash later

theorem decodes_coded {value : List Char} {octets : Bytes} (decodes : Decodes value octets) : Coded value := by
  induction decodes with
  | nil => exact coded_plain List.not_mem_nil
  | @code first second octet rest octets number behind ih =>
      obtain ⟨upper, lower⟩ := octet_slashless number
      exact coded_slash ⟨first, second, rest, octet, rfl, number⟩ (coded_cons upper (coded_cons lower ih))
  | plain own behind ih => exact coded_cons own ih

theorem pieces_coded {pieces : List (List Char)} {found : List String} (asked : PiecesOf pieces found) :
    ∀ piece ∈ pieces, Coded piece := by
  induction asked with
  | nil => exact fun piece member => absurd member List.not_mem_nil
  | dropped behind ih => exact List.forall_mem_cons.mpr ⟨coded_plain List.not_mem_nil, ih⟩
  | spelt filled spells behind ih => exact List.forall_mem_cons.mpr ⟨decodes_coded spells, ih⟩

theorem coded_intercalate (pieces : List (List Char)) (coded : ∀ piece ∈ pieces, Coded piece) :
    Coded (List.intercalate ['*'] pieces) := by
  induction pieces with
  | nil => exact coded_plain (by simp)
  | cons first rest ih =>
      obtain ⟨own, behind⟩ := List.forall_mem_cons.mp coded
      cases rest with
      | nil => rwa [List.intercalate_singleton]
      | cons next rest =>
          rw [List.intercalate_cons_cons, List.append_assoc]
          exact coded_append own (coded_cons (by decide) (ih behind))

theorem substrings_coded {right : List Char} {pieces : Substrings} (split : SubstringsOf right pieces) :
    Coded right := by
  cases split with
  | cut free starts between ends =>
      refine coded_intercalate _ (List.forall_mem_cons.mpr ⟨?_, List.forall_mem_append.mpr ⟨?_, ?_⟩⟩)
      · exact pieces_coded starts _ List.mem_cons_self
      · exact pieces_coded between
      · exact pieces_coded ends

theorem item_coded {start : Nat} {left right : List Char} {filter : Filter}
    (stands : ItemOf start left right filter) : Coded right := by
  cases stands with
  | unsupported sign read => exact decodes_coded ((unescape_iff start right _).mp read)
  | present unsigned named star => exact star ▸ coded_plain (by decide)
  | substrings unsigned named several star read =>
      exact substrings_coded ((read_substrings_iff start right _ star).mp read)
  | equality unsigned named plain read => exact decodes_coded ((unescape_iff start right _).mp read)

theorem read_item_coded (position : Nat) (left right : List Char) (filter : Filter) (first : '=' ∉ left)
    (read : readItem position (left ++ '=' :: right) = .ok filter) : Coded right := by
  obtain ⟨other, behind, same, free, stands⟩ := item_of_read position _ filter read
  obtain ⟨rfl, rfl⟩ := cut_unique '=' left right other behind first free same
  exact item_coded stands

theorem read_item_uncoded (position : Nat) (left right : List Char) (first : '=' ∉ left)
    (named : ¬ Unsigned left ∨ Text.trimChars left ≠ []) (wrong : ¬ Coded right) :
    ∃ offset, readItem position (left ++ '=' :: right) =
      .error (.invalidEscape (position + width left + 1 + offset)) := by
  cases read : readItem position (left ++ '=' :: right) with
  | ok filter => exact absurd (read_item_coded position left right filter first read) wrong
  | error fault =>
      rcases item_fault position left right fault first read with
        ⟨unsigned, unnamed, _⟩ | ⟨before, value, after, _, refused⟩
      · exact (named.elim (· unsigned) (· unnamed)).elim
      · rcases unescape_fault _ value fault refused with ⟨front, _, _, rfl, _⟩ | ⟨rfl, _⟩
        · exact ⟨width before + width front, by rw [Nat.add_assoc _ (width before)]⟩
        · exact ⟨width before, rfl⟩

theorem read_of_derives_at (room depth position : Nat) (filter : Filter) (text rest : List Char)
    (levels : room + depth = maxDepth + 1) (derives : Derives depth text filter) :
    read room position (text ++ rest) = .ok (filter, position + width text, rest) := by
  obtain ⟨next, done⟩ := read_of_derives room depth position filter text rest levels derives
  obtain ⟨front, same, rfl, _⟩ := derives_of_read room depth position next _ rest filter levels done
  rw [done, List.append_cancel_right same]

theorem parts_refused (room depth fuel position : Nat) (siblings rest : List Char) (parts : List Filter)
    (fault : ParseError) (levels : room + depth = maxDepth + 1) (before : DerivesAll depth siblings parts)
    (opens : rest.head? = some '(') (enough : parts.length < fuel)
    (refused : read room (position + width siblings) rest = .error fault) :
    readParts (read room) fuel position (siblings ++ rest) = .error fault := by
  induction parts generalizing siblings fuel position with
  | nil =>
      cases before
      obtain ⟨tail, rfl⟩ := List.head?_eq_some_iff.mp opens
      cases fuel with
      | zero => cases enough
      | succ fuel =>
          rw [List.nil_append, readParts, show read room position ('(' :: tail) = .error fault from refused]
  | cons part parts ih =>
      cases before with
      | @cons _ front behind _ _ first others =>
          cases fuel with
          | zero => cases enough
          | succ fuel =>
              have done := read_of_derives_at room depth position part front (behind ++ rest) levels first
              have starts : (front ++ (behind ++ rest)).head? = some '(' := by
                rw [List.head?_append, derives_opens first]
                rfl
              rw [width_append, ← Nat.add_assoc] at refused
              rw [List.append_assoc, read_parts_next _ fuel _ _ _ _ part starts done,
                ih fuel _ behind others (Nat.lt_of_succ_lt_succ enough) refused]
              rfl

-- By induction on what stands before it, from the inside out.
theorem awaits_refused (room depth : Nat) (front rest : List Char) (fault : ParseError) (awaits : Awaits depth front)
    (levels : room + depth = maxDepth + 1) (opens : rest.head? = some '(')
    (refused : read room (width front) rest = .error fault) :
    read (maxDepth + 1) 0 (front ++ rest) = .error fault := by
  induction awaits generalizing room rest with
  | outside =>
      cases levels
      exact refused
  | @listed depth front siblings mark parts outer lists before ih =>
      have deeper : room + 1 + depth = maxDepth + 1 := by omega
      have enough : parts.length < (siblings ++ rest).length := by
        have fits := derives_all_length parts [] before
        obtain ⟨tail, rfl⟩ := List.head?_eq_some_iff.mp opens
        rw [List.append_nil] at fits
        rw [List.length_append, List.length_cons]
        omega
      have inner : readParts (read room) (siblings ++ rest).length (width front + 2) (siblings ++ rest) =
          .error fault := by
        refine parts_refused room (depth + 1) _ _ siblings rest parts fault levels before opens enough ?_
        rwa [← width_listed front siblings mark lists]
      have same : front ++ '(' :: mark :: siblings ++ rest = front ++ '(' :: mark :: (siblings ++ rest) := by simp
      rw [same]
      refine ih (room + 1) _ deeper rfl ?_
      simp only [List.mem_cons, List.not_mem_nil, or_false] at lists
      rcases lists with rfl | rfl
      · rw [read_and, inner]
      · rw [read_or, inner]
  | @negated depth front outer ih =>
      have deeper : room + 1 + depth = maxDepth + 1 := by omega
      have same : front ++ ['(', '!'] ++ rest = front ++ '(' :: '!' :: rest := by simp
      rw [width_opened front '!' rfl] at refused
      rw [same]
      refine ih (room + 1) _ deeper rfl ?_
      rw [read_not, refused]

theorem awaits_opens {depth : Nat} {front : List Char} (awaits : Awaits depth front) (rest : List Char)
    (opens : rest.head? = some '(') : (front ++ rest).head? = some '(' := by
  induction awaits generalizing rest with
  | outside => exact opens
  | @listed depth front siblings mark parts outer lists before ih =>
      rw [List.append_assoc]
      exact ih _ rfl
  | @negated depth front outer ih =>
      rw [List.append_assoc]
      exact ih _ rfl

theorem item_refused {front item back : List Char} {fault : ParseError} (stands : ItemAt front item back)
    (filled : item ≠ []) (refused : readItem (width front) item = .error fault) :
    parseTrimmed (front ++ item ++ back) = .error fault := by
  cases stands with
  | bare unopened =>
      obtain ⟨c, tail, rfl⟩ := List.exists_cons_of_ne_nil filled
      rw [List.nil_append, List.append_nil, parseTrimmed.eq_3 _ (by simp) (by simpa using unopened)]
      exact refused
  | @inside depth front item back awaits room unmarked =>
      obtain ⟨less, levels⟩ := Nat.exists_eq_add_of_le room
      rw [width_append] at refused
      have inner : read (less + 1) (width front) ('(' :: (item ++ ')' :: back)) = .error fault := by
        rw [read_unmarked less _ item back filled unmarked,
          show readItem (width front + 1) item = .error fault from refused]
        rfl
      have whole := awaits_refused (less + 1) depth front _ fault awaits (by omega) rfl inner
      have same : front ++ ['('] ++ item ++ ')' :: back = front ++ '(' :: (item ++ ')' :: back) := by simp
      obtain ⟨tail, opens⟩ := List.head?_eq_some_iff.mp (awaits_opens awaits ('(' :: (item ++ ')' :: back)) rfl)
      rw [opens] at whole
      rw [same, opens, parseTrimmed, whole]

theorem values_coded (text : String) (front left right back : List Char)
    (item : ItemAt front (left ++ '=' :: right) back) (first : '=' ∉ left)
    (whole : Text.trimChars text.toList = front ++ (left ++ '=' :: right) ++ back) :
    (∀ filter, parse text = .ok filter → Coded right) ∧
      (¬ Coded right → ¬ Unsigned left ∨ Text.trimChars left ≠ [] →
        ∃ offset, parse text = .error (.invalidEscape (width (front ++ left) + 1 + offset))) := by
  have filled : left ++ '=' :: right ≠ [] := by simp
  constructor
  · intro filter parsed
    cases read : readItem (width front) (left ++ '=' :: right) with
    | ok found => exact read_item_coded _ left right found first read
    | error fault =>
        rw [parse, whole, item_refused item filled read] at parsed
        cases parsed
  · intro wrong named
    obtain ⟨offset, refused⟩ := read_item_uncoded (width front) left right first named wrong
    exact ⟨offset, by rw [parse, whole, item_refused item filled refused, width_append]⟩

theorem unmarked_of_first (c : Char) (rest : List Char) (closed : ')' ∉ c :: rest) (plain : c ∉ ['&', '|', '!']) :
    Unmarked (c :: rest) :=
  ⟨closed, fun _ marked same => plain (Option.some.inj same ▸ marked)⟩

theorem broken_code_refused :
    ItemAt "(|(a=b)(!(".toList ("cn".toList ++ '=' :: "x*\\4".toList) ")))".toList ∧ ¬ Coded "x*\\4".toList ∧
      ∃ offset, parse " (|(a=b)(!(cn=x*\\4)))" = .error (.invalidEscape (13 + offset)) := by
  have sibling : Derives 1 "(a=b)".toList (.equality "a" "b") :=
    .item (by decide) (unmarked_of_first _ _ (by decide) (by decide)) ((read_item_iff 0 "a=b".toList _).mp rfl)
  have awaits : Awaits 2 "(|(a=b)(!".toList :=
    .negated (.listed .outside (by decide) (.cons sibling .nil))
  have item : ItemAt "(|(a=b)(!(".toList ("cn".toList ++ '=' :: "x*\\4".toList) ")))".toList :=
    .inside awaits (by decide) (unmarked_of_first _ _ (by decide) (by decide))
  have wrong : ¬ Coded "x*\\4".toList := by
    intro coded
    rcases coded "x*".toList ['4'] rfl with ⟨_, _, _, _, _, same, _⟩ | ⟨_, _, _, same, _⟩ <;> cases same
  obtain ⟨_, refused⟩ := values_coded " (|(a=b)(!(cn=x*\\4)))" _ _ _ _ item (by decide) rfl
  exact ⟨item, wrong, refused wrong (.inr (by decide))⟩

-- A plus sign is taken for the first digit of a code.
theorem signed_code_read :
    parse "(cn=\\+f)" = .ok (.equality "cn" "\x0f") ∧
      ItemAt ['('] ("cn".toList ++ '=' :: "\\+f".toList) [')'] ∧ ¬ DigitsFirst "+f".toList := by
  refine ⟨rfl, .inside .outside (by decide) (unmarked_of_first _ _ (by decide) (by decide)), ?_⟩
  rintro ⟨first, second, rest, high, low, same, upper, _⟩
  cases same
  exact not_digit '+' rfl high upper

end DirectoryServer.Filter
