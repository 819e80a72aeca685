import DirectoryServer.Proofs.Filter.Grammar

set_option autoImplicit false

namespace DirectoryServer.Filter

theorem narrow_iff (c : Char) : c.utf8Size = 1 ↔ c.toNat < 0x80 := by
  rw [Char.utf8Size_eq_one_iff, UInt32.le_iff_toNat_le]
  exact Nat.lt_succ_iff.symm

theorem hex_value_narrow (c : Char) (value : Nat) (digit : hexValue? c = some value) : c.utf8Size = 1 := by
  refine (narrow_iff c).mpr (Nat.lt_of_not_le fun high => ?_)
  rw [(hex_value_above c high).1] at digit
  cases digit

theorem hex_octet_narrow (first second : Char) (octet : UInt8) (code : hexOctet? first second = some octet) :
    first.utf8Size = 1 ∧ second.utf8Size = 1 := by
  rw [hexOctet?] at code
  cases lower : hexValue? second with
  | none =>
      rw [lower] at code
      cases code
  | some low =>
      refine ⟨?_, hex_value_narrow second low lower⟩
      rw [lower] at code
      dsimp only at code
      by_cases plus : first = '+'
      · rw [plus]
        rfl
      · rw [if_neg plus] at code
        obtain ⟨high, upper, _⟩ := Option.map_eq_some_iff.mp code
        exact hex_value_narrow first high upper

theorem keep_code (first second : Char) (rest : List Char) :
    (keep? 2 (first :: second :: rest)).bind Scanner.code? = hexOctet? first second := by
  by_cases narrow : first.utf8Size = 1
  · have head := keep_cons first (second :: rest) 1
    rw [narrow] at head
    by_cases narrow' : second.utf8Size = 1
    · have next := keep_cons second rest 0
      rw [narrow'] at next
      rw [head, next, keep?]
      rfl
    · have wide : ¬ second.utf8Size ≤ 1 := fun small =>
        narrow' (Nat.le_antisymm small second.utf8Size_pos)
      rw [head, keep?, if_neg wide]
      exact (Option.eq_none_iff_forall_ne_some.mpr fun octet code =>
        narrow' (hex_octet_narrow first second octet code).2).symm
  · have none : hexOctet? first second = none := Option.eq_none_iff_forall_ne_some.mpr fun octet code =>
      narrow (hex_octet_narrow first second octet code).1
    rw [none, keep?]
    by_cases two : first.utf8Size ≤ 2
    · have spent : 1 + 1 - first.utf8Size = 0 := by
        have positive := first.utf8Size_pos
        omega
      rw [if_pos two, spent, keep?]
      rfl
    · rw [if_neg two]
      rfl

theorem keep_short (rest : List Char) (short : ∀ first second more, rest ≠ first :: second :: more) :
    (keep? 2 rest).bind Scanner.code? = none := by
  cases rest with
  | nil => rfl
  | cons first rest =>
      cases rest with
      | cons second more => exact absurd rfl (short first second more)
      | nil =>
          rw [keep?]
          split
          · rename_i inside
            cases left : 1 + 1 - first.utf8Size with
            | zero =>
                rw [keep?]
                rfl
            | succ more => rfl
          · rfl

theorem slice_code (front rest : List Char) :
    slice? (front ++ '\\' :: rest) (width front + 1) (width front + 3) = keep? 2 rest := by
  have behind := skip_append (front ++ ['\\']) rest
  rw [List.append_assoc, width_append] at behind
  rw [slice?, if_pos (by omega), show width front + 1 = width front + width ['\\'] from rfl]
  rw [List.singleton_append] at behind
  rw [behind, Option.bind_some, show width front + 3 - (width front + width ['\\']) = 2 by
    rw [show width ['\\'] = 1 from rfl]
    omega]

theorem unescape_from_plain (value : List Char) (offset place : Nat) (own octets : Bytes)
    (free : Scanner.octet '\\' ∉ own) :
    Scanner.unescapeFrom value offset place (own ++ octets) =
      (Scanner.unescapeFrom value offset (place + own.length) octets).map (own ++ ·) := by
  induction own generalizing place with
  | nil =>
      rw [List.nil_append, List.length_nil, Nat.add_zero]
      cases Scanner.unescapeFrom value offset place octets <;> rfl
  | cons octet own ih =>
      have different : octet ≠ Scanner.octet '\\' := fun same => free (same ▸ List.mem_cons_self)
      rw [List.cons_append, Scanner.unescapeFrom, if_neg different,
        ih _ fun member => free (List.mem_cons_of_mem octet member), List.length_cons, Nat.add_assoc,
        Nat.add_comm 1]
      cases Scanner.unescapeFrom value offset (place + (own.length + 1)) octets <;> rfl

theorem octets_free (mark c : Char) (ascii : mark.toNat < 0x80) (different : c ≠ mark) :
    Scanner.octet mark ∉ String.utf8EncodeChar c := by
  intro member
  have value : (Scanner.octet mark).toNat = mark.toNat := Text.octet_of_lt _ (by omega)
  have code := Text.code_of_octet c _ member (by omega)
  exact different (Char.toNat_inj.mp (code.symm.trans value))

theorem octets_narrow (c : Char) (rest : List Char) (narrow : c.utf8Size = 1) :
    Text.encodeChars (c :: rest) = Scanner.octet c :: Text.encodeChars rest := by
  rw [Text.encodeChars, List.flatMap_cons, Text.encode_one c ((narrow_iff c).mp narrow)]
  rfl

-- The scanner decodes octet by octet, the reader character by character.
theorem unescape_from_reads (offset position : Nat) (front rest : List Char)
    (stands : position = offset + width front) :
    Scanner.unescapeFrom (front ++ rest) offset (width front) (Text.encodeChars rest) =
      unescapeBytes position rest := by
  fun_induction unescapeBytes position rest generalizing front with
  | case1 =>
      rw [Text.encodeChars, List.flatMap_nil, Scanner.unescapeFrom]
  | case2 position first second rest none =>
      rw [octets_narrow '\\' _ rfl, Scanner.unescapeFrom, if_pos rfl, slice_code, keep_code, none, stands]
  | case3 position first second rest octet code ih =>
      obtain ⟨narrow, narrow'⟩ := hex_octet_narrow first second octet code
      have size : width (front ++ ['\\', first, second]) = width front + 3 := by
        rw [width_append, width, width, width, narrow, narrow']
        rfl
      have behind := ih (front ++ ['\\', first, second]) (by rw [size, stands, Nat.add_assoc])
      rw [List.append_assoc, size] at behind
      rw [octets_narrow '\\' _ rfl, octets_narrow first _ narrow, octets_narrow second _ narrow',
        Scanner.unescapeFrom, if_pos rfl, slice_code, keep_code, code]
      exact congrArg (·.map (octet :: ·)) behind
  | case4 position rest short =>
      rw [octets_narrow '\\' _ rfl, Scanner.unescapeFrom, if_pos rfl, slice_code, stands,
        keep_short rest fun first second more => short first second more rfl]
  | case5 position c rest _ own ih =>
      have behind := ih (front ++ [c]) (by rw [stands, width_append, Nat.add_assoc]; rfl)
      rw [List.append_assoc, width_append] at behind
      rw [Text.encodeChars, List.flatMap_cons, unescape_from_plain _ _ _ _ _ (octets_free '\\' c (by decide) own),
        String.length_utf8EncodeChar, ← Text.encodeChars]
      exact congrArg (·.map (String.utf8EncodeChar c ++ ·)) behind

theorem unescape_bytes_plain (position : Nat) (value : List Char) (plain : '\\' ∉ value) :
    unescapeBytes position value = .ok (Text.encodeChars value) := by
  induction value generalizing position with
  | nil => rfl
  | cons c rest ih =>
      have different : c ≠ '\\' := fun same => plain (same ▸ List.mem_cons_self)
      rw [unescape_plain position c rest different, ih _ fun member => plain (List.mem_cons_of_mem c member)]
      rfl

theorem unescape_scanned (value : List Char) (offset : Nat) :
    Scanner.unescape value offset = unescape offset value := by
  rw [Scanner.unescape, unescape]
  by_cases escaped : value.contains '\\' = true
  · have reads := unescape_from_reads offset offset [] value rfl
    rw [List.nil_append, width] at reads
    rw [if_pos escaped]
    exact reads ▸ rfl
  · have plain : '\\' ∉ value := fun member => escaped (List.contains_iff_mem.mpr member)
    have decoded := (Text.decode_iff (Text.encodeChars value) (String.ofList value)).mpr
      (by rw [Text.encode, String.toList_ofList])
    rw [if_neg escaped, unescape_bytes_plain offset value plain]
    dsimp only
    rw [decoded]

theorem pieces_next (last index offset : Nat) (parts : Substrings) (piece : List Char) (rest : List (List Char)) :
    Scanner.pieces last index offset parts (piece :: rest) =
      match readPiece offset piece with
      | .error fault => .error fault
      | .ok found =>
          Scanner.pieces last (index + 1) (offset + width piece + 1) (found.foldl (Scanner.put last index) parts)
            rest := by
  rw [Scanner.pieces, readPiece, unescape_scanned]
  by_cases empty : piece.isEmpty = true
  · rw [if_pos empty, if_pos empty]
    rfl
  · rw [if_neg empty, if_neg empty]
    cases unescape offset piece <;> rfl

theorem read_piece_found (offset : Nat) (piece : List Char) (found : List String)
    (read : readPiece offset piece = .ok found) : found = [] ∨ ∃ text, found = [text] := by
  have single := pieces_single ((read_piece_iff offset piece found).mp read)
  cases asked : found.head? with
  | none => exact .inl (single.symm.trans (congrArg Option.toList asked))
  | some text => exact .inr ⟨text, single.symm.trans (congrArg Option.toList asked)⟩

theorem read_pieces_refused (position : Nat) (piece : List Char) (rest : List (List Char)) (fault : ParseError)
    (refused : readPiece position piece = .error fault) : readPieces position (piece :: rest) = .error fault := by
  cases rest with
  | nil =>
      rw [readPieces, refused]
      rfl
  | cons next rest => rw [readPieces.eq_3 _ _ _ (List.cons_ne_nil next rest), refused]

theorem pieces_behind (last index offset : Nat) (initial : Option String) (any : List String)
    (rest : List (List Char)) (behind : index ≠ 0) (ends : last + 1 = index + rest.length) :
    Scanner.pieces last index offset ⟨initial, any, none⟩ rest =
      (readPieces offset rest).map fun (more, final) => ⟨initial, any ++ more, final⟩ := by
  induction rest generalizing index offset any with
  | nil =>
      rw [Scanner.pieces, readPieces]
      simp [Except.map]
  | cons piece rest ih =>
      rw [pieces_next]
      cases own : readPiece offset piece with
      | error fault =>
          rw [read_pieces_refused offset piece rest fault own]
          rfl
      | ok found =>
          cases rest with
          | nil =>
              have latest : index = last := by simpa using ends.symm
              rw [readPieces, own]
              rcases read_piece_found offset piece found own with rfl | ⟨text, rfl⟩
              · simp [Scanner.pieces, Except.map]
              · simp [Scanner.pieces, Except.map, Scanner.put, behind, ← latest]
          | cons next rest =>
              have more : index ≠ last := by
                simp only [List.length_cons] at ends
                omega
              have later := fun any => ih (index + 1) (offset + width piece + 1) any (Nat.succ_ne_zero index) (by
                simp only [List.length_cons] at ends ⊢
                omega)
              have put : found.foldl (Scanner.put last index) ⟨initial, any, none⟩ =
                  ⟨initial, any ++ found, none⟩ := by
                rcases read_piece_found offset piece found own with rfl | ⟨text, rfl⟩
                · simp
                · simp [Scanner.put, behind, more]
              rw [readPieces.eq_3 _ _ _ (List.cons_ne_nil next rest), own]
              dsimp only
              rw [put, later]
              cases readPieces (offset + width piece + 1) (next :: rest) <;> simp [Except.map]

theorem pieces_scanned (start : Nat) (value : List Char) :
    Scanner.pieces ((splitStars [] value).length - 1) 0 start ⟨none, [], none⟩ (splitStars [] value) =
      readSubstrings start value := by
  rw [readSubstrings]
  cases splitStars [] value with
  | nil => rfl
  | cons first rest =>
      rw [pieces_next]
      dsimp only
      cases own : readPiece start first with
      | error fault => rfl
      | ok found =>
          have put : found.foldl (Scanner.put rest.length 0) ⟨none, [], none⟩ = ⟨found.head?, [], none⟩ := by
            rcases read_piece_found start first found own with rfl | ⟨text, rfl⟩ <;> rfl
          dsimp only
          rw [List.length_cons, Nat.add_one_sub_one, put,
            pieces_behind _ _ _ _ _ _ (Nat.succ_ne_zero 0) (Nat.add_comm _ _)]
          rfl

theorem item_scanned (text : List Char) (offset : Nat) :
    Scanner.item text offset = some (readItem offset text) := by
  rw [Scanner.item, readItem, place_cut]
  cases found : cut '=' text with
  | none => rfl
  | some halves =>
      obtain ⟨left, right⟩ := halves
      obtain ⟨rfl, _⟩ := cut_found '=' text left right found
      have before := slice_append [] left ('=' :: right)
      have behind := slice_rest (left ++ ['=']) right
      rw [List.nil_append, width, Nat.zero_add] at before
      rw [List.append_assoc, width_append, List.singleton_append] at behind
      dsimp only [Option.map_some]
      rw [before]
      change (slice? _ (width left + width ['=']) _).bind _ = _
      rw [behind]
      dsimp only [Option.bind_some]
      rw [Scanner.sides]
      cases unsupportedSign? left with
      | some sign => rw [unescape_scanned]
      | none =>
        dsimp only
        rw [unescape_scanned, pieces_scanned]

def placed {α : Type} (found : α × Nat × List Char) : α × Nat :=
  (found.1, found.2.1)

-- By induction on the fuel of the reader, of which each filter takes one at least.
theorem list_scans (whole : List Char) (read : Nat → List Char → Step Filter) (scan : Nat → Scanner.Scan Filter)
    (scans : ∀ front back, whole = front ++ back →
      scan (width front) = some ((read (width front) back).map placed))
    (moves : ∀ position text part next rest, read position text = .ok (part, next, rest) →
      ∃ front, text = front ++ rest ∧ next = position + width front ∧ front ≠ [])
    (fuel : Nat) (front back : List Char) (same : whole = front ++ back) (enough : back.length ≤ fuel) :
    Scanner.list whole scan (width front) = some ((readParts read fuel (width front) back).map placed) := by
  induction fuel generalizing front back with
  | zero =>
      cases List.eq_nil_of_length_eq_zero (Nat.le_zero.mp enough)
      rw [Scanner.list, same, dif_neg (by rw [Scanner.peek_nil]; simp)]
      rfl
  | succ fuel ih =>
      rw [Scanner.list]
      by_cases opens : back.head? = some '('
      · rw [dif_pos (same ▸ (Scanner.peek_mark '(' (by decide) front back).mpr opens), scans front back same]
        cases first : read (width front) back with
        | error fault =>
            obtain ⟨rest, rfl⟩ := List.head?_eq_some_iff.mp opens
            rw [readParts, first]
            rfl
        | ok found =>
            obtain ⟨part, next, rest⟩ := found
            obtain ⟨middle, rfl, rfl, filled⟩ := moves _ _ _ _ _ first
            have onward := width_positive middle filled
            have shorter : rest.length ≤ fuel := by
              have := List.length_pos_iff.mpr filled
              rw [List.length_append] at enough
              omega
            have later := ih (front ++ middle) rest (by rw [same, List.append_assoc]) shorter
            rw [width_append] at later
            rw [read_parts_next read fuel _ _ _ _ part opens first]
            dsimp only [Except.map, placed]
            rw [dif_pos (by omega), later]
            cases readParts read fuel (width front + width middle) rest <;> rfl
      · rw [dif_neg fun seen => opens ((Scanner.peek_mark '(' (by decide) front back).mp (same ▸ seen)),
          read_parts_stop read _ _ back opens]
        rfl

theorem closing_scans {α : Type} (make : α → Filter) (inner : α) (front back : List Char) :
    Scanner.closing (front ++ back) make (some (.ok (inner, width front))) =
      some ((close (make inner, width front, back)).map placed) := by
  rw [Scanner.closing, Scanner.expect_reads ')' (by decide), close]
  cases expect ')' (width front) back <;> rfl

theorem leaf_closing_scans (front back : List Char) :
    Scanner.closing (front ++ back) id (Scanner.leaf (front ++ back) (width front)) =
      some ((match cut ')' back with
        | none => (.error .unexpectedEnd : Step Filter)
        | some (item, rest) => (readItem (width front) item).map fun filter =>
            (filter, width front + width item + 1, rest)).map placed) := by
  rw [Scanner.leaf, slice_rest, Option.bind_eq_bind, Option.bind_some, place_cut]
  cases found : cut ')' back with
  | none => rfl
  | some halves =>
      obtain ⟨item, rest⟩ := halves
      obtain ⟨rfl, _⟩ := cut_found ')' back item rest found
      dsimp only [Option.map_some]
      rw [slice_append, Option.bind_eq_bind, Option.bind_some, item_scanned]
      cases readItem (width front) item with
      | error fault => rfl
      | ok filter =>
          have closed := closing_scans id filter (front ++ item) (')' :: rest)
          rwa [width_append, List.append_assoc] at closed

theorem read_moves (room depth position next : Nat) (text rest : List Char) (filter : Filter)
    (levels : room + depth = maxDepth + 1) (done : read room position text = .ok (filter, next, rest)) :
    ∃ front, text = front ++ rest ∧ next = position + width front ∧ front ≠ [] := by
  obtain ⟨front, whole, ends, derives⟩ := derives_of_read room depth position next text rest filter levels done
  refine ⟨front, whole, ends, ?_⟩
  rintro rfl
  cases derives_opens derives

theorem list_closing_scans (whole : List Char) (room depth : Nat) (levels : room + depth = maxDepth + 1)
    (scans : ∀ front back, whole = front ++ back →
      Scanner.filter whole (room + 1) depth (width front) = some ((read room (width front) back).map placed))
    (make : List Filter → Filter) (front body : List Char) (same : whole = front ++ body) :
    Scanner.closing whole make (Scanner.list whole (Scanner.filter whole (room + 1) depth) (width front)) =
      some (((readParts (read room) body.length (width front) body).bind fun found =>
        close (make found.1, found.2)).map placed) := by
  rw [list_scans whole (read room) _ scans
    (fun position text part next rest => read_moves room depth position next text rest part levels) body.length
    front body same (Nat.le_refl _)]
  cases done : readParts (read room) body.length (width front) body with
  | error fault => rfl
  | ok found =>
      obtain ⟨parts, after, rest⟩ := found
      obtain ⟨middle, rfl, rfl, _⟩ := derives_all_of_parts room depth _ _ _ _ _ _ levels done
      rw [same, ← List.append_assoc]
      dsimp only [Except.map, placed]
      rw [← width_append, closing_scans]
      rfl

theorem opened_place (front rest : List Char) :
    front ++ '(' :: rest = front ++ ['('] ++ rest ∧ width front + 1 = width (front ++ ['(']) :=
  ⟨by rw [List.append_assoc]; rfl, (width_append front ['(']).symm⟩

theorem peek_opened (mark : Char) (ascii : mark.toNat < 0x80) (front body : List Char) :
    Scanner.peek (front ++ '(' :: mark :: body) (width front + 1) = some (Scanner.octet mark) := by
  obtain ⟨same, place⟩ := opened_place front (mark :: body)
  rw [same, place, Scanner.peek_mark mark ascii, List.head?_cons]

-- By induction on the room, which falls by one as the depth rises by one.
theorem filter_scans (room depth : Nat) (front back : List Char) (levels : room + depth = maxDepth + 1) :
    Scanner.filter (front ++ back) (room + 1) depth (width front) =
      some ((read room (width front) back).map placed) := by
  induction room generalizing depth front back with
  | zero =>
      rw [Scanner.filter, if_pos (by omega)]
      rfl
  | succ less ih =>
      have inside : ¬ maxDepth < depth := by omega
      have deeper : less + (depth + 1) = maxDepth + 1 := by omega
      have scans : ∀ whole front back, whole = front ++ back →
          Scanner.filter whole (less + 1) (depth + 1) (width front) =
            some ((read less (width front) back).map placed) := by
        rintro _ front back rfl
        exact ih (depth + 1) front back deeper
      have behind : ∀ c body, front ++ '(' :: c :: body = front ++ ['(', c] ++ body := by simp
      rw [Scanner.filter, if_neg inside, Scanner.expect_reads '(' (by decide)]
      cases opening back with
      | unopened refused =>
          obtain ⟨fault, met⟩ := refused (width front)
          rw [read, met]
          rfl
      | alone =>
          obtain ⟨same, place⟩ := opened_place front []
          rw [expect, if_pos rfl]
          dsimp only [Except.map]
          rw [same, place, Scanner.peek_nil]
          rfl
      | and body =>
          rw [expect, if_pos rfl]
          dsimp only [Except.map]
          rw [peek_opened '&' (by decide), read_and, ← width_opened front '&' rfl]
          dsimp only
          rw [if_pos rfl, list_closing_scans _ less (depth + 1) deeper (scans _) .and _ body (behind '&' body)]
          cases readParts (read less) body.length (width (front ++ ['(', '&'])) body <;> rfl
      | or body =>
          rw [expect, if_pos rfl]
          dsimp only [Except.map]
          rw [peek_opened '|' (by decide), read_or, ← width_opened front '|' rfl]
          dsimp only
          rw [if_neg (by decide), if_pos rfl,
            list_closing_scans _ less (depth + 1) deeper (scans _) .or _ body (behind '|' body)]
          cases readParts (read less) body.length (width (front ++ ['(', '|'])) body <;> rfl
      | not body =>
          rw [expect, if_pos rfl]
          dsimp only [Except.map]
          rw [peek_opened '!' (by decide), read_not, ← width_opened front '!' rfl]
          dsimp only
          rw [if_neg (by decide), if_neg (by decide), if_pos rfl, scans _ _ _ (behind '!' body)]
          cases done : read less (width (front ++ ['(', '!'])) body with
          | error fault => rfl
          | ok found =>
              obtain ⟨part, next, rest⟩ := found
              obtain ⟨middle, rfl, rfl, _⟩ := derives_of_read less (depth + 1) _ _ _ _ _ deeper done
              rw [behind, ← List.append_assoc, ← width_append]
              exact closing_scans .not part _ rest
      | leaf c body plain =>
          obtain ⟨same, place⟩ := opened_place front (c :: body)
          obtain ⟨own, seen, stands⟩ := Scanner.peek_filled (front ++ ['(']) c body
          have different : ∀ mark ∈ ['&', '|', '!'], mark.toNat < 0x80 → own ≠ Scanner.octet mark :=
            fun mark marked ascii => mt (stands mark ascii).mp (plain mark marked)
          rw [expect, if_pos rfl]
          dsimp only [Except.map]
          rw [same, place, seen]
          dsimp only
          rw [if_neg (different '&' (by decide) (by decide)), if_neg (different '|' (by decide) (by decide)),
            if_neg (different '!' (by decide) (by decide)), leaf_closing_scans, read_leaf _ _ _ _ plain, place]
          rfl

theorem parse_scanned (text : String) : Scanner.parse text = some (parse text) := by
  rw [Scanner.parse, parse]
  cases bare : Text.trimChars text.toList with
  | nil => rfl
  | cons c tail =>
      rw [Scanner.parseTrimmed, if_neg (by simp)]
      by_cases opens : c = '('
      · subst opens
        rw [if_neg (by simp), parseTrimmed]
        have scanned := filter_scans (maxDepth + 1) 0 [] ('(' :: tail) rfl
        rw [List.nil_append, width] at scanned
        rw [scanned]
        cases done : read (maxDepth + 1) 0 ('(' :: tail) with
        | error fault => rfl
        | ok found =>
            obtain ⟨filter, next, rest⟩ := found
            obtain ⟨front, whole, rfl, _⟩ := derives_of_read (maxDepth + 1) 0 0 next _ rest filter rfl done
            dsimp only [Except.map, placed]
            rw [whole, Nat.zero_add, width_append]
            cases rest with
            | nil => rw [if_neg (by simp [width])]
            | cons d rest =>
                have behind := width_positive (d :: rest) (List.cons_ne_nil d rest)
                rw [if_pos (by omega)]
      · rw [if_pos (by simpa using opens), item_scanned, parseTrimmed.eq_3 _ (by simp) (by simpa using opens)]

end DirectoryServer.Filter
