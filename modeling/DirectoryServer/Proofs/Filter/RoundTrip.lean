import DirectoryServer.Proofs.Filter.Item

set_option autoImplicit false

namespace DirectoryServer.Filter

def children : Filter → List Filter
  | .and parts | .or parts => parts
  | .not part => [part]
  | .equality _ _ | .present _ | .substrings _ _ | .unsupported _ _ _ => []

inductive Lies : (depth : Nat) → (node filter : Filter) → Prop where
  | here (filter : Filter) : Lies 0 filter filter
  | inside {depth : Nat} {node part filter : Filter} (member : part ∈ children filter)
      (lies : Lies depth node part) : Lies (depth + 1) node filter

theorem read_and (room position : Nat) (body : List Char) :
    read (room + 1) position ('(' :: '&' :: body) =
      match readParts (read room) body.length (position + 2) body with
      | .error fault => .error fault
      | .ok (parts, after) => close (.and parts, after) := by
  rw [read]
  rfl

theorem read_or (room position : Nat) (body : List Char) :
    read (room + 1) position ('(' :: '|' :: body) =
      match readParts (read room) body.length (position + 2) body with
      | .error fault => .error fault
      | .ok (parts, after) => close (.or parts, after) := by
  rw [read]
  rfl

theorem read_not (room position : Nat) (body : List Char) :
    read (room + 1) position ('(' :: '!' :: body) =
      match read room (position + 2) body with
      | .error fault => .error fault
      | .ok (part, after) => close (.not part, after) := by
  rw [read]
  rfl

theorem read_leaf (room position : Nat) (c : Char) (body : List Char)
    (plain : ∀ mark ∈ ['&', '|', '!'], c ≠ mark) :
    read (room + 1) position ('(' :: c :: body) =
      match cut ')' (c :: body) with
      | none => .error .unexpectedEnd
      | some (item, rest) =>
          (readItem (position + 1) item).map fun filter =>
            (filter, position + 1 + width item + 1, rest) := by
  have conjunction := plain '&' (by decide)
  have disjunction := plain '|' (by decide)
  have negation := plain '!' (by decide)
  rw [read, expect, if_pos rfl]
  split
  · rename_i wrong
    cases wrong
  · rename_i wrong
    cases wrong
  · rename_i same
    cases same
    exact absurd rfl conjunction
  · rename_i same
    cases same
    exact absurd rfl disjunction
  · rename_i same
    cases same
    exact absurd rfl negation
  · rename_i same
    cases same
    rfl

theorem expect_ok (char : Char) (position : Nat) (text rest : List Char)
    (met : expect char position text = .ok rest) : text = char :: rest := by
  cases text with
  | nil => cases met
  | cons c more =>
      rw [expect] at met
      by_cases same : c = char
      · rw [if_pos same] at met
        cases met
        rw [same]
      · rw [if_neg same] at met
        cases met

theorem close_ok (filter found : Filter) (position next : Nat) (text rest : List Char)
    (closed : close (filter, position, text) = .ok (found, next, rest)) :
    found = filter ∧ text = ')' :: rest ∧ next = position + 1 := by
  rw [close] at closed
  obtain ⟨behind, met, same⟩ := (map_ok_iff _ _ _).mp closed
  cases same
  exact ⟨rfl, expect_ok ')' position text rest met, rfl⟩

inductive Opening : List Char → Prop where
  | unopened {text : List Char} (refused : ∀ position, ∃ fault, expect '(' position text = .error fault) :
      Opening text
  | alone : Opening ['(']
  | and (body : List Char) : Opening ('(' :: '&' :: body)
  | or (body : List Char) : Opening ('(' :: '|' :: body)
  | not (body : List Char) : Opening ('(' :: '!' :: body)
  | leaf (c : Char) (body : List Char) (plain : ∀ mark ∈ ['&', '|', '!'], c ≠ mark) : Opening ('(' :: c :: body)

theorem opening (text : List Char) : Opening text := by
  cases text with
  | nil => exact .unopened fun _ => ⟨_, rfl⟩
  | cons first rest =>
      by_cases opens : first = '('
      · subst opens
        cases rest with
        | nil => exact .alone
        | cons c body =>
            by_cases conjunction : c = '&'
            · subst conjunction
              exact .and body
            by_cases disjunction : c = '|'
            · subst disjunction
              exact .or body
            by_cases negation : c = '!'
            · subst negation
              exact .not body
            exact .leaf c body (by simp [conjunction, disjunction, negation])
      · exact .unopened fun _ => ⟨_, if_neg opens⟩

theorem cut_item (c : Char) (body item rest : List Char) (plain : ∀ mark ∈ ['&', '|', '!'], c ≠ mark)
    (found : cut ')' (c :: body) = some (item, rest)) : c :: body = item ++ ')' :: rest ∧ Unmarked item := by
  obtain ⟨whole, free⟩ := cut_found ')' _ item rest found
  refine ⟨whole, free, fun mark marked same => ?_⟩
  cases item with
  | nil => cases same
  | cons d item =>
      cases whole
      exact plain mark marked (Option.some.inj same)

inductive ReadAs (less position next : Nat) (text rest : List Char) : Filter → Prop where
  | and {body : List Char} {parts : List Filter} {after : Nat} (opens : text = '(' :: '&' :: body)
      (inner : readParts (read less) body.length (position + 2) body = .ok (parts, after, ')' :: rest))
      (ends : next = after + 1) : ReadAs less position next text rest (.and parts)
  | or {body : List Char} {parts : List Filter} {after : Nat} (opens : text = '(' :: '|' :: body)
      (inner : readParts (read less) body.length (position + 2) body = .ok (parts, after, ')' :: rest))
      (ends : next = after + 1) : ReadAs less position next text rest (.or parts)
  | not {body : List Char} {part : Filter} {after : Nat} (opens : text = '(' :: '!' :: body)
      (inner : read less (position + 2) body = .ok (part, after, ')' :: rest)) (ends : next = after + 1) :
      ReadAs less position next text rest (.not part)
  | item {item : List Char} {filter : Filter} (opens : text = '(' :: (item ++ ')' :: rest))
      (unmarked : Unmarked item) (inner : readItem (position + 1) item = .ok filter)
      (ends : next = position + 1 + width item + 1) : ReadAs less position next text rest filter

theorem read_as (room position next : Nat) (text rest : List Char) (filter : Filter)
    (done : read room position text = .ok (filter, next, rest)) :
    ∃ less, room = less + 1 ∧ ReadAs less position next text rest filter := by
  cases room with
  | zero => cases done
  | succ less =>
      refine ⟨less, rfl, ?_⟩
      cases opening text with
      | unopened refused =>
          obtain ⟨fault, met⟩ := refused position
          rw [read, met] at done
          cases done
      | alone => cases done
      | and body =>
          rw [read_and] at done
          split at done
          · cases done
          · rename_i parts after inner
            obtain ⟨after, behind⟩ := after
            obtain ⟨rfl, rfl, ends⟩ := close_ok _ _ _ _ _ _ done
            exact .and rfl inner ends
      | or body =>
          rw [read_or] at done
          split at done
          · cases done
          · rename_i parts after inner
            obtain ⟨after, behind⟩ := after
            obtain ⟨rfl, rfl, ends⟩ := close_ok _ _ _ _ _ _ done
            exact .or rfl inner ends
      | not body =>
          rw [read_not] at done
          split at done
          · cases done
          · rename_i part after inner
            obtain ⟨after, behind⟩ := after
            obtain ⟨rfl, rfl, ends⟩ := close_ok _ _ _ _ _ _ done
            exact .not rfl inner ends
      | leaf c body plain =>
          rw [read_leaf _ _ _ _ plain] at done
          cases found : cut ')' (c :: body) with
          | none =>
              rw [found] at done
              cases done
          | some halves =>
              obtain ⟨item, behind⟩ := halves
              obtain ⟨whole, unmarked⟩ := cut_item c body item behind plain found
              rw [found] at done
              obtain ⟨read, inner, same⟩ := (map_ok_iff _ _ _).mp done
              cases same
              exact .item (by rw [whole]) unmarked inner rfl

theorem children_of_item {start : Nat} {left right : List Char} {filter : Filter}
    (stands : ItemOf start left right filter) : children filter = [] := by
  cases stands <;> rfl

theorem read_parts_stop (read : Nat → List Char → Step Filter) (fuel position : Nat) (text : List Char)
    (stops : text.head? ≠ some '(') : readParts read fuel position text = .ok ([], position, text) := by
  unfold readParts
  split
  · exact absurd rfl stops
  · rfl

theorem read_parts_next (read : Nat → List Char → Step Filter) (fuel position next : Nat)
    (text rest : List Char) (part : Filter) (opens : text.head? = some '(')
    (first : read position text = .ok (part, next, rest)) :
    readParts read (fuel + 1) position text =
      (readParts read fuel next rest).map fun (parts, after) => (part :: parts, after) := by
  cases text with
  | nil => cases opens
  | cons c text =>
      cases opens
      rw [readParts, first]

theorem read_parts_cases (read : Nat → List Char → Step Filter) (fuel position after : Nat)
    (text rest : List Char) (parts : List Filter)
    (done : readParts read fuel position text = .ok (parts, after, rest)) :
    (parts = [] ∧ after = position ∧ rest = text) ∨
      ∃ part more next behind less, parts = part :: more ∧ read position text = .ok (part, next, behind) ∧
        readParts read less next behind = .ok (more, after, rest) := by
  by_cases opens : text.head? = some '('
  · cases fuel with
    | zero =>
        cases done
        exact .inl ⟨rfl, rfl, rfl⟩
    | succ fuel =>
        cases text with
        | nil => cases opens
        | cons c text =>
            cases opens
            rw [readParts] at done
            cases first : read position ('(' :: text) with
            | error fault =>
                rw [first] at done
                cases done
            | ok found =>
                obtain ⟨part, next, behind⟩ := found
                rw [first] at done
                obtain ⟨⟨more, later⟩, inner, same⟩ := (map_ok_iff _ _ _).mp done
                cases same
                exact .inr ⟨part, more, next, behind, fuel, rfl, rfl, inner⟩
  · rw [read_parts_stop read fuel position text opens] at done
    cases done
    exact .inl ⟨rfl, rfl, rfl⟩

theorem read_parts_each (read : Nat → List Char → Step Filter) (fuel position after : Nat)
    (text rest : List Char) (parts : List Filter)
    (done : readParts read fuel position text = .ok (parts, after, rest)) :
    ∀ part ∈ parts, ∃ place text next rest, read place text = .ok (part, next, rest) := by
  induction parts generalizing fuel position text with
  | nil => simp
  | cons part parts ih =>
      rcases read_parts_cases read fuel position after text rest _ done with
        ⟨none, _⟩ | ⟨first, more, next, behind, less, same, read_first, inner⟩
      · cases none
      · cases same
        intro other member
        rcases List.mem_cons.mp member with rfl | member
        · exact ⟨_, _, _, _, read_first⟩
        · exact ih less next behind inner other member

theorem read_inside (room position next : Nat) (text rest : List Char) (filter : Filter)
    (done : read room position text = .ok (filter, next, rest)) :
    ∃ less, room = less + 1 ∧ WellRead filter ∧
      ∀ part ∈ children filter, ∃ place text next rest, read less place text = .ok (part, next, rest) := by
  obtain ⟨less, rfl, shape⟩ := read_as room position next text rest filter done
  refine ⟨less, rfl, ?_⟩
  cases shape with
  | and _ inner => exact ⟨trivial, read_parts_each _ _ _ _ _ _ _ inner⟩
  | or _ inner => exact ⟨trivial, read_parts_each _ _ _ _ _ _ _ inner⟩
  | not _ inner =>
      refine ⟨trivial, fun part member => ?_⟩
      cases List.mem_singleton.mp member
      exact ⟨_, _, _, _, inner⟩
  | item _ _ inner =>
      obtain ⟨left, right, _, free, stands⟩ := item_of_read _ _ _ inner
      refine ⟨item_well_read _ left right filter free stands, ?_⟩
      rw [children_of_item stands]
      simp

theorem read_well_read (room position next : Nat) (text rest : List Char) (filter : Filter)
    (done : read room position text = .ok (filter, next, rest)) (depth : Nat) (node : Filter)
    (lies : Lies depth node filter) : WellRead node ∧ depth < room := by
  induction lies generalizing room position next text rest with
  | here filter =>
      obtain ⟨less, rfl, well, _⟩ := read_inside _ _ _ _ _ _ done
      exact ⟨well, Nat.succ_pos less⟩
  | inside member lies ih =>
      obtain ⟨less, rfl, _, each⟩ := read_inside _ _ _ _ _ _ done
      obtain ⟨place, text, next, rest, inner⟩ := each _ member
      obtain ⟨well, room⟩ := ih less place next text rest inner
      exact ⟨well, Nat.succ_lt_succ room⟩

theorem parse_trimmed_cases (text : List Char) (filter : Filter) (parsed : parseTrimmed text = .ok filter) :
    (∃ next, read (maxDepth + 1) 0 text = .ok (filter, next, [])) ∨ readItem 0 text = .ok filter := by
  unfold parseTrimmed at parsed
  split at parsed
  · cases parsed
  · split at parsed
    · cases parsed
    · rename_i found next done
      cases parsed
      exact .inl ⟨next, done⟩
    · cases parsed
  · exact .inr parsed

theorem parse_well_read (text : String) (filter : Filter) (parsed : parse text = .ok filter)
    (depth : Nat) (node : Filter) (lies : Lies depth node filter) : WellRead node ∧ depth ≤ maxDepth := by
  rcases parse_trimmed_cases _ filter parsed with ⟨next, done⟩ | done
  · obtain ⟨well, room⟩ := read_well_read _ 0 next _ [] filter done depth node lies
    exact ⟨well, Nat.le_of_lt_succ room⟩
  · obtain ⟨left, right, _, free, stands⟩ := item_of_read 0 _ filter done
    cases lies with
    | here => exact ⟨item_well_read _ left right filter free stands, Nat.zero_le _⟩
    | inside member =>
        rw [children_of_item stands] at member
        cases member

theorem print_sides {filter : Filter} {left right : List Char} (sides : sides? filter = some (left, right)) :
    printChars filter = '(' :: ((left ++ '=' :: right) ++ [')']) := by
  cases filter with
  | and | or | not => cases sides
  | equality | present | substrings | unsupported =>
      cases sides
      simp [printChars]

theorem right_free {filter : Filter} {left right : List Char} (sides : sides? filter = some (left, right)) :
    ')' ∉ right := by
  cases filter with
  | and | or | not => cases sides
  | equality attr value | unsupported relation attr value =>
      cases sides
      exact escape_free ')' (by decide) value
  | present attr =>
      cases sides
      decide
  | substrings attr pieces =>
      cases sides
      intro member
      simp only [printSubstrings, List.mem_append, List.mem_flatMap, List.mem_singleton] at member
      rcases member with ((inside | star) | ⟨piece, _, inside | star⟩) | inside
      · exact print_optional_free ')' (by decide) pieces.initial inside
      · cases star
      · exact escape_free ')' (by decide) piece inside
      · cases star
      · exact print_optional_free ')' (by decide) pieces.final inside

def Fits (room : Nat) (filter : Filter) : Prop :=
  ∀ depth node, Lies depth node filter → WellRead node ∧ Clear node ∧ depth < room

theorem fits_children {room : Nat} {filter : Filter} (fits : Fits room filter) :
    ∃ less, room = less + 1 ∧ ∀ part ∈ children filter, Fits less part := by
  obtain ⟨_, _, positive⟩ := fits 0 filter (.here filter)
  cases room with
  | zero => cases positive
  | succ less =>
      refine ⟨less, rfl, fun part member depth node lies => ?_⟩
      obtain ⟨well, clear, inside⟩ := fits (depth + 1) node (.inside member lies)
      exact ⟨well, clear, Nat.lt_of_succ_lt_succ inside⟩

theorem read_leaf_print (room position : Nat) (filter : Filter) (left right rest : List Char)
    (sides : sides? filter = some (left, right)) (well : WellRead filter) (clear : Clear filter) :
    ∃ next, read (room + 1) position (printChars filter ++ rest) = .ok (filter, next, rest) := by
  have unmarked := unmarked_of_clear sides clear
  have free := left_free sides well
  have stands := item_of_clear (position + 1 + width left + 1) sides well clear
  have item : ')' ∉ left ++ '=' :: right := by
    intro member
    rcases List.mem_append.mp member with inside | inside
    · exact unmarked.1 inside
    · rcases List.mem_cons.mp inside with equality | inside
      · cases equality
      · exact right_free sides inside
  obtain ⟨c, body, starts, plain⟩ : ∃ c body, left ++ '=' :: right = c :: body ∧
      ∀ mark ∈ ['&', '|', '!'], c ≠ mark := by
    cases left with
    | nil => exact ⟨'=', right, rfl, by simp⟩
    | cons c left =>
        exact ⟨c, left ++ '=' :: right, rfl, fun mark marked same => unmarked.2 mark marked (by rw [same]; rfl)⟩
  have whole : printChars filter ++ rest = '(' :: ((left ++ '=' :: right) ++ ')' :: rest) := by
    rw [print_sides sides]
    simp
  have cutAt := cut_append ')' (left ++ '=' :: right) rest item
  have done := read_of_item (position + 1) left right filter free stands
  rw [starts] at whole cutAt done
  rw [List.cons_append] at whole cutAt
  rw [whole, read_leaf _ _ _ _ plain, cutAt]
  dsimp only
  rw [done]
  exact ⟨_, rfl⟩

theorem print_opens (filter : Filter) : ∃ body, printChars filter = '(' :: (body ++ [')']) := by
  cases filter with
  | and parts => exact ⟨'&' :: printAll parts, by simp [printChars]⟩
  | or parts => exact ⟨'|' :: printAll parts, by simp [printChars]⟩
  | not part => exact ⟨'!' :: printChars part, by simp [printChars]⟩
  | equality | present | substrings | unsupported =>
      exact ⟨_, print_sides rfl⟩

theorem print_all_length (parts : List Filter) : parts.length ≤ (printAll parts).length := by
  induction parts with
  | nil => exact Nat.zero_le _
  | cons part parts ih =>
      obtain ⟨body, opens⟩ := print_opens part
      rw [printAll, opens]
      simp only [List.length_cons, List.length_append]
      omega

mutual
theorem read_print (room position : Nat) (filter : Filter) (rest : List Char) (fits : Fits room filter) :
    ∃ next, read room position (printChars filter ++ rest) = .ok (filter, next, rest) := by
  obtain ⟨well, clear, _⟩ := fits 0 filter (.here filter)
  obtain ⟨less, rfl, smaller⟩ := fits_children fits
  cases filter with
  | and parts =>
      have whole : printChars (.and parts) ++ rest = '(' :: '&' :: (printAll parts ++ ')' :: rest) := by
        simp [printChars]
      obtain ⟨next, inner⟩ := read_parts_print less (printAll parts ++ ')' :: rest).length (position + 2)
        parts rest smaller (by rw [List.length_append]; exact Nat.le_add_right_of_le (print_all_length parts))
      rw [whole, read_and, inner]
      exact ⟨_, rfl⟩
  | or parts =>
      have whole : printChars (.or parts) ++ rest = '(' :: '|' :: (printAll parts ++ ')' :: rest) := by
        simp [printChars]
      obtain ⟨next, inner⟩ := read_parts_print less (printAll parts ++ ')' :: rest).length (position + 2)
        parts rest smaller (by rw [List.length_append]; exact Nat.le_add_right_of_le (print_all_length parts))
      rw [whole, read_or, inner]
      exact ⟨_, rfl⟩
  | not part =>
      have whole : printChars (.not part) ++ rest = '(' :: '!' :: (printChars part ++ ')' :: rest) := by
        simp [printChars]
      obtain ⟨next, inner⟩ := read_print less (position + 2) part (')' :: rest)
        (smaller part List.mem_cons_self)
      rw [whole, read_not, inner]
      exact ⟨_, rfl⟩
  | equality | present | substrings | unsupported =>
      exact read_leaf_print less position _ _ _ rest rfl well clear

theorem read_parts_print (room fuel position : Nat) (parts : List Filter) (rest : List Char)
    (fits : ∀ part ∈ parts, Fits room part) (enough : parts.length ≤ fuel) :
    ∃ next, readParts (read room) fuel position (printAll parts ++ ')' :: rest) =
      .ok (parts, next, ')' :: rest) := by
  cases parts with
  | nil => exact ⟨position, read_parts_stop _ fuel position _ (by simp [printAll])⟩
  | cons part parts =>
      cases fuel with
      | zero => cases enough
      | succ fuel =>
          obtain ⟨next, first⟩ := read_print room position part (printAll parts ++ ')' :: rest)
            (fits part List.mem_cons_self)
          obtain ⟨after, later⟩ := read_parts_print room fuel next parts rest
            (fun other member => fits other (List.mem_cons_of_mem part member))
            (Nat.le_of_succ_le_succ enough)
          obtain ⟨body, opens⟩ := print_opens part
          rw [printAll, List.append_assoc, read_parts_next _ fuel _ _ _ _ part (by rw [opens]; rfl) first,
            later]
          exact ⟨_, rfl⟩
end

theorem clear_of_leaf_print (less position next : Nat) (filter : Filter) (left right behind rest : List Char)
    (sides : sides? filter = some (left, right))
    (shape : ReadAs less position next (printChars filter ++ behind) rest filter) :
    Clear filter ∧ rest = behind := by
  cases shape with
  | and | or | not => cases sides
  | @item item _ opens unmarked inner =>
      obtain ⟨before, after, rfl, free, stands⟩ := item_of_read _ _ _ inner
      have well := item_well_read _ before after filter free stands
      have same : left ++ '=' :: (right ++ ')' :: behind) = before ++ '=' :: (after ++ ')' :: rest) := by
        rw [print_sides sides] at opens
        simpa using opens
      obtain ⟨rfl, tail⟩ := cut_unique '=' _ _ _ _ (left_free sides well) free same
      have closed : ')' ∉ after := fun member =>
        unmarked.1 (List.mem_append_right _ (List.mem_cons_of_mem '=' member))
      obtain ⟨rfl, rfl⟩ := cut_unique ')' _ _ _ _ (right_free sides) closed tail
      refine ⟨clear_of_item sides ⟨fun member => unmarked.1 (List.mem_append_left _ member), ?_⟩ stands, rfl⟩
      intro mark marked first
      refine unmarked.2 mark marked ?_
      cases left with
      | nil => cases first
      | cons c left => exact first

theorem clear_inside {filter : Filter} (own : Clear filter)
    (each : ∀ part ∈ children filter, ∀ depth node, Lies depth node part → Clear node) :
    ∀ depth node, Lies depth node filter → Clear node := by
  intro depth node lies
  cases lies with
  | here => exact own
  | inside member lies => exact each _ member _ node lies

theorem item_not_nested {position : Nat} {item : List Char} {filter : Filter}
    (inner : readItem position item = .ok filter) (nested : sides? filter = none) : False := by
  obtain ⟨left, right, _, _, stands⟩ := item_of_read position item filter inner
  cases stands <;> cases nested

mutual
theorem clear_of_read_print (room position next : Nat) (filter : Filter) (behind rest : List Char)
    (done : read room position (printChars filter ++ behind) = .ok (filter, next, rest)) :
    (∀ depth node, Lies depth node filter → Clear node) ∧ rest = behind := by
  obtain ⟨less, rfl, shape⟩ := read_as room position next _ rest filter done
  cases filter with
  | and parts =>
      cases shape with
      | @and body _ after opens inner =>
          have same : body = printAll parts ++ ')' :: behind := by simpa [printChars] using opens.symm
          rw [same] at inner
          obtain ⟨each, tail⟩ := clear_of_read_parts less _ _ after parts behind (')' :: rest) inner
          exact ⟨clear_inside trivial each, (List.cons.inj tail).2⟩
      | item opens unmarked inner => exact (item_not_nested inner rfl).elim
  | or parts =>
      cases shape with
      | @or body _ after opens inner =>
          have same : body = printAll parts ++ ')' :: behind := by simpa [printChars] using opens.symm
          rw [same] at inner
          obtain ⟨each, tail⟩ := clear_of_read_parts less _ _ after parts behind (')' :: rest) inner
          exact ⟨clear_inside trivial each, (List.cons.inj tail).2⟩
      | item opens unmarked inner => exact (item_not_nested inner rfl).elim
  | not part =>
      cases shape with
      | @not body _ after opens inner =>
          have same : body = printChars part ++ ')' :: behind := by simpa [printChars] using opens.symm
          rw [same] at inner
          obtain ⟨clear, tail⟩ := clear_of_read_print less _ after part (')' :: behind) (')' :: rest) inner
          refine ⟨clear_inside trivial fun other member => ?_, (List.cons.inj tail).2⟩
          cases List.mem_singleton.mp member
          exact clear
      | item opens unmarked inner => exact (item_not_nested inner rfl).elim
  | equality | present | substrings | unsupported =>
      obtain ⟨clear, same⟩ := clear_of_leaf_print less position next _ _ _ behind rest rfl shape
      exact ⟨clear_inside clear (by simp [children]), same⟩

theorem clear_of_read_parts (room fuel position after : Nat) (parts : List Filter) (behind rest : List Char)
    (done : readParts (read room) fuel position (printAll parts ++ ')' :: behind) = .ok (parts, after, rest)) :
    (∀ part ∈ parts, ∀ depth node, Lies depth node part → Clear node) ∧ rest = ')' :: behind := by
  cases parts with
  | nil =>
      rw [printAll, List.nil_append, read_parts_stop _ _ _ _ (by simp)] at done
      cases done
      exact ⟨by simp, rfl⟩
  | cons part parts =>
      rcases read_parts_cases _ _ _ _ _ _ _ done with
        ⟨none, _⟩ | ⟨first, more, next, inside, less, same, read_first, inner⟩
      · cases none
      · cases same
        rw [printAll, List.append_assoc] at read_first
        obtain ⟨clear, rfl⟩ := clear_of_read_print room position next part _ inside read_first
        obtain ⟨later, rfl⟩ := clear_of_read_parts room less next after parts behind rest inner
        refine ⟨fun other member => ?_, rfl⟩
        rcases List.mem_cons.mp member with rfl | member
        · exact clear
        · exact later other member
end

theorem print_trimmed (filter : Filter) : Text.Trimmed (printChars filter) := by
  obtain ⟨body, whole⟩ := print_opens filter
  rw [whole]
  constructor
  · rintro c ⟨⟩
    decide
  · intro c last
    rw [← List.cons_append, List.getLast?_concat] at last
    cases last
    decide

theorem parse_trimmed_opens (tail : List Char) (filter : Filter) :
    parseTrimmed ('(' :: tail) = .ok filter ↔
      ∃ next, read (maxDepth + 1) 0 ('(' :: tail) = .ok (filter, next, []) := by
  rw [parseTrimmed]
  cases read (maxDepth + 1) 0 ('(' :: tail) with
  | error fault => simp
  | ok found =>
      obtain ⟨other, next, rest⟩ := found
      cases rest <;> simp

theorem parse_print (filter : Filter) : parse (print filter) = .ok filter ↔
    ∃ next, read (maxDepth + 1) 0 (printChars filter) = .ok (filter, next, []) := by
  have trimmed := Text.trim_of_trimmed _ (print_trimmed filter)
  obtain ⟨body, whole⟩ := print_opens filter
  rw [parse, print, String.toList_ofList, trimmed, whole, parse_trimmed_opens]

theorem parse_print_iff_clear (text : String) (filter : Filter) (parsed : parse text = .ok filter) :
    parse (print filter) = .ok filter ↔ ∀ depth node, Lies depth node filter → Clear node := by
  rw [parse_print]
  constructor
  · rintro ⟨next, done⟩
    rw [← List.append_nil (printChars filter)] at done
    exact (clear_of_read_print _ 0 next filter [] [] done).1
  · intro clear
    have fits : Fits (maxDepth + 1) filter := by
      intro depth node lies
      obtain ⟨well, inside⟩ := parse_well_read text filter parsed depth node lies
      exact ⟨well, clear depth node lies, Nat.lt_succ_of_le inside⟩
    obtain ⟨next, done⟩ := read_print (maxDepth + 1) 0 filter [] fits
    rw [List.append_nil] at done
    exact ⟨next, done⟩

def spacedFilter : Filter :=
  .and [.substrings "cn" ⟨some " a", ["*"], none⟩, .not (.unsupported .greaterOrEqual "x" "(")]

theorem spaced_filter_clear :
    parse " (&( cn = a*\\2a*)(!(x>=\\28)))" = .ok spacedFilter ∧
      parse (print spacedFilter) = .ok spacedFilter ∧
      ∀ depth node, Lies depth node spacedFilter → Clear node := by
  have parsed : parse " (&( cn = a*\\2a*)(!(x>=\\28)))" = .ok spacedFilter := rfl
  have printed : print spacedFilter = "(&(cn= a*\\2a*)(!(x>=\\28)))" := rfl
  have again : parse (print spacedFilter) = .ok spacedFilter := by
    rw [printed]
    rfl
  exact ⟨parsed, again, (parse_print_iff_clear _ _ parsed).mp again⟩

-- The space between the attribute and the sign is lost, and what is left is another comparison.
theorem signed_attribute_reread :
    parse "(a> =b)" = .ok (.equality "a>" "b") ∧
      parse (print (.equality "a>" "b")) = .ok (.unsupported .greaterOrEqual "a" "b") ∧
      parse (print (.equality "a>" "b")) ≠ .ok (.equality "a>" "b") := by
  have again : parse (print (.equality "a>" "b")) = .ok (.unsupported .greaterOrEqual "a" "b") := rfl
  exact ⟨rfl, again, by rw [again]; simp⟩

end DirectoryServer.Filter
