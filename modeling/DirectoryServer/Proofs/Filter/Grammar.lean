import DirectoryServer.Proofs.Filter.ItemGrammar
import DirectoryServer.Proofs.Filter.Places
import DirectoryServer.Proofs.Filter.RoundTrip

set_option autoImplicit false

namespace DirectoryServer.Filter

mutual
-- The texts in parentheses that stand for a filter `depth` levels down.
inductive Derives : (depth : Nat) → List Char → Filter → Prop where
  | and {depth : Nat} {body : List Char} {parts : List Filter} (room : depth ≤ maxDepth)
      (inside : DerivesAll (depth + 1) body parts) : Derives depth ('(' :: '&' :: (body ++ [')'])) (.and parts)
  | or {depth : Nat} {body : List Char} {parts : List Filter} (room : depth ≤ maxDepth)
      (inside : DerivesAll (depth + 1) body parts) : Derives depth ('(' :: '|' :: (body ++ [')'])) (.or parts)
  | not {depth : Nat} {body : List Char} {part : Filter} (room : depth ≤ maxDepth)
      (inside : Derives (depth + 1) body part) : Derives depth ('(' :: '!' :: (body ++ [')'])) (.not part)
  | item {depth : Nat} {item : List Char} {filter : Filter} (room : depth ≤ maxDepth)
      (unmarked : Unmarked item) (asserts : Asserts item filter) : Derives depth ('(' :: (item ++ [')'])) filter

inductive DerivesAll : (depth : Nat) → List Char → List Filter → Prop where
  | nil {depth : Nat} : DerivesAll depth [] []
  | cons {depth : Nat} {text rest : List Char} {part : Filter} {parts : List Filter}
      (first : Derives depth text part) (behind : DerivesAll depth rest parts) :
      DerivesAll depth (text ++ rest) (part :: parts)
end

theorem derives_opens {depth : Nat} {text : List Char} {filter : Filter} (derives : Derives depth text filter) :
    text.head? = some '(' := by
  cases derives <;> rfl

-- Each filter takes a character at least, so the length of a text is fuel enough.
theorem derives_all_length {depth : Nat} {text : List Char} (parts : List Filter) (rest : List Char)
    (derives : DerivesAll depth text parts) : parts.length ≤ (text ++ rest).length := by
  induction parts generalizing text with
  | nil => exact Nat.zero_le _
  | cons part parts ih =>
      cases derives with
      | @cons _ front behind _ _ first others =>
          have filled : 0 < front.length := by
            rw [List.length_pos_iff]
            rintro rfl
            cases derives_opens first
          have later := ih others
          rw [List.append_assoc, List.length_append, List.length_cons]
          omega

-- By induction on the filters that the reader found.
theorem derives_all_of_read (read : Nat → List Char → Step Filter) (depth : Nat)
    (each : ∀ position text part next rest, read position text = .ok (part, next, rest) →
      ∃ front, text = front ++ rest ∧ next = position + width front ∧ Derives depth front part)
    (fuel position after : Nat) (text rest : List Char) (parts : List Filter)
    (done : readParts read fuel position text = .ok (parts, after, rest)) :
    ∃ front, text = front ++ rest ∧ after = position + width front ∧ DerivesAll depth front parts := by
  induction parts generalizing fuel position text with
  | nil =>
      rcases read_parts_cases read fuel position after text rest _ done with
        ⟨_, rfl, rfl⟩ | ⟨_, _, _, _, _, wrong, _⟩
      · exact ⟨[], rfl, rfl, .nil⟩
      · cases wrong
  | cons part parts ih =>
      rcases read_parts_cases read fuel position after text rest _ done with
        ⟨none, _⟩ | ⟨first, more, next, behind, less, same, read_first, inner⟩
      · cases none
      · cases same
        obtain ⟨front, rfl, rfl, derives⟩ := each position text part next behind read_first
        obtain ⟨middle, rfl, rfl, others⟩ := ih less _ behind inner
        exact ⟨front ++ middle, (List.append_assoc front middle rest).symm, by rw [width_append, Nat.add_assoc],
          .cons derives others⟩

theorem width_enclosed (mark : Char) (body : List Char) (size : mark.utf8Size = 1) :
    width ('(' :: mark :: (body ++ [')'])) = 2 + width body + 1 := by
  rw [width, width, width_append, size, ← Nat.add_assoc]
  rfl

-- By induction on the room, which falls by one as the depth of the grammar rises by one.
theorem derives_of_read (room depth position next : Nat) (text rest : List Char) (filter : Filter)
    (levels : room + depth = maxDepth + 1) (done : read room position text = .ok (filter, next, rest)) :
    ∃ front, text = front ++ rest ∧ next = position + width front ∧ Derives depth front filter := by
  induction room generalizing depth position next text rest filter with
  | zero => cases done
  | succ less ih =>
      have deeper : less + (depth + 1) = maxDepth + 1 := by omega
      have inside : depth ≤ maxDepth := by omega
      obtain ⟨_, same, shape⟩ := read_as _ position next text rest filter done
      cases same
      have each : ∀ position text part next rest, read less position text = .ok (part, next, rest) →
          ∃ front, text = front ++ rest ∧ next = position + width front ∧ Derives (depth + 1) front part :=
        fun position text part next rest => ih (depth + 1) position next text rest part deeper
      cases shape with
      | @and body parts after opens inner ends =>
          obtain ⟨front, rfl, rfl, derives⟩ := derives_all_of_read _ _ each _ _ _ _ _ _ inner
          exact ⟨'(' :: '&' :: (front ++ [')']), by simp [opens], by rw [ends, width_enclosed '&' front rfl]; omega,
            .and inside derives⟩
      | @or body parts after opens inner ends =>
          obtain ⟨front, rfl, rfl, derives⟩ := derives_all_of_read _ _ each _ _ _ _ _ _ inner
          exact ⟨'(' :: '|' :: (front ++ [')']), by simp [opens], by rw [ends, width_enclosed '|' front rfl]; omega,
            .or inside derives⟩
      | @not body part after opens inner ends =>
          obtain ⟨front, rfl, rfl, derives⟩ := each _ _ _ _ _ inner
          exact ⟨'(' :: '!' :: (front ++ [')']), by simp [opens], by rw [ends, width_enclosed '!' front rfl]; omega,
            .not inside derives⟩
      | @item item _ opens unmarked inner ends =>
          refine ⟨'(' :: (item ++ [')']), by simp [opens], ?_,
            .item inside unmarked ((read_item_iff _ item filter).mp inner)⟩
          rw [ends, width, width_append, Nat.add_assoc, Nat.add_assoc]
          rfl

theorem derives_all_of_parts (room depth fuel position after : Nat) (text rest : List Char) (parts : List Filter)
    (levels : room + depth = maxDepth + 1)
    (done : readParts (read room) fuel position text = .ok (parts, after, rest)) :
    ∃ front, text = front ++ rest ∧ after = position + width front ∧ DerivesAll depth front parts :=
  derives_all_of_read (read room) depth
    (fun position text part next rest => derives_of_read room depth position next text rest part levels)
    fuel position after text rest parts done

theorem read_unmarked (room position : Nat) (item rest : List Char) (filled : item ≠ []) (unmarked : Unmarked item) :
    read (room + 1) position ('(' :: (item ++ ')' :: rest)) =
      (readItem (position + 1) item).map fun filter => (filter, position + 1 + width item + 1, rest) := by
  obtain ⟨c, tail, rfl⟩ := List.exists_cons_of_ne_nil filled
  have cutAt := cut_append ')' (c :: tail) rest unmarked.1
  rw [List.cons_append] at cutAt ⊢
  rw [read_leaf _ _ _ _ fun mark marked same => unmarked.2 mark marked (congrArg some same), cutAt]

theorem read_unmarked_item (room position : Nat) (item rest : List Char) (filter : Filter)
    (unmarked : Unmarked item) (asserts : Asserts item filter) :
    ∃ next, read (room + 1) position ('(' :: (item ++ ')' :: rest)) = .ok (filter, next, rest) := by
  have done := (read_item_iff (position + 1) item filter).mpr asserts
  have filled : item ≠ [] := by
    rintro rfl
    cases done
  rw [read_unmarked room position item rest filled unmarked, done]
  exact ⟨_, rfl⟩

theorem derives_room {depth : Nat} {text : List Char} {filter : Filter} (derives : Derives depth text filter) :
    depth ≤ maxDepth := by
  cases derives <;> assumption

-- `levels` ties the room of the reader to the depth of the grammar.
mutual
theorem read_of_derives (room depth position : Nat) (filter : Filter) (text rest : List Char)
    (levels : room + depth = maxDepth + 1) (derives : Derives depth text filter) :
    ∃ next, read room position (text ++ rest) = .ok (filter, next, rest) := by
  obtain ⟨less, rfl⟩ : ∃ less, room = less + 1 :=
    Nat.exists_eq_succ_of_ne_zero (by have := derives_room derives; omega)
  have deeper : less + (depth + 1) = maxDepth + 1 := by omega
  cases derives with
  | @and _ body parts _ inside =>
      have whole : '(' :: '&' :: (body ++ [')']) ++ rest = '(' :: '&' :: (body ++ ')' :: rest) := by simp
      obtain ⟨next, inner⟩ := read_parts_of_derives less (depth + 1) (body ++ ')' :: rest).length (position + 2)
        parts body rest deeper inside (derives_all_length parts (')' :: rest) inside)
      rw [whole, read_and, inner]
      exact ⟨_, rfl⟩
  | @or _ body parts _ inside =>
      have whole : '(' :: '|' :: (body ++ [')']) ++ rest = '(' :: '|' :: (body ++ ')' :: rest) := by simp
      obtain ⟨next, inner⟩ := read_parts_of_derives less (depth + 1) (body ++ ')' :: rest).length (position + 2)
        parts body rest deeper inside (derives_all_length parts (')' :: rest) inside)
      rw [whole, read_or, inner]
      exact ⟨_, rfl⟩
  | @not _ body part _ inside =>
      have whole : '(' :: '!' :: (body ++ [')']) ++ rest = '(' :: '!' :: (body ++ ')' :: rest) := by simp
      obtain ⟨next, inner⟩ := read_of_derives less (depth + 1) (position + 2) part body (')' :: rest) deeper inside
      rw [whole, read_not, inner]
      exact ⟨_, rfl⟩
  | @item _ item _ _ unmarked asserts =>
      have whole : '(' :: (item ++ [')']) ++ rest = '(' :: (item ++ ')' :: rest) := by simp
      rw [whole]
      exact read_unmarked_item less position item rest filter unmarked asserts

theorem read_parts_of_derives (room depth fuel position : Nat) (parts : List Filter) (text rest : List Char)
    (levels : room + depth = maxDepth + 1) (derives : DerivesAll depth text parts)
    (enough : parts.length ≤ fuel) :
    ∃ next, readParts (read room) fuel position (text ++ ')' :: rest) = .ok (parts, next, ')' :: rest) := by
  cases derives with
  | nil => exact ⟨position, read_parts_stop _ fuel position _ (by simp)⟩
  | @cons _ front behind part parts first others =>
      cases fuel with
      | zero => cases enough
      | succ fuel =>
          obtain ⟨next, done⟩ := read_of_derives room depth position part front (behind ++ ')' :: rest) levels first
          obtain ⟨after, later⟩ := read_parts_of_derives room depth fuel next parts behind rest levels others
            (Nat.le_of_succ_le_succ enough)
          have opens : (front ++ (behind ++ ')' :: rest)).head? = some '(' := by
            rw [List.head?_append, derives_opens first]
            rfl
          rw [List.append_assoc, read_parts_next _ fuel _ _ _ _ part opens done, later]
          exact ⟨_, rfl⟩
end

theorem read_iff_derives (text : List Char) (filter : Filter) :
    (∃ next, read (maxDepth + 1) 0 text = .ok (filter, next, [])) ↔ Derives 0 text filter := by
  constructor
  · rintro ⟨next, done⟩
    obtain ⟨front, rfl, _, derives⟩ := derives_of_read (maxDepth + 1) 0 0 next text [] filter rfl done
    rwa [List.append_nil]
  · intro derives
    obtain ⟨next, done⟩ := read_of_derives (maxDepth + 1) 0 0 filter text [] rfl derives
    rw [List.append_nil] at done
    exact ⟨next, done⟩

def Denotes (text : List Char) (filter : Filter) : Prop :=
  text ≠ [] ∧ text.head? ≠ some '(' ∧ Asserts text filter ∨ Derives 0 text filter

theorem parse_iff_denotes (text : String) (filter : Filter) :
    parse text = .ok filter ↔ Denotes (Text.trimChars text.toList) filter := by
  rw [parse, Denotes]
  cases bare : Text.trimChars text.toList with
  | nil =>
      constructor
      · intro parsed
        cases parsed
      · rintro (⟨filled, _⟩ | derives)
        · exact absurd rfl filled
        · cases derives_opens derives
  | cons c tail =>
      by_cases opens : c = '('
      · subst opens
        rw [parse_trimmed_opens, read_iff_derives]
        constructor
        · exact .inr
        · rintro (⟨_, plain, _⟩ | derives)
          · exact absurd rfl plain
          · exact derives
      · have item : parseTrimmed (c :: tail) = readItem 0 (c :: tail) := by
          rw [parseTrimmed.eq_3 _ (by simp) (by simpa using opens)]
        rw [item, read_item_iff]
        constructor
        · exact fun asserts => .inl ⟨List.cons_ne_nil c tail, by simpa using opens, asserts⟩
        · rintro (⟨_, _, asserts⟩ | derives)
          · exact asserts
          · exact absurd (Option.some.inj (derives_opens derives)) opens

end DirectoryServer.Filter
