import DirectoryServer.Text.Lowercase

set_option autoImplicit false

namespace DirectoryServer.Text

theorem lower_char_filled (c : Char) : lowerChar c ≠ [] := by
  unfold lowerChar
  split
  · exact List.cons_ne_nil _ _
  · split
    · exact List.cons_ne_nil _ _
    · split <;> exact List.cons_ne_nil _ _

theorem lower_chars_nil_iff (text : List Char) : lowerChars text = [] ↔ text = [] := by
  cases text with
  | nil => simp [lowerChars, lowerFrom]
  | cons c rest =>
      simp only [lowerChars, lowerFrom, List.append_eq_nil_iff, reduceCtorEq, iff_false, not_and]
      intro empty
      split at empty
      · cases empty
      · exact absurd empty (lower_char_filled c)

theorem eq_ignore_case_iff (a b : String) : eqIgnoreCase a b = true ↔ lower a = lower b := by
  rw [eqIgnoreCase, beq_iff_eq, lower, lower, String.ofList_inj]

theorem lower_empty_iff (text : String) : lower text = lower "" ↔ text = "" := by
  rw [lower, lower, String.ofList_inj]
  exact (lower_chars_nil_iff text.toList).trans String.toList_eq_nil_iff

-- What stands before the character is given nearest first.
def lowerAt (before : List Char) (c : Char) (after : List Char) : List Char :=
  if c = 'Σ' then [if endsWord before after then 'ς' else 'σ'] else lowerChar c

def lowerBetween (before : List Char) : (text after : List Char) → List Char
  | [], _ => []
  | c :: rest, after => lowerAt before c (rest ++ after) ++ lowerBetween (c :: before) rest after

theorem lower_between_nil (before text : List Char) : lowerBetween before text [] = lowerFrom before text := by
  induction text generalizing before with
  | nil => rfl
  | cons c rest ih => rw [lowerBetween, lowerFrom, ih, List.append_nil, lowerAt]

theorem lower_between_append (before front back after : List Char) :
    lowerBetween before (front ++ back) after =
      lowerBetween before front (back ++ after) ++ lowerBetween (front.reverse ++ before) back after := by
  induction front generalizing before with
  | nil => rfl
  | cons c rest ih =>
      rw [List.cons_append, lowerBetween, lowerBetween, ih, List.append_assoc, List.append_assoc,
        List.reverse_cons, List.append_assoc, List.singleton_append]

theorem lower_chars_append (front back : List Char) :
    lowerChars (front ++ back) = lowerBetween [] front back ++ lowerBetween front.reverse back [] := by
  rw [lowerChars, ← lower_between_nil, lower_between_append, List.append_nil, List.append_nil]

theorem lower_at_length (before before' after after' : List Char) (c : Char) :
    (lowerAt before c after).length = (lowerAt before' c after').length := by
  unfold lowerAt
  split <;> rfl

theorem lower_between_length (before before' text after after' : List Char) :
    (lowerBetween before text after).length = (lowerBetween before' text after').length := by
  induction text generalizing before before' with
  | nil => rfl
  | cons c rest ih =>
      rw [lowerBetween, lowerBetween, List.length_append, List.length_append,
        ih (c :: before) (c :: before'), lower_at_length before before' _ (rest ++ after')]

theorem lower_chars_length (before text after : List Char) :
    (lowerChars text).length = (lowerBetween before text after).length := by
  rw [lowerChars, ← lower_between_nil]
  exact lower_between_length _ _ _ _ _

theorem lower_at_same_iff (before before' after after' : List Char) (c : Char) :
    lowerAt before c after = lowerAt before' c after' ↔
      (c = 'Σ' → endsWord before after = endsWord before' after') := by
  unfold lowerAt
  by_cases sigma : c = 'Σ'
  · rw [if_pos sigma, if_pos sigma]
    cases endsWord before after <;> cases endsWord before' after' <;> simp [sigma]
  · rw [if_neg sigma, if_neg sigma]
    simp [sigma]

theorem lower_between_same_iff (before before' text after after' : List Char) :
    lowerBetween before text after = lowerBetween before' text after' ↔
      ∀ front back, text = front ++ 'Σ' :: back →
        endsWord (front.reverse ++ before) (back ++ after) =
          endsWord (front.reverse ++ before') (back ++ after') := by
  induction text generalizing before before' with
  | nil => simp [lowerBetween]
  | cons c rest ih =>
      have split : lowerBetween before (c :: rest) after = lowerBetween before' (c :: rest) after' ↔
          lowerAt before c (rest ++ after) = lowerAt before' c (rest ++ after') ∧
            lowerBetween (c :: before) rest after = lowerBetween (c :: before') rest after' :=
        ⟨fun same => List.append_inj same (lower_at_length _ _ _ _ c),
          fun same => by rw [lowerBetween, lowerBetween, same.1, same.2]⟩
      rw [split, lower_at_same_iff, ih]
      constructor
      · rintro ⟨first, later⟩ front back same
        cases front with
        | nil =>
            cases same
            exact first rfl
        | cons d front =>
            cases same
            have behind := later front back rfl
            simpa using behind
      · intro all
        refine ⟨fun sigma => all [] rest (by rw [sigma]; rfl), fun front back same => ?_⟩
        have behind := all (c :: front) back (by rw [same]; rfl)
        simpa using behind

def KeepsSigmas (before part after : List Char) : Prop :=
  ∀ front back, part = front ++ 'Σ' :: back →
    endsWord (before ++ front).reverse (back ++ after) = endsWord front.reverse back

theorem keeps_sigmas_iff (before part after : List Char) :
    lowerChars part = lowerBetween before.reverse part after ↔ KeepsSigmas before part after := by
  rw [lowerChars, ← lower_between_nil, lower_between_same_iff, KeepsSigmas]
  simp only [List.append_nil, List.reverse_append, eq_comm]

theorem keeps_sigmas_of_plain (before part after : List Char) (plain : 'Σ' ∉ part) :
    KeepsSigmas before part after := by
  rintro front back rfl
  exact absurd (List.mem_append_right front List.mem_cons_self) plain

theorem lower_suffix_iff (before part : List Char) :
    lowerChars part <:+ lowerChars (before ++ part) ↔ KeepsSigmas before part [] := by
  rw [← keeps_sigmas_iff, lower_chars_append]
  constructor
  · rintro ⟨front, same⟩
    exact (List.append_inj' same (lower_chars_length _ _ _)).2
  · intro same
    rw [← same]
    exact List.suffix_append _ _

theorem lower_prefix_iff (part after : List Char) :
    lowerChars part <+: lowerChars (part ++ after) ↔ KeepsSigmas [] part after := by
  rw [← keeps_sigmas_iff, lower_chars_append]
  constructor
  · rintro ⟨back, same⟩
    exact (List.append_inj same (lower_chars_length _ _ _)).1
  · intro same
    rw [List.reverse_nil] at same
    rw [← same]
    exact List.prefix_append _ _

def FoundElsewhere (before part after : List Char) : Prop :=
  ∃ front back, lowerChars (before ++ part ++ after) = front ++ lowerChars part ++ back ∧
    front.length ≠ (lowerChars before).length

theorem lower_infix_iff (before part after : List Char) :
    lowerChars part <:+: lowerChars (before ++ part ++ after) ↔
      KeepsSigmas before part after ∨ FoundElsewhere before part after := by
  have whole : lowerChars (before ++ part ++ after) = lowerBetween [] before (part ++ after) ++
      lowerBetween before.reverse part after ++ lowerBetween (part.reverse ++ before.reverse) after [] := by
    rw [List.append_assoc, lower_chars_append, lower_between_append, List.append_nil, List.append_assoc]
  rw [← keeps_sigmas_iff]
  constructor
  · rintro ⟨front, back, same⟩
    by_cases there : front.length = (lowerChars before).length
    · rw [whole, List.append_assoc, List.append_assoc] at same
      obtain ⟨_, behind⟩ := List.append_inj same (there.trans (lower_chars_length _ _ _))
      exact .inl (List.append_inj behind (lower_chars_length _ _ _)).1
    · exact .inr ⟨front, back, same.symm, there⟩
  · rintro (same | ⟨front, back, same, _⟩)
    · rw [whole, ← same]
      exact ⟨_, _, rfl⟩
    · exact ⟨front, back, same.symm⟩

end DirectoryServer.Text
