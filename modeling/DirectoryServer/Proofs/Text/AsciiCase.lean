import DirectoryServer.Proofs.Text.Lowercase

set_option autoImplicit false

namespace DirectoryServer.Text

def capital (letter : Fin 26) : Char :=
  Char.ofNat (65 + letter)

theorem capital_or_own (c : Char) : asciiLowerChar c = c ∨ ∃ letter, c = capital letter := by
  by_cases upper : isAsciiUpper c = true
  · rw [isAsciiUpper, Bool.and_eq_true, decide_eq_true_eq, decide_eq_true_eq] at upper
    have low : 65 ≤ c.toNat := UInt32.le_iff_toNat_le.mp (Char.le_def.mp upper.1)
    have high : c.toNat ≤ 90 := UInt32.le_iff_toNat_le.mp (Char.le_def.mp upper.2)
    refine .inr ⟨⟨c.toNat - 65, by omega⟩, ?_⟩
    rw [capital, show 65 + (c.toNat - 65) = c.toNat by omega, Char.ofNat_toNat]
  · exact .inl (if_neg upper)

theorem letter_codes : ∀ letter, (capital letter).toNat = 65 + letter ∧
    (asciiLowerChar (capital letter)).toNat = 97 + letter := by
  decide

theorem seen_lowered {α : Type} (sees : Char → α)
    (letters : ∀ letter, sees (asciiLowerChar (capital letter)) = sees (capital letter)) (c : Char) :
    sees (asciiLowerChar c) = sees c := by
  rcases capital_or_own c with own | ⟨letter, rfl⟩
  · rw [own]
  · exact letters letter

theorem ascii_lower_lowered (c : Char) : asciiLowerChar (asciiLowerChar c) = asciiLowerChar c :=
  seen_lowered asciiLowerChar (by decide) c

theorem ascii_lower_chars_lowered (text : List Char) :
    asciiLowerChars (asciiLowerChars text) = asciiLowerChars text := by
  rw [asciiLowerChars, asciiLowerChars, List.map_map]
  exact List.map_congr_left fun c _ => ascii_lower_lowered c

theorem ascii_lower_append (front back : List Char) :
    asciiLowerChars (front ++ back) = asciiLowerChars front ++ asciiLowerChars back :=
  List.map_append

theorem ascii_lower_toList (text : String) : (asciiLower text).toList = asciiLowerChars text.toList :=
  String.toList_ofList

theorem lower_char_lowered (c : Char) : lowerChar (asciiLowerChar c) = lowerChar c :=
  seen_lowered lowerChar (by decide +kernel) c

theorem is_cased_lowered (c : Char) : isCased (asciiLowerChar c) = isCased c :=
  seen_lowered isCased (by decide +kernel) c

theorem letters_between_ignorable :
    caseIgnorableRanges.all (fun range =>
      range.2 < 65 || (90 < range.1 && range.2 < 97) || 122 < range.1) = true := by
  decide +kernel

theorem letter_not_ignorable (c : Char)
    (letter : 65 ≤ c.toNat ∧ c.toNat ≤ 90 ∨ 97 ≤ c.toNat ∧ c.toNat ≤ 122) : isCaseIgnorable c = false := by
  rw [isCaseIgnorable, inRanges, List.any_eq_false]
  intro range member
  have between := List.all_eq_true.mp letters_between_ignorable range member
  simp only [Bool.or_eq_true, Bool.and_eq_true, decide_eq_true_eq] at between ⊢
  omega

theorem is_case_ignorable_lowered (c : Char) : isCaseIgnorable (asciiLowerChar c) = isCaseIgnorable c := by
  refine seen_lowered isCaseIgnorable (fun letter => ?_) c
  obtain ⟨big, small⟩ := letter_codes letter
  rw [letter_not_ignorable _ (by omega), letter_not_ignorable _ (by omega)]

theorem ascii_lower_wide (c : Char) (wide : 0x80 ≤ c.toNat ∨ 0x80 ≤ (asciiLowerChar c).toNat) :
    asciiLowerChar c = c := by
  rcases capital_or_own c with own | ⟨letter, rfl⟩
  · exact own
  · obtain ⟨big, small⟩ := letter_codes letter
    omega

theorem sigma_lowered_iff (c : Char) : asciiLowerChar c = 'Σ' ↔ c = 'Σ' := by
  constructor
  · intro sigma
    rw [← ascii_lower_wide c (.inr (by rw [sigma]; decide)), sigma]
  · rintro rfl
    rfl

theorem next_is_cased_lowered (text : List Char) : nextIsCased (asciiLowerChars text) = nextIsCased text := by
  have looked : (fun c => !isCaseIgnorable c) ∘ asciiLowerChar = fun c => !isCaseIgnorable c :=
    funext fun c => congrArg not (is_case_ignorable_lowered c)
  rw [nextIsCased, nextIsCased, asciiLowerChars, List.find?_map, looked]
  cases text.find? (!isCaseIgnorable ·) with
  | none => rfl
  | some c => exact is_cased_lowered c

theorem ends_word_lowered (before after : List Char) :
    endsWord (asciiLowerChars before) (asciiLowerChars after) = endsWord before after := by
  rw [endsWord, endsWord, next_is_cased_lowered, next_is_cased_lowered]

theorem lower_from_lowered (before text : List Char) :
    lowerFrom (asciiLowerChars before) (asciiLowerChars text) = lowerFrom before text := by
  induction text generalizing before with
  | nil => rfl
  | cons c rest ih =>
      have behind : lowerFrom (asciiLowerChar c :: asciiLowerChars before) (asciiLowerChars rest) =
          lowerFrom (c :: before) rest := ih (c :: before)
      have first : asciiLowerChars (c :: rest) = asciiLowerChar c :: asciiLowerChars rest := rfl
      rw [first, lowerFrom, lowerFrom, behind]
      by_cases sigma : c = 'Σ'
      · rw [if_pos sigma, if_pos ((sigma_lowered_iff c).mpr sigma), ends_word_lowered]
      · rw [if_neg sigma, if_neg (sigma ∘ (sigma_lowered_iff c).mp), lower_char_lowered]

theorem lower_chars_lowered (text : List Char) : lowerChars (asciiLowerChars text) = lowerChars text :=
  lower_from_lowered [] text

theorem eq_ignore_ascii_lowered (a b : String) : eqIgnoreAsciiCase (asciiLower a) b = eqIgnoreAsciiCase a b := by
  rw [eqIgnoreAsciiCase, eqIgnoreAsciiCase, ascii_lower_toList, ascii_lower_chars_lowered]

theorem eq_ignore_lowered (a b : String) : eqIgnoreCase (asciiLower a) b = eqIgnoreCase a b := by
  rw [eqIgnoreCase, eqIgnoreCase, ascii_lower_toList, lower_chars_lowered]

def AsciiCased (text : List Char) : Prop :=
  ∀ c ∈ text, c.toNat < 0x80 ∨ lowerChar c = [c]

theorem lower_at_filled (before : List Char) (c : Char) (after : List Char) : lowerAt before c after ≠ [] := by
  unfold lowerAt
  split
  · exact List.cons_ne_nil _ _
  · exact lower_char_filled c

theorem lower_from_cons (before : List Char) (c : Char) (rest : List Char) :
    lowerFrom before (c :: rest) = lowerAt before c rest ++ lowerFrom (c :: before) rest := rfl

theorem lower_from_length (before text : List Char) : text.length ≤ (lowerFrom before text).length := by
  induction text generalizing before with
  | nil => exact Nat.zero_le _
  | cons c rest ih =>
      have own := List.length_pos_iff.mpr (lower_at_filled before c rest)
      have behind := ih (c :: before)
      rw [lower_from_cons, List.length_append, List.length_cons]
      omega

theorem lower_at_cased (before : List Char) (c : Char) (after : List Char)
    (cased : c.toNat < 0x80 ∨ lowerChar c = [c]) : lowerAt before c after = [asciiLowerChar c] := by
  have plain : c ≠ 'Σ' := by
    rintro rfl
    revert cased
    decide +kernel
  rw [lowerAt, if_neg plain]
  by_cases narrow : c.toNat < 0x80
  · rw [lowerChar, if_pos narrow]
  · rw [cased.resolve_left narrow, ascii_lower_wide c (.inl (Nat.le_of_not_lt narrow))]

theorem cased_of_lower_at (before : List Char) (c d : Char) (after : List Char)
    (lowered : lowerAt before c after = [d]) (same : asciiLowerChar c = asciiLowerChar d) :
    c.toNat < 0x80 ∨ lowerChar c = [c] := by
  by_cases narrow : c.toNat < 0x80
  · exact .inl narrow
  · have wide : 0x80 ≤ c.toNat := Nat.le_of_not_lt narrow
    rw [ascii_lower_wide c (.inl wide)] at same
    have own : d = c := by rw [same, ascii_lower_wide d (.inr (same ▸ wide))]
    rw [own, lowerAt] at lowered
    by_cases sigma : c = 'Σ'
    · subst sigma
      rw [if_pos rfl] at lowered
      split at lowered <;> simp at lowered
    · rw [if_neg sigma] at lowered
      exact .inr lowered

theorem lower_from_cased (before text : List Char) (cased : AsciiCased text) :
    lowerFrom before text = asciiLowerChars text := by
  induction text generalizing before with
  | nil => rfl
  | cons c rest ih =>
      rw [lower_from_cons, lower_at_cased before c rest (cased c List.mem_cons_self),
        ih (c :: before) fun d member => cased d (List.mem_cons_of_mem c member)]
      rfl

-- No character is lowered to nothing, so a text that keeps its length is lowered one for one.
theorem cased_of_lower_from (before text : List Char)
    (same : asciiLowerChars text = asciiLowerChars (lowerFrom before text)) : AsciiCased text := by
  induction text generalizing before with
  | nil => simp [AsciiCased]
  | cons c rest ih =>
      have length := congrArg List.length same
      have longer := lower_from_length (c :: before) rest
      rw [lower_from_cons] at same
      obtain ⟨d, more, lowered⟩ := List.exists_cons_of_ne_nil (lower_at_filled before c rest)
      rw [asciiLowerChars, asciiLowerChars, List.length_map, List.length_map, lower_from_cons, lowered,
        List.length_append, List.length_cons, List.length_cons] at length
      cases List.length_eq_zero_iff.mp (show more.length = 0 by omega)
      rw [lowered] at same
      obtain ⟨first, behind⟩ := List.cons.inj same
      rintro e member
      rcases List.mem_cons.mp member with rfl | member
      · exact cased_of_lower_at before e d rest lowered first
      · exact ih (c :: before) behind e member

theorem ascii_cased_iff (text : String) : eqIgnoreAsciiCase text (lower text) = true ↔ AsciiCased text.toList := by
  rw [eqIgnoreAsciiCase, beq_iff_eq, lower, String.toList_ofList]
  constructor
  · exact cased_of_lower_from [] text.toList
  · intro cased
    rw [lowerChars, lower_from_cased [] text.toList cased, ascii_lower_chars_lowered]

end DirectoryServer.Text
