import DirectoryServer.Text.Blank

set_option autoImplicit false

namespace DirectoryServer.Text

def Trimmed (text : List Char) : Prop :=
  (∀ c, text.head? = some c → isBlank c = false) ∧ ∀ c, text.getLast? = some c → isBlank c = false

theorem head_drop_blank (text : List Char) (c : Char)
    (first : (text.dropWhile isBlank).head? = some c) : isBlank c = false := by
  have visible := List.head?_dropWhile_not isBlank text
  rw [first] at visible
  exact visible

theorem drop_blank_of_head (text : List Char) (visible : ∀ c, text.head? = some c → isBlank c = false) :
    text.dropWhile isBlank = text := by
  cases text with
  | nil => rfl
  | cons c rest => rw [List.dropWhile_cons, visible c rfl, if_neg (by simp)]

theorem trim_end_starts (text : List Char) : trimEndChars text <+: text := by
  have behind := List.dropWhile_suffix (l := text.reverse) isBlank
  rwa [← List.reverse_prefix, List.reverse_reverse] at behind

theorem trim_part (text : List Char) : trimChars text <:+: text :=
  (trim_end_starts _).isInfix.trans (List.dropWhile_suffix isBlank).isInfix

theorem trim_trimmed (text : List Char) : Trimmed (trimChars text) := by
  constructor
  · intro c first
    obtain ⟨rest, whole⟩ := trim_end_starts (trimStartChars text)
    apply head_drop_blank text
    cases trimmed : trimChars text with
    | nil =>
        rw [trimmed] at first
        cases first
    | cons d more =>
        rw [trimmed] at first
        rw [trimChars] at trimmed
        rw [trimmed] at whole
        rw [trimStartChars] at whole
        rw [← whole]
        exact first
  · intro c last
    rw [trimChars, trimEndChars, List.getLast?_reverse] at last
    exact head_drop_blank _ c last

theorem trim_of_trimmed (text : List Char) (trimmed : Trimmed text) : trimChars text = text := by
  rw [trimChars, trimStartChars, drop_blank_of_head text trimmed.1, trimEndChars,
    drop_blank_of_head text.reverse (by rw [List.head?_reverse]; exact trimmed.2), List.reverse_reverse]

theorem trim_eq_iff (text : List Char) : trimChars text = text ↔ Trimmed text := by
  constructor
  · intro same
    rw [← same]
    exact trim_trimmed text
  · exact trim_of_trimmed text

theorem trim_text_iff (text : String) : trim text = text ↔ Trimmed text.toList := by
  rw [← trim_eq_iff, trim]
  constructor
  · intro same
    have inner := congrArg String.toList same
    rwa [String.toList_ofList] at inner
  · intro same
    rw [same, String.ofList_toList]

theorem trim_trim (text : List Char) :
    trim (String.ofList (trimChars text)) = String.ofList (trimChars text) := by
  rw [trim_text_iff, String.toList_ofList]
  exact trim_trimmed text

theorem trim_space (text : List Char) : trimChars (' ' :: text) = trimChars text :=
  rfl

end DirectoryServer.Text
