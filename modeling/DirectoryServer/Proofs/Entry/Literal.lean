import DirectoryServer.Filter.Evaluate
import DirectoryServer.Proofs.Route.Accepts

set_option autoImplicit false

/-!
Comparisons up to case of texts that match literally. Both sides are lowered as wholes before they are
compared, so that a literal part is found exactly if its capital sigmas are lowered alike in both.
-/
namespace DirectoryServer

theorem contains_chars_iff (piece text : List Char) : containsChars piece text = true ↔ piece <:+: text := by
  induction text with
  | nil => rw [containsChars, List.isEmpty_iff, List.infix_nil]
  | cons c rest ih => rw [containsChars, Bool.or_eq_true, List.isPrefixOf_iff_prefix, ih, List.infix_cons_iff]

theorem Entry.is_within_iff (entry : Entry) (base : String) :
    entry.isWithin base = true ↔ Text.lowerChars base.toList <:+ Text.lowerChars entry.name.toList :=
  List.isSuffixOf_iff_suffix

theorem Entry.within_plain_base (front base : String) (attributes : List Attribute)
    (plain : 'Σ' ∉ base.toList) : (⟨front ++ base, attributes⟩ : Entry).isWithin base = true := by
  rw [is_within_iff, String.toList_append, Text.lower_suffix_iff]
  exact Text.keeps_sigmas_of_plain _ _ _ plain

namespace Substrings

theorem fits_initial_iff (piece text : String) : fits ⟨some piece, [], none⟩ text = true ↔
    Text.lowerChars piece.toList <+: Text.lowerChars text.toList := by
  simp [fits, List.isPrefixOf_iff_prefix]

theorem fits_any_iff (piece text : String) : fits ⟨none, [piece], none⟩ text = true ↔
    Text.lowerChars piece.toList <:+: Text.lowerChars text.toList := by
  simp [fits, contains_chars_iff]

theorem fits_final_iff (piece text : String) : fits ⟨none, [], some piece⟩ text = true ↔
    Text.lowerChars piece.toList <:+ Text.lowerChars text.toList := by
  simp [fits, List.isSuffixOf_iff_suffix]

end Substrings

open Text in
theorem literal_part_found_iff {σ : Type} (p b q : String) :
    (∀ attributes, (⟨p ++ b, attributes⟩ : Entry).isWithin b = true ↔
      KeepsSigmas p.toList b.toList []) ∧
    (∀ (route : Route σ) (request : Request), request.kind = route.operation →
      request.kind ∈ [.add, .modify, .delete, .compare] → request.targetName? = some (p ++ b) →
      ((route.withSuffix b).accepts request = true ↔ KeepsSigmas p.toList b.toList [])) ∧
    (Substrings.fits ⟨some b, [], none⟩ (b ++ q) = true ↔ KeepsSigmas [] b.toList q.toList) ∧
    (Substrings.fits ⟨none, [b], none⟩ (p ++ b ++ q) = true ↔
      KeepsSigmas p.toList b.toList q.toList ∨ FoundElsewhere p.toList b.toList q.toList) ∧
    (Substrings.fits ⟨none, [], some b⟩ (p ++ b) = true ↔ KeepsSigmas p.toList b.toList []) := by
  refine ⟨fun attributes => ?_, fun route request kind onEntry target => ?_, ?_, ?_, ?_⟩
  · rw [Entry.is_within_iff, String.toList_append, lower_suffix_iff]
  · rw [(route.withSuffix b).accepts_suffix_iff request _ b kind onEntry target rfl, String.toList_append,
      lower_suffix_iff]
  · rw [Substrings.fits_initial_iff, String.toList_append, lower_prefix_iff]
  · rw [Substrings.fits_any_iff, String.toList_append, String.toList_append, lower_infix_iff]
  · rw [Substrings.fits_final_iff, String.toList_append, lower_suffix_iff]

def deleteBelow (suffix : String) : Route Unit :=
  Route.withSuffix { operation := .delete, handler := fun _ _ _ => .done (), backend := .null Unit } suffix

theorem whole_word_found :
    (Request.delete "cn=ΟΔΟΣ").kind = (deleteBelow "").operation ∧
      (Request.delete "cn=ΟΔΟΣ").targetName? = some ("cn=" ++ "ΟΔΟΣ") ∧
      (deleteBelow "ΟΔΟΣ").accepts (.delete "cn=ΟΔΟΣ") = true ∧
      Text.KeepsSigmas "cn=".toList "ΟΔΟΣ".toList [] := by
  obtain ⟨_, routed, _⟩ := @literal_part_found_iff Unit "cn=" "ΟΔΟΣ" ""
  have found : (deleteBelow "ΟΔΟΣ").accepts (.delete "cn=ΟΔΟΣ") = true := by decide +kernel
  have keeps := (routed (deleteBelow "") (.delete "cn=ΟΔΟΣ") rfl (by decide) (by decide)).mp found
  exact ⟨rfl, by decide, found, keeps⟩

theorem sigma_part_missed :
    (⟨"ΟΔΟ" ++ "Σ", []⟩ : Entry).isWithin "Σ" = false ∧
      (deleteBelow "Σ").accepts (.delete ("ΟΔΟ" ++ "Σ")) = false ∧
      Substrings.fits ⟨some "ΟΔΟΣ", [], none⟩ ("ΟΔΟΣ" ++ "ΗΜΟ") = false ∧
      Substrings.fits ⟨none, ["ΔΟΣ"], none⟩ ("Ο" ++ "ΔΟΣ" ++ "ΗΜΟ") = false ∧
      Substrings.fits ⟨none, [], some "Σ"⟩ ("ΟΔΟ" ++ "Σ") = false := by
  decide +kernel

end DirectoryServer
