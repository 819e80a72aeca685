import DirectoryServer.Filter.Parser
import DirectoryServer.Filter.Printer
import DirectoryServer.Proofs.Text.Utf8

set_option autoImplicit false

namespace DirectoryServer.Filter

theorem cut_append (mark : Char) (front back : List Char) (free : mark ∉ front) :
    cut mark (front ++ mark :: back) = some (front, back) := by
  induction front with
  | nil => exact if_pos rfl
  | cons c front ih =>
      have different : c ≠ mark := fun same => free (same ▸ List.mem_cons_self)
      rw [List.cons_append, cut, if_neg different, ih fun member => free (List.mem_cons_of_mem c member)]
      rfl

theorem cut_found (mark : Char) (text front back : List Char) (found : cut mark text = some (front, back)) :
    text = front ++ mark :: back ∧ mark ∉ front := by
  induction text generalizing front with
  | nil => cases found
  | cons c text ih =>
      rw [cut] at found
      by_cases same : c = mark
      · rw [if_pos same] at found
        cases found
        exact ⟨by rw [same]; rfl, List.not_mem_nil⟩
      · rw [if_neg same] at found
        obtain ⟨⟨before, after⟩, inside, split⟩ := Option.map_eq_some_iff.mp found
        cases split
        obtain ⟨whole, free⟩ := ih before inside
        refine ⟨by rw [whole]; rfl, fun member => ?_⟩
        rcases List.mem_cons.mp member with head | tail
        · exact same head.symm
        · exact free tail

theorem cut_unique (mark : Char) (front back other behind : List Char) (free : mark ∉ front)
    (free' : mark ∉ other) (same : front ++ mark :: back = other ++ mark :: behind) :
    front = other ∧ back = behind := by
  have first := cut_append mark front back free
  rw [same, cut_append mark other behind free'] at first
  cases first
  exact ⟨rfl, rfl⟩

theorem escape_char_cases (c : Char) :
    (∃ first second, escapeChar c = ['\\', first, second] ∧ first ∉ ['*', '(', ')'] ∧
      second ∉ ['*', '(', ')'] ∧ (hexOctet? first second).map (fun octet => [octet]) =
        some (String.utf8EncodeChar c)) ∨
      (escapeChar c = [c] ∧ c ∉ ['*', '(', ')', '\\']) := by
  by_cases star : c = '*'
  · subst star
    exact .inl ⟨'2', 'a', rfl, by decide, by decide, rfl⟩
  by_cases opening : c = '('
  · subst opening
    exact .inl ⟨'2', '8', rfl, by decide, by decide, rfl⟩
  by_cases closing : c = ')'
  · subst closing
    exact .inl ⟨'2', '9', rfl, by decide, by decide, rfl⟩
  by_cases slash : c = '\\'
  · subst slash
    exact .inl ⟨'5', 'c', rfl, by decide, by decide, rfl⟩
  by_cases null : c = '\x00'
  · subst null
    exact .inl ⟨'0', '0', rfl, by decide, by decide, rfl⟩
  · refine .inr ⟨?_, by simp [star, opening, closing, slash]⟩
    unfold escapeChar
    split <;> first | contradiction | rfl

theorem escape_free (mark : Char) (marked : mark ∈ ['*', '(', ')']) (value : String) :
    mark ∉ escape value := by
  intro member
  obtain ⟨c, _, inside⟩ := List.mem_flatMap.mp member
  rcases escape_char_cases c with ⟨first, second, written, free, free', _⟩ | ⟨written, free⟩
  · rw [written] at inside
    simp only [List.mem_cons, List.not_mem_nil, or_false] at inside
    rcases inside with rfl | rfl | rfl
    · exact absurd marked (by decide)
    · exact free marked
    · exact free' marked
  · rw [written, List.mem_singleton] at inside
    subst inside
    refine free ?_
    simp only [List.mem_cons, List.not_mem_nil, or_false] at marked ⊢
    rcases marked with same | same | same <;> simp [same]

theorem unescape_code (position : Nat) (first second : Char) (rest : List Char) (octet : UInt8)
    (code : hexOctet? first second = some octet) :
    unescapeBytes position ('\\' :: first :: second :: rest) =
      (unescapeBytes (position + 3) rest).map (octet :: ·) := by
  rw [unescapeBytes, code]

theorem unescape_plain (position : Nat) (c : Char) (rest : List Char) (plain : c ≠ '\\') :
    unescapeBytes position (c :: rest) =
      (unescapeBytes (position + c.utf8Size) rest).map (String.utf8EncodeChar c ++ ·) := by
  rw [unescapeBytes.eq_3 position c rest (by rintro first second more rfl; exact absurd rfl plain),
    if_neg plain]

theorem unescape_bytes_escape (position : Nat) (text : List Char) :
    unescapeBytes position (text.flatMap escapeChar) = .ok (Text.encodeChars text) := by
  induction text generalizing position with
  | nil => rfl
  | cons c text ih =>
      rw [List.flatMap_cons, Text.encodeChars, List.flatMap_cons, ← Text.encodeChars]
      rcases escape_char_cases c with ⟨first, second, written, _, _, code⟩ | ⟨written, plain⟩
      · obtain ⟨octet, found, same⟩ := Option.map_eq_some_iff.mp code
        rw [written, List.cons_append, List.cons_append, List.cons_append, List.nil_append,
          unescape_code _ _ _ _ _ found, ih, ← same]
        rfl
      · rw [written, List.singleton_append, unescape_plain _ _ _ (fun same => plain (by simp [same])), ih]
        rfl

theorem unescape_escape (position : Nat) (value : String) :
    unescape position (escape value) = .ok value := by
  rw [unescape, escape, unescape_bytes_escape]
  dsimp only
  rw [(Text.decode_iff (Text.encodeChars value.toList) value).mpr rfl]

theorem unescape_bytes_filled (position : Nat) (text : List Char) (octets : Bytes) (filled : text ≠ [])
    (read : unescapeBytes position text = .ok octets) : octets ≠ [] := by
  cases text with
  | nil => exact absurd rfl filled
  | cons c rest =>
      by_cases slash : c = '\\'
      · subst slash
        unfold unescapeBytes at read
        split at read
        · rename_i same
          cases same
        · split at read
          · cases read
          · obtain ⟨behind, _, rfl⟩ := (map_ok_iff _ _ _).mp read
            exact List.cons_ne_nil _ _
        · rename_i same
          cases same
          rw [if_pos rfl] at read
          cases read
      · rw [unescape_plain position c rest slash] at read
        obtain ⟨behind, _, rfl⟩ := (map_ok_iff _ _ _).mp read
        exact List.append_ne_nil_of_left_ne_nil String.utf8EncodeChar_ne_nil behind

theorem unescape_filled (position : Nat) (text : List Char) (value : String) (filled : text ≠ [])
    (read : unescape position text = .ok value) : value ≠ "" := by
  rintro rfl
  rw [unescape] at read
  cases bytes : unescapeBytes position text with
  | error fault =>
      rw [bytes] at read
      cases read
  | ok octets =>
      rw [bytes] at read
      dsimp only at read
      cases decoded : Text.decode octets with
      | error fault =>
          rw [decoded] at read
          cases read
      | ok text =>
          rw [decoded] at read
          cases read
          exact unescape_bytes_filled position _ octets filled bytes
            ((Text.decode_iff octets "").mp decoded).symm

theorem split_stars_append (piece front rest : List Char) (free : '*' ∉ front) :
    splitStars piece (front ++ '*' :: rest) = (piece.reverse ++ front) :: splitStars [] rest := by
  induction front generalizing piece with
  | nil => rw [List.nil_append, splitStars, if_pos rfl, List.append_nil]
  | cons c front ih =>
      have different : c ≠ '*' := fun same => free (same ▸ List.mem_cons_self)
      rw [List.cons_append, splitStars, if_neg different,
        ih (c :: piece) fun member => free (List.mem_cons_of_mem c member), List.reverse_cons,
        List.append_assoc, List.singleton_append]

theorem split_stars_free (piece front : List Char) (free : '*' ∉ front) :
    splitStars piece front = [piece.reverse ++ front] := by
  induction front generalizing piece with
  | nil => rw [splitStars, List.append_nil]
  | cons c front ih =>
      have different : c ≠ '*' := fun same => free (same ▸ List.mem_cons_self)
      rw [splitStars, if_neg different, ih (c :: piece) fun member => free (List.mem_cons_of_mem c member),
        List.reverse_cons, List.append_assoc, List.singleton_append]

end DirectoryServer.Filter
