import DirectoryServer.Ldif.Line

set_option autoImplicit false

namespace DirectoryServer.Ldif

def writeLines (lines : List (List Char)) : List Char :=
  lines.flatMap fun line => line ++ ['\n']

def logicalLines (text : List Char) : List (List Char) :=
  (unfold text).map Prod.snd

structure Whole (line : List Char) : Prop where
  one_line : '\n' ∉ line
  no_return : line.getLast? ≠ some '\r'

theorem without_return_whole (line : List Char) (whole : Whole line) : withoutReturn line = line := by
  rw [withoutReturn, if_neg whole.no_return]

theorem without_return_subset (line : List Char) : withoutReturn line ⊆ line := by
  rw [withoutReturn]
  split
  · exact (List.dropLast_sublist line).subset
  · exact List.Subset.refl line

theorem physical_line_first (before line rest : List Char) (one_line : '\n' ∉ line) :
    physicalLinesFrom before (line ++ '\n' :: rest) =
      withoutReturn (withoutReturn (before.reverse ++ line)) :: physicalLinesFrom [] rest := by
  induction line generalizing before with
  | nil => rw [List.nil_append, physicalLinesFrom, if_pos rfl, List.append_nil]
  | cons c line ih =>
      rw [List.cons_append, physicalLinesFrom, if_neg (Ne.symm (List.ne_of_not_mem_cons one_line)),
        ih _ (List.not_mem_of_not_mem_cons one_line), List.reverse_cons, List.append_assoc,
        List.singleton_append]

theorem physical_line_last (before line : List Char) (one_line : '\n' ∉ line)
    (filled : before.reverse ++ line ≠ []) :
    physicalLinesFrom before line = [withoutReturn (before.reverse ++ line)] := by
  induction line generalizing before with
  | nil =>
      rw [List.append_nil] at filled ⊢
      rw [physicalLinesFrom, if_neg fun empty => filled (by rw [List.isEmpty_iff.mp empty]; rfl)]
  | cons c line ih =>
      have shifted : (c :: before).reverse ++ line = before.reverse ++ c :: line := by
        rw [List.reverse_cons, List.append_assoc, List.singleton_append]
      rw [physicalLinesFrom, if_neg (Ne.symm (List.ne_of_not_mem_cons one_line)),
        ih _ (List.not_mem_of_not_mem_cons one_line) (shifted ▸ filled), shifted]

theorem without_return_behind (line : List Char) : withoutReturn (line ++ ['\r']) = line := by
  rw [withoutReturn, if_pos List.getLast?_concat, List.dropLast_concat]

-- The last line may stand open.
inductive Written : List (List Char) → List Char → Prop where
  | nil : Written [] []
  | feed (line : List Char) {lines : List (List Char)} {text : List Char} (behind : Written lines text) :
      Written (line :: lines) (line ++ '\n' :: text)
  | return_feed (line : List Char) {lines : List (List Char)} {text : List Char}
      (behind : Written lines text) : Written (line :: lines) (line ++ '\r' :: '\n' :: text)
  | left_open (line : List Char) (filled : line ≠ []) : Written [line] line

theorem physical_lines_written {lines : List (List Char)} {text : List Char} (written : Written lines text)
    (whole : ∀ line ∈ lines, Whole line) : physicalLines text = lines := by
  rw [physicalLines]
  induction written with
  | nil => rfl
  | feed line written ih =>
      obtain ⟨first, later⟩ := List.forall_mem_cons.mp whole
      rw [physical_line_first [] line _ first.one_line, List.reverse_nil, List.nil_append,
        without_return_whole line first, without_return_whole line first, ih later]
  | return_feed line written ih =>
      obtain ⟨first, later⟩ := List.forall_mem_cons.mp whole
      have one_line : '\n' ∉ line ++ ['\r'] := by simp [first.one_line]
      rw [List.append_cons line '\r', physical_line_first [] _ _ one_line, List.reverse_nil,
        List.nil_append, without_return_behind, without_return_whole line first, ih later]
  | left_open line filled =>
      have first := whole line List.mem_cons_self
      rw [physical_line_last [] line first.one_line filled, List.reverse_nil, List.nil_append,
        without_return_whole line first]

theorem written_lines (lines : List (List Char)) : Written lines (writeLines lines) := by
  induction lines with
  | nil => exact .nil
  | cons line lines ih =>
      rw [writeLines, List.flatMap_cons, List.append_assoc, List.singleton_append]
      exact .feed line ih

theorem physical_lines_write (lines : List (List Char)) (whole : ∀ line ∈ lines, Whole line) :
    physicalLines (writeLines lines) = lines :=
  physical_lines_written (written_lines lines) whole

theorem join_lines_fresh (done : List Logical) (number : Nat) (lines : List (List Char))
    (fresh : ∀ line ∈ lines, line.head? ≠ some ' ') :
    (joinLines done number lines).map Prod.snd =
      done.reverse.map Prod.snd ++ lines.filter (!isSkipped ·) := by
  fun_induction joinLines done number lines with
  | case1 => simp
  | case2 done number rest more => exact absurd rfl (fresh _ List.mem_cons_self)
  | case3 done number line rest skipped apart ih =>
      rw [if_pos skipped, ih fun other member => fresh other (List.mem_cons_of_mem line member),
        List.filter_cons_of_neg (by simp [skipped])]
  | case4 done number line rest shown apart ih =>
      rw [if_neg shown, ih fun other member => fresh other (List.mem_cons_of_mem line member),
        List.filter_cons_of_pos (by simpa using shown)]
      simp

theorem logical_lines_write (lines : List (List Char)) (whole : ∀ line ∈ lines, Whole line)
    (fresh : ∀ line ∈ lines, line.head? ≠ some ' ') :
    logicalLines (writeLines lines) = lines.filter (!isSkipped ·) := by
  rw [logicalLines, unfold, physical_lines_write lines whole, join_lines_fresh [] 1 lines fresh]
  rfl

theorem physical_line_no_feed (before text line : List Char) (open_line : '\n' ∉ before)
    (member : line ∈ physicalLinesFrom before text) : '\n' ∉ line := by
  induction text generalizing before with
  | nil =>
      rw [physicalLinesFrom] at member
      split at member
      · cases member
      · rw [List.mem_singleton] at member
        subst member
        intro feed
        exact open_line (List.mem_reverse.mp (without_return_subset _ feed))
  | cons c rest ih =>
      rw [physicalLinesFrom] at member
      by_cases feed : c = '\n'
      · rw [if_pos feed] at member
        rcases List.mem_cons.mp member with rfl | behind
        · intro found
          exact open_line
            (List.mem_reverse.mp (without_return_subset _ (without_return_subset _ found)))
        · exact ih [] List.not_mem_nil behind
      · rw [if_neg feed] at member
        exact ih (c :: before) (List.not_mem_cons_of_ne_of_not_mem (Ne.symm feed) open_line) member

theorem join_lines_no_feed (done : List Logical) (number : Nat) (lines : List (List Char))
    (above : ∀ line ∈ done, '\n' ∉ line.2) (below : ∀ line ∈ lines, '\n' ∉ line) :
    ∀ line ∈ joinLines done number lines, '\n' ∉ line.2 := by
  fun_induction joinLines done number lines with
  | case1 =>
      intro line member
      exact above line (List.mem_reverse.mp member)
  | case2 number rest more start text earlier ih =>
      obtain ⟨first, earlier⟩ := List.forall_mem_cons.mp above
      obtain ⟨next, later⟩ := List.forall_mem_cons.mp below
      refine ih (List.forall_mem_cons.mpr ⟨?_, earlier⟩) later
      intro feed
      rcases List.mem_append.mp feed with feed | feed
      · exact first feed
      · exact next (List.mem_cons_of_mem _ feed)
  | case3 done number line rest skipped apart ih =>
      rw [if_pos skipped]
      exact ih above (List.forall_mem_cons.mp below).2
  | case4 done number line rest shown apart ih =>
      obtain ⟨first, later⟩ := List.forall_mem_cons.mp below
      rw [if_neg shown]
      exact ih (List.forall_mem_cons.mpr ⟨first, above⟩) later

theorem logical_line_no_feed (text line : List Char) (member : line ∈ logicalLines text) :
    '\n' ∉ line := by
  obtain ⟨logical, found, rfl⟩ := List.mem_map.mp member
  refine join_lines_no_feed [] 1 _ (List.forall_mem_nil _) ?_ logical found
  intro physical present
  exact physical_line_no_feed [] text physical List.not_mem_nil present

end DirectoryServer.Ldif
