import DirectoryServer.Proofs.Ldif.Lines

set_option autoImplicit false

/-!
Logical lines spread over the physical lines of a file. A logical line may be cut anywhere, with each
piece but the first on a line of its own behind a space, and blank lines and comments may stand between
any two pieces. Unfolding gives every logical line back, with the number of the physical line that its
first piece is on.
-/
namespace DirectoryServer.Ldif

structure Unbroken (line : List Char) : Prop where
  no_feed : '\n' ∉ line
  no_return : '\r' ∉ line

structure Plain (line : List Char) : Prop where
  filled : line ≠ []
  unbroken : Unbroken line
  no_space : line.head? ≠ some ' '
  no_comment : line.head? ≠ some '#'

structure Idle (line : List Char) : Prop where
  unbroken : Unbroken line
  silent : line = [] ∨ line.head? = some '#' ∨ line.all Text.isBlank = true ∧ line.head? ≠ some ' '

-- The pieces of the text `rest`, each on a line of its own behind a space, among idle lines. A piece may
-- be empty.
inductive Trails : List Char → List (List Char) → Prop where
  | nil : Trails [] []
  | idle {rest : List Char} {lines : List (List Char)} (line : List Char) (idle : Idle line)
      (behind : Trails rest lines) : Trails rest (line :: lines)
  | piece {rest : List Char} {lines : List (List Char)} (piece : List Char) (behind : Trails rest lines) :
      Trails (piece ++ rest) ((' ' :: piece) :: lines)

-- The physical lines from number `number` on are these logical lines in pieces, among idle lines. A
-- logical line has the number of the line with its first piece, which is not all white space.
inductive Folds : Nat → List Logical → List (List Char) → Prop where
  | nil (number : Nat) : Folds number [] []
  | idle {number : Nat} {logical : List Logical} {lines : List (List Char)} (line : List Char)
      (idle : Idle line) (behind : Folds (number + 1) logical lines) : Folds number logical (line :: lines)
  | line {number : Nat} {logical : List Logical} {rest : List Char} {trail lines : List (List Char)}
      (first : List Char) (shown : first.all Text.isBlank = false) (trails : Trails rest trail)
      (behind : Folds (number + 1 + trail.length) logical lines) :
      Folds number ((number, first ++ rest) :: logical) (first :: (trail ++ lines))

theorem whole_of_unbroken (line : List Char) (unbroken : Unbroken line) : Whole line :=
  ⟨unbroken.no_feed, fun last => unbroken.no_return (List.mem_of_getLast? last)⟩

theorem unbroken_append (line rest : List Char) :
    Unbroken (line ++ rest) ↔ Unbroken line ∧ Unbroken rest := by
  constructor
  · rintro ⟨no_feed, no_return⟩
    rw [List.mem_append, not_or] at no_feed no_return
    exact ⟨⟨no_feed.1, no_return.1⟩, ⟨no_feed.2, no_return.2⟩⟩
  · rintro ⟨front, back⟩
    exact ⟨List.not_mem_append front.no_feed back.no_feed, List.not_mem_append front.no_return back.no_return⟩

theorem unbroken_behind_space (piece : List Char) (unbroken : Unbroken piece) : Unbroken (' ' :: piece) :=
  (unbroken_append [' '] piece).mpr ⟨⟨by decide, by decide⟩, unbroken⟩

theorem trails_unbroken {rest : List Char} {trail : List (List Char)} (trails : Trails rest trail)
    (unbroken : Unbroken rest) : ∀ line ∈ trail, Unbroken line := by
  induction trails with
  | nil => exact List.forall_mem_nil _
  | idle line idle behind ih => exact List.forall_mem_cons.mpr ⟨idle.unbroken, ih unbroken⟩
  | piece piece behind ih =>
      obtain ⟨own, later⟩ := (unbroken_append piece _).mp unbroken
      exact List.forall_mem_cons.mpr ⟨unbroken_behind_space piece own, ih later⟩

theorem folds_unbroken {number : Nat} {logical : List Logical} {lines : List (List Char)}
    (folds : Folds number logical lines) (plain : ∀ line ∈ logical, Plain line.2) :
    ∀ line ∈ lines, Unbroken line := by
  induction folds with
  | nil number => exact List.forall_mem_nil _
  | idle line idle behind ih => exact List.forall_mem_cons.mpr ⟨idle.unbroken, ih plain⟩
  | line first shown trails behind ih =>
      obtain ⟨own, later⟩ := List.forall_mem_cons.mp plain
      obtain ⟨front, back⟩ := (unbroken_append first _).mp own.unbroken
      refine List.forall_mem_cons.mpr ⟨front, fun line member => ?_⟩
      exact (List.mem_append.mp member).elim (trails_unbroken trails back line) (ih later line)

theorem join_lines_apart (done : List Logical) (number : Nat) (line : List Char)
    (rest : List (List Char)) (apart : line.head? ≠ some ' ') :
    joinLines done number (line :: rest) =
      if isSkipped line then joinLines done (number + 1) rest
      else joinLines ((number, line) :: done) (number + 1) rest := by
  rw [joinLines]
  rintro more start text earlier rfl
  exact absurd rfl apart

theorem join_lines_idle (done : List Logical) (number : Nat) (line : List Char) (rest : List (List Char))
    (idle : Idle line) : joinLines done number (line :: rest) = joinLines done (number + 1) rest := by
  rcases idle.silent with rfl | comment | ⟨blank, apart⟩
  · exact join_lines_apart done number [] rest (by simp)
  · rw [join_lines_apart done number line rest (by simp [comment]), if_pos (by simp [isSkipped, comment])]
  · rw [join_lines_apart done number line rest apart, if_pos (by rw [isSkipped, blank, Bool.true_or])]

theorem join_lines_trails {rest : List Char} {trail : List (List Char)} (trails : Trails rest trail)
    (start number : Nat) (text : List Char) (earlier : List Logical) (lines : List (List Char)) :
    joinLines ((start, text) :: earlier) number (trail ++ lines) =
      joinLines ((start, text ++ rest) :: earlier) (number + trail.length) lines := by
  induction trails generalizing number text with
  | nil => rw [List.append_nil]; rfl
  | idle line idle behind ih =>
      rw [List.cons_append, join_lines_idle _ _ line _ idle, ih, List.length_cons, Nat.add_right_comm,
        Nat.add_assoc]
  | piece piece behind ih =>
      rw [List.cons_append, joinLines, ih, List.append_assoc, List.length_cons, Nat.add_right_comm,
        Nat.add_assoc]

theorem join_lines_folds {number : Nat} {logical : List Logical} {lines : List (List Char)}
    (folds : Folds number logical lines) (plain : ∀ line ∈ logical, Plain line.2) (done : List Logical) :
    joinLines done number lines = done.reverse ++ logical := by
  induction folds generalizing done with
  | nil number => rw [joinLines, List.append_nil]
  | idle line idle behind ih => rw [join_lines_idle done _ line _ idle, ih plain]
  | @line number logical rest trail lines first shown trails behind ih =>
      obtain ⟨own, later⟩ := List.forall_mem_cons.mp plain
      have starts : (first ++ rest).head? = first.head? := by
        cases first with
        | nil => cases shown
        | cons c more => rfl
      have no_space : first.head? ≠ some ' ' := starts ▸ own.no_space
      have no_comment : first.head? ≠ some '#' := starts ▸ own.no_comment
      have kept : ¬ isSkipped first = true := by simp [isSkipped, shown, no_comment]
      rw [join_lines_apart done number first _ no_space, if_neg kept, join_lines_trails trails, ih later,
        List.reverse_cons, List.append_assoc, List.singleton_append]

def Begins (first line : List Char) : Prop :=
  first <+: line ∧ first.all Text.isBlank = false

theorem folds_numbered {number : Nat} {logical : List Logical} {lines : List (List Char)}
    (folds : Folds number logical lines) :
    ∀ line ∈ logical, ∃ place first, line.1 = number + place ∧ lines[place]? = some first ∧ Begins first line.2 := by
  induction folds with
  | nil number => exact List.forall_mem_nil _
  | idle line idle behind ih =>
      intro line member
      obtain ⟨place, first, counted, found, begins⟩ := ih line member
      exact ⟨place + 1, first, by omega, found, begins⟩
  | @line number logical rest trail lines first shown trails behind ih =>
      have begins : Begins first (first ++ rest) := ⟨List.prefix_append first rest, shown⟩
      refine List.forall_mem_cons.mpr ⟨⟨0, first, rfl, List.getElem?_cons_zero, begins⟩, ?_⟩
      intro line member
      obtain ⟨place, first, counted, found, begins⟩ := ih line member
      refine ⟨trail.length + place + 1, first, by omega, ?_, begins⟩
      rw [List.getElem?_cons_succ, List.getElem?_append_right (Nat.le_add_right _ _), Nat.add_sub_cancel_left]
      exact found

theorem unfold_any_folding (logical : List Logical) (lines : List (List Char)) (text : List Char)
    (plain : ∀ line ∈ logical, Plain line.2) (folds : Folds 1 logical lines) (written : Written lines text) :
    unfold text = logical ∧
      ∀ line ∈ logical, ∃ place first, line.1 = 1 + place ∧ lines[place]? = some first ∧ Begins first line.2 := by
  have whole : ∀ line ∈ lines, Whole line := fun line member =>
    whole_of_unbroken line (folds_unbroken folds plain line member)
  have same : unfold text = logical := by
    rw [unfold, physical_lines_written written whole, join_lines_folds folds plain [], List.reverse_nil,
      List.nil_append]
  exact ⟨same, folds_numbered folds⟩

def scattered : List (List Char) :=
  ["# file".toList, "dn: cn=a".toList, [], "description: first".toList, "# half".toList, [' '], ['\t'],
    "  half".toList]

theorem scattered_pieces_unfold :
    let logical : List Logical := [(2, "dn: cn=a".toList), (4, "description: first half".toList)]
    let text := "# file\ndn: cn=a\r\n\ndescription: first\n# half\n \n\t\r\n  half".toList
    (∀ line ∈ logical, Plain line.2) ∧ Folds 1 logical scattered ∧ Written scattered text ∧
      unfold text = logical := by
  intro logical text
  have first : Plain "dn: cn=a".toList := ⟨by decide, ⟨by decide, by decide⟩, by decide, by decide⟩
  have second : Plain "description: first half".toList :=
    ⟨by decide, ⟨by decide, by decide⟩, by decide, by decide⟩
  have plain : ∀ line ∈ logical, Plain line.2 :=
    List.forall_mem_cons.mpr ⟨first, List.forall_mem_singleton.mpr second⟩
  have file : Idle "# file".toList := ⟨⟨by decide, by decide⟩, .inr (.inl rfl)⟩
  have empty : Idle [] := ⟨⟨by decide, by decide⟩, .inl rfl⟩
  have half : Idle "# half".toList := ⟨⟨by decide, by decide⟩, .inr (.inl rfl)⟩
  have tab : Idle ['\t'] := ⟨⟨by decide, by decide⟩, .inr (.inr ⟨by decide, by decide⟩)⟩
  have trails : Trails " half".toList ["# half".toList, [' '], ['\t'], "  half".toList] :=
    .idle _ half (.piece [] (.idle _ tab (.piece " half".toList .nil)))
  have folds : Folds 1 logical scattered :=
    .idle _ file (.line "dn: cn=a".toList (by decide) (.idle _ empty .nil)
      (.line "description: first".toList (by decide) trails (.nil _)))
  have written : Written scattered text :=
    .feed _ (.return_feed _ (.feed _ (.feed _ (.feed _ (.feed _ (.return_feed _
      (.left_open _ (by decide))))))))
  exact ⟨plain, folds, written, (unfold_any_folding logical scattered text plain folds written).1⟩

end DirectoryServer.Ldif
