import DirectoryServer.Connection.Step

set_option autoImplicit false

namespace DirectoryServer.Connection.Move

def octets : Move → Bytes
  | .arrive bytes => bytes
  | _ => []

def Mild : Move → Prop
  | .stop | .failReads _ | .failWrites _ | .stallWrites => False
  | .loop | .worker | .arrive _ | .close | .wait _ => True

def arrived (moves : Nat → Move) (count : Nat) : Bytes :=
  ((List.range count).map moves).flatMap octets

theorem arrived_succ (moves : Nat → Move) (count : Nat) :
    arrived moves (count + 1) = arrived moves count ++ (moves count).octets := by
  simp only [arrived, List.range_succ, List.map_append, List.flatMap_append, List.map_cons, List.map_nil,
    List.flatMap_cons, List.flatMap_nil, List.append_nil]

theorem arrived_grows (moves : Nat → Move) (count more : Nat) :
    ∃ later, arrived moves count ++ later = arrived moves (count + more) := by
  induction more with
  | zero => exact ⟨[], List.append_nil _⟩
  | succ more ih =>
      obtain ⟨later, grown⟩ := ih
      refine ⟨later ++ (moves (count + more)).octets, ?_⟩
      rw [← List.append_assoc, grown, ← Nat.add_assoc, arrived_succ]

-- The loop and the worker are never left waiting for good.
structure Delivers (stream : Bytes) (moves : Nat → Move) : Prop where
  mild : ∀ count, (moves count).Mild
  loops : ∀ count, ∃ more, moves (count + more) = .loop
  works : ∀ count, ∃ more, moves (count + more) = .worker
  closes : ∃ count, moves count = .close
  whole : ∀ count, moves count = .close → ∀ later, count ≤ later → arrived moves later = stream

theorem delivers_front {stream : Bytes} {moves : Nat → Move} (delivers : Delivers stream moves)
    (count : Nat) : ∃ ahead, arrived moves count ++ ahead = stream := by
  obtain ⟨closing, closes⟩ := delivers.closes
  rcases Nat.le_total count closing with before | behind
  · obtain ⟨more, rfl⟩ := Nat.exists_eq_add_of_le before
    obtain ⟨ahead, grown⟩ := arrived_grows moves count more
    exact ⟨ahead, grown.trans (delivers.whole _ closes _ (Nat.le_refl _))⟩
  · exact ⟨[], (List.append_nil _).trans (delivers.whole closing closes count behind)⟩

theorem delivers_silent {stream : Bytes} {moves : Nat → Move} (delivers : Delivers stream moves)
    {closing : Nat} (closes : moves closing = .close) (count : Nat) (behind : closing ≤ count) :
    (moves count).octets = [] := by
  have now := delivers.whole closing closes count behind
  have then_ := delivers.whole closing closes (count + 1) (Nat.le_succ_of_le behind)
  rw [arrived_succ, now] at then_
  exact List.append_right_eq_self.mp then_

def ending (early : List Move) (count : Nat) : Move :=
  (early ++ [Move.close]).getD count (if count % 2 = 0 then .loop else .worker)

theorem ending_early (early : List Move) (count : Nat) (before : count < early.length) :
    ending early count = early[count] := by
  rw [ending, List.getD_eq_getElem?_getD, List.getElem?_append_left before, List.getElem?_eq_getElem before]
  rfl

theorem ending_close (early : List Move) : ending early early.length = .close := by
  rw [ending, List.getD_eq_getElem?_getD, List.getElem?_concat_length]
  rfl

theorem ending_late (early : List Move) (count : Nat) (behind : early.length < count) :
    ending early count = if count % 2 = 0 then .loop else .worker := by
  have out : (early ++ [Move.close]).length ≤ count := by
    rw [List.length_append, List.length_singleton]
    exact behind
  rw [ending, List.getD_eq_getElem?_getD, List.getElem?_eq_none out]
  rfl

theorem ending_arrived (early : List Move) (more : Nat) :
    arrived (ending early) (early.length + more) = early.flatMap octets := by
  induction more with
  | zero =>
      have same : (List.range early.length).map (ending early) = early := by
        refine List.ext_getElem (by simp) fun count _ before => ?_
        rw [List.getElem_map, List.getElem_range, ending_early early count before]
      rw [arrived, Nat.add_zero, same]
  | succ more ih =>
      have silent : (ending early (early.length + more)).octets = [] := by
        by_cases first : more = 0
        · rw [first, Nat.add_zero, ending_close]
          rfl
        · rw [ending_late early _ (by omega)]
          split <;> rfl
      rw [← Nat.add_assoc, arrived_succ, ih, silent, List.append_nil]

theorem ending_delivers (early : List Move) (mild : ∀ move ∈ early, move.Mild)
    (open_ : Move.close ∉ early) : Delivers (early.flatMap octets) (ending early) where
  mild count := by
    rcases Nat.lt_trichotomy count early.length with before | rfl | behind
    · rw [ending_early early count before]
      exact mild _ (List.getElem_mem before)
    · rw [ending_close]
      trivial
    · rw [ending_late early count behind]
      split <;> trivial
  loops count := by
    refine ⟨count + 2 * (early.length + 1), ?_⟩
    rw [ending_late early _ (by omega), if_pos (by omega)]
  works count := by
    refine ⟨count + 2 * (early.length + 1) + 1, ?_⟩
    rw [ending_late early _ (by omega), if_neg (by omega)]
  closes := ⟨early.length, ending_close early⟩
  whole count closes later behind := by
    have closed : early.length ≤ count := by
      refine Nat.le_of_not_lt fun before => open_ ?_
      rw [← closes, ending_early early count before]
      exact List.getElem_mem before
    obtain ⟨more, rfl⟩ := Nat.exists_eq_add_of_le (Nat.le_trans closed behind)
    exact ending_arrived early more

end DirectoryServer.Connection.Move
