import DirectoryServer.Session.Registry

set_option autoImplicit false

namespace DirectoryServer.Registry

@[simp] theorem raise_in_flight (registry : Registry) (token : Token) :
    (registry.raise token).inFlight = registry.inFlight := by
  simp only [raise]
  split <;> rfl

@[simp] theorem raise_issued (registry : Registry) (token : Token) :
    (registry.raise token).issued = registry.issued := by
  simp only [raise]
  split <;> rfl

theorem is_raised_raise (registry : Registry) (token other : Token) :
    (registry.raise token).isRaised other = true ↔ other = token ∨ registry.isRaised other = true := by
  simp only [raise]
  split
  · rename_i already
    constructor
    · exact .inr
    · rintro (rfl | raised)
      · exact already
      · exact raised
  · simp [isRaised]

@[simp] theorem cancel_in_flight (registry : Registry) (id : MessageId) :
    (registry.cancel id).2.inFlight = registry.inFlight := by
  simp only [cancel]
  split <;> simp

@[simp] theorem cancel_issued (registry : Registry) (id : MessageId) :
    (registry.cancel id).2.issued = registry.issued := by
  simp only [cancel]
  split <;> simp

theorem cancel_raised (registry : Registry) (id : MessageId) (token : Token)
    (raised : registry.isRaised token = true) : (registry.cancel id).2.isRaised token = true := by
  simp only [cancel]
  split
  · exact (is_raised_raise _ _ _).mpr (.inr raised)
  · exact raised

theorem contains_iff (registry : Registry) (id : MessageId) :
    registry.contains id = true ↔ id ∈ registry.inFlight.map Prod.fst := by
  unfold contains token?
  induction registry.inFlight with
  | nil => simp
  | cons entry rest ih =>
      obtain ⟨key, token⟩ := entry
      by_cases same : id = key
      · subst same
        simp
      · have differs : (id == key) = false := by simpa using same
        simpa only [List.lookup_cons, differs, List.map_cons, List.mem_cons, same, false_or] using ih

theorem contains_false_iff (registry : Registry) (id : MessageId) :
    registry.contains id = false ↔ id ∉ registry.inFlight.map Prod.fst := by
  rw [← contains_iff, Bool.not_eq_true]

theorem register_fresh (registry : Registry) (id : MessageId) (fresh : registry.contains id = false) :
    registry.register id =
      (some registry.issued,
        ⟨registry.issued + 1, registry.raised, (id, registry.issued) :: registry.inFlight⟩) := by
  rw [register, fresh]
  rfl

theorem contains_register (registry : Registry) (id other : MessageId)
    (fresh : registry.contains id = false) (unknown : registry.contains other = false)
    (differs : other ≠ id) : (registry.register id).2.contains other = false := by
  rw [contains_false_iff] at unknown ⊢
  rw [register_fresh registry id fresh, List.map_cons, List.mem_cons]
  rintro (same | known)
  · exact differs same
  · exact unknown known

theorem contains_complete (registry : Registry) (id other : MessageId)
    (unknown : registry.contains other = false) : (registry.complete id).contains other = false := by
  rw [contains_false_iff] at unknown ⊢
  rintro known
  obtain ⟨entry, member, rfl⟩ := List.mem_map.mp known
  exact unknown (List.mem_map.mpr ⟨entry, (List.mem_filter.mp member).1, rfl⟩)

theorem token_of_mem (registry : Registry) (id : MessageId) (token : Token)
    (distinct : (registry.inFlight.map Prod.fst).Nodup) (member : (id, token) ∈ registry.inFlight) :
    registry.token? id = some token := by
  unfold token?
  induction entries : registry.inFlight generalizing registry with
  | nil => simp [entries] at member
  | cons entry rest ih =>
      obtain ⟨key, other⟩ := entry
      rw [entries] at distinct member
      simp only [List.map_cons, List.nodup_cons] at distinct
      rcases List.mem_cons.mp member with same | later
      · cases same
        simp
      · have differs : (id == key) = false := by
          simp only [beq_eq_false_iff_ne, ne_eq]
          rintro rfl
          exact distinct.1 (List.mem_map.mpr ⟨_, later, rfl⟩)
        simpa only [List.lookup_cons, differs] using
          ih ⟨registry.issued, registry.raised, rest⟩ distinct.2 later rfl

theorem raise_all_issued (entries : List (MessageId × Token)) (registry : Registry) :
    (entries.foldl (fun registry entry => registry.raise entry.2) registry).issued = registry.issued := by
  induction entries generalizing registry with
  | nil => rfl
  | cons entry rest ih => simp [ih]

theorem raise_all_raised (entries : List (MessageId × Token)) (registry : Registry) (token : Token) :
    (entries.foldl (fun registry entry => registry.raise entry.2) registry).isRaised token = true ↔
      token ∈ entries.map Prod.snd ∨ registry.isRaised token = true := by
  induction entries generalizing registry with
  | nil => simp
  | cons entry rest ih =>
      simp only [List.foldl_cons, ih, is_raised_raise, List.map_cons, List.mem_cons]
      rw [← or_assoc, or_comm (b := token = entry.2)]

theorem cancel_all_issued (registry : Registry) : registry.cancelAll.2.issued = registry.issued :=
  raise_all_issued registry.inFlight registry

theorem cancel_all_raised (registry : Registry) (token : Token) :
    registry.cancelAll.2.isRaised token = true ↔
      token ∈ registry.inFlight.map Prod.snd ∨ registry.isRaised token = true :=
  raise_all_raised registry.inFlight registry token

theorem complete_in_flight (registry : Registry) (id : MessageId) :
    (registry.complete id).inFlight = registry.inFlight.filter (fun entry => entry.1 ≠ id) := rfl

theorem complete_all_in_flight (ids : List (Message × Token)) (registry : Registry) :
    (ids.foldl (fun registry waiting => registry.complete waiting.1.id) registry).inFlight =
      registry.inFlight.filter (fun entry => entry.1 ∉ ids.map (·.1.id)) := by
  induction ids generalizing registry with
  | nil => exact (List.filter_eq_self.mpr (by simp)).symm
  | cons head rest ih =>
      rw [List.foldl_cons, ih, complete_in_flight, List.filter_filter]
      congr 1
      funext entry
      simp only [List.map_cons, List.mem_cons, not_or, ne_eq, Bool.decide_and, Bool.and_comm]

theorem complete_all_tokens (ids : List (Message × Token)) (registry : Registry) :
    (ids.foldl (fun registry waiting => registry.complete waiting.1.id) registry).raised =
        registry.raised ∧
      (ids.foldl (fun registry waiting => registry.complete waiting.1.id) registry).issued =
        registry.issued := by
  induction ids generalizing registry with
  | nil => exact ⟨rfl, rfl⟩
  | cons head rest ih => exact ih (registry.complete head.1.id)

end DirectoryServer.Registry
