import DirectoryServer.Proofs.Session.Registry

set_option autoImplicit false

namespace DirectoryServer

inductive RegistryCall where
  | register (id : MessageId)
  | cancel (id : MessageId)
  | complete (id : MessageId)
  | cancelAll
deriving DecidableEq, Repr

namespace RegistryCall

def make (registry : Registry) : RegistryCall → Registry
  | .register id => (registry.register id).2
  | .cancel id => (registry.cancel id).2
  | .complete id => registry.complete id
  | .cancelAll => registry.cancelAll.2

def Closes (id : MessageId) (call : RegistryCall) : Prop :=
  call = .complete id ∨ call = .cancelAll

def Raises (id : MessageId) (call : RegistryCall) : Prop :=
  call = .cancel id ∨ call = .cancelAll

end RegistryCall

namespace Registry

def callAll (registry : Registry) (calls : List RegistryCall) : Registry :=
  calls.foldl RegistryCall.make registry

def Opened (registry : Registry) (calls : List RegistryCall) (id : MessageId) (token : Token) : Prop :=
  ∃ before since, calls = before ++ .register id :: since ∧
    ((registry.callAll before).register id).1 = some token ∧ ∀ call ∈ since, ¬ call.Closes id

def RaisedSince (since : List RegistryCall) (id : MessageId) : Prop :=
  ∃ front call behind, since = front ++ call :: behind ∧ call.Raises id ∧
    ∀ earlier ∈ front, ¬ earlier.Closes id

theorem call_all_cons (registry : Registry) (call : RegistryCall) (calls : List RegistryCall) :
    registry.callAll (call :: calls) = (call.make registry).callAll calls := rfl

theorem call_all_append (registry : Registry) (calls more : List RegistryCall) :
    registry.callAll (calls ++ more) = (registry.callAll calls).callAll more :=
  List.foldl_append

theorem register_some_iff (registry : Registry) (id : MessageId) (token : Token) :
    (registry.register id).1 = some token ↔ registry.token? id = none ∧ token = registry.issued := by
  unfold register contains
  cases known : registry.token? id with
  | none => simp [eq_comm]
  | some other => simp

theorem register_given_iff (registry : Registry) (id : MessageId) :
    (∃ token, (registry.register id).1 = some token) ↔ ¬ ∃ token, registry.token? id = some token := by
  simp only [register_some_iff]
  cases registry.token? id with
  | none => simp
  | some held => simp

theorem cancel_found_iff (registry : Registry) (id : MessageId) :
    (registry.cancel id).1 = true ↔ ∃ token, registry.token? id = some token := by
  unfold cancel
  cases registry.token? id with
  | none => simp
  | some held => simp

theorem token_register_iff (registry : Registry) (id other : MessageId) (token : Token) :
    (registry.register id).2.token? other = some token ↔
      registry.token? other = some token ∨ other = id ∧ (registry.register id).1 = some token := by
  cases known : registry.token? id with
  | some held =>
      have refused : registry.register id = (none, registry) := by simp [register, contains, known]
      simp [refused]
  | none =>
      have absent : registry.contains id = false := by simp [contains, known]
      rw [register_fresh registry id absent]
      by_cases same : other = id
      · subst same
        rw [known]
        simp [token?]
      · have differs : (other == id) = false := by simpa using same
        simp [token?, List.lookup_cons, differs, same]

theorem token_complete (registry : Registry) (id other : MessageId) :
    (registry.complete id).token? other = if other = id then none else registry.token? other := by
  unfold token? complete
  induction registry.inFlight with
  | nil => simp
  | cons entry rest ih =>
      obtain ⟨key, token⟩ := entry
      by_cases gone : key = id
      · subst gone
        by_cases same : other = key
        · simpa [same] using ih
        · have differs : (other == key) = false := by simpa using same
          simpa [List.lookup_cons, differs] using ih
      · by_cases same : other = key
        · subst same
          simp [gone]
        · have differs : (other == key) = false := by simpa using same
          simpa [List.lookup_cons, differs, gone] using ih

theorem token_make_iff (registry : Registry) (call : RegistryCall) (id : MessageId) (token : Token) :
    (call.make registry).token? id = some token ↔
      (registry.token? id = some token ∧ ¬ call.Closes id) ∨
        (call = .register id ∧ (registry.register id).1 = some token) := by
  cases call with
  | register other =>
      have kept := token_register_iff registry other id token
      by_cases same : id = other
      · subst same
        simpa [RegistryCall.make, RegistryCall.Closes] using kept
      · simpa [RegistryCall.make, RegistryCall.Closes, same, Ne.symm same] using kept
  | cancel other => simp [RegistryCall.make, RegistryCall.Closes, token?]
  | complete other =>
      rw [RegistryCall.make, token_complete]
      by_cases same : id = other
      · simp [RegistryCall.Closes, same]
      · simp [RegistryCall.Closes, same, Ne.symm same]
  | cancelAll => simp [RegistryCall.make, RegistryCall.Closes, cancelAll, token?]

structure Orderly (registry : Registry) : Prop where
  distinct : (registry.inFlight.map Prod.fst).Nodup
  held : ∀ id token, registry.token? id = some token → token < registry.issued
  raised : ∀ token, registry.isRaised token = true → token < registry.issued

theorem mem_of_token (registry : Registry) (id : MessageId) (token : Token)
    (held : registry.token? id = some token) : (id, token) ∈ registry.inFlight := by
  obtain ⟨front, behind, entries, _⟩ := List.lookup_eq_some_iff.mp held
  rw [entries]
  exact List.mem_append_right front List.mem_cons_self

theorem cancel_raised_iff (registry : Registry) (id : MessageId) (token : Token) :
    (registry.cancel id).2.isRaised token = true ↔
      registry.isRaised token = true ∨ registry.token? id = some token := by
  unfold cancel
  cases known : registry.token? id with
  | none => simp
  | some held =>
      rw [is_raised_raise, or_comm, Option.some.injEq]
      exact or_congr_right eq_comm

theorem cancel_all_raised_iff (registry : Registry) (token : Token) (orderly : registry.Orderly) :
    registry.cancelAll.2.isRaised token = true ↔
      registry.isRaised token = true ∨ ∃ id, registry.token? id = some token := by
  rw [cancel_all_raised, or_comm]
  apply or_congr_right
  constructor
  · intro member
    obtain ⟨⟨id, same⟩, inside, rfl⟩ := List.mem_map.mp member
    exact ⟨id, registry.token_of_mem id same orderly.distinct inside⟩
  · rintro ⟨id, held⟩
    exact List.mem_map.mpr ⟨_, registry.mem_of_token id token held, rfl⟩

theorem raised_make_iff (registry : Registry) (call : RegistryCall) (token : Token)
    (orderly : registry.Orderly) :
    (call.make registry).isRaised token = true ↔
      registry.isRaised token = true ∨ ∃ id, call.Raises id ∧ registry.token? id = some token := by
  cases call with
  | register id =>
      by_cases known : registry.contains id = true
      · simp [RegistryCall.make, RegistryCall.Raises, register, known]
      · simp [RegistryCall.make, RegistryCall.Raises, register, known, isRaised]
  | cancel id => simp [RegistryCall.make, RegistryCall.Raises, cancel_raised_iff]
  | complete id => simp [RegistryCall.make, RegistryCall.Raises, complete, isRaised]
  | cancelAll => simpa [RegistryCall.make, RegistryCall.Raises] using registry.cancel_all_raised_iff token orderly

theorem issued_make (registry : Registry) (call : RegistryCall) :
    registry.issued ≤ (call.make registry).issued := by
  cases call with
  | register id =>
      by_cases known : registry.contains id = true
      · simp [RegistryCall.make, register, known]
      · simp [RegistryCall.make, register, known]
  | cancel id => exact Nat.le_of_eq (registry.cancel_issued id).symm
  | complete id => exact Nat.le_refl _
  | cancelAll => exact Nat.le_of_eq registry.cancel_all_issued.symm

theorem register_issued (registry : Registry) (id : MessageId) (token : Token)
    (given : (registry.register id).1 = some token) :
    token = registry.issued ∧ (registry.register id).2.issued = registry.issued + 1 := by
  obtain ⟨absent, rfl⟩ := (registry.register_some_iff id token).mp given
  exact ⟨rfl, by simp [register, contains, absent]⟩

theorem distinct_make (registry : Registry) (call : RegistryCall)
    (distinct : (registry.inFlight.map Prod.fst).Nodup) :
    ((call.make registry).inFlight.map Prod.fst).Nodup := by
  cases call with
  | register id =>
      by_cases known : registry.contains id = true
      · simpa [RegistryCall.make, register, known] using distinct
      · have absent := Bool.eq_false_iff.mpr known
        rw [RegistryCall.make, register_fresh registry id absent]
        exact List.nodup_cons.mpr ⟨(registry.contains_false_iff id).mp absent, distinct⟩
  | cancel id => simpa [RegistryCall.make] using distinct
  | complete id => exact distinct.sublist (List.filter_sublist.map Prod.fst)
  | cancelAll => exact List.nodup_nil

theorem orderly_make (registry : Registry) (call : RegistryCall) (orderly : registry.Orderly) :
    (call.make registry).Orderly where
  distinct := registry.distinct_make call orderly.distinct
  held id token held := by
    rcases (registry.token_make_iff call id token).mp held with ⟨before, _⟩ | ⟨rfl, given⟩
    · exact Nat.lt_of_lt_of_le (orderly.held id token before) (registry.issued_make call)
    · obtain ⟨rfl, issued⟩ := registry.register_issued id token given
      rw [RegistryCall.make, issued]
      exact Nat.lt_succ_self _
  raised token raised := by
    have before : token < registry.issued := by
      rcases (registry.raised_make_iff call token orderly).mp raised with already | ⟨id, _, held⟩
      · exact orderly.raised token already
      · exact orderly.held id token held
    exact Nat.lt_of_lt_of_le before (registry.issued_make call)

theorem call_all_orderly (registry : Registry) (calls : List RegistryCall) (orderly : registry.Orderly) :
    (registry.callAll calls).Orderly := by
  induction calls generalizing registry with
  | nil => exact orderly
  | cons call rest ih => exact ih (call.make registry) (registry.orderly_make call orderly)

theorem empty_orderly : empty.Orderly where
  distinct := List.nodup_nil
  held id token held := by simp [empty, token?] at held
  raised token raised := by simp [empty, isRaised] at raised

theorem opened_nil (registry : Registry) (id : MessageId) (token : Token) :
    ¬ registry.Opened [] id token := by
  rintro ⟨before, since, calls, _⟩
  simp at calls

theorem opened_cons (registry : Registry) (call : RegistryCall) (calls : List RegistryCall)
    (id : MessageId) (token : Token) :
    registry.Opened (call :: calls) id token ↔
      (call = .register id ∧ (registry.register id).1 = some token ∧ ∀ later ∈ calls, ¬ later.Closes id) ∨
        (call.make registry).Opened calls id token := by
  constructor
  · rintro ⟨before, since, split, given, free⟩
    cases before with
    | nil =>
        obtain ⟨rfl, rfl⟩ := List.cons.inj split
        exact .inl ⟨rfl, given, free⟩
    | cons first before =>
        obtain ⟨rfl, rfl⟩ := List.cons.inj split
        exact .inr ⟨before, since, rfl, given, free⟩
  · rintro (⟨rfl, given, free⟩ | ⟨before, since, rfl, given, free⟩)
    · exact ⟨[], calls, rfl, given, free⟩
    · exact ⟨call :: before, since, rfl, given, free⟩

theorem token_call_all_iff (registry : Registry) (calls : List RegistryCall) (id : MessageId)
    (token : Token) :
    (registry.callAll calls).token? id = some token ↔
      (registry.token? id = some token ∧ ∀ call ∈ calls, ¬ call.Closes id) ∨
        registry.Opened calls id token := by
  induction calls generalizing registry with
  | nil => simp [callAll, opened_nil]
  | cons call rest ih =>
      rw [call_all_cons, ih, token_make_iff, opened_cons, List.forall_mem_cons]
      grind

theorem raised_since_nil (id : MessageId) : ¬ RaisedSince [] id := by
  rintro ⟨front, call, behind, since, _⟩
  simp at since

theorem raised_since_cons (call : RegistryCall) (since : List RegistryCall) (id : MessageId) :
    RaisedSince (call :: since) id ↔ call.Raises id ∨ ¬ call.Closes id ∧ RaisedSince since id := by
  constructor
  · rintro ⟨front, raising, behind, split, raises, free⟩
    cases front with
    | nil =>
        obtain ⟨rfl, rfl⟩ := List.cons.inj split
        exact .inl raises
    | cons first front =>
        obtain ⟨rfl, rfl⟩ := List.cons.inj split
        obtain ⟨stays, free⟩ := List.forall_mem_cons.mp free
        exact .inr ⟨stays, front, raising, behind, rfl, raises, free⟩
  · rintro (raises | ⟨stays, front, raising, behind, rfl, raises, free⟩)
    · exact ⟨[], call, since, rfl, raises, List.forall_mem_nil _⟩
    · exact ⟨call :: front, raising, behind, rfl, raises, List.forall_mem_cons.mpr ⟨stays, free⟩⟩

structure Keeps (registry : Registry) (id : MessageId) (token : Token) : Prop where
  orderly : registry.Orderly
  issued : token < registry.issued
  sole : ∀ other, registry.token? other = some token → other = id

theorem not_given_again (registry : Registry) (id other : MessageId) (token : Token)
    (keeps : registry.Keeps id token) : (registry.register other).1 ≠ some token := by
  intro given
  have fresh := (registry.register_issued other token given).1
  exact Nat.lt_irrefl _ (fresh ▸ keeps.issued)

theorem keeps_make (registry : Registry) (call : RegistryCall) (id : MessageId) (token : Token)
    (keeps : registry.Keeps id token) : (call.make registry).Keeps id token where
  orderly := registry.orderly_make call keeps.orderly
  issued := Nat.lt_of_lt_of_le keeps.issued (registry.issued_make call)
  sole other held := by
    rcases (registry.token_make_iff call other token).mp held with ⟨before, _⟩ | ⟨_, given⟩
    · exact keeps.sole other before
    · exact absurd given (registry.not_given_again id other token keeps)

-- The induction is on the calls: a call either raises the token now or leaves it to the later ones.
theorem raised_call_all_iff (registry : Registry) (since : List RegistryCall) (id : MessageId)
    (token : Token) (keeps : registry.Keeps id token) :
    (registry.callAll since).isRaised token = true ↔ registry.isRaised token = true ∨
      registry.token? id = some token ∧ RaisedSince since id := by
  induction since generalizing registry with
  | nil => simp [callAll, raised_since_nil]
  | cons call rest ih =>
      have raised : (call.make registry).isRaised token = true ↔ registry.isRaised token = true ∨
          registry.token? id = some token ∧ call.Raises id := by
        rw [raised_make_iff registry call token keeps.orderly]
        apply or_congr_right
        constructor
        · rintro ⟨other, raises, held⟩
          cases keeps.sole other held
          exact ⟨held, raises⟩
        · exact fun ⟨held, raises⟩ => ⟨id, raises, held⟩
      have held : (call.make registry).token? id = some token ↔
          registry.token? id = some token ∧ ¬ call.Closes id := by
        rw [token_make_iff]
        exact or_iff_left fun again => registry.not_given_again id id token keeps again.2
      rw [call_all_cons, ih _ (registry.keeps_make call id token keeps), raised, held, raised_since_cons,
        or_assoc, and_assoc, and_or_left]

theorem register_keeps (registry : Registry) (id : MessageId) (token : Token) (orderly : registry.Orderly)
    (given : (registry.register id).1 = some token) : (registry.register id).2.Keeps id token where
  orderly := registry.orderly_make (.register id) orderly
  issued := by
    obtain ⟨rfl, issued⟩ := registry.register_issued id token given
    rw [issued]
    exact Nat.lt_succ_self _
  sole other held := by
    rcases (registry.token_register_iff id other token).mp held with before | ⟨same, _⟩
    · obtain ⟨rfl, _⟩ := registry.register_issued id token given
      exact absurd (orderly.held other _ before) (Nat.lt_irrefl _)
    · exact same

theorem raised_registered_iff (registry : Registry) (id : MessageId) (token : Token)
    (since : List RegistryCall) (orderly : registry.Orderly)
    (given : (registry.register id).1 = some token) :
    ((registry.register id).2.callAll since).isRaised token = true ↔ RaisedSince since id := by
  have low : (registry.register id).2.isRaised token = false := by
    obtain ⟨absent, rfl⟩ := (registry.register_some_iff id token).mp given
    refine Bool.eq_false_iff.mpr fun raised => ?_
    have already : registry.isRaised registry.issued = true := by
      simpa [register, contains, absent, isRaised] using raised
    exact Nat.lt_irrefl _ (orderly.raised _ already)
  have held : (registry.register id).2.token? id = some token :=
    (registry.token_register_iff id id token).mpr (.inr ⟨rfl, given⟩)
  rw [raised_call_all_iff _ since id token (registry.register_keeps id token orderly given), low]
  simp [held]

theorem raised_since_closed (since later : List RegistryCall) (closer : RegistryCall) (id : MessageId)
    (closes : closer.Closes id) :
    RaisedSince (since ++ closer :: later) id ↔ RaisedSince (since ++ [closer]) id := by
  induction since with
  | nil => simp [raised_since_cons, closes]
  | cons call rest ih => rw [List.cons_append, List.cons_append, raised_since_cons, raised_since_cons, ih]

theorem tokens_follow_calls (calls : List RegistryCall) (id : MessageId) :
    let registry := empty.callAll calls
    ((∃ token, (registry.register id).1 = some token) ↔ ¬ ∃ token, empty.Opened calls id token) ∧
    ((registry.cancel id).1 = true ↔ ∃ token, empty.Opened calls id token) ∧
    ∀ token, (registry.register id).1 = some token →
      (∀ since, (empty.callAll (calls ++ .register id :: since)).isRaised token = true ↔
        RaisedSince since id) ∧
      ∀ since closer later, closer.Closes id →
        (empty.callAll (calls ++ .register id :: (since ++ closer :: later))).isRaised token =
          (empty.callAll (calls ++ .register id :: (since ++ [closer]))).isRaised token := by
  intro registry
  have opened : ∀ token, registry.token? id = some token ↔ empty.Opened calls id token := by
    intro token
    rw [token_call_all_iff]
    exact or_iff_right fun held => by simp [empty, token?] at held
  have raised : ∀ token, (registry.register id).1 = some token → ∀ since,
      (empty.callAll (calls ++ .register id :: since)).isRaised token = true ↔ RaisedSince since id := by
    intro token given since
    rw [call_all_append, call_all_cons]
    exact registry.raised_registered_iff id token since (empty.call_all_orderly calls empty_orderly) given
  refine ⟨?_, ?_, fun token given => ⟨raised token given, ?_⟩⟩
  · simp only [register_given_iff, opened]
  · simp only [cancel_found_iff, opened]
  · intro since closer later closes
    apply Bool.eq_iff_iff.mpr
    rw [raised token given, raised token given, raised_since_closed since later closer id closes]

theorem second_request_given_up :
    let calls : List RegistryCall := [.register 5, .complete 5, .register 5, .cancel 5]
    (empty.register 5).1 = some 0 ∧ RegistryCall.Closes 5 (.complete 5) ∧
      ((empty.callAll [.register 5, .complete 5]).register 5).1 = some 1 ∧
      (empty.callAll calls).isRaised 0 = false ∧ (empty.callAll calls).isRaised 1 = true := by
  intro calls
  have closes : RegistryCall.Closes 5 (.complete 5) := .inl rfl
  have first : (empty.register 5).1 = some 0 := rfl
  have second : ((empty.callAll [.register 5, .complete 5]).register 5).1 = some 1 := rfl
  have spared := ((tokens_follow_calls [] 5).2.2 0 first).2 [] (.complete 5)
    [.register 5, .cancel 5] closes
  have given_up := ((tokens_follow_calls [.register 5, .complete 5] 5).2.2 1 second).1 [.cancel 5]
  refine ⟨first, closes, second, spared.trans rfl, given_up.mpr ?_⟩
  exact ⟨[], .cancel 5, [], rfl, .inl rfl, List.forall_mem_nil _⟩

end Registry

end DirectoryServer
