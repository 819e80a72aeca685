import DirectoryServer.Proofs.Filter.Completion
import DirectoryServer.Proofs.Store.Reopen
import DirectoryServer.Proofs.Store.Secrecy

set_option autoImplicit false

namespace DirectoryServer.Store

def satisfies (filter : Filter) (entry : Entry) : Bool :=
  (filter.evaluate entry).toOption == some true

def matching (store : Store) (base : String) (filter : Filter) : List Entry :=
  (store.entries.filter (·.isWithin base)).filter (satisfies filter)

def Unanswered (store : Store) (base : String) (filter : Filter) : Prop :=
  ∃ entry ∈ store.entries, entry.isWithin base = true ∧ ∃ code, filter.evaluate entry = .error code

theorem satisfies_of_answer (filter : Filter) (entry : Entry) (answer : Bool)
    (done : filter.evaluate entry = .ok answer) : satisfies filter entry = answer := by
  rw [satisfies, done]
  cases answer <;> rfl

theorem select_ok_iff (filter : Filter) (requested : List String) (entries found : List Entry) :
    select filter requested entries = .ok found ↔
      (∀ entry ∈ entries, ∃ answer, filter.evaluate entry = .ok answer) ∧
        found = (entries.filter (satisfies filter)).map (·.project requested) := by
  induction entries generalizing found with
  | nil => simp [select, eq_comm]
  | cons entry rest ih =>
      rw [select_cons, List.forall_mem_cons]
      constructor
      · rintro (⟨fails, later⟩ | ⟨holds, more, later, rfl⟩)
        · obtain ⟨answered, same⟩ := (ih found).mp later
          rw [List.filter_cons, satisfies_of_answer filter entry false fails]
          exact ⟨⟨⟨false, fails⟩, answered⟩, same⟩
        · obtain ⟨answered, same⟩ := (ih more).mp later
          rw [List.filter_cons, satisfies_of_answer filter entry true holds, same]
          exact ⟨⟨⟨true, holds⟩, answered⟩, rfl⟩
      · rintro ⟨⟨⟨answer, done⟩, answered⟩, rfl⟩
        rw [List.filter_cons, satisfies_of_answer filter entry answer done]
        cases answer with
        | false => exact .inl ⟨done, (ih _).mpr ⟨answered, rfl⟩⟩
        | true => exact .inr ⟨done, _, (ih _).mpr ⟨answered, rfl⟩, rfl⟩

theorem select_outcome (filter : Filter) (requested : List String) (entries : List Entry) :
    (∃ found, select filter requested entries = .ok found) ∨
      select filter requested entries = .error .operationsError := by
  induction entries with
  | nil => exact .inl ⟨[], rfl⟩
  | cons entry rest ih =>
      rw [select]
      rcases Filter.evaluate_outcome entry filter with ⟨answer, done⟩ | ⟨failed, _⟩
      · rw [done]
        rcases ih with ⟨found, later⟩ | later
        · cases answer <;> simp [later, Except.map]
        · cases answer <;> simp [later, Except.map]
      · rw [failed]
        exact .inr rfl

theorem search_ok_iff (store : Store) (base : String) (filter : Filter) (requested : List String)
    (found : List Entry) : store.search base filter requested = .ok found ↔
      ¬ store.Unanswered base filter ∧ found = (store.matching base filter).map (·.project requested) := by
  rw [search, select_ok_iff, matching]
  refine and_congr_left fun _ => ?_
  constructor
  · rintro answered ⟨entry, member, within, code, failed⟩
    obtain ⟨answer, done⟩ := answered entry (List.mem_filter.mpr ⟨member, within⟩)
    rw [failed] at done
    cases done
  · intro answered entry member
    obtain ⟨stored, within⟩ := List.mem_filter.mp member
    rcases Filter.evaluate_outcome entry filter with done | ⟨failed, _⟩
    · exact done
    · exact absurd ⟨entry, stored, within, _, failed⟩ answered

theorem search_error_iff (store : Store) (base : String) (filter : Filter) (requested : List String) :
    store.search base filter requested = .error .operationsError ↔ store.Unanswered base filter := by
  constructor
  · intro failed
    by_cases answered : store.Unanswered base filter
    · exact answered
    · rw [(search_ok_iff store base filter requested _).mpr ⟨answered, rfl⟩] at failed
      cases failed
  · intro unanswered
    rcases select_outcome filter requested (store.entries.filter (·.isWithin base)) with ⟨found, done⟩ | failed
    · exact absurd unanswered ((search_ok_iff store base filter requested found).mp done).1
    · exact failed

theorem matching_grows (store later : Store) (added : List Entry) (base : String) (filter : Filter)
    (grown : later.entries = store.entries ++ added) :
    store.matching base filter <+: later.matching base filter := by
  rw [matching, matching, grown, List.filter_append, List.filter_append]
  exact List.prefix_append _ _

theorem search_all_or_nothing (store : Store) (base : String) (filter : Filter) (requested : List String) :
    (store.search base filter requested = .error .operationsError ↔ store.Unanswered base filter) ∧
      (¬ store.Unanswered base filter →
        store.search base filter requested = .ok ((store.matching base filter).map (·.project requested))) ∧
      ∀ (added : List Entry) (found later : List Entry),
        store.search base filter requested = .ok found →
          (store.addAll added).search base filter requested = .ok later → found <+: later := by
  refine ⟨search_error_iff store base filter requested,
    fun answered => (search_ok_iff store base filter requested _).mpr ⟨answered, rfl⟩, ?_⟩
  intro added found later before after
  obtain ⟨_, rfl⟩ := (search_ok_iff store base filter requested found).mp before
  obtain ⟨_, rfl⟩ := (search_ok_iff (store.addAll added) base filter requested later).mp after
  obtain ⟨fresh, grown⟩ := add_all_grown store added
  exact (matching_grows store _ fresh base filter grown.entries).map _

def mixedStore : Store :=
  ⟨[], [⟨"cn=a,dc=x", [.ofText "cn" "a", .ofText "sn" "s"]⟩, ⟨"cn=b,dc=x", []⟩,
    ⟨"cn=c,dc=y", [.ofText "cn" "c"]⟩, ⟨"cn=d,DC=X", [.ofText "CN" "d"]⟩]⟩

def guardedFilter : Filter :=
  .or [.present "cn", .and [.equality "cn" "c", .unsupported .approximate "cn" "c"]]

def addedEntries : List Entry :=
  [⟨"CN=a,dc=x", [.ofText "cn" "a"]⟩, ⟨"cn=e,dc=x", [.ofText "cn" "e"]⟩]

theorem mixed_store_all_or_nothing :
    let found : List Entry := [⟨"cn=a,dc=x", [.ofText "cn" "a"]⟩, ⟨"cn=d,DC=X", [.ofText "CN" "d"]⟩]
    let later : List Entry := found ++ [⟨"cn=e,dc=x", [.ofText "cn" "e"]⟩]
    mixedStore.Unanswered "" guardedFilter ∧ ¬ mixedStore.Unanswered "dc=x" guardedFilter ∧
      mixedStore.search "dc=x" guardedFilter ["cn"] = .ok found ∧
      (mixedStore.matching "dc=x" guardedFilter).map (·.project ["cn"]) = found ∧
      (mixedStore.addAll addedEntries).search "dc=x" guardedFilter ["cn"] = .ok later ∧ found <+: later := by
  intro found later
  have failed : mixedStore.search "" guardedFilter [] = .error .operationsError := rfl
  have before : mixedStore.search "dc=x" guardedFilter ["cn"] = .ok found := rfl
  have after : (mixedStore.addAll addedEntries).search "dc=x" guardedFilter ["cn"] = .ok later := rfl
  obtain ⟨unanswered, _, _⟩ := search_all_or_nothing mixedStore "" guardedFilter []
  obtain ⟨fails, finds, grows⟩ := search_all_or_nothing mixedStore "dc=x" guardedFilter ["cn"]
  have answered : ¬ mixedStore.Unanswered "dc=x" guardedFilter := by
    rw [← fails, before]
    simp
  exact ⟨unanswered.mp failed, answered, before, Except.ok.inj ((finds answered).symm.trans before), after,
    grows addedEntries found later before after⟩

end DirectoryServer.Store
