import DirectoryServer.Filter.Evaluate
import DirectoryServer.Proofs.Text.Utf8

set_option autoImplicit false

namespace DirectoryServer.Filter

mutual
def supported : Filter → Bool
  | .and parts | .or parts => allSupported parts
  | .not part => supported part
  | .equality _ _ | .present _ | .substrings _ _ => true
  | .unsupported _ _ _ => false

def allSupported : List Filter → Bool
  | [] => true
  | part :: rest => supported part && allSupported rest
end

mutual
inductive Completes : Filter → Filter → Prop where
  | and {parts others : List Filter} (inside : CompletesAll parts others) : Completes (.and parts) (.and others)
  | or {parts others : List Filter} (inside : CompletesAll parts others) : Completes (.or parts) (.or others)
  | not {part other : Filter} (inside : Completes part other) : Completes (.not part) (.not other)
  | equality {attr value : String} : Completes (.equality attr value) (.equality attr value)
  | present {attr : String} : Completes (.present attr) (.present attr)
  | substrings {attr : String} {pieces : Substrings} :
      Completes (.substrings attr pieces) (.substrings attr pieces)
  | unsupported {relation : UnsupportedMatch} {attr value : String} {other : Filter}
      (whole : supported other = true) : Completes (.unsupported relation attr value) other

inductive CompletesAll : List Filter → List Filter → Prop where
  | nil : CompletesAll [] []
  | cons {part other : Filter} {parts others : List Filter} (first : Completes part other)
      (behind : CompletesAll parts others) : CompletesAll (part :: parts) (other :: others)
end

theorem evaluate_all_cons (entry : Entry) (part : Filter) (rest : List Filter) (answer : Bool) :
    evaluateAll entry (part :: rest) = .ok answer ↔
      evaluate entry part = .ok false ∧ answer = false ∨
        evaluate entry part = .ok true ∧ evaluateAll entry rest = .ok answer := by
  rw [evaluateAll]
  cases evaluate entry part with
  | error code => simp
  | ok holds => cases holds <;> simp [eq_comm]

theorem evaluate_any_cons (entry : Entry) (part : Filter) (rest : List Filter) (answer : Bool) :
    evaluateAny entry (part :: rest) = .ok answer ↔
      ∃ own later, evaluate entry part = .ok own ∧ evaluateAny entry rest = .ok later ∧
        (own || later) = answer := by
  rw [evaluateAny]
  cases evaluate entry part with
  | error code => simp
  | ok own => simp [map_ok_iff]

def Outcome (whole : Bool) (outcome : Except ResultCode Bool) : Prop :=
  (∃ answer, outcome = .ok answer) ∨ outcome = .error .operationsError ∧ whole = false

mutual
theorem evaluate_outcome (entry : Entry) (filter : Filter) :
    Outcome (supported filter) (evaluate entry filter) := by
  cases filter with
  | and parts => exact evaluate_all_outcome entry parts
  | or parts => exact evaluate_any_outcome entry parts
  | not part =>
      rw [evaluate, supported]
      rcases evaluate_outcome entry part with ⟨answer, done⟩ | ⟨failed, short⟩
      · rw [done]
        exact .inl ⟨!answer, rfl⟩
      · rw [failed]
        exact .inr ⟨rfl, short⟩
  | equality | present | substrings => exact .inl ⟨_, rfl⟩
  | unsupported => exact .inr ⟨rfl, rfl⟩

theorem evaluate_all_outcome (entry : Entry) (parts : List Filter) :
    Outcome (allSupported parts) (evaluateAll entry parts) := by
  cases parts with
  | nil => exact .inl ⟨true, rfl⟩
  | cons part rest =>
      rw [evaluateAll, allSupported]
      rcases evaluate_outcome entry part with ⟨answer, done⟩ | ⟨failed, short⟩
      · rw [done]
        cases answer with
        | false => exact .inl ⟨false, rfl⟩
        | true =>
            rcases evaluate_all_outcome entry rest with ⟨later, done⟩ | ⟨failed, short⟩
            · exact .inl ⟨later, done⟩
            · exact .inr ⟨failed, by rw [short, Bool.and_false]⟩
      · rw [failed]
        exact .inr ⟨rfl, by rw [short, Bool.false_and]⟩

theorem evaluate_any_outcome (entry : Entry) (parts : List Filter) :
    Outcome (allSupported parts) (evaluateAny entry parts) := by
  cases parts with
  | nil => exact .inl ⟨false, rfl⟩
  | cons part rest =>
      rw [evaluateAny, allSupported]
      rcases evaluate_outcome entry part with ⟨answer, done⟩ | ⟨failed, short⟩
      · rw [done]
        rcases evaluate_any_outcome entry rest with ⟨later, done⟩ | ⟨failed, short⟩
        · exact .inl ⟨answer || later, by rw [done]; rfl⟩
        · exact .inr ⟨by rw [failed]; rfl, by rw [short, Bool.and_false]⟩
      · rw [failed]
        exact .inr ⟨rfl, by rw [short, Bool.false_and]⟩
end

-- An answer is kept because the comparisons that were replaced had no part in it: one that is
-- visited leaves no answer.
mutual
theorem evaluate_completed (entry : Entry) (filter other : Filter) (answer : Bool)
    (done : evaluate entry filter = .ok answer) (completes : Completes filter other) :
    evaluate entry other = .ok answer := by
  cases completes with
  | @and parts others inside => exact evaluate_all_completed entry parts others answer done inside
  | @or parts others inside => exact evaluate_any_completed entry parts others answer done inside
  | @not part other inside =>
      rw [evaluate, map_ok_iff] at done ⊢
      obtain ⟨own, done, same⟩ := done
      exact ⟨own, evaluate_completed entry part other own done inside, same⟩
  | equality | present | substrings => exact done
  | unsupported => cases done

theorem evaluate_all_completed (entry : Entry) (parts others : List Filter) (answer : Bool)
    (done : evaluateAll entry parts = .ok answer) (completes : CompletesAll parts others) :
    evaluateAll entry others = .ok answer := by
  cases completes with
  | nil => exact done
  | @cons part other parts others first behind =>
      rw [evaluate_all_cons] at done ⊢
      rcases done with ⟨fails, same⟩ | ⟨holds, later⟩
      -- What stands behind a part that is false is not looked at, before and after.
      · exact .inl ⟨evaluate_completed entry part other false fails first, same⟩
      · exact .inr ⟨evaluate_completed entry part other true holds first,
          evaluate_all_completed entry parts others answer later behind⟩

theorem evaluate_any_completed (entry : Entry) (parts others : List Filter) (answer : Bool)
    (done : evaluateAny entry parts = .ok answer) (completes : CompletesAll parts others) :
    evaluateAny entry others = .ok answer := by
  cases completes with
  | nil => exact done
  | @cons part other parts others first behind =>
      rw [evaluate_any_cons] at done ⊢
      obtain ⟨own, later, done, rest, same⟩ := done
      exact ⟨own, later, evaluate_completed entry part other own done first,
        evaluate_any_completed entry parts others later rest behind, same⟩
end

theorem answer_settled (entry : Entry) (filter : Filter) :
    (∀ code, evaluate entry filter = .error code → code = .operationsError) ∧
      (supported filter = true → ∃ answer, evaluate entry filter = .ok answer) ∧
      ∀ answer, evaluate entry filter = .ok answer →
        ∀ other, Completes filter other → evaluate entry other = .ok answer := by
  refine ⟨?_, ?_, fun answer done other => evaluate_completed entry filter other answer done⟩
  · intro code failed
    rcases evaluate_outcome entry filter with ⟨answer, done⟩ | ⟨fault, _⟩
    · rw [failed] at done
      cases done
    · exact Except.error.inj (failed.symm.trans fault)
  · intro whole
    rcases evaluate_outcome entry filter with done | ⟨_, short⟩
    · exact done
    · rw [whole] at short
      cases short

def alice : Entry :=
  ⟨"cn=alice", [.ofText "cn" "Alice"]⟩

def hiddenAge : Filter :=
  .and [.equality "cn" "bob", .not (.unsupported .greaterOrEqual "age" "3")]

def visitedAge : Filter :=
  .or [.equality "cn" "alice", .unsupported .greaterOrEqual "age" "3"]

def replacedAge : Filter :=
  .and [.equality "cn" "bob", .not (.or [.present "age", .present "cn"])]

theorem hidden_age_settled :
    (∃ code, evaluate alice visitedAge = .error code ∧ code = .operationsError) ∧
      (supported replacedAge = true ∧ ∃ answer, evaluate alice replacedAge = .ok answer) ∧
      evaluate alice hiddenAge = .ok false ∧ Completes hiddenAge replacedAge ∧
      evaluate alice replacedAge = .ok false := by
  have failed : evaluate alice visitedAge = .error .operationsError := rfl
  have whole : supported replacedAge = true := rfl
  have done : evaluate alice hiddenAge = .ok false := rfl
  have completes : Completes hiddenAge replacedAge :=
    .and (.cons .equality (.cons (.not (.unsupported rfl)) .nil))
  exact ⟨⟨_, failed, (answer_settled alice visitedAge).1 _ failed⟩,
    ⟨whole, (answer_settled alice replacedAge).2.1 whole⟩, done, completes,
    (answer_settled alice hiddenAge).2.2 false done replacedAge completes⟩

end DirectoryServer.Filter
