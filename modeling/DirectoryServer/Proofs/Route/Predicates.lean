import DirectoryServer.Proofs.Text.AsciiCase
import DirectoryServer.Proofs.Route.Accepts

set_option autoImplicit false

namespace DirectoryServer

structure Predicates where
  suffix : Option String := none
  filter : Option String := none
  scope : Option SearchScope := none
  mechanism : Option String := none
  extendedName : Option String := none

-- An extended request always has a name, so one has to be given for it.
def Predicates.CarriedBy (given : Predicates) (request : Request) : Prop :=
  (∀ suffix ∈ given.suffix, ∀ name ∈ request.targetName?, name = suffix) ∧
    match request with
    | .bind _ mechanism _ => ∀ chosen ∈ given.mechanism, mechanism = chosen
    | .search query =>
        (∀ text ∈ given.filter, Filter.parse text = .ok query.filter) ∧
          ∀ scope ∈ given.scope, query.scope = scope
    | .extended name _ => given.extendedName = some name
    | _ => True

namespace Route

variable {σ : Type}

def restrict (route : Route σ) (given : Predicates) : Route σ :=
  let route := given.suffix.elim route route.withSuffix
  let route := given.filter.elim route route.withFilter
  let route := given.scope.elim route route.withScope
  let route := given.mechanism.elim route route.withMechanism
  given.extendedName.elim route route.withExtendedName

-- Each predicate has a field of its own, so none of them touches another.
theorem restrict_eq (operation : OperationKind) (handler : Handler σ) (backend : Backend σ) (given : Predicates) :
    ({ operation, handler, backend } : Route σ).restrict given =
      { operation, handler, backend, nameSuffix := given.suffix
        filterText := given.filter.bind fun text => (Route.withFilter { operation, handler, backend } text).filterText
        scope := given.scope, mechanism := given.mechanism.map Text.lower, extendedName := given.extendedName } := by
  obtain ⟨suffix, filter, scope, mechanism, name⟩ := given
  cases suffix <;> cases filter <;> cases scope <;> cases mechanism <;> cases name <;> rfl

theorem with_filter_parsed (route : Route σ) (text : String) (filter : Filter)
    (parsed : Filter.parse text = .ok filter) :
    (route.withFilter text).filterText = some (Text.lower filter.print) := by
  rw [withFilter, parsed]

theorem kept_filter (route : Route σ) (given : Option String) (filter : Filter)
    (carried : ∀ text ∈ given, Filter.parse text = .ok filter) :
    ∀ kept ∈ given.bind fun text => (route.withFilter text).filterText, Text.lower filter.print = kept := by
  intro kept member
  obtain ⟨text, chosen, printed⟩ := Option.bind_eq_some_iff.mp member
  rw [with_filter_parsed route text filter (carried text chosen)] at printed
  exact Option.some.inj printed

theorem kept_mechanism_iff (given : Option String) (mechanism : String)
    (carried : ∀ chosen ∈ given, mechanism = chosen) :
    (∀ kept ∈ given.map Text.lower, Text.eqIgnoreAsciiCase mechanism kept = true) ↔
      ∀ chosen ∈ given, Text.AsciiCased chosen.toList := by
  cases given with
  | none => simp
  | some chosen =>
      cases carried chosen rfl
      simpa using Text.ascii_cased_iff mechanism

theorem unnamed_refuses_extended (handler : Handler σ) (backend : Backend σ) (given : Predicates) (name : String)
    (value : Option Bytes) (unnamed : given.extendedName = none) :
    (Route.restrict { operation := .extended, handler, backend } given).accepts (.extended name value) = false := by
  rw [restrict_eq, Bool.eq_false_iff, Ne, accepts_extended_iff, unnamed]
  simp

theorem carried_accepted_iff (handler : Handler σ) (backend : Backend σ) (given : Predicates) (request : Request)
    (carried : given.CarriedBy request) :
    (Route.restrict { operation := request.kind, handler, backend } given).accepts request = true ↔
      (request.kind = .bind → ∀ mechanism ∈ given.mechanism, Text.AsciiCased mechanism.toList) := by
  obtain ⟨named, carried⟩ := carried
  rw [restrict_eq]
  cases request with
  | bind name mechanism credentials =>
      have ends : ∀ suffix ∈ given.suffix, suffix.toList <:+ name.toList :=
        fun suffix member => named suffix member name rfl ▸ List.suffix_refl _
      rw [accepts_bind_iff, kept_mechanism_iff given.mechanism mechanism carried]
      simp only [Request.kind, true_and, true_implies]
      exact and_iff_left ends
  | search query =>
      have based : ∀ suffix ∈ given.suffix, Text.lower query.base = Text.lower suffix :=
        fun suffix member => congrArg Text.lower (named suffix member query.base rfl)
      rw [accepts_search_iff]
      simp only [Request.kind, true_and, reduceCtorEq, false_implies]
      exact iff_true_intro ⟨based, kept_filter _ given.filter query.filter carried.1, carried.2⟩
  | extended name value =>
      rw [accepts_extended_iff]
      simp only [Request.kind, true_and, reduceCtorEq, false_implies, iff_true]
      exact carried
  | abandon target => simp [accepts, Request.kind]
  | add | modify | delete | compare =>
      rw [accepts_target_iff _ _ _ rfl (by simp [Request.kind]) rfl]
      simp only [Request.kind, reduceCtorEq, false_implies, iff_true]
      exact fun suffix member => named suffix member _ rfl ▸ List.suffix_refl _

def oneEntry : Predicates where
  suffix := some "OU=Ä"
  filter := some " (SN=\\41\\ce\\a3*) "
  scope := some .baseObject
  mechanism := some "É"

def oneEntryQuery : Query :=
  ⟨"OU=Ä", .baseObject, .substrings "SN" ⟨some "AΣ", [], none⟩, []⟩

theorem one_entry_accepted : oneEntry.CarriedBy (.search oneEntryQuery) ∧
    (Route.restrict { operation := .search, handler := fun _ _ _ => .done (), backend := .null Unit }
      oneEntry).accepts (.search oneEntryQuery) = true := by
  have parsed : Filter.parse " (SN=\\41\\ce\\a3*) " = .ok oneEntryQuery.filter := rfl
  have carried : oneEntry.CarriedBy (.search oneEntryQuery) := by
    refine ⟨?_, ?_, ?_⟩
    · rintro suffix ⟨⟩ name ⟨⟩
      rfl
    · rintro text ⟨⟩
      exact parsed
    · rintro scope ⟨⟩
      rfl
  refine ⟨carried, (carried_accepted_iff _ (.null Unit) oneEntry (.search oneEntryQuery) carried).mpr ?_⟩
  simp [Request.kind]

def accentedBind : Predicates where
  mechanism := some "É"

-- The accented capital is kept as a small letter, which the mechanism of the request does not become.
theorem accented_bind_refused : accentedBind.CarriedBy (.bind "cn=a" "É" []) ∧
    (Route.restrict { operation := .bind, handler := fun _ _ _ => .done (), backend := .null Unit }
      accentedBind).accepts (.bind "cn=a" "É" []) = false := by
  refine ⟨?_, by decide +kernel⟩
  simp [Predicates.CarriedBy, accentedBind]

end Route

end DirectoryServer
