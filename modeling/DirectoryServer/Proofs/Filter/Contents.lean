import DirectoryServer.Filter.Evaluate

set_option autoImplicit false

namespace DirectoryServer

def Attribute.content (attr : Attribute) : Bytes × ValueKind :=
  (attr.value, attr.kind)

def Alike (values others : List Attribute) : Prop :=
  ∀ content, content ∈ values.map Attribute.content ↔ content ∈ others.map Attribute.content

theorem Alike.symm {values others : List Attribute} (alike : Alike values others) : Alike others values :=
  fun content => (alike content).symm

theorem Alike.of_eq {values others : List Attribute} (same : values = others) : Alike values others :=
  fun content => by rw [same]

theorem any_alike (test : Attribute → Bool)
    (nameless : ∀ value other : Attribute, value.content = other.content → test value = test other)
    (values others : List Attribute) (alike : Alike values others) : values.any test = others.any test := by
  have carried : ∀ values others, Alike values others → values.any test = true → others.any test = true := by
    intro values others alike found
    obtain ⟨value, member, holds⟩ := List.any_eq_true.mp found
    obtain ⟨other, inside, same⟩ :=
      List.mem_map.mp ((alike value.content).mp (List.mem_map_of_mem member))
    rw [← nameless other value same] at holds
    exact List.any_eq_true.mpr ⟨other, inside, holds⟩
  exact Bool.eq_iff_iff.mpr ⟨carried _ _ alike, carried _ _ alike.symm⟩

theorem Attribute.text_content (value other : Attribute) (same : value.content = other.content) :
    value.text? = other.text? := by
  obtain ⟨name, octets, kind⟩ := value
  cases same
  rfl

theorem Attribute.equals_content (assertion : String) (value other : Attribute)
    (same : value.content = other.content) : value.valueEquals assertion = other.valueEquals assertion := by
  obtain ⟨name, octets, kind⟩ := value
  cases same
  rfl

namespace Filter

mutual
def leafAttributes : Filter → List String
  | .and parts | .or parts => allLeafAttributes parts
  | .not part => leafAttributes part
  | .equality attr _ | .present attr | .substrings attr _ | .unsupported _ attr _ => [attr]

def allLeafAttributes : List Filter → List String
  | [] => []
  | part :: rest => leafAttributes part ++ allLeafAttributes rest
end

theorem first_some (entry : Entry) (attr : String) :
    (entry.first? attr).isSome = (entry.values attr).any fun _ => true := by
  rw [Bool.eq_iff_iff, Entry.first?, Entry.values, List.find?_isSome, List.any_eq_true]
  simp only [List.mem_filter, and_true]

mutual
theorem evaluate_alike (entry other : Entry) (filter : Filter)
    (alike : ∀ attr ∈ leafAttributes filter, Alike (entry.values attr) (other.values attr)) :
    evaluate entry filter = evaluate other filter := by
  cases filter with
  | and parts => exact evaluate_all_alike entry other parts alike
  | or parts => exact evaluate_any_alike entry other parts alike
  | not part => rw [evaluate, evaluate, evaluate_alike entry other part alike]
  | equality attr value =>
      rw [evaluate, evaluate, any_alike _ (Attribute.equals_content value) _ _ (alike attr List.mem_cons_self)]
  | present attr =>
      rw [evaluate, evaluate, first_some, first_some,
        any_alike _ (fun _ _ _ => rfl) _ _ (alike attr List.mem_cons_self)]
  | substrings attr pieces =>
      have nameless : ∀ value other : Attribute, value.content = other.content →
          value.text?.any pieces.fits = other.text?.any pieces.fits :=
        fun value other same => by rw [Attribute.text_content value other same]
      rw [evaluate, evaluate, any_alike _ nameless _ _ (alike attr List.mem_cons_self)]
  | unsupported => rfl

theorem evaluate_all_alike (entry other : Entry) (parts : List Filter)
    (alike : ∀ attr ∈ allLeafAttributes parts, Alike (entry.values attr) (other.values attr)) :
    evaluateAll entry parts = evaluateAll other parts := by
  cases parts with
  | nil => rfl
  | cons part rest =>
      have head := evaluate_alike entry other part fun attr member => alike attr (List.mem_append_left _ member)
      have tail := evaluate_all_alike entry other rest fun attr member => alike attr (List.mem_append_right _ member)
      rw [evaluateAll, evaluateAll, head, tail]

theorem evaluate_any_alike (entry other : Entry) (parts : List Filter)
    (alike : ∀ attr ∈ allLeafAttributes parts, Alike (entry.values attr) (other.values attr)) :
    evaluateAny entry parts = evaluateAny other parts := by
  cases parts with
  | nil => rfl
  | cons part rest =>
      have head := evaluate_alike entry other part fun attr member => alike attr (List.mem_append_left _ member)
      have tail := evaluate_any_alike entry other rest fun attr member => alike attr (List.mem_append_right _ member)
      rw [evaluateAny, evaluateAny, head, tail]
end

end Filter

def Attribute.lowered (attr : Attribute) : Attribute :=
  ⟨Text.asciiLower attr.name, attr.value, attr.kind⟩

theorem Attribute.named_iff (attr : Attribute) (name : String) :
    attr.isNamed name = true ↔ Text.asciiLower attr.name = Text.asciiLower name := by
  rw [Attribute.isNamed, Text.eqIgnoreAsciiCase, beq_iff_eq, Text.asciiLower, Text.asciiLower, String.ofList_inj]

theorem Entry.mem_contents (entry : Entry) (name : String) (octets : Bytes) (kind : ValueKind) :
    (octets, kind) ∈ (entry.values name).map Attribute.content ↔
      ⟨Text.asciiLower name, octets, kind⟩ ∈ entry.attributes.map Attribute.lowered := by
  simp only [Entry.values, List.mem_map, List.mem_filter, Attribute.named_iff, Attribute.content,
    Attribute.lowered, Attribute.mk.injEq, Prod.mk.injEq, and_assoc]

namespace Filter

theorem same_contents_same_answer (entry other : Entry)
    (same : ∀ attr,
      attr ∈ entry.attributes.map Attribute.lowered ↔ attr ∈ other.attributes.map Attribute.lowered)
    (filter : Filter) : evaluate entry filter = evaluate other filter := by
  apply evaluate_alike
  rintro attr _ ⟨octets, kind⟩
  rw [Entry.mem_contents, Entry.mem_contents, same]

def sortedEntry : Entry :=
  ⟨"cn=a", [.ofText "cn" "Alice", .ofText "mail" "a@x", .ofValue "photo" [255]]⟩

def shuffledEntry : Entry :=
  ⟨"cn=b", [.ofValue "PHOTO" [255], .ofText "Mail" "a@x", .ofText "CN" "Alice", .ofText "cn" "Alice"]⟩

def mixedFilter : Filter :=
  .or [.and [.present "cN", .not (.equality "photo" "/w==")], .substrings "MAIL" ⟨some "A", [], none⟩]

theorem shuffled_entry_same_answer :
    (∀ attr, attr ∈ sortedEntry.attributes.map Attribute.lowered ↔
        attr ∈ shuffledEntry.attributes.map Attribute.lowered) ∧
      evaluate sortedEntry mixedFilter = .ok true ∧ evaluate shuffledEntry mixedFilter = .ok true ∧
      evaluate shuffledEntry (.or [mixedFilter, .unsupported .approximate "cn" "alise"]) =
        .error .operationsError := by
  have same : ∀ attr, attr ∈ sortedEntry.attributes.map Attribute.lowered ↔
      attr ∈ shuffledEntry.attributes.map Attribute.lowered := by
    intro attr
    have first : sortedEntry.attributes.map Attribute.lowered =
        [.ofText "cn" "Alice", .ofText "mail" "a@x", .ofValue "photo" [255]] := rfl
    have second : shuffledEntry.attributes.map Attribute.lowered =
        [.ofValue "photo" [255], .ofText "mail" "a@x", .ofText "cn" "Alice", .ofText "cn" "Alice"] := rfl
    simp only [first, second, List.mem_cons, List.not_mem_nil, or_false]
    grind
  have answer : evaluate sortedEntry mixedFilter = .ok true := rfl
  have failed : evaluate sortedEntry (.or [mixedFilter, .unsupported .approximate "cn" "alise"]) =
      .error .operationsError := rfl
  have agrees := same_contents_same_answer sortedEntry shuffledEntry same
  exact ⟨same, answer, (agrees mixedFilter).symm.trans answer, (agrees _).symm.trans failed⟩

end Filter

end DirectoryServer
