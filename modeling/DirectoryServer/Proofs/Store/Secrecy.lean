import DirectoryServer.Store.Basic
import DirectoryServer.Proofs.Filter.Contents
import DirectoryServer.Proofs.Text.Utf8

set_option autoImplicit false

namespace DirectoryServer

namespace Entry

def withoutPasswords (entry : Entry) : Entry :=
  ⟨entry.name, entry.attributes.filter (!·.isNamed userPassword)⟩

theorem not_named_of_named (value : Attribute) (attr name : String) (named : value.isNamed attr = true)
    (different : Text.eqIgnoreAsciiCase attr name = false) : value.isNamed name = false := by
  rw [Attribute.isNamed, Text.eqIgnoreAsciiCase] at named
  rw [Attribute.isNamed, Text.eqIgnoreAsciiCase, eq_of_beq named]
  exact different

theorem values_without_passwords (entry : Entry) (attr : String)
    (spared : Text.eqIgnoreAsciiCase attr userPassword = false) :
    entry.withoutPasswords.values attr = entry.values attr := by
  rw [values, withoutPasswords, List.filter_filter, values]
  apply List.filter_congr
  intro value _
  cases named : value.isNamed attr with
  | false => rfl
  | true =>
      rw [not_named_of_named value attr userPassword named spared]
      rfl

theorem project_without_passwords (entry : Entry) (requested : List String) :
    entry.withoutPasswords.project requested = entry.project requested := by
  have again : ∀ value ∈ entry.attributes,
      ((!value.isNamed userPassword && (requested.isEmpty || requested.any (value.isNamed ·))) &&
        !value.isNamed userPassword) =
      (!value.isNamed userPassword && (requested.isEmpty || requested.any (value.isNamed ·))) := by
    intro value _
    cases value.isNamed userPassword <;> simp
  rw [project, withoutPasswords, List.filter_filter, List.filter_congr again]
  rfl

theorem project_hides (entry : Entry) (requested : List String) (value : Attribute)
    (member : value ∈ (entry.project requested).attributes) : value.isNamed userPassword = false := by
  have kept := (List.mem_filter.mp member).2
  rw [Bool.and_eq_true, Bool.not_eq_true'] at kept
  exact kept.1

end Entry

namespace Store

theorem select_without_passwords (filter : Filter) (requested : List String) (entries : List Entry)
    (spared : ∀ attr ∈ filter.leafAttributes, Text.eqIgnoreAsciiCase attr userPassword = false) :
    select filter requested (entries.map Entry.withoutPasswords) = select filter requested entries := by
  induction entries with
  | nil => rfl
  | cons entry rest ih =>
      have same := Filter.evaluate_alike entry.withoutPasswords entry filter fun attr member =>
        .of_eq (Entry.values_without_passwords entry attr (spared attr member))
      rw [List.map_cons, select, select, same, ih, Entry.project_without_passwords]

theorem search_without_passwords (store : Store) (base : String) (filter : Filter) (requested : List String)
    (spared : ∀ attr ∈ filter.leafAttributes, Text.eqIgnoreAsciiCase attr userPassword = false) :
    store.search base filter requested =
      select filter requested ((store.entries.map Entry.withoutPasswords).filter (·.isWithin base)) := by
  rw [search, List.filter_map, select_without_passwords filter requested _ spared]
  rfl

theorem select_cons (filter : Filter) (requested : List String) (entry : Entry) (rest found : List Entry) :
    select filter requested (entry :: rest) = .ok found ↔
      filter.evaluate entry = .ok false ∧ select filter requested rest = .ok found ∨
        filter.evaluate entry = .ok true ∧
          ∃ more, select filter requested rest = .ok more ∧ entry.project requested :: more = found := by
  rw [select]
  cases filter.evaluate entry with
  | error code => simp
  | ok holds => cases holds <;> simp [map_ok_iff]

theorem mem_select (filter : Filter) (requested : List String) (entries found : List Entry) (shown : Entry)
    (done : select filter requested entries = .ok found) (member : shown ∈ found) :
    ∃ entry ∈ entries, shown = entry.project requested := by
  induction entries generalizing found with
  | nil =>
      cases done
      cases member
  | cons entry rest ih =>
      rcases (select_cons _ _ _ _ _).mp done with ⟨_, later⟩ | ⟨_, more, later, rfl⟩
      · obtain ⟨other, inside, same⟩ := ih found later member
        exact ⟨other, List.mem_cons_of_mem entry inside, same⟩
      · rcases List.mem_cons.mp member with same | member
        · exact ⟨entry, List.mem_cons_self, same⟩
        · obtain ⟨other, inside, same⟩ := ih more later member
          exact ⟨other, List.mem_cons_of_mem entry inside, same⟩

theorem search_hides_passwords (store : Store) (base : String) (filter : Filter) (requested : List String) :
    ((∀ attr ∈ filter.leafAttributes, Text.eqIgnoreAsciiCase attr userPassword = false) →
      ∀ other : Store,
        store.entries.map Entry.withoutPasswords = other.entries.map Entry.withoutPasswords →
          store.search base filter requested = other.search base filter requested) ∧
      ∀ found, store.search base filter requested = .ok found →
        ∀ entry ∈ found, ∀ value ∈ entry.attributes, value.isNamed userPassword = false := by
  constructor
  · intro spared other same
    rw [search_without_passwords store base filter requested spared, same,
      ← search_without_passwords other base filter requested spared]
  · intro found done entry member value inside
    obtain ⟨source, _, rfl⟩ := mem_select _ _ _ found entry done member
    exact Entry.project_hides source requested value inside

def plainStore : Store :=
  ⟨[], [⟨"cn=a,dc=x", [.ofText "cn" "a"]⟩, ⟨"cn=b,dc=x", []⟩]⟩

def guardedStore : Store :=
  ⟨[], [⟨"cn=a,dc=x", [.ofText "userPassword" "one", .ofText "cn" "a", .ofText "USERPASSWORD" "two"]⟩,
    ⟨"cn=b,dc=x", []⟩]⟩

def nameFilter : Filter :=
  .or [.present "CN", .not (.equality "cn" "a")]

theorem guarded_store_hides_passwords :
    (∀ attr ∈ nameFilter.leafAttributes, Text.eqIgnoreAsciiCase attr userPassword = false) ∧
      guardedStore.entries.map Entry.withoutPasswords = plainStore.entries.map Entry.withoutPasswords ∧
      guardedStore.search "DC=x" nameFilter ["userPassword", "Cn"] =
        plainStore.search "DC=x" nameFilter ["userPassword", "Cn"] ∧
      guardedStore.search "DC=x" nameFilter ["userPassword", "Cn"] = .ok plainStore.entries ∧
      ∀ entry ∈ plainStore.entries, ∀ value ∈ entry.attributes, value.isNamed userPassword = false := by
  have spared : ∀ attr ∈ nameFilter.leafAttributes, Text.eqIgnoreAsciiCase attr userPassword = false := by
    decide
  have same : guardedStore.entries.map Entry.withoutPasswords = plainStore.entries.map Entry.withoutPasswords :=
    rfl
  have done : guardedStore.search "DC=x" nameFilter ["userPassword", "Cn"] = .ok plainStore.entries := rfl
  have hides := search_hides_passwords guardedStore "DC=x" nameFilter ["userPassword", "Cn"]
  exact ⟨spared, same, hides.1 spared plainStore same, done, hides.2 _ done⟩

end Store

end DirectoryServer
