import DirectoryServer.Store.Basic
import Mathlib.Data.List.Forall2

set_option autoImplicit false

namespace DirectoryServer

def Entry.Reordered (entry other : Entry) : Prop :=
  entry.name = other.name ∧ entry.attributes.Perm other.attributes

def passwordsOf (entries : List Entry) (name : String) : List Attribute :=
  ((entries.find? (·.name = name)).map (·.values userPassword)).getD []

theorem passwords_found (entry : Entry) (rest : List Entry) (name : String) (same : entry.name = name) :
    passwordsOf (entry :: rest) name = entry.values userPassword := by
  rw [passwordsOf, List.find?_cons_of_pos (by simpa using same), Option.map_some, Option.getD_some]

theorem passwords_behind (entry : Entry) (rest : List Entry) (name : String) (different : entry.name ≠ name) :
    passwordsOf (entry :: rest) name = passwordsOf rest name := by
  rw [passwordsOf, List.find?_cons_of_neg (by simpa using different), passwordsOf]

theorem passwords_reordered (name : String) {entries others : List Entry}
    (reordered : List.Forall₂ Entry.Reordered entries others) :
    (passwordsOf entries name).Perm (passwordsOf others name) := by
  induction reordered with
  | nil => rfl
  | @cons entry other rest behind own _ ih =>
      by_cases same : entry.name = name
      · rw [passwords_found entry rest name same, passwords_found other behind name (own.1.symm.trans same)]
        exact own.2.filter _
      · rw [passwords_behind entry rest name same, passwords_behind other behind name (own.1 ▸ same)]
        exact ih

theorem exists_password_first (name : String) (entries : List Entry) (password : Attribute)
    (member : password ∈ passwordsOf entries name) :
    ∃ others, List.Forall₂ Entry.Reordered entries others ∧ (passwordsOf others name).head? = some password := by
  have kept : ∀ entry : Entry, entry.Reordered entry := fun entry => ⟨rfl, .refl _⟩
  induction entries with
  | nil => cases member
  | cons entry rest ih =>
      by_cases same : entry.name = name
      · rw [passwords_found entry rest name same] at member
        obtain ⟨listed, named⟩ := List.mem_filter.mp member
        obtain ⟨front, back, split⟩ := List.append_of_mem listed
        have own : entry.Reordered ⟨entry.name, password :: (front ++ back)⟩ := ⟨rfl, split ▸ List.perm_middle⟩
        refine ⟨_, .cons own (List.forall₂_same.mpr fun other _ => kept other), ?_⟩
        rw [passwords_found ⟨entry.name, password :: (front ++ back)⟩ rest name same, Entry.values, List.head?_filter]
        exact List.find?_cons_of_pos named
      · rw [passwords_behind entry rest name same] at member
        obtain ⟨others, reordered, first⟩ := ih member
        refine ⟨entry :: others, .cons (kept entry) reordered, ?_⟩
        rw [passwords_behind entry others name same, first]

namespace Store

def Reordered (store other : Store) : Prop :=
  List.Forall₂ Entry.Reordered store.entries other.entries

def passwords (store : Store) (name : String) : List Attribute :=
  passwordsOf store.entries name

theorem bind_first (store : Store) (name mechanism : String) (credentials : Bytes) :
    store.bind name mechanism credentials =
      if Text.eqIgnoreAsciiCase mechanism "simple" then
        if (store.passwords name).head?.map Attribute.value = some credentials then .success
        else .invalidCredentials
      else .unwillingToPerform := by
  rw [bind, passwords, passwordsOf]
  cases store.entries.find? fun entry => entry.name = name with
  | none => simp
  | some entry =>
      rw [Option.bind_some, Option.map_some, Option.getD_some, Entry.values, List.head?_filter, ← Entry.first?]
      cases entry.first? userPassword <;> simp

theorem first_password_iff (passwords : List Attribute) (credentials : Bytes)
    (settled : (∀ password ∈ passwords, password.value = credentials) ∨
      ∀ password ∈ passwords, password.value ≠ credentials) :
    passwords.head?.map Attribute.value = some credentials ↔
      ∃ password ∈ passwords, password.value = credentials := by
  cases passwords with
  | nil => simp
  | cons first rest =>
      have own : first ∈ first :: rest := List.mem_cons_self
      rw [List.head?_cons, Option.map_some, Option.some.injEq]
      constructor
      · exact fun same => ⟨first, own, same⟩
      · rintro ⟨password, member, same⟩
        rcases settled with all | none
        · exact all first own
        · exact absurd same (none password member)

theorem bind_first_password (store : Store) (name mechanism : String) (password : Attribute)
    (simple : Text.eqIgnoreAsciiCase mechanism "simple" = true)
    (first : (store.passwords name).head? = some password) (credentials : Bytes) :
    store.bind name mechanism credentials = .success ↔ password.value = credentials := by
  simp only [bind_first, if_pos simple, first, Option.map_some, Option.some.injEq]
  by_cases same : password.value = credentials <;> simp [same]

theorem bind_same_in_any_order_iff (store : Store) (name mechanism : String) (credentials : Bytes) :
    (∀ other, store.Reordered other →
      other.bind name mechanism credentials = store.bind name mechanism credentials) ↔
      Text.eqIgnoreAsciiCase mechanism "simple" = false ∨
        (∀ password ∈ store.passwords name, password.value = credentials) ∨
        ∀ password ∈ store.passwords name, password.value ≠ credentials := by
  constructor
  · intro alike
    by_cases simple : Text.eqIgnoreAsciiCase mechanism "simple" = true
    · by_cases all : ∀ password ∈ store.passwords name, password.value = credentials
      · exact .inr (.inl all)
      · refine .inr (.inr fun password member same => all fun other inside => ?_)
        -- Each of the two passwords comes first in some order, and both orders bind like the store itself.
        obtain ⟨entries, reordered, first⟩ := exists_password_first name store.entries password member
        obtain ⟨entries', reordered', first'⟩ := exists_password_first name store.entries other inside
        rw [← bind_first_password ⟨store.folder, entries'⟩ name mechanism other simple first' credentials,
          alike ⟨store.folder, entries'⟩ reordered', ← alike ⟨store.folder, entries⟩ reordered]
        exact (bind_first_password ⟨store.folder, entries⟩ name mechanism password simple first credentials).mpr same
    · exact .inl (Bool.eq_false_iff.mpr simple)
  · rintro settled other reordered
    have members : ∀ password, password ∈ other.passwords name ↔ password ∈ store.passwords name :=
      fun _ => (passwords_reordered name reordered).mem_iff.symm
    rw [bind_first, bind_first]
    rcases settled with refused | settled
    · rw [refused, if_neg Bool.false_ne_true, if_neg Bool.false_ne_true]
    · have same : (other.passwords name).head?.map Attribute.value = some credentials ↔
          (store.passwords name).head?.map Attribute.value = some credentials := by
        rw [first_password_iff _ credentials settled, first_password_iff _ credentials ?_]
        · simp only [members]
        · simpa only [members] using settled
      simp only [same]

def twoPasswords (first second : String) : Store :=
  ⟨[], [⟨"cn=a", [.ofText userPassword first, .ofText userPassword second]⟩]⟩

theorem second_password_refused : (twoPasswords "x" "y").Reordered (twoPasswords "y" "x") ∧
    (twoPasswords "x" "y").bind "cn=a" "simple" (Text.encode "x") = .success ∧
    (twoPasswords "y" "x").bind "cn=a" "simple" (Text.encode "x") = .invalidCredentials := by
  refine ⟨.cons ⟨rfl, .swap _ _ _⟩ .nil, ?_, ?_⟩
  · decide +kernel
  · decide +kernel

end Store

end DirectoryServer
