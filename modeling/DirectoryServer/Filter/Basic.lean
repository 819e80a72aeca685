set_option autoImplicit false

namespace DirectoryServer

inductive UnsupportedMatch where
  | greaterOrEqual
  | lessOrEqual
  | approximate
  | extensible
deriving DecidableEq, Repr

def UnsupportedMatch.sign : UnsupportedMatch → Char
  | .greaterOrEqual => '>'
  | .lessOrEqual => '<'
  | .approximate => '~'
  | .extensible => ':'

def UnsupportedMatch.ofSign? (sign : Char) : Option UnsupportedMatch :=
  match sign with
  | '>' => some .greaterOrEqual
  | '<' => some .lessOrEqual
  | '~' => some .approximate
  | ':' => some .extensible
  | _ => none

structure Substrings where
  initial : Option String
  any : List String
  final : Option String
deriving DecidableEq, Repr

inductive Filter where
  | and (parts : List Filter)
  | or (parts : List Filter)
  | not (part : Filter)
  | equality (attr value : String)
  | present (attr : String)
  | substrings (attr : String) (pieces : Substrings)
  | unsupported (relation : UnsupportedMatch) (attr value : String)
deriving Repr

instance : Inhabited Filter := ⟨.and []⟩

namespace Filter

mutual
def decEq : (a b : Filter) → Decidable (a = b)
  | .and a, .and b =>
      match decEqList a b with
      | isTrue same => isTrue (congrArg Filter.and same)
      | isFalse different => isFalse (fun same => different (Filter.and.inj same))
  | .or a, .or b =>
      match decEqList a b with
      | isTrue same => isTrue (congrArg Filter.or same)
      | isFalse different => isFalse (fun same => different (Filter.or.inj same))
  | .not a, .not b =>
      match decEq a b with
      | isTrue same => isTrue (congrArg Filter.not same)
      | isFalse different => isFalse (fun same => different (Filter.not.inj same))
  | .equality a v, .equality b w => decidable_of_iff (a = b ∧ v = w) (by simp)
  | .present a, .present b => decidable_of_iff (a = b) (by simp)
  | .substrings a p, .substrings b q => decidable_of_iff (a = b ∧ p = q) (by simp)
  | .unsupported r a v, .unsupported s b w =>
      decidable_of_iff (r = s ∧ a = b ∧ v = w) (by simp)
  | .and _, .or _ | .and _, .not _ | .and _, .equality _ _ | .and _, .present _
  | .and _, .substrings _ _ | .and _, .unsupported _ _ _ => isFalse nofun
  | .or _, .and _ | .or _, .not _ | .or _, .equality _ _ | .or _, .present _
  | .or _, .substrings _ _ | .or _, .unsupported _ _ _ => isFalse nofun
  | .not _, .and _ | .not _, .or _ | .not _, .equality _ _ | .not _, .present _
  | .not _, .substrings _ _ | .not _, .unsupported _ _ _ => isFalse nofun
  | .equality _ _, .and _ | .equality _ _, .or _ | .equality _ _, .not _
  | .equality _ _, .present _ | .equality _ _, .substrings _ _
  | .equality _ _, .unsupported _ _ _ => isFalse nofun
  | .present _, .and _ | .present _, .or _ | .present _, .not _ | .present _, .equality _ _
  | .present _, .substrings _ _ | .present _, .unsupported _ _ _ => isFalse nofun
  | .substrings _ _, .and _ | .substrings _ _, .or _ | .substrings _ _, .not _
  | .substrings _ _, .equality _ _ | .substrings _ _, .present _
  | .substrings _ _, .unsupported _ _ _ => isFalse nofun
  | .unsupported _ _ _, .and _ | .unsupported _ _ _, .or _ | .unsupported _ _ _, .not _
  | .unsupported _ _ _, .equality _ _ | .unsupported _ _ _, .present _
  | .unsupported _ _ _, .substrings _ _ => isFalse nofun

def decEqList : (a b : List Filter) → Decidable (a = b)
  | [], [] => isTrue rfl
  | [], _ :: _ | _ :: _, [] => isFalse nofun
  | a :: as, b :: bs =>
      match decEq a b, decEqList as bs with
      | isTrue head, isTrue tail => isTrue (head ▸ tail ▸ rfl)
      | isFalse different, _ => isFalse (fun same => different (List.cons.inj same).1)
      | _, isFalse different => isFalse (fun same => different (List.cons.inj same).2)
end

instance : DecidableEq Filter := decEq

end Filter

end DirectoryServer
