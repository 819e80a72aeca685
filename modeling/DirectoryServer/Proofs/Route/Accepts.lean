import DirectoryServer.Route.Basic
import DirectoryServer.Proofs.Text.Lowercase

set_option autoImplicit false

namespace DirectoryServer.Route

variable {σ : Type}

theorem accepts_bind_iff (route : Route σ) (name mechanism : String) (credentials : Bytes) :
    route.accepts (.bind name mechanism credentials) = true ↔ route.operation = .bind ∧
      (∀ known ∈ route.mechanism, Text.eqIgnoreAsciiCase mechanism known = true) ∧
      ∀ suffix ∈ route.nameSuffix, suffix.toList <:+ name.toList := by
  simp only [accepts, acceptsBind, Request.kind, Bool.and_eq_true, beq_iff_eq, Option.all_eq_true,
    List.isSuffixOf_iff_suffix]
  exact and_congr_left' eq_comm

theorem accepts_search_iff (route : Route σ) (query : Query) :
    route.accepts (.search query) = true ↔ route.operation = .search ∧
      (∀ suffix ∈ route.nameSuffix, Text.lower query.base = Text.lower suffix) ∧
      (∀ text ∈ route.filterText, Text.lower query.filter.print = text) ∧
      ∀ scope ∈ route.scope, query.scope = scope := by
  simp only [accepts, acceptsSearch, Request.kind, Bool.and_eq_true, beq_iff_eq, Option.all_eq_true,
    Text.eq_ignore_case_iff, and_assoc]
  exact and_congr_left' eq_comm

theorem accepts_extended_iff (route : Route σ) (name : String) (value : Option Bytes) :
    route.accepts (.extended name value) = true ↔ route.operation = .extended ∧
      route.extendedName = some name := by
  simp only [accepts, Request.kind, Bool.and_eq_true, beq_iff_eq]
  exact and_congr_left' eq_comm

theorem accepts_target_iff (route : Route σ) (request : Request) (name : String)
    (kind : request.kind = route.operation) (onEntry : request.kind ∈ [.add, .modify, .delete, .compare])
    (target : request.targetName? = some name) : route.accepts request = true ↔
      ∀ suffix ∈ route.nameSuffix, Text.lowerChars suffix.toList <:+ Text.lowerChars name.toList := by
  cases request with
  | add entry | modify other changes | delete other | compare other attr value =>
      cases target
      simp only [accepts, kind, BEq.rfl, Bool.true_and, Option.all_eq_true, Option.mem_def, endsWith,
        List.isSuffixOf_iff_suffix]
  | _ => simp [Request.kind] at onEntry

theorem accepts_suffix_iff (route : Route σ) (request : Request) (name suffix : String)
    (kind : request.kind = route.operation) (onEntry : request.kind ∈ [.add, .modify, .delete, .compare])
    (target : request.targetName? = some name) (restricted : route.nameSuffix = some suffix) :
    route.accepts request = true ↔ Text.lowerChars suffix.toList <:+ Text.lowerChars name.toList := by
  rw [accepts_target_iff route request name kind onEntry target, restricted]
  simp

end DirectoryServer.Route
