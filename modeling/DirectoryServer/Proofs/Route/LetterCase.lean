import DirectoryServer.Proofs.Text.AsciiCase
import DirectoryServer.Route.Table

set_option autoImplicit false

namespace DirectoryServer

def Substrings.lowered (pieces : Substrings) : Substrings :=
  ⟨pieces.initial.map Text.asciiLower, pieces.any.map Text.asciiLower, pieces.final.map Text.asciiLower⟩

namespace Filter

mutual
def lowered : Filter → Filter
  | .and parts => .and (allLowered parts)
  | .or parts => .or (allLowered parts)
  | .not part => .not (lowered part)
  | .equality attr value => .equality (Text.asciiLower attr) (Text.asciiLower value)
  | .present attr => .present (Text.asciiLower attr)
  | .substrings attr pieces => .substrings (Text.asciiLower attr) pieces.lowered
  | .unsupported relation attr value => .unsupported relation (Text.asciiLower attr) (Text.asciiLower value)

def allLowered : List Filter → List Filter
  | [] => []
  | part :: rest => lowered part :: allLowered rest
end

end Filter

def Request.lowered : Request → Request
  | .bind name mechanism credentials => .bind name (Text.asciiLower mechanism) credentials
  | .search query => .search { query with base := Text.asciiLower query.base, filter := query.filter.lowered }
  | .add entry => .add { entry with name := Text.asciiLower entry.name }
  | .modify name changes => .modify (Text.asciiLower name) changes
  | .delete name => .delete (Text.asciiLower name)
  | .compare name attr value => .compare (Text.asciiLower name) attr value
  | .extended name value => .extended name value
  | .abandon target => .abandon target

namespace Filter

open Text

theorem escape_char_lowered (c : Char) : escapeChar (asciiLowerChar c) = asciiLowerChars (escapeChar c) := by
  rcases capital_or_own c with own | ⟨letter, rfl⟩
  · rw [own]
    unfold escapeChar
    split
    · rfl
    · rfl
    · rfl
    · rfl
    · rfl
    · rw [asciiLowerChars, List.map_singleton, own]
  · revert letter
    decide

theorem escape_lowered (value : String) : escape (asciiLower value) = asciiLowerChars (escape value) := by
  rw [escape, escape, ascii_lower_toList, asciiLowerChars, asciiLowerChars, List.flatMap_map, List.map_flatMap]
  exact congrArg (List.flatMap · _) (funext escape_char_lowered)

theorem escape_optional_lowered (piece : Option String) :
    ((piece.map asciiLower).map escape).getD [] = asciiLowerChars ((piece.map escape).getD []) := by
  cases piece with
  | none => rfl
  | some value => rw [Option.map_some, Option.map_some, Option.map_some, Option.getD_some, Option.getD_some, escape_lowered]

theorem print_substrings_lowered (pieces : Substrings) :
    printSubstrings pieces.lowered = asciiLowerChars (printSubstrings pieces) := by
  have middle : (pieces.any.map asciiLower).flatMap (fun piece => escape piece ++ ['*']) =
      asciiLowerChars (pieces.any.flatMap fun piece => escape piece ++ ['*']) := by
    rw [asciiLowerChars, List.flatMap_map, List.map_flatMap]
    refine congrArg (List.flatMap · _) (funext fun piece => ?_)
    rw [escape_lowered, List.map_append]
    rfl
  rw [printSubstrings, printSubstrings, Substrings.lowered, escape_optional_lowered, escape_optional_lowered, middle,
    ascii_lower_append, ascii_lower_append, ascii_lower_append]
  rfl

mutual
theorem print_lowered (filter : Filter) : printChars (lowered filter) = asciiLowerChars (printChars filter) := by
  cases filter with
  | and parts | or parts =>
      rw [lowered, printChars, printChars, print_all_lowered parts, ascii_lower_append, ascii_lower_append]
      rfl
  | not part =>
      rw [lowered, printChars, printChars, print_lowered part, ascii_lower_append, ascii_lower_append]
      rfl
  | equality attr value =>
      rw [lowered, printChars, printChars, ascii_lower_toList, escape_lowered, ascii_lower_append, ascii_lower_append,
        ascii_lower_append]
      rfl
  | present attr =>
      rw [lowered, printChars, printChars, ascii_lower_toList, ascii_lower_append]
      rfl
  | substrings attr pieces =>
      rw [lowered, printChars, printChars, ascii_lower_toList, print_substrings_lowered, ascii_lower_append,
        ascii_lower_append, ascii_lower_append]
      rfl
  | unsupported relation attr value =>
      rw [lowered, printChars, printChars, ascii_lower_toList, escape_lowered, ascii_lower_append, ascii_lower_append,
        ascii_lower_append]
      cases relation <;> rfl

theorem print_all_lowered (parts : List Filter) :
    printAll (allLowered parts) = asciiLowerChars (printAll parts) := by
  cases parts with
  | nil => rfl
  | cons part rest =>
      rw [allLowered, printAll, printAll, print_lowered part, print_all_lowered rest, ascii_lower_append]
end

theorem lower_print_lowered (filter : Filter) : lower (print (lowered filter)) = lower (print filter) := by
  rw [lower, lower, print, print, String.toList_ofList, String.toList_ofList, print_lowered, lower_chars_lowered]

end Filter

namespace Route

open Text

variable {σ : Type}

theorem ends_with_lowered (suffix name : String) : endsWith suffix (asciiLower name) = endsWith suffix name := by
  rw [endsWith, endsWith, ascii_lower_toList, lower_chars_lowered]

theorem accepts_lowered (route : Route σ) (request : Request) :
    route.accepts request.lowered = route.accepts request := by
  cases request with
  | bind name mechanism credentials =>
      simp only [Request.lowered, accepts, Request.kind, acceptsBind, eq_ignore_ascii_lowered]
  | search query =>
      simp only [Request.lowered, accepts, Request.kind, acceptsSearch, eq_ignore_lowered, Filter.lower_print_lowered]
  | add | modify | delete | compare =>
      simp only [Request.lowered, accepts, Request.kind, ends_with_lowered]
  | extended | abandon => rfl

end Route

namespace RouteTable

variable {σ : Type}

theorem letter_case_routed_alike (table : RouteTable σ) (a b : Request) (same : a.lowered = b.lowered) :
    (∀ route : Route σ, route.accepts a = route.accepts b) ∧ table.find? a = table.find? b := by
  have alike : ∀ route : Route σ, route.accepts a = route.accepts b := by
    intro route
    rw [← route.accepts_lowered a, same, route.accepts_lowered]
  exact ⟨alike, congrArg (List.find? · table.routes) (funext alike)⟩

def personRoute : Route Unit :=
  (Route.withSuffix { operation := .search, handler := fun _ _ _ => .done (), backend := .null Unit } "O=a").withFilter
    "(&(CN=ΑΣ.b)(mail=*\\2A*))"

def streetSearch (base attr value : String) : Request :=
  .search ⟨base, .wholeSubtree, .and [.equality attr value, .substrings "Mail" ⟨none, ["*"], none⟩], []⟩

theorem street_search_routed_alike :
    (streetSearch "o=A" "Cn" "ΑΣ.B").lowered = (streetSearch "O=a" "cN" "ΑΣ.b").lowered ∧
      personRoute.accepts (streetSearch "o=A" "Cn" "ΑΣ.B") = true ∧
      personRoute.accepts (streetSearch "O=a" "cN" "ΑΣ.b") = true ∧
      (RouteTable.register {} personRoute).find? (streetSearch "o=A" "Cn" "ΑΣ.B") =
        (RouteTable.register {} personRoute).find? (streetSearch "O=a" "cN" "ΑΣ.b") := by
  have same : (streetSearch "o=A" "Cn" "ΑΣ.B").lowered = (streetSearch "O=a" "cN" "ΑΣ.b").lowered := by
    decide +kernel
  have taken : personRoute.accepts (streetSearch "o=A" "Cn" "ΑΣ.B") = true := by
    decide +kernel
  obtain ⟨alike, found⟩ := letter_case_routed_alike (RouteTable.register {} personRoute) _ _ same
  exact ⟨same, taken, (alike personRoute).symm.trans taken, found⟩

end RouteTable

end DirectoryServer
