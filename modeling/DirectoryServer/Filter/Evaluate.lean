import DirectoryServer.Entry
import DirectoryServer.Filter.Basic
import DirectoryServer.ResultCode

set_option autoImplicit false

namespace DirectoryServer

def containsChars (piece : List Char) : List Char → Bool
  | [] => piece.isEmpty
  | c :: rest => piece.isPrefixOf (c :: rest) || containsChars piece rest

-- The pieces in between may stand anywhere and overlap.
def Substrings.fits (pieces : Substrings) (text : String) : Bool :=
  let chars := Text.lowerChars text.toList
  (pieces.initial.all fun piece => (Text.lowerChars piece.toList).isPrefixOf chars) &&
    (pieces.any.all fun piece => containsChars (Text.lowerChars piece.toList) chars) &&
    (pieces.final.all fun piece => (Text.lowerChars piece.toList).isSuffixOf chars)

namespace Filter

mutual
-- A conjunction stops at the first part that is false; a disjunction visits every part.
def evaluate (entry : Entry) : Filter → Except ResultCode Bool
  | .and parts => evaluateAll entry parts
  | .or parts => evaluateAny entry parts
  | .not part => (evaluate entry part).map (!·)
  | .equality attr value => .ok ((entry.values attr).any (·.valueEquals value))
  | .present attr => .ok (entry.first? attr).isSome
  | .substrings attr pieces =>
      .ok ((entry.values attr).any fun value => value.text?.any pieces.fits)
  | .unsupported _ _ _ => .error .operationsError

def evaluateAll (entry : Entry) : List Filter → Except ResultCode Bool
  | [] => .ok true
  | part :: rest =>
      match evaluate entry part with
      | .error code => .error code
      | .ok false => .ok false
      | .ok true => evaluateAll entry rest

def evaluateAny (entry : Entry) : List Filter → Except ResultCode Bool
  | [] => .ok false
  | part :: rest =>
      match evaluate entry part with
      | .error code => .error code
      | .ok holds => (evaluateAny entry rest).map (holds || ·)
end

end Filter

end DirectoryServer
