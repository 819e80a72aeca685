import DirectoryServer.Text.CaseMap
import DirectoryServer.Text.CaseContext

set_option autoImplicit false

/-!
Lower case. `lower` follows the full mapping, in which the dotted capital I becomes two characters
and a capital sigma takes its final form at the end of a word; `asciiLower` touches A to Z only.
-/
namespace DirectoryServer.Text

def isAsciiUpper (c : Char) : Bool :=
  'A' ≤ c && c ≤ 'Z'

def asciiLowerChar (c : Char) : Char :=
  if isAsciiUpper c then Char.ofNat (c.toNat + 32) else c

def asciiLowerChars (text : List Char) : List Char :=
  text.map asciiLowerChar

def asciiLower (text : String) : String :=
  String.ofList (asciiLowerChars text.toList)

def eqIgnoreAsciiCase (a b : String) : Bool :=
  asciiLowerChars a.toList == asciiLowerChars b.toList

def lowerChar (c : Char) : List Char :=
  if c.toNat < 0x80 then [asciiLowerChar c]
  else if c = 'İ' then ['i', '\u0307']
  else
    match caseRuns.find? (·.covers c.toNat) with
    | some run => [Char.ofNat (run.apply c.toNat)]
    | none => [c]

def nextIsCased (text : List Char) : Bool :=
  match text.find? (!isCaseIgnorable ·) with
  | some c => isCased c
  | none => false

-- What stands before the sigma is given nearest first.
def endsWord (before after : List Char) : Bool :=
  nextIsCased before && !nextIsCased after

def lowerFrom (before : List Char) : List Char → List Char
  | [] => []
  | c :: rest =>
      (if c = 'Σ' then [if endsWord before rest then 'ς' else 'σ'] else lowerChar c) ++
        lowerFrom (c :: before) rest

def lowerChars (text : List Char) : List Char :=
  lowerFrom [] text

def lower (text : String) : String :=
  String.ofList (lowerChars text.toList)

def eqIgnoreCase (a b : String) : Bool :=
  lowerChars a.toList == lowerChars b.toList

end DirectoryServer.Text
