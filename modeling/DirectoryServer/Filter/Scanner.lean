import DirectoryServer.Filter.Parser

set_option autoImplicit false

/-!
The scanner of filter texts. It keeps its place in the text as a number of octets and takes items, what
stands left and right of their equality signs and the codes in their values out of the text by such places.
`none` is what must not happen: a slice outside of the text or through a character, calls that nest too
deep, a filter that takes no octet.
-/
namespace DirectoryServer.Filter

-- None if these octets end inside of a character.
def skip? : (count : Nat) → List Char → Option (List Char)
  | 0, text => some text
  | _ + 1, [] => none
  | count + 1, c :: rest =>
      if c.utf8Size ≤ count + 1 then skip? (count + 1 - c.utf8Size) rest else none

def keep? : (count : Nat) → List Char → Option (List Char)
  | 0, _ => some []
  | _ + 1, [] => none
  | count + 1, c :: rest =>
      if c.utf8Size ≤ count + 1 then (keep? (count + 1 - c.utf8Size) rest).map (c :: ·) else none

def slice? (text : List Char) (start stop : Nat) : Option (List Char) :=
  if start ≤ stop then (skip? start text).bind (keep? (stop - start)) else none

def place? (mark : Char) : List Char → Option Nat
  | [] => none
  | c :: rest => if c = mark then some 0 else (place? mark rest).map (c.utf8Size + ·)

namespace Scanner

def octet (mark : Char) : UInt8 :=
  UInt8.ofNat mark.toNat

def code? : List Char → Option UInt8
  | [first, second] => hexOctet? first second
  | _ => none

-- A code is sliced only if its two octets are there and are whole characters.
def unescapeFrom (value : List Char) (offset place : Nat) (octets : Bytes) : Except ParseError Bytes :=
  match octets with
  | [] => .ok []
  | own :: rest =>
      if own = octet '\\' then
        match (slice? value (place + 1) (place + 3)).bind code? with
        | none => .error (.invalidEscape (offset + place))
        | some code => (unescapeFrom value offset (place + 3) (rest.drop 2)).map (code :: ·)
      else (unescapeFrom value offset (place + 1) rest).map (own :: ·)
termination_by octets.length
decreasing_by
  · rw [List.length_drop, List.length_cons]
    omega
  · rw [List.length_cons]
    exact Nat.lt_succ_self _

def unescape (value : List Char) (offset : Nat) : Except ParseError String :=
  if value.contains '\\' then
    match unescapeFrom value offset 0 (Text.encodeChars value) with
    | .error fault => .error fault
    | .ok octets =>
        match Text.decode octets with
        | .ok text => .ok text
        | .error _ => .error (.invalidEscape offset)
  else .ok (String.ofList value)

def put (last index : Nat) (parts : Substrings) (text : String) : Substrings :=
  if index = 0 then { parts with initial := some text }
  else if index = last then { parts with final := some text }
  else { parts with any := parts.any ++ [text] }

def pieces (last : Nat) : (index offset : Nat) → Substrings → List (List Char) → Except ParseError Substrings
  | _, _, parts, [] => .ok parts
  | index, offset, parts, piece :: rest =>
      if piece.isEmpty then pieces last (index + 1) (offset + width piece + 1) parts rest
      else
        match unescape piece offset with
        | .error fault => .error fault
        | .ok text => pieces last (index + 1) (offset + width piece + 1) (put last index parts text) rest

def sides (item left right : List Char) (start : Nat) : Except ParseError Filter :=
  match unsupportedSign? left with
  | some (relation, attr) => (unescape right start).map (.unsupported relation (String.ofList attr))
  | none =>
      let attr := Text.trimChars left
      if attr.isEmpty then .error (.emptyAttribute (String.ofList item))
      else if right = ['*'] then .ok (.present (String.ofList attr))
      else if right.contains '*' then
        let split := splitStars [] right
        (pieces (split.length - 1) 0 start ⟨none, [], none⟩ split).map (.substrings (String.ofList attr))
      else (unescape right start).map (.equality (String.ofList attr))

def item (text : List Char) (offset : Nat) : Option (Except ParseError Filter) :=
  match place? '=' text with
  | none => some (.error (.missingOperator (String.ofList text)))
  | some place => do
      let left ← slice? text 0 place
      let right ← slice? text (place + 1) (width text)
      some (sides text left right (offset + place + 1))

abbrev Scan (α : Type) := Option (Except ParseError (α × Nat))

def peek (text : List Char) (position : Nat) : Option UInt8 :=
  (Text.encodeChars text)[position]?

def expect (text : List Char) (mark : Char) (position : Nat) : Except ParseError Nat :=
  match peek text position with
  | none => .error .unexpectedEnd
  | some own => if own = octet mark then .ok (position + 1) else .error (.expected mark position)

def closing {α : Type} (text : List Char) (make : α → Filter) : Scan α → Scan Filter
  | none => none
  | some (.error fault) => some (.error fault)
  | some (.ok (inner, position)) =>
      some ((expect text ')' position).map fun next => (make inner, next))

def list (text : List Char) (filter : Nat → Scan Filter) (position : Nat) : Scan (List Filter) :=
  if _opens : peek text position = some (octet '(') then
    match filter position with
    | none => none
    | some (.error fault) => some (.error fault)
    | some (.ok (part, next)) =>
        if _onward : position < next then
          (list text filter next).map fun reading =>
            reading.map fun (parts, after) => (part :: parts, after)
        else none
  else some (.ok ([], position))
termination_by (Text.encodeChars text).length - position
decreasing_by
  have inside := (List.getElem?_eq_some_iff.mp _opens).1
  omega

def leaf (text : List Char) (position : Nat) : Option (Except ParseError (Filter × Nat)) := do
  let rest ← slice? text position (width text)
  match place? ')' rest with
  | none => some (.error .unexpectedEnd)
  | some size =>
      let own ← slice? text position (position + size)
      let reading ← item own position
      some (reading.map fun filter => (filter, position + size))

-- `levels` bounds how deep the calls nest.
def filter (text : List Char) : (levels depth position : Nat) → Scan Filter
  | 0, _, _ => none
  | levels + 1, depth, position =>
      if maxDepth < depth then some (.error .tooDeep)
      else
        match expect text '(' position with
        | .error fault => some (.error fault)
        | .ok position =>
            match peek text position with
            | none => some (.error .unexpectedEnd)
            | some mark =>
                if mark = octet '&' then
                  closing text .and (list text (filter text levels (depth + 1)) (position + 1))
                else if mark = octet '|' then
                  closing text .or (list text (filter text levels (depth + 1)) (position + 1))
                else if mark = octet '!' then
                  closing text .not (filter text levels (depth + 1) (position + 1))
                else closing text id (leaf text position)

-- A call for the filter, one inside of each level that may hold another, and one to refuse more.
def parseTrimmed (text : List Char) : Option (Except ParseError Filter) :=
  if text.isEmpty then some (.error .empty)
  else if text.head? ≠ some '(' then item text 0
  else
    match filter text (maxDepth + 2) 0 0 with
    | none => none
    | some (.error fault) => some (.error fault)
    | some (.ok (filter, position)) =>
        if position ≠ width text then some (.error (.trailing position)) else some (.ok filter)

def parse (text : String) : Option (Except ParseError Filter) :=
  parseTrimmed (Text.trimChars text.toList)

end Scanner

end DirectoryServer.Filter
