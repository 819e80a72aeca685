import DirectoryServer.Filter.Basic
import DirectoryServer.Text.Utf8
import DirectoryServer.Text.Blank

set_option autoImplicit false

namespace DirectoryServer.Filter

inductive ParseError where
  | empty
  | unexpectedEnd
  | expected (char : Char) (position : Nat)
  | missingOperator (item : String)
  | emptyAttribute (item : String)
  | invalidEscape (position : Nat)
  | trailing (position : Nat)
  | tooDeep
deriving DecidableEq, Repr

def maxDepth : Nat := 64

def ParseError.message : ParseError → String
  | .empty => "empty filter"
  | .unexpectedEnd => "unexpected end of filter"
  | .expected char position => s!"expected '{char}' at position {position}"
  | .missingOperator item => s!"missing '=' in filter item '{item}'"
  | .emptyAttribute item => s!"empty attribute description in filter item '{item}'"
  | .invalidEscape position => s!"invalid escape sequence at position {position}"
  | .trailing position => s!"trailing characters after filter at position {position}"
  | .tooDeep => s!"filter nested deeper than {maxDepth} levels"

def width : List Char → Nat
  | [] => 0
  | c :: rest => c.utf8Size + width rest

def hexValue? (c : Char) : Option Nat :=
  if '0' ≤ c ∧ c ≤ '9' then some (c.toNat - 48)
  else if 'a' ≤ c ∧ c ≤ 'f' then some (c.toNat - 87)
  else if 'A' ≤ c ∧ c ≤ 'F' then some (c.toNat - 55)
  else none

def hexOctet? (first second : Char) : Option UInt8 :=
  match hexValue? second with
  | none => none
  | some low =>
      if first = '+' then some (UInt8.ofNat low)
      else (hexValue? first).map fun high => UInt8.ofNat (high * 16 + low)

def unescapeBytes (position : Nat) : List Char → Except ParseError Bytes
  | [] => .ok []
  | '\\' :: first :: second :: rest =>
      match hexOctet? first second with
      | none => .error (.invalidEscape position)
      | some octet => (unescapeBytes (position + 3) rest).map (octet :: ·)
  | c :: rest =>
      if c = '\\' then .error (.invalidEscape position)
      else (unescapeBytes (position + c.utf8Size) rest).map (String.utf8EncodeChar c ++ ·)

def unescape (position : Nat) (value : List Char) : Except ParseError String :=
  match unescapeBytes position value with
  | .error fault => .error fault
  | .ok bytes =>
      match Text.decode bytes with
      | .ok text => .ok text
      | .error _ => .error (.invalidEscape position)

def cut (mark : Char) : List Char → Option (List Char × List Char)
  | [] => none
  | c :: rest =>
      if c = mark then some ([], rest)
      else (cut mark rest).map fun (before, after) => (c :: before, after)

def splitStars (piece : List Char) : List Char → List (List Char)
  | [] => [piece.reverse]
  | c :: rest =>
      if c = '*' then piece.reverse :: splitStars [] rest else splitStars (c :: piece) rest

def readPiece (position : Nat) (piece : List Char) : Except ParseError (List String) :=
  if piece.isEmpty then .ok [] else (unescape position piece).map ([·])

def readPieces (position : Nat) : List (List Char) → Except ParseError (List String × Option String)
  | [] => .ok ([], none)
  | [piece] => (readPiece position piece).map fun final => ([], final.head?)
  | piece :: rest =>
      match readPiece position piece with
      | .error fault => .error fault
      | .ok any =>
          (readPieces (position + width piece + 1) rest).map fun (more, final) =>
            (any ++ more, final)

def readSubstrings (position : Nat) (value : List Char) : Except ParseError Substrings :=
  match splitStars [] value with
  | [] => .ok ⟨none, [], none⟩
  | first :: rest =>
      match readPiece position first with
      | .error fault => .error fault
      | .ok initial =>
          (readPieces (position + width first + 1) rest).map fun (any, final) =>
            ⟨initial.head?, any, final⟩

def unsupportedSign? (left : List Char) : Option (UnsupportedMatch × List Char) :=
  match left.getLast? with
  | none => none
  | some sign => (UnsupportedMatch.ofSign? sign).map fun relation => (relation, left.dropLast)

def readItem (position : Nat) (item : List Char) : Except ParseError Filter :=
  match cut '=' item with
  | none => .error (.missingOperator (String.ofList item))
  | some (left, right) =>
      let start := position + width left + 1
      match unsupportedSign? left with
      | some (relation, attr) =>
          (unescape start right).map (.unsupported relation (String.ofList attr))
      | none =>
          let attr := Text.trimChars left
          if attr.isEmpty then .error (.emptyAttribute (String.ofList item))
          else if right = ['*'] then .ok (.present (String.ofList attr))
          else if right.contains '*' then
            (readSubstrings start right).map (.substrings (String.ofList attr))
          else (unescape start right).map (.equality (String.ofList attr))

abbrev Step (α : Type) := Except ParseError (α × Nat × List Char)

def expect (char : Char) (position : Nat) : List Char → Except ParseError (List Char)
  | [] => .error .unexpectedEnd
  | c :: rest => if c = char then .ok rest else .error (.expected char position)

-- Each filter takes a character, so `fuel` need not exceed the length.
def readParts (read : Nat → List Char → Step Filter) :
    (fuel : Nat) → Nat → List Char → Step (List Filter)
  | fuel + 1, position, '(' :: text =>
      match read position ('(' :: text) with
      | .error fault => .error fault
      | .ok (part, next, rest) =>
          (readParts read fuel next rest).map fun (parts, after) => (part :: parts, after)
  | _, position, text => .ok ([], position, text)

def close : Filter × Nat × List Char → Step Filter
  | (filter, position, text) =>
      (expect ')' position text).map fun rest => (filter, position + 1, rest)

-- `room` is one more than the number of filters that may still open inside.
def read : (room : Nat) → Nat → List Char → Step Filter
  | 0, _, _ => .error .tooDeep
  | room + 1, position, text =>
      match expect '(' position text with
      | .error fault => .error fault
      | .ok [] => .error .unexpectedEnd
      | .ok ('&' :: body) =>
          match readParts (read room) body.length (position + 2) body with
          | .error fault => .error fault
          | .ok (parts, after) => close (.and parts, after)
      | .ok ('|' :: body) =>
          match readParts (read room) body.length (position + 2) body with
          | .error fault => .error fault
          | .ok (parts, after) => close (.or parts, after)
      | .ok ('!' :: body) =>
          match read room (position + 2) body with
          | .error fault => .error fault
          | .ok (part, after) => close (.not part, after)
      | .ok body =>
          match cut ')' body with
          | none => .error .unexpectedEnd
          | some (item, rest) =>
              (readItem (position + 1) item).map fun filter =>
                (filter, position + 1 + width item + 1, rest)

def parseTrimmed (text : List Char) : Except ParseError Filter :=
  match text with
  | [] => .error .empty
  | '(' :: _ =>
      match read (maxDepth + 1) 0 text with
      | .error fault => .error fault
      | .ok (filter, _, []) => .ok filter
      | .ok (_, position, _ :: _) => .error (.trailing position)
  | _ => readItem 0 text

def parse (text : String) : Except ParseError Filter :=
  parseTrimmed (Text.trimChars text.toList)

end DirectoryServer.Filter
