import DirectoryServer.Text.Utf8
import DirectoryServer.Text.Blank
import DirectoryServer.Text.Lowercase
import DirectoryServer.Text.Base64

set_option autoImplicit false

namespace DirectoryServer

inductive ValueKind where
  | text
  | binary
deriving DecidableEq, Repr

def ValueKind.classify (value : Bytes) : ValueKind :=
  match Text.decodeChars value with
  | .ok chars => if chars.any Text.isControl then .binary else .text
  | .error _ => .binary

def ValueKind.name : ValueKind → String
  | .text => "text"
  | .binary => "binary"

structure Attribute where
  name : String
  value : Bytes
  kind : ValueKind
deriving DecidableEq, Repr

def Base64.encodeText (value : Bytes) : String :=
  String.ofList ((Base64.encode value).map fun octet => Char.ofNat octet.toNat)

def Base64.decodeText (text : String) : Except DecodeError Bytes :=
  Base64.decode (Text.encode (Text.trim text))

namespace Attribute

def ofValue (name : String) (value : Bytes) : Attribute :=
  ⟨name, value, .classify value⟩

def ofText (name text : String) : Attribute :=
  ofValue name (Text.encode text)

def ofBase64 (name text : String) : Except Base64.DecodeError Attribute :=
  (Base64.decodeText text).map (ofValue name)

def isNamed (attr : Attribute) (name : String) : Bool :=
  Text.eqIgnoreAsciiCase attr.name name

def text? (attr : Attribute) : Option String :=
  match attr.kind with
  | .text => Text.decode? attr.value
  | .binary => none

def base64 (attr : Attribute) : String :=
  Base64.encodeText attr.value

def valueEquals (attr : Attribute) (assertion : String) : Bool :=
  match attr.kind with
  | .text =>
      match attr.text? with
      | some text => Text.eqIgnoreCase text assertion
      | none => false
  | .binary => attr.base64 == assertion

end Attribute

-- Whether a text reads back from a line of its own: no space at either end, and no first character
-- that would change how the line is read.
def isSafeText (text : String) : Bool :=
  match text.toList with
  | [] => true
  | first :: rest =>
      first ≠ ' ' && first ≠ ':' && first ≠ '<' && (first :: rest).getLast? ≠ some ' '

def Attribute.display (attr : Attribute) : String :=
  match attr.text? with
  | some text =>
      if isSafeText text then attr.name ++ ": " ++ text
      else attr.name ++ ":: " ++ attr.base64
  | none => attr.name ++ ":: " ++ attr.base64

def userPassword : String := "userPassword"

structure Entry where
  name : String
  attributes : List Attribute
deriving DecidableEq, Repr

namespace Entry

def ofValues (name : String) (values : List (String × List Bytes)) : Entry :=
  ⟨name, values.flatMap fun (attr, octets) => octets.map (Attribute.ofValue attr)⟩

def hasName (entry : Entry) (name : String) : Bool :=
  Text.eqIgnoreCase entry.name name

def isWithin (entry : Entry) (base : String) : Bool :=
  (Text.lowerChars base.toList).isSuffixOf (Text.lowerChars entry.name.toList)

def values (entry : Entry) (name : String) : List Attribute :=
  entry.attributes.filter (·.isNamed name)

def first? (entry : Entry) (name : String) : Option Attribute :=
  entry.attributes.find? (·.isNamed name)

-- What a client gets of the entry: never a password, and only what it asked for if it asked for
-- anything.
def project (entry : Entry) (requested : List String) : Entry :=
  ⟨entry.name, entry.attributes.filter fun attr =>
    !attr.isNamed userPassword &&
      (requested.isEmpty || requested.any (attr.isNamed ·))⟩

def nameLine (entry : Entry) : String :=
  if isSafeText entry.name then "dn: " ++ entry.name
  else "dn:: " ++ Base64.encodeText (Text.encode entry.name)

def display (entry : Entry) : String :=
  entry.nameLine ++ "\n" ++ String.join (entry.attributes.map (·.display ++ "\n"))

end Entry

end DirectoryServer
