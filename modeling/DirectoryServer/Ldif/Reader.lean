import DirectoryServer.Entry
import DirectoryServer.Ldif.Line

set_option autoImplicit false

namespace DirectoryServer.Ldif

inductive Fault where
  | missingColon
  | emptyAttribute
  | badName
  | strayAttribute
  | badValue (cause : Base64.DecodeError)
  | duplicate (name : String)
  | emptyName
deriving DecidableEq, Repr

def Fault.message : Fault → String
  | .missingColon => "expected 'attribute: value'"
  | .emptyAttribute => "empty attribute name"
  | .badName => "bad base64 name"
  | .strayAttribute => "attribute before first 'dn:' line"
  | .badValue cause => s!"bad base64 value: {cause.message}"
  | .duplicate name => s!"duplicate entry '{name}'"
  | .emptyName => "entry has an empty name"

structure Malformed where
  line : Nat
  fault : Fault
deriving DecidableEq, Repr

inductive Item where
  | name (name : String)
  | value (attr : Attribute)
deriving DecidableEq, Repr

def isNameWord (word : String) : Bool :=
  Text.eqIgnoreAsciiCase word "dn"

def readName : List Char → Except Fault String
  | ':' :: encoded =>
      match Attribute.ofBase64 "dn" (String.ofList encoded) with
      | .error _ => .error .badName
      | .ok attr =>
          match attr.text? with
          | some name => .ok name
          | none => .error .badName
  | value => .ok (String.ofList (Text.trimChars value))

def readValue (attr : String) : List Char → Except Fault Attribute
  | ':' :: encoded =>
      match Attribute.ofBase64 attr (String.ofList encoded) with
      | .error cause => .error (.badValue cause)
      | .ok value => .ok value
  | value => .ok (.ofText attr (String.ofList (Text.trimStartChars value)))

def cutColon : List Char → Option (List Char × List Char)
  | [] => none
  | c :: rest =>
      if c = ':' then some ([], rest)
      else (cutColon rest).map fun (before, after) => (c :: before, after)

def readLine (inEntry : Bool) (line : List Char) : Except Fault Item :=
  match cutColon line with
  | none => .error .missingColon
  | some (left, right) =>
      let attr := String.ofList (Text.trimChars left)
      if attr.isEmpty then .error .emptyAttribute
      else if isNameWord attr then (readName right).map .name
      else if inEntry then (readValue attr right).map .value
      else .error .strayAttribute

structure Record where
  line : Nat
  entry : Entry
deriving DecidableEq, Repr

def Record.push (record : Record) (attr : Attribute) : Record :=
  { record with entry := { record.entry with attributes := record.entry.attributes ++ [attr] } }

def readRecords (current : Option Record) : List Logical → Except Malformed (List Record)
  | [] => .ok current.toList
  | (number, line) :: rest =>
      match readLine current.isSome line with
      | .error fault => .error ⟨number, fault⟩
      | .ok (.name name) =>
          (readRecords (some ⟨number, ⟨name, []⟩⟩) rest).map (current.toList ++ ·)
      | .ok (.value attr) => readRecords (current.map (·.push attr)) rest

def checkNames (seen : List (List Char)) : List Record → Except Malformed (List Entry)
  | [] => .ok []
  | record :: rest =>
      let name := Text.lowerChars record.entry.name.toList
      if seen.contains name then .error ⟨record.line, .duplicate record.entry.name⟩
      else (checkNames (name :: seen) rest).map (record.entry :: ·)

def parseBeside (seen : List (List Char)) (text : String) : Except Malformed (List Entry) :=
  match readRecords none (unfold text.toList) with
  | .error malformed => .error malformed
  | .ok records => checkNames seen records

def parse (text : String) : Except Malformed (List Entry) :=
  parseBeside [] text

end DirectoryServer.Ldif
