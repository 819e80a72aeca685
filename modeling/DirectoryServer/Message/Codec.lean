import DirectoryServer.Filter.Parser
import DirectoryServer.Frame.Basic
import DirectoryServer.Message.Basic

set_option autoImplicit false

namespace DirectoryServer

inductive Field where
  | operation
  | name
  | mechanism
  | credentials
  | base
  | scope
  | filter
  | attributes
  | attr
  | value
  | values
  | changes
  | change
  | changeOperation
  | targetId
  | responseKind
  | resultCode
deriving DecidableEq, Repr

def Field.label : Field → String
  | .operation => "operation"
  | .name => "name"
  | .mechanism => "mechanism"
  | .credentials => "credentials"
  | .base => "base"
  | .scope => "scope"
  | .filter => "filter"
  | .attributes => "attributes"
  | .attr => "attribute"
  | .value => "value"
  | .values => "values"
  | .changes => "changes"
  | .change => "change"
  | .changeOperation => "change operation"
  | .targetId => "target id"
  | .responseKind => "response kind"
  | .resultCode => "result code"

inductive CodecError where
  | notAnArray
  | invalidMessageId
  | unknownOperation (word : String)
  | wrongArity (kind : OperationKind) (expected got : Nat)
  | invalidField (field : Field)
  | invalidScope (number : Int64)
  | invalidFilter (cause : Filter.ParseError)
  | unknownResponse (word : String)
  | unknownResultCode (number : Int64)
deriving DecidableEq, Repr

def CodecError.message : CodecError → String
  | .notAnArray => "message must be an array"
  | .invalidMessageId => "missing or invalid message id"
  | .unknownOperation word => s!"unknown operation '{word}'"
  | .wrongArity kind expected got =>
      s!"wrong number of operands for '{kind.name}': expected {expected}, got {got}"
  | .invalidField field => s!"invalid {field.label}"
  | .invalidScope number => s!"invalid search scope: {number.toInt}"
  | .invalidFilter cause => s!"invalid filter: {cause.message}"
  | .unknownResponse word => s!"unknown response kind '{word}'"
  | .unknownResultCode number => s!"unknown result code: {number.toInt}"

abbrev Decoded (α : Type) := Except CodecError α

namespace Frame

def messageId? (frame : Frame) : Option MessageId :=
  match frame.integer? with
  | some value =>
      if 0 ≤ value.toInt ∧ value.toInt < UInt32.size then some (UInt32.ofNat value.toInt.toNat)
      else none
  | none => none

def ofMessageId (id : MessageId) : Frame :=
  .integer (Int64.ofInt (Int.ofNat id.toNat))

def ofNat (n : Nat) : Frame :=
  .integer (Int64.ofInt (Int.ofNat n))

def asText (field : Field) (frame : Frame) : Decoded String :=
  match frame.text? with
  | some text => .ok text
  | none => .error (.invalidField field)

def asOctets (field : Field) : Frame → Decoded Bytes
  | .bulk data => .ok data
  | .simple text => .ok (Text.encode text)
  | _ => .error (.invalidField field)

def asElements (field : Field) (frame : Frame) : Decoded (List Frame) :=
  match frame.elements? with
  | some elements => .ok elements
  | none => .error (.invalidField field)

def asInteger (field : Field) (frame : Frame) : Decoded Int64 :=
  match frame.integer? with
  | some value => .ok value
  | none => .error (.invalidField field)

end Frame

namespace Request

def decodeValues (frame : Frame) : Decoded (String × List Bytes) := do
  match ← frame.asElements .attr with
  | [] => .error (.invalidField .attr)
  | name :: values =>
      let octets ← values.mapM (Frame.asOctets .value)
      return (← name.asText .attr, octets)

def decodeChange (frame : Frame) : Decoded Change := do
  match ← frame.asElements .change with
  | [operation, attr, values] =>
      match ChangeOperation.ofName? (← operation.asText .changeOperation) with
      | none => .error (.invalidField .changeOperation)
      | some operation =>
          let name ← attr.asText .attr
          let elements ← values.asElements .values
          return ⟨operation, name, ← elements.mapM (Frame.asOctets .value)⟩
  | _ => .error (.invalidField .change)

def decodeQuery (base scope filter attributes : Frame) : Decoded Query := do
  let number ← scope.asInteger .scope
  let base ← base.asText .base
  match SearchScope.ofNumber? number.toInt with
  | none => .error (.invalidScope number)
  | some scope =>
      match Filter.parse (← filter.asText .filter) with
      | .error cause => .error (.invalidFilter cause)
      | .ok filter =>
          let elements ← attributes.asElements .attributes
          return ⟨base, scope, filter, ← elements.mapM (Frame.asText .attr)⟩

def decodeExtendedValue : Frame → Decoded (Option Bytes)
  | .null => .ok none
  | frame => (frame.asOctets .value).map some

def decodeOperands (kind : OperationKind) (operands : List Frame) : Decoded Request :=
  match kind, operands with
  | .bind, [name, mechanism, credentials] => do
      return .bind (← name.asText .name) (← mechanism.asText .mechanism)
        (← credentials.asOctets .credentials)
  | .search, [base, scope, filter, attributes] =>
      (decodeQuery base scope filter attributes).map .search
  | .add, [name, attributes] => do
      let elements ← attributes.asElements .attributes
      let values ← elements.mapM decodeValues
      return .add (.ofValues (← name.asText .name) values)
  | .modify, [name, changes] => do
      let elements ← changes.asElements .changes
      let changes ← elements.mapM decodeChange
      return .modify (← name.asText .name) changes
  | .delete, [name] => (name.asText .name).map .delete
  | .compare, [name, attr, value] => do
      return .compare (← name.asText .name) (← attr.asText .attr) (← value.asText .value)
  | .extended, [name] => do
      return .extended (← name.asText .name) none
  | .extended, [name, value] => do
      let value ← decodeExtendedValue value
      return .extended (← name.asText .name) value
  | .abandon, [target] =>
      match target.messageId? with
      | some id => .ok (.abandon id)
      | none => .error (.invalidField .targetId)
  | .bind, _ => .error (.wrongArity .bind 3 operands.length)
  | .search, _ => .error (.wrongArity .search 4 operands.length)
  | .add, _ => .error (.wrongArity .add 2 operands.length)
  | .modify, _ => .error (.wrongArity .modify 2 operands.length)
  | .delete, _ => .error (.wrongArity .delete 1 operands.length)
  | .compare, _ => .error (.wrongArity .compare 3 operands.length)
  | .extended, _ => .error (.wrongArity .extended 2 operands.length)
  | .abandon, _ => .error (.wrongArity .abandon 1 operands.length)

def encodeAttribute (attr : Attribute) : Frame :=
  .array [.text attr.name, .bulk attr.value]

def encodeChange (change : Change) : Frame :=
  .array [.text change.operation.name, .text change.attr, .array (change.values.map .bulk)]

def encodeOperands : Request → List Frame
  | .bind name mechanism credentials => [.text name, .text mechanism, .bulk credentials]
  | .search query =>
      [.text query.base, .ofNat query.scope.number, .text query.filter.print,
        .array (query.attributes.map .text)]
  | .add entry => [.text entry.name, .array (entry.attributes.map encodeAttribute)]
  | .modify name changes => [.text name, .array (changes.map encodeChange)]
  | .delete name => [.text name]
  | .compare name attr value => [.text name, .text attr, .text value]
  | .extended name value => [.text name, .optional value]
  | .abandon target => [.ofMessageId target]

end Request

structure DecodeFailure where
  id : Option MessageId
  kind : Option OperationKind
  error : CodecError
deriving DecidableEq, Repr

namespace Message

def operationWord? (parts : List Frame) : Option String :=
  parts[1]?.bind Frame.text?

def decode (frame : Frame) : Except DecodeFailure Message :=
  match frame.elements? with
  | none => .error ⟨none, none, .notAnArray⟩
  | some parts =>
      let id := parts[0]?.bind Frame.messageId?
      let kind := (operationWord? parts).bind OperationKind.ofName?
      match id, operationWord? parts, kind with
      | none, _, _ => .error ⟨id, kind, .invalidMessageId⟩
      | some _, none, _ => .error ⟨id, kind, .invalidField .operation⟩
      | some _, some word, none => .error ⟨id, kind, .unknownOperation word⟩
      | some number, some _, some operation =>
          match Request.decodeOperands operation (parts.drop 2) with
          | .error error => .error ⟨id, kind, error⟩
          | .ok request => .ok ⟨number, request⟩

def encode (message : Message) : Frame :=
  .array (.ofMessageId message.id :: .text message.request.kind.name ::
    message.request.encodeOperands)

end Message

namespace Response

def encodeOutcome (outcome : Outcome) : List Frame :=
  [.ofNat outcome.code.number, .text outcome.diagnostic]

def encodeOperands : Response → List Frame
  | .bind outcome => encodeOutcome outcome
  | .entry found => [.text found.name, .array (found.attributes.map Request.encodeAttribute)]
  | .searchDone outcome => encodeOutcome outcome
  | .add outcome => encodeOutcome outcome
  | .modify outcome => encodeOutcome outcome
  | .delete outcome => encodeOutcome outcome
  | .compare outcome => encodeOutcome outcome
  | .extended outcome name value =>
      encodeOutcome outcome ++ [.optional (name.map Text.encode), .optional value]

def encode (id : MessageId) (response : Response) : Frame :=
  .array (.ofMessageId id :: .simple response.kindName :: response.encodeOperands)

def decodeAttribute (frame : Frame) : Decoded Attribute := do
  match ← frame.asElements .attr with
  | [name, value] =>
      let name ← name.asText .attr
      return .ofValue name (← value.asOctets .value)
  | _ => .error (.invalidField .attr)

def required (field : Field) : Option Frame → Decoded Frame
  | some frame => .ok frame
  | none => .error (.invalidField field)

def decodeEntry (parts : List Frame) : Decoded Entry := do
  let name ← (← required .name parts[2]?).asText .name
  let elements ← (← required .attributes parts[3]?).asElements .attributes
  return ⟨name, ← elements.mapM decodeAttribute⟩

def decodeOutcome (parts : List Frame) : Decoded Outcome :=
  match parts[2]?.bind Frame.integer? with
  | none => .error (.invalidField .resultCode)
  | some number =>
      match ResultCode.ofNumber? number.toInt with
      | none => .error (.unknownResultCode number)
      | some code => .ok ⟨code, (parts[3]?.bind Frame.text?).getD ""⟩

def ofWord (word : String) (outcome : Outcome) (parts : List Frame) : Decoded Response :=
  match word with
  | "bind" => .ok (.bind outcome)
  | "search" => .ok (.searchDone outcome)
  | "add" => .ok (.add outcome)
  | "modify" => .ok (.modify outcome)
  | "delete" => .ok (.delete outcome)
  | "compare" => .ok (.compare outcome)
  | "extended" =>
      .ok (.extended outcome (parts[4]?.bind Frame.text?) (parts[5]?.bind Frame.data?))
  | _ => .error (.unknownResponse word)

def decode (frame : Frame) : Decoded (MessageId × Response) :=
  match frame.elements? with
  | none => .error .notAnArray
  | some parts =>
      match parts[0]?.bind Frame.messageId? with
      | none => .error .invalidMessageId
      | some id =>
          match parts[1]?.bind Frame.text? with
          | none => .error (.invalidField .responseKind)
          | some "entry" => (decodeEntry parts).map fun found => (id, .entry found)
          | some word => do
              let outcome ← decodeOutcome parts
              return (id, ← ofWord word outcome parts)

end Response

end DirectoryServer
