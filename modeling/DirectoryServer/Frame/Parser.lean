import DirectoryServer.Frame.Basic

set_option autoImplicit false

namespace DirectoryServer.Frame

inductive ParseError where
  | unknownMarker (octet : UInt8)
  | invalidInteger (cause : Text.DecimalError)
  | invalidUtf8 (cause : Text.Utf8Error)
  | invalidBulkLength (length : Int64)
  | invalidArrayLength (length : Int64)
  | missingLineEnd
  | tooDeep
  | tooLarge (length : Nat)
deriving DecidableEq, Repr

def maxBulk : Nat := 16 * 1024 * 1024

def maxDepth : Nat := 32

def hexOctet (octet : UInt8) : String :=
  String.ofList (Nat.digitChar (octet.toNat / 16) :: [Nat.digitChar (octet.toNat % 16)])

def ParseError.message : ParseError → String
  | .unknownMarker octet => "unknown type prefix: 0x" ++ hexOctet octet
  | .invalidInteger cause => "invalid integer: " ++ cause.message
  | .invalidUtf8 cause => "invalid UTF-8: " ++ cause.message
  | .invalidBulkLength length => s!"invalid bulk length: {length.toInt}"
  | .invalidArrayLength length => s!"invalid array length: {length.toInt}"
  | .missingLineEnd => "protocol error: bulk value missing trailing CRLF"
  | .tooDeep => s!"protocol error: maximum nesting depth exceeded: {maxDepth}"
  | .tooLarge length => s!"message too large: {length} bytes (max: {maxBulk})"

-- `none` asks for more octets.
abbrev Reading (α : Type) := Except ParseError (Option (α × Nat))

def beforeLineEnd : Bytes → Option Bytes
  | [] | [_] => none
  | a :: b :: rest =>
      if a = cr ∧ b = lf then some []
      else (beforeLineEnd (b :: rest)).map (a :: ·)

-- The octets taken include the marker and the line end.
def readLine (body : Bytes) : Reading (List Char) :=
  match beforeLineEnd body with
  | none => .ok none
  | some bytes =>
      match Text.decodeChars bytes with
      | .error cause => .error (.invalidUtf8 cause)
      | .ok text => .ok (some (text, bytes.length + 3))

def readInteger (body : Bytes) : Reading Int64 :=
  match readLine body with
  | .error fault => .error fault
  | .ok none => .ok none
  | .ok (some (text, consumed)) =>
      match Text.readInt64Chars text with
      | .error cause => .error (.invalidInteger cause)
      | .ok value => .ok (some (value, consumed))

def readBulk (buffer : Bytes) (length : Int64) (header : Nat) : Reading Frame :=
  if length = -1 then .ok (some (.null, header))
  else if length < 0 then .error (.invalidBulkLength length)
  else
    let size := length.toInt.toNat
    if maxBulk < size then .error (.tooLarge size)
    else
      let body := buffer.drop header
      match body.drop size with
      | [] | [_] => .ok none
      | a :: b :: _ =>
          if a = cr ∧ b = lf then .ok (some (.bulk (body.take size), header + size + 2))
          else .error .missingLineEnd

def readElements (read : Bytes → Reading Frame) : Nat → Bytes → Reading (List Frame)
  | 0, _ => .ok (some ([], 0))
  | _ + 1, [] => .ok none
  | count + 1, buffer =>
      match read buffer with
      | .error fault => .error fault
      | .ok none => .ok none
      | .ok (some (element, consumed)) =>
          match readElements read count (buffer.drop consumed) with
          | .error fault => .error fault
          | .ok none => .ok none
          | .ok (some (rest, more)) => .ok (some (element :: rest, consumed + more))

-- `room` is one more than the number of arrays that may still open around the frame.
def read : (room : Nat) → Bytes → Reading Frame
  | _, [] => .ok none
  | 0, _ :: _ => .error .tooDeep
  | room + 1, octet :: body =>
      match Marker.ofOctet? octet with
      | none => .error (.unknownMarker octet)
      | some .simple =>
          (readLine body).map (Option.map fun (text, consumed) =>
            (.simple (String.ofList text), consumed))
      | some .error =>
          (readLine body).map (Option.map fun (text, consumed) =>
            (.error (String.ofList text), consumed))
      | some .integer =>
          (readInteger body).map (Option.map fun (value, consumed) => (.integer value, consumed))
      | some .bulk =>
          match readInteger body with
          | .error fault => .error fault
          | .ok none => .ok none
          | .ok (some (length, header)) => readBulk (octet :: body) length header
      | some .array =>
          match readInteger body with
          | .error fault => .error fault
          | .ok none => .ok none
          | .ok (some (count, header)) =>
              if count = -1 then .ok (some (.null, header))
              else if count < 0 then .error (.invalidArrayLength count)
              else
                (readElements (read room) count.toInt.toNat ((octet :: body).drop header)).map
                  (Option.map fun (elements, consumed) => (.array elements, header + consumed))

def parse (buffer : Bytes) : Reading Frame :=
  read (maxDepth + 1) buffer

end DirectoryServer.Frame
