import DirectoryServer.Frame.Stream

set_option autoImplicit false

/-!
The scanner that a connection keeps. It counts how deep it is in arrays and cuts what it reads out of the
buffer by position. A buffer that ends inside of arrays leaves the count raised, and the next one starts
it over. `none` is what must not happen: a cut outside the buffer, calls that nest too deep, a frame that
leaves the buffer as long as it was.
-/
namespace DirectoryServer.Frame

structure Scanner where
  depth : Nat := 0
deriving DecidableEq, Repr

def cut (buffer : Bytes) (start stop : Nat) : Option Bytes :=
  if start ≤ stop ∧ stop ≤ buffer.length then some ((buffer.drop start).take (stop - start)) else none

def lineEndAt? : Bytes → Option Nat
  | [] | [_] => none
  | a :: b :: rest =>
      if [a, b] = lineEnd then some 0 else (lineEndAt? (b :: rest)).map (· + 1)

def cutLine (buffer : Bytes) : Option (Reading (List Char)) := do
  let body ← cut buffer 1 buffer.length
  match lineEndAt? body with
  | none => some (.ok none)
  | some place =>
      let bytes ← cut buffer 1 (1 + place)
      match Text.decodeChars bytes with
      | .error cause => some (.error (.invalidUtf8 cause))
      | .ok text => some (.ok (some (text, 1 + place + 2)))

def cutInteger (buffer : Bytes) : Option (Reading Int64) := do
  match ← cutLine buffer with
  | .error fault => some (.error fault)
  | .ok none => some (.ok none)
  | .ok (some (text, consumed)) =>
      match Text.readInt64Chars text with
      | .error cause => some (.error (.invalidInteger cause))
      | .ok value => some (.ok (some (value, consumed)))

def cutBulk (buffer : Bytes) (length : Int64) (header : Nat) : Option (Reading Frame) :=
  if length = -1 then some (.ok (some (.null, header)))
  else if length < 0 then some (.error (.invalidBulkLength length))
  else
    let size := length.toInt.toNat
    if maxBulk < size then some (.error (.tooLarge size))
    else
      let total := header + size + 2
      if buffer.length < total then some (.ok none)
      else do
        let ending ← cut buffer (header + size) total
        if ending = lineEnd then
          let data ← cut buffer header (header + size)
          some (.ok (some (.bulk data, total)))
        else some (.error .missingLineEnd)

namespace Scanner

def headed (scanner : Scanner) (buffer : Bytes) (behind : Int64 → Nat → Option (Reading Frame × Scanner)) :
    Option (Reading Frame × Scanner) := do
  match ← cutInteger buffer with
  | .error fault => some (.error fault, scanner)
  | .ok none => some (.ok none, scanner)
  | .ok (some (number, header)) => behind number header

def elements (value : Scanner → Bytes → Option (Reading Frame × Scanner)) (buffer : Bytes) :
    (count consumed : Nat) → Scanner → Option (Reading (List Frame) × Scanner)
  | 0, consumed, scanner => some (.ok (some ([], consumed)), scanner)
  | count + 1, consumed, scanner =>
      if buffer.length ≤ consumed then some (.ok none, scanner)
      else do
        let rest ← cut buffer consumed buffer.length
        match ← value scanner rest with
        | (.error fault, scanner) => some (.error fault, scanner)
        | (.ok none, scanner) => some (.ok none, scanner)
        | (.ok (some (element, size)), scanner) =>
            (elements value buffer count (consumed + size) scanner).map fun (reading, scanner) =>
              (reading.map (Option.map fun (later, consumed) => (element :: later, consumed)), scanner)

-- An element that goes on past the buffer, or is wrong, leaves the count of arrays raised.
def array (value : Scanner → Bytes → Option (Reading Frame × Scanner)) (scanner : Scanner)
    (buffer : Bytes) (count : Int64) (header : Nat) : Option (Reading Frame × Scanner) :=
  if count = -1 then some (.ok (some (.null, header)), scanner)
  else if count < 0 then some (.error (.invalidArrayLength count), scanner)
  else do
    let deeper : Scanner := { scanner with depth := scanner.depth + 1 }
    match ← elements value buffer count.toInt.toNat header deeper with
    | (.error fault, scanner) => some (.error fault, scanner)
    | (.ok none, scanner) => some (.ok none, scanner)
    | (.ok (some (elements, consumed)), scanner) =>
        some (.ok (some (.array elements, consumed)), { scanner with depth := scanner.depth - 1 })

def value : (levels : Nat) → Scanner → Bytes → Option (Reading Frame × Scanner)
  | 0, _, _ => none
  | _ + 1, scanner, [] => some (.ok none, scanner)
  | levels + 1, scanner, octet :: body =>
      if maxDepth < scanner.depth then some (.error .tooDeep, scanner)
      else
        let buffer := octet :: body
        match Marker.ofOctet? octet with
        | none => some (.error (.unknownMarker octet), scanner)
        | some .simple =>
            (cutLine buffer).map fun reading => (reading.map (Option.map fun (text, consumed) =>
              (.simple (String.ofList text), consumed)), scanner)
        | some .error =>
            (cutLine buffer).map fun reading => (reading.map (Option.map fun (text, consumed) =>
              (.error (String.ofList text), consumed)), scanner)
        | some .integer =>
            (cutInteger buffer).map fun reading =>
              (reading.map (Option.map fun (value, consumed) => (.integer value, consumed)), scanner)
        | some .bulk =>
            headed scanner buffer fun length header =>
              (cutBulk buffer length header).map fun reading => (reading, scanner)
        | some .array => headed scanner buffer (array (value levels) scanner buffer)

-- A call for the frame, one inside of each array that may enclose another, and one to refuse more.
def parse (scanner : Scanner) (buffer : Bytes) : Option (Reading Frame × Scanner) :=
  value (maxDepth + 2) { scanner with depth := 0 } buffer

def takeFrames (scanner : Scanner) (buffer : Bytes) : Option (Batch × Scanner) :=
  if buffer = [] then some (⟨[], none, []⟩, scanner)
  else
    match scanner.parse buffer with
    | none => none
    | some (.error fault, scanner) => some (⟨[], some fault, []⟩, scanner)
    | some (.ok none, scanner) => some (⟨[], none, buffer⟩, scanner)
    | some (.ok (some (frame, size)), scanner) =>
        match cut buffer size buffer.length with
        | none => none
        | some rest =>
            if _shorter : rest.length < buffer.length then
              (scanner.takeFrames rest).map fun (batch, scanner) =>
                ({ batch with frames := frame :: batch.frames }, scanner)
            else none
termination_by buffer.length

def feedAll (scanner : Scanner) (buffer : Bytes) : List Bytes → Option (List Batch)
  | [] => some []
  | chunk :: chunks => do
      let (batch, scanner) ← scanner.takeFrames (buffer ++ chunk)
      let batches ← scanner.feedAll batch.rest chunks
      some (batch :: batches)

end Scanner

end DirectoryServer.Frame
