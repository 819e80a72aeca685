import DirectoryServer.Bytes

set_option autoImplicit false

/-!
UTF-8 as an octet machine. Between two characters nothing is open; a lead octet opens a sequence,
which fixes how many octets follow and the range of the next one. Overlong forms, surrogates and
values above U+10FFFF are refused at the second octet, where the range is already narrowed.
-/
namespace DirectoryServer.Text

structure Sequence where
  -- Continuation octets still to come, at least one.
  needed : Nat
  value : Nat
  low : UInt8
  high : UInt8
  taken : Nat
deriving DecidableEq, Repr

inductive Lead where
  | single (c : Char)
  | opens (seq : Sequence)
  | stray
deriving DecidableEq, Repr

def lead (octet : UInt8) : Lead :=
  let n := octet.toNat
  if n < 0x80 then .single (Char.ofNat n)
  else if n < 0xC2 then .stray
  else if n < 0xE0 then .opens ⟨1, n - 0xC0, 0x80, 0xBF, 1⟩
  else if n = 0xE0 then .opens ⟨2, 0, 0xA0, 0xBF, 1⟩
  else if n = 0xED then .opens ⟨2, 0xD, 0x80, 0x9F, 1⟩
  else if n < 0xF0 then .opens ⟨2, n - 0xE0, 0x80, 0xBF, 1⟩
  else if n = 0xF0 then .opens ⟨3, 0, 0x90, 0xBF, 1⟩
  else if n < 0xF4 then .opens ⟨3, n - 0xF0, 0x80, 0xBF, 1⟩
  else if n = 0xF4 then .opens ⟨3, 4, 0x80, 0x8F, 1⟩
  else .stray

inductive Utf8Error where
  -- At `start` stands a sequence of which `length` octets were read before the fault.
  | invalid (start length : Nat)
  | incomplete (start : Nat)
deriving DecidableEq, Repr

def Utf8Error.message : Utf8Error → String
  | .invalid start length => s!"invalid utf-8 sequence of {length} bytes from index {start}"
  | .incomplete start => s!"incomplete utf-8 byte sequence from index {start}"

-- `start` is the offset of the open sequence, or of the next octet if there is none.
def decodeFrom (start : Nat) : Option Sequence → Bytes → Except Utf8Error (List Char)
  | none, [] => .ok []
  | some _, [] => .error (.incomplete start)
  | none, octet :: rest =>
      match lead octet with
      | .single c => (decodeFrom (start + 1) none rest).map (c :: ·)
      | .opens seq => decodeFrom start (some seq) rest
      | .stray => .error (.invalid start 1)
  | some seq, octet :: rest =>
      if seq.low ≤ octet ∧ octet ≤ seq.high then
        let value := seq.value * 64 + (octet.toNat - 0x80)
        if seq.needed ≤ 1 then
          (decodeFrom (start + seq.taken + 1) none rest).map (Char.ofNat value :: ·)
        else
          decodeFrom start (some ⟨seq.needed - 1, value, 0x80, 0xBF, seq.taken + 1⟩) rest
      else .error (.invalid start seq.taken)

def decodeChars (bytes : Bytes) : Except Utf8Error (List Char) :=
  decodeFrom 0 none bytes

def decode (bytes : Bytes) : Except Utf8Error String :=
  (decodeChars bytes).map String.ofList

def decode? (bytes : Bytes) : Option String :=
  (decode bytes).toOption

def encodeChars (text : List Char) : Bytes :=
  text.flatMap String.utf8EncodeChar

def encode (text : String) : Bytes :=
  encodeChars text.toList

end DirectoryServer.Text
