import DirectoryServer.Bytes

set_option autoImplicit false

namespace DirectoryServer.Base64

def pad : UInt8 := 61

def symbol (value : Nat) : UInt8 :=
  if value < 26 then UInt8.ofNat (65 + value)
  else if value < 52 then UInt8.ofNat (97 + (value - 26))
  else if value < 62 then UInt8.ofNat (48 + (value - 52))
  else if value = 62 then 43
  else 47

def value? (octet : UInt8) : Option Nat :=
  let n := octet.toNat
  if 65 ≤ n ∧ n ≤ 90 then some (n - 65)
  else if 97 ≤ n ∧ n ≤ 122 then some (n - 97 + 26)
  else if 48 ≤ n ∧ n ≤ 57 then some (n - 48 + 52)
  else if n = 43 then some 62
  else if n = 47 then some 63
  else none

def encode : Bytes → Bytes
  | [] => []
  | [a] =>
      let n := a.toNat * 16
      [symbol (n / 64), symbol (n % 64), pad, pad]
  | [a, b] =>
      let n := (a.toNat * 256 + b.toNat) * 4
      [symbol (n / 4096), symbol (n / 64 % 64), symbol (n % 64), pad]
  | a :: b :: c :: rest =>
      let n := (a.toNat * 256 + b.toNat) * 256 + c.toNat
      symbol (n / 262144) :: symbol (n / 4096 % 64) :: symbol (n / 64 % 64) :: symbol (n % 64) ::
        encode rest

inductive DecodeError where
  | invalidByte (offset : Nat) (octet : UInt8)
  | invalidLength (length : Nat)
  | invalidLastSymbol (offset : Nat) (octet : UInt8)
  | invalidPadding
deriving DecidableEq, Repr

def DecodeError.message : DecodeError → String
  | .invalidByte offset octet => s!"Invalid symbol {octet.toNat}, offset {offset}."
  | .invalidLength length => s!"Invalid input length: {length}"
  | .invalidLastSymbol offset octet => s!"Invalid last symbol {octet.toNat}, offset {offset}."
  | .invalidPadding => "Invalid padding"

def readSymbol (offset : Nat) (octet : UInt8) : Except DecodeError Nat :=
  match value? octet with
  | some n => .ok n
  | none => .error (.invalidByte offset octet)

structure Tail where
  values : List Nat
  last : UInt8
  -- Place in the quad of the first padding octet.
  padded : Option Nat
  pads : Nat
deriving DecidableEq, Repr

def readTail (offset index : Nat) (tail : Tail) : Bytes → Except DecodeError Tail
  | [] => .ok tail
  | octet :: rest =>
      if octet = pad then
        if index < 2 then .error (.invalidByte (offset + index) octet)
        else readTail offset (index + 1)
          { tail with padded := tail.padded.or (some index), pads := tail.pads + 1 } rest
      else
        match tail.padded with
        | some place => .error (.invalidByte (offset + place) pad)
        | none =>
            match value? octet with
            | none => .error (.invalidByte (offset + index) octet)
            | some n => readTail offset (index + 1)
                { tail with values := tail.values ++ [n], last := octet } rest

def tailBytes (offset : Nat) (tail : Tail) : Except DecodeError Bytes :=
  if tail.values.length < 2 then .error (.invalidLength (offset + tail.values.length))
  else if (tail.values.length + tail.pads) % 4 ≠ 0 then .error .invalidPadding
  else
    match tail.values with
    | [a, b] =>
        let n := a * 64 + b
        if n % 16 ≠ 0 then .error (.invalidLastSymbol (offset + 1) tail.last)
        else .ok [UInt8.ofNat (n / 16)]
    | [a, b, c] =>
        let n := (a * 64 + b) * 64 + c
        if n % 4 ≠ 0 then .error (.invalidLastSymbol (offset + 2) tail.last)
        else .ok [UInt8.ofNat (n / 1024), UInt8.ofNat (n / 4)]
    | a :: b :: c :: d :: _ =>
        let n := ((a * 64 + b) * 64 + c) * 64 + d
        .ok [UInt8.ofNat (n / 65536), UInt8.ofNat (n / 256), UInt8.ofNat n]
    | _ => .ok []

def decodeFrom (offset : Nat) : Bytes → Except DecodeError Bytes
  | [] => .ok []
  | a :: b :: c :: d :: more@(_ :: _) => do
      let p ← readSymbol offset a
      let q ← readSymbol (offset + 1) b
      let r ← readSymbol (offset + 2) c
      let s ← readSymbol (offset + 3) d
      let n := ((p * 64 + q) * 64 + r) * 64 + s
      let rest ← decodeFrom (offset + 4) more
      return UInt8.ofNat (n / 65536) :: UInt8.ofNat (n / 256) :: UInt8.ofNat n :: rest
  | quad => do
      let tail ← readTail offset 0 ⟨[], 0, none, 0⟩ quad
      tailBytes offset tail

-- A stray last octet, one past a whole number of quads, is reported before all else.
def decode (text : Bytes) : Except DecodeError Bytes :=
  match text.getLast? with
  | some octet =>
      if text.length % 4 = 1 ∧ octet ≠ pad ∧ value? octet = none then
        .error (.invalidByte (text.length - 1) octet)
      else decodeFrom 0 text
  | none => .ok []

end DirectoryServer.Base64
