set_option autoImplicit false

namespace DirectoryServer.Text

inductive DecimalError where
  | empty
  | badDigit
  | tooLarge
  | tooSmall
deriving DecidableEq, Repr

def DecimalError.message : DecimalError → String
  | .empty => "cannot parse integer from empty string"
  | .badDigit => "invalid digit found in string"
  | .tooLarge => "number too large to fit in target type"
  | .tooSmall => "number too small to fit in target type"

def digit? (c : Char) : Option Nat :=
  if '0' ≤ c ∧ c ≤ '9' then some (c.toNat - 48) else none

-- `acc` is the value of the digits before; past `limit` the number does not fit.
def readDigits (limit : Nat) (overflow : DecimalError) : Nat → List Char → Except DecimalError Nat
  | acc, [] => .ok acc
  | acc, c :: rest =>
      match digit? c with
      | none => .error .badDigit
      | some d =>
          if limit < acc * 10 + d then .error overflow
          else readDigits limit overflow (acc * 10 + d) rest

def readMagnitude (limit : Nat) (overflow : DecimalError) : List Char → Except DecimalError Nat
  | [] => .error .badDigit
  | digits => readDigits limit overflow 0 digits

def maxInt64 : Nat := 9223372036854775807

def positive (magnitude : Nat) : Int64 :=
  Int64.ofInt (Int.ofNat magnitude)

def negative (magnitude : Nat) : Int64 :=
  Int64.ofInt (-Int.ofNat magnitude)

def readInt64Chars : List Char → Except DecimalError Int64
  | [] => .error .empty
  | '-' :: digits => (readMagnitude (maxInt64 + 1) .tooSmall digits).map negative
  | '+' :: digits => (readMagnitude maxInt64 .tooLarge digits).map positive
  | digits => (readMagnitude maxInt64 .tooLarge digits).map positive

def natDigits (n : Nat) : List Char :=
  Nat.toDigits 10 n

def int64Digits (n : Int64) : List Char :=
  if n.toInt < 0 then '-' :: natDigits n.toInt.natAbs else natDigits n.toInt.natAbs

end DirectoryServer.Text
