import DirectoryServer.Text.Utf8
import DirectoryServer.Text.Decimal

set_option autoImplicit false

namespace DirectoryServer

inductive Frame where
  | simple (text : String)
  | error (text : String)
  | integer (value : Int64)
  | bulk (data : Bytes)
  | null
  | array (elements : List Frame)
deriving Repr

instance : Inhabited Frame := ⟨.null⟩

namespace Frame

mutual
def decEq : (a b : Frame) → Decidable (a = b)
  | .simple a, .simple b => decidable_of_iff (a = b) (by simp)
  | .error a, .error b => decidable_of_iff (a = b) (by simp)
  | .integer a, .integer b => decidable_of_iff (a = b) (by simp)
  | .bulk a, .bulk b => decidable_of_iff (a = b) (by simp)
  | .null, .null => isTrue rfl
  | .array a, .array b =>
      match decEqList a b with
      | isTrue same => isTrue (congrArg Frame.array same)
      | isFalse different => isFalse (fun same => different (Frame.array.inj same))
  | .simple _, .error _ | .simple _, .integer _ | .simple _, .bulk _ | .simple _, .null
  | .simple _, .array _ | .error _, .simple _ | .error _, .integer _ | .error _, .bulk _
  | .error _, .null | .error _, .array _ | .integer _, .simple _ | .integer _, .error _
  | .integer _, .bulk _ | .integer _, .null | .integer _, .array _ | .bulk _, .simple _
  | .bulk _, .error _ | .bulk _, .integer _ | .bulk _, .null | .bulk _, .array _
  | .null, .simple _ | .null, .error _ | .null, .integer _ | .null, .bulk _ | .null, .array _
  | .array _, .simple _ | .array _, .error _ | .array _, .integer _ | .array _, .bulk _
  | .array _, .null => isFalse nofun

def decEqList : (a b : List Frame) → Decidable (a = b)
  | [], [] => isTrue rfl
  | [], _ :: _ | _ :: _, [] => isFalse nofun
  | a :: as, b :: bs =>
      match decEq a b, decEqList as bs with
      | isTrue head, isTrue tail => isTrue (head ▸ tail ▸ rfl)
      | isFalse different, _ => isFalse (fun same => different (List.cons.inj same).1)
      | _, isFalse different => isFalse (fun same => different (List.cons.inj same).2)
end

instance : DecidableEq Frame := decEq

inductive Marker where
  | simple
  | error
  | integer
  | bulk
  | array
deriving DecidableEq, Repr

namespace Marker

def octet : Marker → UInt8
  | .simple => 43
  | .error => 45
  | .integer => 58
  | .bulk => 36
  | .array => 42

def ofOctet? (octet : UInt8) : Option Marker :=
  if octet = 43 then some .simple
  else if octet = 45 then some .error
  else if octet = 58 then some .integer
  else if octet = 36 then some .bulk
  else if octet = 42 then some .array
  else none

theorem of_octet_octet (marker : Marker) : ofOctet? marker.octet = some marker := by
  cases marker <;> rfl

end Marker

def cr : UInt8 := 13

def lf : UInt8 := 10

def lineEnd : Bytes := [cr, lf]

def optional : Option Bytes → Frame
  | some data => .bulk data
  | none => .null

def text (text : String) : Frame :=
  .bulk (Text.encode text)

def isNull : Frame → Bool
  | .null => true
  | _ => false

def text? : Frame → Option String
  | .simple text => some text
  | .bulk data => Text.decode? data
  | _ => none

def data? : Frame → Option Bytes
  | .bulk data => some data
  | _ => none

def integer? : Frame → Option Int64
  | .integer value => some value
  | _ => none

def elements? : Frame → Option (List Frame)
  | .array elements => some elements
  | _ => none

end Frame

end DirectoryServer
