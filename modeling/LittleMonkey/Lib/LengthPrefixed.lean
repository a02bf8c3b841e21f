import LittleMonkey.Lib.Primitives

/-! # Length-prefixed fields

A field is its length as eight big-endian bytes followed by its bytes.  A list
of such fields is uniquely decodable, so a record written field by field can be
read back, whatever the bytes of each field are.
-/

namespace LengthPrefixed

open Primitives List

def beBytes64 (n : Nat) : Bytes :=
  [56, 48, 40, 32, 24, 16, 8, 0].map fun shift => UInt8.ofNat (n / 2 ^ shift)

def beBytesI64 (a : Int) : Bytes := beBytes64 (a % 2 ^ 64).toNat

def field (bytes : Bytes) : Bytes := beBytes64 bytes.length ++ bytes

def encode (fields : List Bytes) : Bytes := fields.flatMap field

def Sized (fields : List Bytes) : Prop := ∀ f ∈ fields, f.length < 2 ^ 64

instance (fields : List Bytes) : Decidable (Sized fields) :=
  inferInstanceAs (Decidable (∀ f ∈ fields, f.length < 2 ^ 64))

def tag (present : Bool) : Bytes := [if present then 1 else 0]

def optionFields (value : Option Bytes) : List Bytes := [value.getD [], tag value.isSome]

theorem toList_injective {a b : Option Bytes} (h : a.toList = b.toList) : a = b := by
  cases a <;> cases b <;> simp_all

end LengthPrefixed
