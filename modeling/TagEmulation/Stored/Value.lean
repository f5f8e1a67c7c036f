/-!
# Stored/Value — values as a settings file holds them

The values that a stored identity or configuration is made of, and how plain ones are read from
them.  Reading is strict: a number is never taken from a text, a truth value or a fraction.
-/

namespace TagEmulation

/-- A stored value. -/
inductive Stored where
  | null
  | bool (value : Bool)
  | int (value : Int)
  /-- A number that is written as a fraction, whatever its value: never a whole number. -/
  | fraction
  | text (value : String)
  | list (items : List Stored)
  | record (fields : List (String × Stored))

namespace Stored

instance : Inhabited Stored := ⟨null⟩

/-- The value of a field. -/
def field? (name : String) (fields : List (String × Stored)) : Option Stored := fields.lookup name

/-- A truth value. -/
def toBool? : Stored → Option Bool
  | .bool value => some value
  | _ => none

/-- A whole number from zero up to, but not including, a bound. -/
def below? (bound : Nat) : Stored → Option Nat
  | .int value => if 0 ≤ value ∧ value < bound then some value.toNat else none
  | _ => none

/-- A byte. -/
def toByte? (v : Stored) : Option UInt8 := (v.below? UInt8.size).map UInt8.ofNat

/-- A word of 64 bits. -/
def toWord? (v : Stored) : Option UInt64 := (v.below? UInt64.size).map UInt64.ofNat

/-- A word of 64 bits, or nothing. -/
def toWordOrNull? : Stored → Option (Option UInt64)
  | .null => some none
  | v => v.toWord?.map some

/-- A list of bytes. -/
def toBytes? : Stored → Option (List UInt8)
  | .list items => items.mapM toByte?
  | _ => none

/-- A byte, stored as a number. -/
def ofByte (b : UInt8) : Stored := .int b.toNat

/-- A word of 64 bits, stored as a number. -/
def ofWord (w : UInt64) : Stored := .int w.toNat

/-- A list of bytes, stored as a list of numbers. -/
def ofBytes (bs : List UInt8) : Stored := .list (bs.map ofByte)

end Stored

end TagEmulation
