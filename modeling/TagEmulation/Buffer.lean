/-!
# Buffer — a fixed number of bytes that operations write over

A buffer never grows or shrinks: its length is part of its type.  `Buffer.overwrite` lays bytes over
its front; bytes that would stick out at the end are lost, and the bytes behind stay as they were.
-/

namespace TagEmulation

/-- A buffer of `n` bytes. -/
structure Buffer (n : Nat) where
  bytes : List UInt8
  length_bytes : bytes.length = n
  deriving DecidableEq

namespace Buffer

variable {n : Nat}

/-- Buffers with the same bytes are the same. -/
theorem ext_bytes {b c : Buffer n} (h : b.bytes = c.bytes) : b = c := by
  cases b; cases c; cases h; rfl

/-- A buffer of zeros. -/
def zeroed (n : Nat) : Buffer n := ⟨List.replicate n 0, List.length_replicate⟩

/-- The buffer that holds the given bytes. -/
def ofList (bytes : List UInt8) : Buffer bytes.length := ⟨bytes, rfl⟩

/-- The buffer with `source` laid over its front. -/
def overwrite (b : Buffer n) (source : List UInt8) : Buffer n where
  bytes := source.take n ++ b.bytes.drop source.length
  length_bytes := by
    have := b.length_bytes
    simp only [List.length_append, List.length_take, List.length_drop]
    omega

@[simp] theorem overwrite_nil (b : Buffer n) : b.overwrite [] = b :=
  ext_bytes (by simp [overwrite])

/-- What fits is found at the front afterwards. -/
theorem take_overwrite (b : Buffer n) {source : List UInt8} (h : source.length ≤ n) :
    (b.overwrite source).bytes.take source.length = source := by
  simp [overwrite, List.take_of_length_le h]

end Buffer

end TagEmulation
