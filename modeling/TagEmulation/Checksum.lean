/-!
# Checksum — CRC_A and the block check character

Two checks guard the bytes of a frame.  **CRC_A** is the reflected 16-bit cyclic redundancy check
with the polynomial `x¹⁶ + x¹² + x⁵ + 1`, started at `0x6363` and sent low byte first without a
final complement.  The **block check** of a UID is the exclusive or of its bytes.
-/

namespace TagEmulation

/-! ## CRC_A -/

/-- The register before the first byte. -/
def crcSeed : UInt16 := 0x6363

/-- The polynomial, its lowest power in the highest bit. -/
def crcPolynomial : UInt16 := 0x8408

/-- The register after one more byte: eight shifts at once, each bit that leaves the register
coming back at the three places of the polynomial. -/
def crcStep (register : UInt16) (byte : UInt8) : UInt16 :=
  let out := byte ^^^ register.toUInt8
  let feed := (out ^^^ (out <<< 4)).toUInt16
  (register >>> 8) ^^^ (feed <<< 8) ^^^ (feed <<< 3) ^^^ (feed >>> 4)

/-- CRC_A over a list of bytes; over no bytes at all it is the seed. -/
def crcA (data : List UInt8) : UInt16 := data.foldl crcStep crcSeed

/-- The two bytes of a register in the order they are sent, low byte first. -/
def crcBytes (register : UInt16) : List UInt8 := [register.toUInt8, (register >>> 8).toUInt8]

/-- The register whose bytes were sent as `low` and `high`. -/
def crcOfBytes (low high : UInt8) : UInt16 := low.toUInt16 ||| (high.toUInt16 <<< 8)

/-- The value of a register is that of its bytes, low byte first. -/
theorem toNat_crcOfBytes (low high : UInt8) :
    (crcOfBytes low high).toNat = low.toNat + 256 * high.toNat := by
  have hlow : low.toNat < 2 ^ 8 := low.toNat_lt
  have hhigh : high.toNat < 2 ^ 8 := high.toNat_lt
  have hfits : high.toNat <<< 8 < 2 ^ 16 := by rw [Nat.shiftLeft_eq]; omega
  have hshift : (high.toUInt16 <<< 8).toNat = high.toNat <<< 8 := by
    rw [UInt16.toNat_shiftLeft]
    exact Nat.mod_eq_of_lt hfits
  rw [crcOfBytes, UInt16.toNat_or, hshift, UInt8.toNat_toUInt16, Nat.or_comm,
    ← Nat.shiftLeft_add_eq_or_of_lt hlow, Nat.shiftLeft_eq]
  omega

/-- A register is read from the bytes it is sent as, and from no others. -/
theorem crcOfBytes_eq_iff {register : UInt16} {low high : UInt8} :
    crcOfBytes low high = register ↔ [low, high] = crcBytes register := by
  have hregister : register.toNat < 2 ^ 16 := register.toNat_lt
  have hlow : low.toNat < 2 ^ 8 := low.toNat_lt
  have hhigh : high.toNat < 2 ^ 8 := high.toNat_lt
  have hshift : (register >>> 8).toNat = register.toNat / 256 := by
    rw [UInt16.toNat_shiftRight]
    exact Nat.shiftRight_eq_div_pow ..
  simp only [crcBytes, List.cons.injEq, and_true, ← UInt8.toNat_inj, ← UInt16.toNat_inj,
    toNat_crcOfBytes, UInt16.toNat_toUInt8, hshift]
  omega

@[simp] theorem crcOfBytes_crcBytes (register : UInt16) :
    crcOfBytes register.toUInt8 (register >>> 8).toUInt8 = register :=
  crcOfBytes_eq_iff.mpr rfl

/-- A payload followed by its CRC_A. -/
def withCrcA (data : List UInt8) : List UInt8 := data ++ crcBytes (crcA data)

/-- Whether the last two bytes of a block are the CRC_A of the bytes before them.  A block of fewer
than two bytes carries no CRC_A. -/
def carriesCrcA (block : List UInt8) : Bool :=
  2 ≤ block.length &&
    crcBytes (crcA (block.take (block.length - 2))) == block.drop (block.length - 2)

/-! ## Block check -/

/-- The exclusive or of all bytes. -/
def blockCheck (data : List UInt8) : UInt8 := data.foldl (· ^^^ ·) 0

@[simp] theorem blockCheck_nil : blockCheck [] = 0 := rfl

@[simp] theorem blockCheck_cons (b : UInt8) (bs : List UInt8) :
    blockCheck (b :: bs) = b ^^^ blockCheck bs := by
  have hstart : (0 : UInt8) ^^^ b = b ^^^ 0 := UInt8.xor_comm ..
  rw [blockCheck, List.foldl_cons, hstart]
  exact List.foldl_assoc

/-- Whether the last byte of a block is the block check of the bytes before it.  The empty block has
no last byte. -/
def carriesBlockCheck (block : List UInt8) : Bool :=
  match block.getLast? with
  | some check => blockCheck block.dropLast == check
  | none => false

end TagEmulation
