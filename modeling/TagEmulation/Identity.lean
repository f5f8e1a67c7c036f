import TagEmulation.Checksum
import TagEmulation.Fault

/-!
# Identity — who the emulated tag is

A tag is known by its UID, by the answer to a request (ATQA) and by the answer to a selection (SAK).
The UID is of single size, four bytes, so that cascade level 1 names it completely; whether ATQA and
SAK say the same is `Identity.fitsLevelOne`.
-/

namespace TagEmulation

/-! ## UID -/

/-- A UID of single size: four bytes in the order they are sent. -/
structure Uid where
  b0 : UInt8
  b1 : UInt8
  b2 : UInt8
  b3 : UInt8
  deriving DecidableEq, Repr

namespace Uid

/-- The UID a tag has when none is chosen. -/
instance : Inhabited Uid := ⟨⟨0xde, 0xad, 0xbe, 0xaf⟩⟩

/-- The four bytes in the order they are sent. -/
def bytes (u : Uid) : List UInt8 := [u.b0, u.b1, u.b2, u.b3]

/-- The UID of exactly four bytes. -/
def ofBytes : List UInt8 → Except Fault Uid
  | [a, b, c, d] => .ok ⟨a, b, c, d⟩
  | bs => .error (.wrongLength 4 bs.length)

/-- The UID written in a text: eight hexadecimal digits, blanks left out. -/
def parse (text : String) : Except Fault Uid :=
  match Hex.toBytes text with
  | .ok bs => ofBytes bs
  | .error flaw => .error (.badHex flaw)

/-- The block check of the UID. -/
def check (u : Uid) : UInt8 := blockCheck u.bytes

/-- The block check is the exclusive or of the four bytes. -/
theorem check_eq (u : Uid) : u.check = u.b0 ^^^ u.b1 ^^^ u.b2 ^^^ u.b3 := by
  simp only [check, bytes, blockCheck_cons, blockCheck_nil, UInt8.xor_zero, UInt8.xor_assoc]

/-- The UID followed by its block check, as a tag sends it. -/
def checked (u : Uid) : List UInt8 := u.bytes ++ [u.check]

/-- Eight lowercase digits. -/
def toHex (u : Uid) : String := Hex.ofBytes u.bytes

/-- Eight uppercase digits. -/
def toUpperHex (u : Uid) : String := Hex.upperOfBytes u.bytes

@[simp] theorem length_bytes (u : Uid) : u.bytes.length = 4 := rfl

@[simp] theorem length_checked (u : Uid) : u.checked.length = 5 := rfl

@[simp] theorem ofBytes_bytes (u : Uid) : ofBytes u.bytes = .ok u := rfl

end Uid

/-! ## ATQA and SAK -/

/-- The answer to a request: two bytes in the order they are sent. -/
structure Atqa where
  first : UInt8
  second : UInt8
  deriving DecidableEq, Repr

namespace Atqa

/-- Bit-frame selection and a UID of single size. -/
instance : Inhabited Atqa := ⟨⟨0x04, 0x00⟩⟩

/-- The two bytes in the order they are sent. -/
def bytes (a : Atqa) : List UInt8 := [a.first, a.second]

/-- The field for the size of the UID, the top two bits of the first byte; zero is single size. -/
def uidSize (a : Atqa) : UInt8 := (a.first >>> 6) &&& 0x03

/-- Whether one of the five bits for bit-frame selection is set. -/
def allowsBitFrames (a : Atqa) : Bool := a.first &&& 0x1f != 0

@[simp] theorem length_bytes (a : Atqa) : a.bytes.length = 2 := rfl

end Atqa

/-- The answer to a selection: one byte, sent with its CRC_A. -/
structure Sak where
  value : UInt8
  deriving DecidableEq, Repr

namespace Sak

/-- A tag with a complete UID and memory in blocks. -/
instance : Inhabited Sak := ⟨⟨0x08⟩⟩

/-- Whether the cascade bit is set: the UID is not complete, more levels follow. -/
def uidIncomplete (s : Sak) : Bool := s.value &&& 0x04 != 0

/-- The byte followed by its CRC_A, as a tag sends it. -/
def checked (s : Sak) : List UInt8 := withCrcA [s.value]

@[simp] theorem length_checked (s : Sak) : s.checked.length = 3 := rfl

end Sak

/-! ## Identity -/

/-- Who a tag is, and thereby all that it ever answers. -/
structure Identity where
  uid : Uid
  atqa : Atqa
  sak : Sak
  deriving DecidableEq, Repr, Inhabited

namespace Identity

/-- The identity with the UID written in a text and the usual ATQA and SAK. -/
def ofUidText (text : String) : Except Fault Identity :=
  (Uid.parse text).map fun uid => { (default : Identity) with uid }

/-- Whether ATQA and SAK describe a complete UID of single size that one bit-frame selection finds.
A tag that does not fit is emulated all the same, but a reader that trusts its answers goes on to
cascade levels where nobody answers. -/
def fitsLevelOne (i : Identity) : Bool :=
  i.atqa.uidSize == 0 && i.atqa.allowsBitFrames && !i.sak.uidIncomplete

end Identity

end TagEmulation
