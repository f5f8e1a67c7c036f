import TagEmulation.Identity
import TagEmulation.Stored.Value

/-!
# Stored/Identity — identities in a settings file

An identity is stored as a record of its three parts, UID and ATQA as lists of bytes and SAK as a
number.  It is read from such a record, in which all parts must be there and others are passed over,
or from a list of just the three parts in order.
-/

namespace TagEmulation

/-- A stored UID. -/
def Uid.ofStored? (v : Stored) : Option Uid :=
  v.toBytes?.bind fun bs => (Uid.ofBytes bs).toOption

/-- A stored ATQA: exactly two bytes. -/
def Atqa.ofStored? (v : Stored) : Option Atqa :=
  match v.toBytes? with
  | some [first, second] => some ⟨first, second⟩
  | _ => none

/-- A stored SAK. -/
def Sak.ofStored? (v : Stored) : Option Sak := v.toByte?.map Sak.mk

namespace Identity

/-- The identity of three stored parts. -/
def ofParts? (uid atqa sak : Stored) : Option Identity :=
  (Uid.ofStored? uid).bind fun uid =>
    (Atqa.ofStored? atqa).bind fun atqa =>
      (Sak.ofStored? sak).map fun sak => ⟨uid, atqa, sak⟩

/-- A stored identity. -/
def ofStored? : Stored → Option Identity
  | .list [uid, atqa, sak] => ofParts? uid atqa sak
  | .record fields =>
    (Stored.field? "uid" fields).bind fun uid =>
      (Stored.field? "atqa" fields).bind fun atqa =>
        (Stored.field? "sak" fields).bind fun sak => ofParts? uid atqa sak
  | _ => none

/-- The stored form of an identity. -/
def toStored (i : Identity) : Stored :=
  .record [("uid", .ofBytes i.uid.bytes), ("atqa", .ofBytes i.atqa.bytes),
    ("sak", .ofByte i.sak.value)]

end Identity

end TagEmulation
