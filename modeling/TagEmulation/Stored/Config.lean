import TagEmulation.Config
import TagEmulation.Stored.Value

/-!
# Stored/Config — session options in a settings file

Options are stored as a record with a field for each.  They are read from such a record, or from a
list with the same values in the same order.  An option that is not there has its usual value, and
fields with other names are passed over; a list must not be longer than the options.
-/

namespace TagEmulation.Config

/-- The names of the stored options, in order. -/
def fieldNames : List String :=
  ["hardware_parity", "quiet", "poll_timeout_ms", "init_timeout_ms", "strict_select"]

/-- A field read by `read?`, or its usual value if it is not there. -/
def fieldOr {α : Type} (usual : α) (read? : Stored → Option α) (name : String)
    (fields : List (String × Stored)) : Option α :=
  match Stored.field? name fields with
  | some v => read? v
  | none => some usual

/-- The options in the fields of a record. -/
def ofFields? (fields : List (String × Stored)) : Option Config :=
  let usual : Config := default
  (fieldOr usual.hardwareParity Stored.toBool? "hardware_parity" fields).bind fun hardwareParity =>
    (fieldOr usual.quiet Stored.toBool? "quiet" fields).bind fun quiet =>
      (fieldOr usual.pollMillis Stored.toWord? "poll_timeout_ms" fields).bind fun pollMillis =>
        (fieldOr usual.firstMillis Stored.toWordOrNull? "init_timeout_ms" fields).bind
          fun firstMillis =>
            (fieldOr usual.strictSelect Stored.toBool? "strict_select" fields).map
              fun strictSelect => { hardwareParity, quiet, pollMillis, firstMillis, strictSelect }

/-- Stored options. -/
def ofStored? : Stored → Option Config
  | .list items =>
    if items.length ≤ fieldNames.length then ofFields? (fieldNames.zip items) else none
  | .record fields => ofFields? fields
  | _ => none

/-- The stored form of options. -/
def toStored (c : Config) : Stored :=
  .record [("hardware_parity", .bool c.hardwareParity), ("quiet", .bool c.quiet),
    ("poll_timeout_ms", .ofWord c.pollMillis),
    ("init_timeout_ms", c.firstMillis.elim .null Stored.ofWord),
    ("strict_select", .bool c.strictSelect)]

end TagEmulation.Config
