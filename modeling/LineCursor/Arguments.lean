import LineCursor.Fault

/-!
Arguments: named values for the fields of a record.

Fields are set in the order in which they are named, and the first name that cannot be set is
reported.  A record goes by the name `self` while it is built, so that name is given already.
-/

namespace LineCursor

/-- Why a record has no field of that name to set. -/
def Fault.misnamed (owner name : String) : Fault :=
  if name = "self" then .givenTwice (builder owner) name else .unknownField owner name

/-- A record with the fields that are named, by a function that sets one of them if there is such a
field. -/
def Entries.setFields {α : Type} (owner : String) (set? : α → String → Datum → Option α)
    (record : α) (arguments : Entries) : Except Fault α :=
  arguments.foldlM (fun record (name, value) =>
    match set? record name value with
    | some record => .ok record
    | none => .error (.misnamed owner name)) record

end LineCursor
