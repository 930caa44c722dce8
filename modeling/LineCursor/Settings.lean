import LineCursor.Datum.Equality
import LineCursor.Datum.Written
import LineCursor.Json.Reader
import LineCursor.Log.Severity

/-!
Settings of a cursor.

Settings are built from named values of any type (a `Draft`), which are then checked
(`Draft.check`).  Here they are named as changes to existing settings (`Settings.override`) or by a
table (`Settings.ofEntries`).  The four fields by name (`Settings.toEntries`) stand in one fixed
order; the values among them are those of the settings, not copies.
-/

namespace LineCursor

/-- The function that builds a record from its fields. -/
def builder (owner : String) : String :=
  s!"{owner}.__init__"

/-- The text for a name that is no field of its owner. -/
def unknownFieldText (owner name : String) : String :=
  s!"{builder owner}() got an unexpected keyword argument '{name}'"

/-- What a cursor records while it reads. -/
structure Settings where
  /-- Whether a cursor counts what it reads; any value, taken for its truth. -/
  tallying : Datum := .bool true
  /-- Whether each refill leaves a record; any value, taken for its truth. -/
  refillRecords : Datum := .bool false
  /-- The spelling of the least severity that is recorded. -/
  threshold : String := "INFO"
  /-- What the records of the cursor have in common, if anything. -/
  correlation : Option String := none

/-- Values for the fields of settings, not checked yet. -/
structure Draft where
  tallying : Datum := .bool true
  refillRecords : Datum := .bool false
  threshold : Datum := .str "INFO"
  correlation : Datum := .null

namespace Settings

/-- Why values are no settings. -/
inductive Issue where
  | threshold (got : Datum)
  | correlation
  /-- A change to a field that does not exist. -/
  | unknownField (name : String)
  /-- A table with entries that are no fields, in ascending order. -/
  | unknownKeys (first : String) (others : List String)
  | notJson (error : Json.Error)
  | notTable

/-- The names of the four fields, in the order in which they are written. -/
def fieldNames : List String :=
  ["enable_metrics", "log_refills", "diagnostic_level", "correlation_id"]

namespace Issue

def message : Issue → String
  | .threshold got =>
    let names := ", ".intercalate (Log.Severity.all.map Log.Severity.name)
    s!"diagnostic_level must be one of {names}, got {got.repr}"
  | .correlation => "correlation_id must be a non-empty string or None"
  | .unknownField name => unknownFieldText "StreamConfig" name
  | .unknownKeys first others =>
    let keys := ", ".intercalate (first :: others)
    s!"Unknown configuration keys: {keys}"
  | .notJson error => s!"Invalid configuration JSON: {error.message}"
  | .notTable => "Configuration JSON must be an object"

/-- The field at fault, where there is one. -/
def field? : Issue → Option String
  | .threshold _ => some "diagnostic_level"
  | .correlation => some "correlation_id"
  | .unknownKeys first _ => some first
  | _ => none

/-- What could be written instead. -/
def suggestions : Issue → List String
  | .threshold _ => Log.Severity.all.map fun v => s!"Use {Text.quote v.name}"
  | .unknownKeys _ _ =>
    let keys := ", ".intercalate (fieldNames.mergeSort (· ≤ ·))
    [s!"Valid keys: {keys}"]
  | _ => []

end Issue

end Settings

namespace Draft

/-- Sets the named field, if there is one of that name. -/
def set? (d : Draft) (name : String) (value : Datum) : Option Draft :=
  match name with
  | "enable_metrics" => some { d with tallying := value }
  | "log_refills" => some { d with refillRecords := value }
  | "diagnostic_level" => some { d with threshold := value }
  | "correlation_id" => some { d with correlation := value }
  | _ => none

/-- Sets fields in order; fails with the first name that is no field. -/
def setAll (d : Draft) : Entries → Except String Draft
  | [] => .ok d
  | (name, value) :: rest =>
    match d.set? name value with
    | some d => d.setAll rest
    | none => .error name

/-- The settings with these values.  The threshold has to name a severity and the correlation to be
a text with at least one character, or `null`; the threshold is looked at first. -/
def check (d : Draft) : Except Settings.Issue Settings :=
  match d.threshold with
  | .str threshold =>
    if (Log.Severity.ofSpelling? threshold).isSome then
      match d.correlation with
      | .null => .ok ⟨d.tallying, d.refillRecords, threshold, none⟩
      | .str id =>
        if id.isEmpty then .error .correlation
        else .ok ⟨d.tallying, d.refillRecords, threshold, some id⟩
      | _ => .error .correlation
    else .error (.threshold d.threshold)
  | got => .error (.threshold got)

end Draft

namespace Settings

/-- The least level that is recorded. -/
def level (s : Settings) : Int :=
  match Log.Severity.ofSpelling? s.threshold with
  | some v => v.level
  | none => 0

/-- The fields as values. -/
def draft (s : Settings) : Draft :=
  ⟨s.tallying, s.refillRecords, .str s.threshold, .ofString? s.correlation⟩

/-- The fields by name, with the values themselves. -/
def toEntries (s : Settings) : Entries :=
  fieldNames.zip [s.tallying, s.refillRecords, .str s.threshold, .ofString? s.correlation]

/-- Settings with their fields. -/
def repr (s : Settings) : String :=
  let fields := s.toEntries.map fun (k, v) => s!"{k}={v.repr}"
  let fields := ", ".intercalate fields
  s!"StreamConfig({fields})"

/-- Whether two settings agree in all fields. -/
def same (a b : Settings) : Bool :=
  a.tallying.same b.tallying && a.refillRecords.same b.refillRecords
    && a.threshold == b.threshold && a.correlation == b.correlation

/-! ## Ways to settings -/

/-- The same settings but for the named changes.  A name that is no field is reported before any
value is looked at. -/
def override (s : Settings) (changes : Entries) : Except Issue Settings :=
  match s.draft.setAll changes with
  | .ok d => d.check
  | .error name => .error (.unknownField name)

/-- The settings that a table describes; fields that it does not name have their first values.
All names that are no fields are reported together, before any value is looked at. -/
def ofEntries (entries : Entries) : Except Issue Settings :=
  let unknown := entries.keys.filter (!fieldNames.contains ·)
  match unknown.mergeSort (· ≤ ·) with
  | first :: others => .error (.unknownKeys first others)
  | [] => override {} entries

/-- Nothing is counted, and only warnings and worse are recorded. -/
def quiet : Settings :=
  { tallying := .bool false, threshold := "WARNING" }

/-- Everything is recorded, each refill included. -/
def tracing (correlation : Datum) : Except Issue Settings :=
  Draft.check ⟨.bool true, .bool true, .str "DEBUG", correlation⟩

end Settings

end LineCursor
