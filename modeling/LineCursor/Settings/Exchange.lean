import LineCursor.Arguments
import LineCursor.Datum.Copied
import LineCursor.Json.Writer

/-!
Settings as they come from outside and go there: as arguments by name, as a table, and as JSON.
-/

namespace LineCursor.Settings

/-- Settings from arguments by name. -/
def ofArguments (arguments : Entries) : Except Fault Settings :=
  match Draft.setAll {} arguments with
  | .ok draft => draft.check.mapError .settings
  | .error name => .error (.misnamed "StreamConfig" name)

/-- The same settings but for the arguments.  They are changed by a function that has the settings
under the name `self`. -/
def overrideWith (s : Settings) (arguments : Entries) : Except Fault Settings :=
  if arguments.keys.contains "self" then .error (.givenTwice "StreamConfig.override" "self")
  else (s.override arguments).mapError .settings

/-- Settings as a table, which has copies of their values.  From `next` on no object has the
identity. -/
def toTable (s : Settings) (next : Nat := 0) : Except Fault Entries := do
  return (← Datum.copyEntries next s.toEntries).1

/-- Settings as a JSON text.  Objects have none, so their identities do not matter. -/
def toJson (s : Settings) (style : Json.Style) : Except Fault String := do
  Json.write style (.dict (← s.toTable))

/-- The settings that a JSON text describes. -/
def ofJson (text : String) : Except Fault Settings :=
  match Json.read text with
  | .error ⟨.excess e, _⟩ => .error (.oversized e)
  | .error e => .error (.settings (.notJson e))
  | .ok (.dict entries) => (ofEntries entries).mapError .settings
  | .ok _ => .error (.settings .notTable)

end LineCursor.Settings
