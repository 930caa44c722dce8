/-!
What the library says about itself: its release, the names it offers, and the families of its
errors.
-/

namespace LineCursor.Release

def version : String := "0.1.0"

def author : String := "lexstream developers"

/-- The names that the library offers, in ascending order. -/
def offered : List String :=
  ["CharStream", "ConfigError", "ConfigValidationError", "FileLineSource", "LexStreamError",
   "LineSource", "SourceError", "StreamConfig", "StreamExhaustedError", "StreamMetrics",
   "StreamPosition", "__author__", "__version__"]

/-- The errors that the library adds to those of its surroundings. -/
inductive ErrorClass where
  /-- Any failure of a cursor or a feed. -/
  | stream
  /-- An object cannot be read. -/
  | source
  /-- No character is left. -/
  | exhausted
  /-- Any failure of settings. -/
  | settings
  /-- Values that are no settings. -/
  | invalidSettings
deriving DecidableEq, Repr

namespace ErrorClass

def all : List ErrorClass :=
  [stream, source, exhausted, settings, invalidSettings]

def name : ErrorClass → String
  | stream => "LexStreamError"
  | source => "SourceError"
  | exhausted => "StreamExhaustedError"
  | settings => "ConfigError"
  | invalidSettings => "ConfigValidationError"

/-- What an error also counts as, the nearest first. -/
def families : ErrorClass → List String
  | stream => ["Exception"]
  | source => ["LexStreamError", "ValueError", "Exception"]
  | exhausted => ["LexStreamError", "IndexError", "LookupError", "Exception"]
  | settings => ["Exception"]
  | invalidSettings => ["ConfigError", "Exception"]

/-- All that an error of the named class counts as, itself first. -/
def lineage? (name : String) : Option (List String) :=
  (all.find? fun c => c.name == name).map fun c => c.name :: c.families

end ErrorClass

end LineCursor.Release
