/-!
Levels of loggers.

Loggers are known by dotted names, and a name encloses those that it begins at a dot.  A logger
comes into being when its level is set or when something asks for it.  While it has no level of its
own it takes that of its parent, which is the nearest enclosing logger, and so on; the last parent
is the root.  Not every enclosing logger is found (`Levels.inherited?`, `Levels.passesOver`).
-/

namespace LineCursor.Log

/-- The part of a name behind its last dot. -/
def lastSegment (name : String) : String :=
  String.ofList (name.toList.reverse.takeWhile (· != '.')).reverse

/-- The root has two names. -/
def isRoot (name : String) : Bool :=
  name.isEmpty || name == "root"

/-- The levels that have been set. -/
structure Levels where
  root : Int := 30
  /-- Levels of other loggers, the latest first. -/
  named : List (String × Int) := []

namespace Levels

/-- Sets the level of a logger; zero means that it has none of its own. -/
def set (levels : Levels) (name : String) (level : Int) : Levels :=
  if isRoot name then { levels with root := level }
  else { levels with named := (name, level) :: levels.named }

/-- The level that a logger has of its own, if there is a logger of that name. -/
def own? (levels : Levels) (name : String) : Option Int :=
  levels.named.lookup name

/-- Sees to it that there is a logger.  A new one has no level of its own. -/
def register (levels : Levels) (name : String) : Levels :=
  if isRoot name || (levels.own? name).isSome then levels else levels.set name 0

/-- The names of the loggers in the order in which they came into being, the root apart.  A name
counts where it comes first. -/
def names (levels : Levels) : List String :=
  (levels.named.map (·.1)).reverse

/-- A new logger becomes the parent of those it encloses, unless their parent seems to lie between:
its name begins with that of the new one.  So a name with which the root's begins is passed over by
the loggers that were there before it. -/
def passesOver (levels : Levels) (name parent : String) : Bool :=
  ["r", "ro", "roo"].contains parent && levels.names.idxOf name < levels.names.idxOf parent

/-- The level other than zero that a logger takes from its parents, the root apart.  Its name is
given from the last character to the first.  Where no logger has the name that ends before a dot,
the last character of that name is not looked at again, be it a dot or not. -/
def inherited? (levels : Levels) (name : String) : List Char → Option Int
  | '.' :: c :: rest =>
    let parent := String.ofList (c :: rest).reverse
    match levels.own? parent with
    | none => inherited? levels name rest
    | some level =>
      if levels.passesOver name parent then none
      else if level = 0 then inherited? levels parent (c :: rest)
      else some level
  | _ :: rest => inherited? levels name rest
  | [] => none

/-- The level that counts for a logger. -/
def effective (levels : Levels) (name : String) : Int :=
  if isRoot name then levels.root
  else
    match levels.own? name with
    | none | some 0 => (levels.inherited? name name.toList.reverse).getD levels.root
    | some level => level

/-- Whether a logger passes records of a level.  No record has level zero or less. -/
def passes (levels : Levels) (name : String) (level : Int) : Bool :=
  0 < level && levels.effective name ≤ level

/-! ## Loggers there are -/

/-- Only loggers other than the root are listed. -/
def Proper (levels : Levels) : Prop :=
  ∀ entry ∈ levels.named, isRoot entry.1 = false

variable {levels : Levels}

theorem Proper.set (h : levels.Proper) (name : String) (level : Int) :
    (levels.set name level).Proper := by
  unfold Levels.set
  split
  · exact h
  · next hname => exact List.forall_mem_cons.2 ⟨eq_false_of_ne_true hname, h⟩

theorem Proper.register (h : levels.Proper) (name : String) : (levels.register name).Proper := by
  unfold Levels.register
  split
  · exact h
  · exact h.set name 0

end Levels

end LineCursor.Log
