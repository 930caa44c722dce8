import LineCursor.Feed.Offer

/-!
Objects known by their traits.

Any object may be offered for reading.  Which of its traits count, and for what, is decided here
(`Offer.ofTraits`): a trait that should answer but is a plain value fails when it is asked.
-/

namespace LineCursor

/-- What an object has under some name. -/
inductive Trait where
  | value (d : Datum)
  /-- An object that stands for a path of the file system. -/
  | path (d : Datum)
  /-- Something that gives the same answer whenever it is asked. -/
  | answers (outcome : Except Fault Datum)

namespace Trait

def asLabel : Trait → Label
  | value d => .value d
  | path d => .path d
  | answers _ => .value .null

/-- The trait as a plain value.  All that matters of other traits is that they count as true. -/
def asDatum : Trait → Datum
  | value d => d
  | _ => .bool true

def isNull : Trait → Bool
  | value .null => true
  | _ => false

/-- Whether the trait can be asked at all. -/
def answering : Trait → Bool
  | answers _ => true
  | _ => false

/-- What asking gives. -/
def ask : Trait → Except Fault Datum
  | answers outcome => outcome
  | trait => .error (.notCallable trait.asDatum.typeName)

end Trait

/-- The object with the given traits, of which a later one replaces an earlier one of its name.  It
hands out lines under `read_line`, which has to be there and not `null`; it is a file if `readline`
can be asked. -/
def Offer.ofTraits (traits : List (String × Trait)) : Offer :=
  let traits := traits.reverse
  let given (name : String) := (traits.lookup name).filter fun t => !t.isNull
  let ended := (traits.lookup "eof").map Trait.asDatum
  { name := ((traits.lookup "name").map Trait.asLabel).getD .absent
    ended
    script := (given "read_line").map fun reader _ =>
      (ended.getD .null, reader.ask.map Line.ofDatum)
    file := ((given "readline").filter Trait.answering).map fun reader =>
      { script := fun _ => reader.ask.map Line.ofDatum
        closed := ((traits.lookup "closed").map Trait.asDatum).getD (.bool false)
        readable := ((given "readable").map Trait.ask).getD (.ok (.bool true)) } }

end LineCursor
