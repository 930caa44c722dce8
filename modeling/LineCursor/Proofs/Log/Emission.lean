import LineCursor.Proofs.Cursor.Events
import LineCursor.Proofs.Datum

/-!
The records of a cursor can be emitted.

A reporter refuses a record that has a reserved key (`Reporter.emit`).  A cursor writes its records
without asking, and nothing is lost by that: it names the fields of its records itself, and none of
them is reserved (`Cursor.Adds.start`, `Cursor.Adds.after`):

    r.record? … = some record → record.Emittable → r.emit … = .ok (some record)
    c.Adds (c.after events)
-/

namespace LineCursor

namespace Log

/-- No key of the record is reserved, which is all that a reporter asks of it. -/
def Record.Emittable (r : Record) : Prop :=
  r.extra.keys.find? reservedKeys.contains = none

namespace Reporter

variable {r : Reporter} {levels : Levels} {severity : Severity} {message : String}
  {extra : Entries} {cause : Option (Option Fault)} {record : Record}

/-- A record can be emitted if its caller adds no reserved key. -/
theorem emittable_of_record? (hk : ∀ k ∈ extra.keys, k ∉ reservedKeys)
    (h : r.record? levels severity message extra cause = some record) : record.Emittable := by
  unfold record? at h
  split at h
  · cases h
    refine List.find?_eq_none.2 fun k hmem hc => ?_
    rw [List.contains_iff_mem] at hc
    rcases Entries.mem_keys_update.1 hmem with hown | hadded
    · have hnone : ∀ k ∈ ["component", "correlation_id"], k ∉ reservedKeys := by decide
      exact hnone k hown hc
    · exact hk k hadded hc
  · cases h

/-- What is not refused is emitted as it was made. -/
theorem emit_of_emittable (hr : r.record? levels severity message extra cause = some record)
    (h : record.Emittable) : r.emit levels severity message extra cause = .ok (some record) := by
  unfold emit
  rw [hr]
  dsimp only
  rw [h]

end Reporter

end Log

namespace Cursor

/-- All records that were written from one cursor to the other can be emitted. -/
def Adds (c d : Cursor) : Prop :=
  ∀ r ∈ d.context.journal, r ∈ c.context.journal ∨ r.Emittable

namespace Adds

theorem of_eq {c d : Cursor} (h : d.context.journal = c.context.journal) : c.Adds d := by
  intro r hr
  rw [h] at hr
  exact .inl hr

theorem trans {c d e : Cursor} (h : c.Adds d) (k : d.Adds e) : c.Adds e := by
  intro r hr
  rcases k r hr with hr | hr
  · exact h r hr
  · exact .inr hr

theorem note (c : Cursor) (severity : Log.Severity) (message : String) {extra : Entries}
    (cause : Option (Option Fault)) (keys : List String) (hkeys : extra.keys = keys)
    (hfree : ∀ k ∈ keys, k ∉ Log.reservedKeys) :
    c.Adds (c.note severity message extra cause) := by
  intro r hr
  unfold Cursor.note Context.note at hr
  dsimp only at hr
  split at hr
  · next record hrecord =>
    rcases Array.mem_push.1 hr with hr | rfl
    · exact .inl hr
    · rw [← hkeys] at hfree
      exact .inr (Log.Reporter.emittable_of_record? hfree hrecord)
  · exact .inl hr

theorem front (c : Cursor) : c.Adds c.front.2 := by
  unfold Cursor.front
  split
  · exact .of_eq rfl
  · split
    · exact .of_eq rfl
    · exact .note c _ _ _ ["position"] rfl (by decide)

theorem fetch (c : Cursor) : c.Adds c.fetch.2 := by
  unfold Cursor.fetch
  dsimp only
  split
  · split
    · exact .trans (.of_eq rfl) (.note _ _ _ _ ["source_name", "line"] rfl (by decide))
    · exact .of_eq rfl
  · split
    · exact .of_eq rfl
    · exact .of_eq rfl

theorem noteEnd (c : Cursor) : c.Adds c.noteEnd.2 := by
  unfold Cursor.noteEnd
  split
  · exact .of_eq rfl
  · split
    · exact .of_eq rfl
    · exact .of_eq rfl
    · dsimp only
      split
      · exact .of_eq rfl
      · exact .trans (.of_eq rfl) (.note _ _ _ _ ["source_name", "metrics"] rfl (by decide))

theorem noteRefill (c : Cursor) : c.Adds c.noteRefill.2 := by
  unfold Cursor.noteRefill
  split
  · split
    · exact .of_eq rfl
    · exact .note c _ _ _ ["line", "line_length"] rfl (by decide)
  · exact .of_eq rfl

theorem refill (c : Cursor) : c.Adds c.refill.2 := by
  have hfetch := fetch c
  unfold Cursor.refill
  split
  · next h =>
    rw [h] at hfetch
    exact hfetch
  · next line d h =>
    rw [h] at hfetch
    have hnote := noteRefill (d.onNextLine line)
    split
    · next h' =>
      rw [h'] at hnote
      exact .trans hfetch (.trans (.of_eq rfl) hnote)
    · next h' =>
      rw [h'] at hnote
      exact .trans hfetch (.trans (.of_eq rfl) (.trans hnote (noteEnd _)))

theorem countCharacter {c d : Cursor} (h : c.countCharacter = .ok d) : c.Adds d := by
  obtain ⟨t, rfl⟩ := eq_of_countCharacter h
  exact .of_eq rfl

theorem popFront (c : Cursor) : c.Adds c.popFront.2 := by
  unfold Cursor.popFront
  split
  · exact .of_eq rfl
  · exact .of_eq rfl
  · split
    · exact .of_eq rfl
    · next d h =>
      have hd := countCharacter h
      dsimp only
      split
      · exact .trans hd (.of_eq rfl)
      · split
        · exact .trans hd (.of_eq rfl)
        · exact .trans hd (.trans (.of_eq rfl) (refill _))

theorem start (feed : Feed) (s : Settings) (x : Context) :
    ({ settings := s, context := x, feed } : Cursor).Adds (Cursor.start feed s x).2 := by
  have hfetch := fetch { settings := s, context := x, feed }
  unfold Cursor.start
  dsimp only
  split
  · next h =>
    rw [h] at hfetch
    exact hfetch
  · next h =>
    rw [h] at hfetch
    split
    · exact .trans hfetch (.of_eq rfl)
    · refine .trans hfetch (.trans (.of_eq rfl) (.trans ?_ (noteEnd _)))
      exact .note _ _ _ _ ["source_name", "first_line_length"] rfl (by decide)

theorem next? (c : Cursor) : c.Adds c.next?.2 := by
  have hfront := front c
  unfold Cursor.next?
  split
  · exact .of_eq rfl
  · exact .of_eq rfl
  · split
    · next h =>
      rw [h] at hfront
      exact hfront
    · next d h =>
      rw [h] at hfront
      have hpop := popFront d
      split
      all_goals
        next h' =>
          rw [h'] at hpop
          exact .trans hfront hpop

theorem step (c : Cursor) (e : Event) : c.Adds (c.step e).2 := by
  cases e with
  | look l =>
    cases l with
    | front => exact front c
    | location => exact .of_eq rfl
    | atEnd => exact .of_eq rfl
  | popFront => exact popFront c
  | next => exact next? c
  | mark ended => exact .of_eq rfl

theorem after (c : Cursor) (events : List Event) : c.Adds (c.after events) := by
  induction events generalizing c with
  | nil => exact .of_eq rfl
  | cons e events ih => exact .trans (step c e) (ih _)

end Adds

end Cursor

end LineCursor
