import Mathlib.Data.Prod.Lex
import LineCursor.Location.Made
import LineCursor.Proofs.Cursor.Accounting

/-!
The places of a cursor follow each other in reading order.

A place is a line and a column, and places are in lexicographic order (`Cursor.place`).  A move that
does not start at the end goes to a later place, however it ends (`Outline.place_lt_advance`):

    within the line       same line, next column
    the read failed       same line, next column, also beyond the line
    the read succeeded    next line, first column

So no place comes again: the characters that stand in front of a cursor in the course of some events
(`Cursor.sightings`) are at places in strictly ascending order (`Reached.place_increases`).
-/

namespace LineCursor

theorem Datum.same_int (m n : Int) : (Datum.int m).same (.int n) = (m == n) := rfl

theorem Datum.isBelow_int (m n : Int) : (Datum.int m).isBelow n = .ok (decide (m < n)) := rfl

/-- Numbers from one on are the line and column of a location. -/
theorem Location.make_of_pos {line column : Nat} (name : Datum) (hl : 1 ≤ line)
    (hc : 1 ≤ column) :
    Location.make (.int line) (.int column) name = .ok ⟨.int line, .int column, name⟩ := by
  have h (n : Nat) (hn : 1 ≤ n) : (Datum.int n).isBelow 1 = .ok false := by
    rw [Datum.isBelow_int, decide_eq_false (by omega)]
  rw [make, h line hl, h column hc]
  rfl

/-- Line and column, in reading order. -/
def Cursor.place (c : Cursor) : ℕ ×ₗ ℕ :=
  toLex (c.line, c.column)

namespace Sighting

def place (s : Sighting) : ℕ ×ₗ ℕ :=
  toLex (s.line, s.column)

/-- Where the character stands in a feed of the given name. -/
def location (s : Sighting) (name : Datum) : Location :=
  ⟨.int s.line, .int s.column, name⟩

/-- Locations are the same only if their places are, whatever the names. -/
theorem not_same_of_lt {a b : Sighting} (h : a.place < b.place) (m n : Datum) :
    (a.location m).same (b.location n) = false := by
  rw [Location.same, location, location, Datum.same_int, Datum.same_int]
  rcases Prod.Lex.toLex_lt_toLex.1 h with hl | ⟨-, hc⟩
  · have hne : ((a.line : Int) == b.line) = false := beq_false_of_ne (by omega)
    rw [hne]
    rfl
  · have hne : ((a.column : Int) == b.column) = false := beq_false_of_ne (by omega)
    rw [hne, Bool.and_false, Bool.false_and]

end Sighting

/-- Whether an event is meant to bring the next character to the front. -/
def Event.moves : Event → Bool
  | .popFront | .next => true
  | .look _ | .mark _ => false

/-! ## Outlines -/

namespace Outline

def place (o : Outline) : ℕ ×ₗ ℕ :=
  toLex (o.line, o.index + 1)

theorem place_lt_advance {o : Outline} (ha : o.atEnd = false) : o.place < o.advance.2.place := by
  rcases o.advance_cases with ⟨h, -⟩ | ⟨-, -, he⟩ | ⟨e, g, -, -, -, he⟩ | ⟨l, g, -, -, -, he⟩
  · rw [ha] at h
    cases h
  · rw [he]
    exact Prod.Lex.toLex_lt_toLex.2 (.inr ⟨rfl, Nat.lt_succ_self _⟩)
  · rw [he]
    exact Prod.Lex.toLex_lt_toLex.2 (.inr ⟨rfl, Nat.lt_succ_self _⟩)
  · rw [he]
    exact Prod.Lex.toLex_lt_toLex.2 (.inl (Nat.lt_succ_self _))

theorem place_le_advance (o : Outline) : o.place ≤ o.advance.2.place := by
  cases ha : o.atEnd with
  | true => rw [o.advance_of_atEnd ha]
  | false => exact (place_lt_advance ha).le

theorem place_le_after (o : Outline) (events : List Event) : o.place ≤ (o.after events).place :=
  after_induction (P := fun p => o.place ≤ p.place) (fun p h => h.trans p.place_le_advance)
    (fun _ _ h => h) events le_rfl

/-- The character in front, with its place. -/
def sighting? (o : Outline) : Option Sighting :=
  o.buffer.characters[o.index]?.map fun x => ⟨x, o.line, o.index + 1⟩

theorem place_of_sighting? {o : Outline} {x : Sighting} (hx : o.sighting? = some x) :
    x.place = o.place ∧ o.index < o.buffer.size := by
  obtain ⟨y, hy, rfl⟩ := Option.map_eq_some_iff.1 hx
  exact ⟨rfl, (List.getElem?_eq_some_iff.1 hy).1⟩

theorem sighting?_step_of_stays (o : Outline) {e : Event} (he : e.moves = false) :
    (o.step e).2.sighting? = o.sighting? := by
  cases e with
  | look l => rfl
  | popFront => cases he
  | next => cases he
  | mark ended => rfl

/-- A move or the taking of a character goes on if there is a character in front. -/
theorem place_lt_step {o : Outline} (hi : o.index < o.buffer.size) {e : Event}
    (he : e.moves = true) : o.place < (o.step e).2.place := by
  have hlt := place_lt_advance (atEnd_of_lt hi)
  cases e with
  | look l => cases he
  | popFront => exact hlt
  | next =>
    show o.place < o.next?.2.place
    rw [next?_of_lt hi]
    exact hlt
  | mark ended => cases he

end Outline

/-! ## Cursors -/

namespace Cursor

/-- The character in front, with its place. -/
def sighting? (c : Cursor) : Option Sighting :=
  c.front.1.toOption.map fun x => ⟨x, c.line, c.column⟩

/-- The characters that stand in front of a cursor in the course of some events, with their places:
one before each move, whether that fails or not, and one behind the last event. -/
def sightings : List Event → Cursor → List Sighting
  | [], c => c.sighting?.toList
  | e :: events, c =>
    (if e.moves then c.sighting?.toList else []) ++ sightings events (c.step e).2

theorem front_of_next? {c : Cursor} {x : Datum} (h : c.next?.1 = .ok (some x)) :
    c.front.1 = .ok x := by
  unfold next? at h
  split at h
  · cases h
  · cases h
  · split at h
    · cases h
    · next y d hy =>
      rw [hy]
      split at h <;> cases h
      rfl

/-- What a mapping succeeds on has succeeded before. -/
theorem exists_of_map_eq_ok {α β : Type} {f : α → β} {x : Except Fault α} {y : β}
    (h : x.map f = .ok y) : ∃ a, x = .ok a ∧ f a = y := by
  cases x with
  | error e => cases h
  | ok a => exact ⟨a, rfl, Except.ok.inj h⟩

/-- The character that a caller is given is the one in front. -/
theorem sighting?_of_given {c : Cursor} {e : Event} {x : Datum}
    (h : (c.step e).1 = .ok (.character x)) : c.sighting? = some ⟨x, c.line, c.column⟩ := by
  have hfront : c.front.1 = .ok x := by
    cases e with
    | look l =>
      cases l with
      | front =>
        obtain ⟨y, hy, hyx⟩ := exists_of_map_eq_ok h
        cases hyx
        exact hy
      | location => cases h
      | atEnd =>
        obtain ⟨y, -, hyx⟩ := exists_of_map_eq_ok h
        cases hyx
    | popFront =>
      obtain ⟨y, -, hyx⟩ := exists_of_map_eq_ok h
      cases hyx
    | next =>
      obtain ⟨y, hy, hyx⟩ := exists_of_map_eq_ok h
      cases y with
      | none => cases hyx
      | some y =>
        cases hyx
        exact front_of_next? hy
    | mark ended => cases h
  rw [sighting?, hfront]
  rfl

namespace Shows

variable {s : Settings} {c : Cursor} {o : Outline}

theorem place_eq (h : c.Shows s o) : c.place = o.place := by
  rw [Cursor.place, h.line, h.column]
  rfl

/-- No column of a cursor is below the first one. -/
theorem columnIndex_eq (h : c.Shows s o) : columnIndex c.column = .ok c.index := by
  rw [columnIndex, if_neg (by rw [h.column]; omega), index]
  congr 1
  omega

theorem make_location (h : c.Shows s o) :
    Location.make (.int c.line) (.int c.column) c.name = .ok c.location := by
  refine Location.make_of_pos c.name ?_ ?_
  · rw [h.line]
    exact Nat.le_add_left _ _
  · rw [h.column]
    exact Nat.le_add_left _ _

theorem sighting?_eq (h : c.Shows s o) (hp : o.Plain) : c.sighting? = o.sighting? := by
  rw [Cursor.sighting?, (h.front hp.buffer).1, Outline.front, Outline.sighting?, h.line, h.column]
  cases o.buffer.characters[o.index]? <;> rfl

theorem head?_sightings (h : c.Shows s o) (hp : o.Plain) {x : Sighting}
    (hx : c.sighting? = some x) (events : List Event) : (c.sightings events).head? = some x := by
  induction events generalizing c o with
  | nil =>
    rw [sightings, hx]
    rfl
  | cons e events ih =>
    have hstep := (h.step hp e).1
    have hplain := hp.after [e]
    rw [sightings]
    cases he : e.moves with
    | false =>
      apply ih hstep hplain
      rw [hstep.sighting?_eq hplain, o.sighting?_step_of_stays he, ← h.sighting?_eq hp, hx]
    | true =>
      rw [hx]
      rfl

/-- No character comes to the front from before the cursor, and none comes twice. -/
theorem sightings_ascending (h : c.Shows s o) (hp : o.Plain) (events : List Event) :
    (∀ x ∈ c.sightings events, o.place ≤ x.place) ∧
      (c.sightings events).Pairwise fun a b => a.place < b.place := by
  -- That all later characters are at `o` or behind it is what makes the first one the least.
  induction events generalizing c o with
  | nil =>
    rw [sightings, h.sighting?_eq hp]
    cases hx : o.sighting? with
    | none => exact ⟨fun x hm => (List.not_mem_nil hm).elim, .nil⟩
    | some y =>
      refine ⟨fun x hm => ?_, List.pairwise_singleton _ y⟩
      rw [List.mem_singleton.1 hm, (Outline.place_of_sighting? hx).1]
  | cons e events ih =>
    obtain ⟨hle, hpair⟩ := ih (h.step hp e).1 (hp.after [e])
    have hstep : o.place ≤ (o.step e).2.place := o.place_le_after [e]
    have hrest := fun x hm => hstep.trans (hle x hm)
    rw [sightings, h.sighting?_eq hp]
    cases he : e.moves with
    | false => exact ⟨hrest, hpair⟩
    | true =>
      cases hx : o.sighting? with
      | none => exact ⟨hrest, hpair⟩
      | some y =>
        obtain ⟨hy, hi⟩ := Outline.place_of_sighting? hx
        refine ⟨fun x hm => ?_, List.pairwise_cons.2 ⟨fun x hm => ?_, hpair⟩⟩
        · rcases List.mem_cons.1 hm with rfl | hm
          · exact hy.ge
          · exact hrest x hm
        · rw [hy]
          exact (Outline.place_lt_step hi he).trans_le (hle x hm)

end Shows

/-- Whatever has happened to a cursor: a move at the end leaves it where it is, and any other one
brings it to a later place, whether it fails or not; to take a character does so if there is one in
front.  The cursor never comes back, so the characters that come to its front in the course of some
events stand at ascending places and have different locations.  Its line and column make a
location, and the column has an index. -/
theorem Reached.place_increases {feed : Feed} {d : Cursor} (hp : feed.Plain)
    (h : Reached feed d) :
    (d.atEnd = .ok true ∨ d.atEnd = .ok false) ∧
      (d.atEnd = .ok true → d.popFront.2.place = d.place ∧ d.next?.2.place = d.place) ∧
      (d.atEnd = .ok false → d.place < d.popFront.2.place) ∧
      (∀ x, d.front.1 = .ok x → d.place < d.next?.2.place) ∧
      (∀ e, d.front.1 = .error e → d.next?.2.place = d.place) ∧
      (∀ events, d.place ≤ (d.after events).place) ∧
      (∀ events, (d.sightings events).Pairwise fun a b =>
        a.place < b.place ∧ ∀ m n, (a.location m).same (b.location n) = false) ∧
      (∀ e x, (d.step e).1 = .ok (.character x) → ∀ events,
        (d.sightings (e :: events)).head? = some ⟨x, d.line, d.column⟩) ∧
      columnIndex d.column = .ok d.index ∧
      Location.make (.int d.line) (.int d.column) d.name = .ok d.location := by
  obtain ⟨l, g, events, -, hs, hplain⟩ := h.exists_outline hp
  generalize (⟨g, [], l, 0⟩ : Outline).after events = o at hs hplain
  have hpop := (hs.popFront_state hplain).place_eq
  have hnext := (hs.next? hplain).1.place_eq
  have hfront := (hs.front hplain.buffer).1
  refine ⟨?_, fun ha => ?_, fun ha => ?_, fun x hx => ?_, fun e he => ?_, fun events => ?_,
    fun events => ?_, fun e x hx events => ?_, hs.columnIndex_eq, hs.make_location⟩
  · rw [hs.atEnd_iff hplain.buffer, hs.atEnd_iff hplain.buffer]
    exact Bool.eq_false_or_eq_true o.atEnd
  · rw [hs.atEnd_iff hplain.buffer] at ha
    rw [hpop, hnext, o.advance_of_atEnd ha, Outline.next?, if_pos ha]
    exact ⟨hs.place_eq.symm, hs.place_eq.symm⟩
  · rw [hs.atEnd_iff hplain.buffer] at ha
    rw [hpop, hs.place_eq]
    exact Outline.place_lt_advance ha
  · rw [hfront] at hx
    rw [hnext, hs.place_eq]
    exact Outline.place_lt_step (e := .next) (Outline.lt_of_front hx) rfl
  · rw [hfront] at he
    rw [hnext, hs.place_eq, Outline.next?_of_le (Outline.le_of_front he)]
  · rw [(hs.after hplain events).place_eq, hs.place_eq]
    exact o.place_le_after events
  · exact (hs.sightings_ascending hplain events).2.imp fun h => ⟨h, Sighting.not_same_of_lt h⟩
  · exact hs.head?_sightings hplain (sighting?_of_given hx) (e :: events)

/-- The cursor stands beyond its line after a failure, and goes on from there. -/
theorem place_increases_stuttering :
    (Feed.source stuttering).Plain ∧
      ∃ d, Reached (.source stuttering) d ∧ d.place = toLex (1, 3) ∧ d.buffer.size = 2 ∧
        d.place < d.popFront.2.place ∧
        ∀ events, d.popFront.2.place ≤ (d.popFront.2.after events).place := by
  have hd := reached_of_start (.source stuttering) {} {} rfl [.popFront, .popFront]
  have hnext := reached_of_start (.source stuttering) {} {} rfl [.popFront, .popFront, .popFront]
  obtain ⟨-, -, hmove, -⟩ := Reached.place_increases plain_stuttering hd
  obtain ⟨-, -, -, -, -, hlater, -⟩ := Reached.place_increases plain_stuttering hnext
  exact ⟨plain_stuttering, _, hd, rfl, rfl, hmove rfl, hlater⟩

end Cursor

end LineCursor
