import Mathlib.Algebra.Order.Ring.Nat
import LineCursor.Line

/-!
Plain lines: text or bytes, as every file gives them.

A plain line is a row of characters (`Line.characters`), and all that a cursor asks of it follows
from that row: how long it is, and which character stands at a place.
-/

namespace LineCursor.Line

/-- Whether a line is text or bytes. -/
def IsPlain : Line → Prop
  | text _ => True
  | bytes _ => True
  | other _ => False

/-- The characters of a plain line, each as a value of the line's own type. -/
def characters : Line → List Datum
  | text chars => chars.toList.map fun c => .str (String.ofList [c])
  | bytes data => data.toList.map fun b => .bytes #[b]
  | other _ => []

/-- The number of characters of a plain line. -/
def size (l : Line) : Nat :=
  l.characters.length

theorem length_eq (l : Line) (h : l.IsPlain) : l.length = .ok l.size := by
  cases l with
  | text chars => simp [length, size, characters]
  | bytes data => simp [length, size, characters]
  | other d => exact h.elim

theorem item_eq (l : Line) (i : Nat) (d : Datum) (h : l.characters[i]? = some d) :
    l.item i = .ok d := by
  cases l with
  | text chars =>
    simp only [characters, List.getElem?_map, Option.map_eq_some_iff] at h
    obtain ⟨c, hc, rfl⟩ := h
    simp only [Array.getElem?_toList] at hc
    simp [item, hc]
  | bytes data =>
    simp only [characters, List.getElem?_map, Option.map_eq_some_iff] at h
    obtain ⟨b, hb, rfl⟩ := h
    simp only [Array.getElem?_toList] at hb
    simp [item, hb]
  | other d => simp [characters] at h

/-- A plain line is true if there is a character on it. -/
theorem truthy_iff (l : Line) (h : l.IsPlain) : l.truthy = true ↔ 0 < l.size := by
  cases l with
  | text chars => simp [truthy, size, characters, Array.size_pos_iff]
  | bytes data => simp [truthy, size, characters, Array.size_pos_iff]
  | other d => exact h.elim

/-- Each character is a value with one item. -/
theorem length?_of_mem_characters (l : Line) {d : Datum} (h : d ∈ l.characters) :
    d.length? = some 1 := by
  cases l with
  | text chars =>
    obtain ⟨c, -, rfl⟩ := List.mem_map.1 h
    simp [Datum.length?]
  | bytes data =>
    obtain ⟨b, -, rfl⟩ := List.mem_map.1 h
    rfl
  | other d => cases h

/-- The empty line of the type of a plain line. -/
theorem emptied_eq (l : Line) (h : l.IsPlain) :
    ∃ blank, l.emptied = .ok blank ∧ blank.IsPlain ∧ blank.size = 0 := by
  cases l with
  | text chars => exact ⟨.text #[], rfl, trivial, rfl⟩
  | bytes data => exact ⟨.bytes #[], rfl, trivial, rfl⟩
  | other d => exact h.elim

/-- Whether a plain line has a terminator at its end can always be told; the empty line has none. -/
theorem isTerminated_eq (l : Line) (h : l.IsPlain) :
    ∃ b, l.isTerminated = .ok b ∧ (b = true → 0 < l.size) := by
  cases l with
  | text chars =>
    refine ⟨_, rfl, fun hb => ?_⟩
    rcases Nat.eq_zero_or_pos chars.size with h0 | h0
    · rw [Array.size_eq_zero_iff.1 h0] at hb
      simp at hb
    · simpa [size, characters] using h0
  | bytes data =>
    refine ⟨_, rfl, fun hb => ?_⟩
    rcases Nat.eq_zero_or_pos data.size with h0 | h0
    · rw [Array.size_eq_zero_iff.1 h0] at hb
      simp at hb
    · simpa [size, characters] using h0
  | other d => exact h.elim

/-- A value of which no part can be taken is no interruption. -/
theorem isOrdinary_of_emptied {l : Line} {e : Fault} (h : l.emptied = .error e) :
    e.isOrdinary = true := by
  cases l with
  | text chars => cases h
  | bytes data => cases h
  | other d => cases d <;> cases h <;> rfl

theorem isOrdinary_of_isTerminated {l : Line} {e : Fault} (h : l.isTerminated = .error e) :
    e.isOrdinary = true := by
  cases l <;> cases h
  rfl

end LineCursor.Line
