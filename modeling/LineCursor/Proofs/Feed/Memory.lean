import LineCursor.Proofs.Feed

/-!
Files in memory, read through an adapter.

The lines of a text or of bytes are not empty, and each but the last has its terminator.  So the
adapter comes to the end of a file in memory when all its lines are read and not before
(`FileFeed.Holds`):

    f.Holds (l :: ls) → f.readLine = (.ok l, g) ∧ g.Holds ls       (Holds.readLine_cons)
    f.Holds []        → f.readLine = (.ok blank, g) ∧ g.ended      (Holds.readLine_nil)
-/

namespace LineCursor

/-! ## Splitting -/

namespace Text

section

variable {α : Type} (ends : α → Option α → Bool)

theorem ne_nil_of_mem_splitAfter (s : List α) : ∀ l ∈ splitAfter ends s, l ≠ [] := by
  induction s with
  | nil =>
    intro l hl
    cases hl
  | cons a s ih =>
    intro l hl
    rw [splitAfter, List.foldr_cons, ← splitAfter] at hl
    generalize splitAfter ends s = lines at ih hl
    cases lines with
    | nil =>
      rw [attach, List.mem_singleton] at hl
      rw [hl]
      exact List.cons_ne_nil _ _
    | cons line lines =>
      rw [attach] at hl
      split at hl
      · rcases List.mem_cons.1 hl with rfl | hl
        · exact List.cons_ne_nil _ _
        · exact ih l hl
      · rcases List.mem_cons.1 hl with rfl | hl
        · exact List.cons_ne_nil _ _
        · exact ih l (List.mem_cons_of_mem _ hl)

/-- Each line but the last one ends where a line may end. -/
theorem ends_of_mem_dropLast (s : List α) :
    ∀ l ∈ (splitAfter ends s).dropLast, ∃ a next, l.getLast? = some a ∧ ends a next = true := by
  induction s with
  | nil =>
    intro l hl
    cases hl
  | cons a s ih =>
    intro l hl
    rw [splitAfter, List.foldr_cons, ← splitAfter] at hl
    generalize splitAfter ends s = lines at ih hl
    cases lines with
    | nil => cases hl
    | cons line lines =>
      rw [attach] at hl
      split at hl
      · next he =>
        rw [List.dropLast_cons_of_ne_nil (List.cons_ne_nil _ _)] at hl
        rcases List.mem_cons.1 hl with rfl | hl
        · exact ⟨a, line.head?, rfl, he⟩
        · exact ih l hl
      · cases lines with
        | nil => cases hl
        | cons line' lines =>
          rw [List.dropLast_cons_of_ne_nil (List.cons_ne_nil _ _)] at hl ih
          rcases List.mem_cons.1 hl with rfl | hl
          · obtain ⟨b, next, hb, he⟩ := ih line List.mem_cons_self
            exact ⟨b, next, by rw [List.getLast?_cons, hb]; rfl, he⟩
          · exact ih l (List.mem_cons_of_mem _ hl)

end

/-- A line of a text file ends in a line feed or a carriage return. -/
theorem Newlines.ends_terminator (mode : Newlines) (c : Char) (next : Option Char)
    (h : mode.ends c next = true) : c = '\n' ∨ c = '\r' := by
  cases mode <;> simp only [Newlines.ends, Bool.or_eq_true, Bool.and_eq_true, beq_iff_eq] at h
  · exact .inl h
  · exact h.imp_right And.left
  · exact .inl h
  · exact .inr h
  · exact .inl h

end Text

/-! ## What a file in memory holds -/

theorem File.ok_scriptOf (ls : List Line) (last : Line) (k : Nat) :
    (.ok (File.scriptOf ls.toArray last k) : Except Fault Line) =
      ((ls.map .ok)[k]?).getD (.ok last) := by
  rw [scriptOf_toArray, List.getElem?_map]
  cases ls[k]? <;> rfl

/-- What a file in memory is made from. -/
inductive Memory where
  | text (s : String) (mode : Text.Newlines)
  | bytes (data : Array UInt8)

namespace Memory

def file : Memory → File
  | text s mode => .ofText s mode
  | bytes data => .ofBytes data

/-- All characters as the file keeps them, on one line. -/
def content : Memory → Line
  | text s mode => .text (mode.kept s.toList).toArray
  | bytes data => .bytes data

/-- The lines that the file has, terminators included. -/
def lines : Memory → List Line
  | text s mode => (mode.lines s.toList).map fun l => .text l.toArray
  | bytes data =>
    (Text.splitAfter (fun b _ => b == 0x0A) data.toList).map fun l => .bytes l.toArray

/-- What the file gives behind its last line. -/
def blank : Memory → Line
  | text _ _ => .text #[]
  | bytes _ => .bytes #[]

theorem isPlain_blank (m : Memory) : m.blank.IsPlain := by
  cases m <;> trivial

theorem size_blank (m : Memory) : m.blank.size = 0 := by
  cases m <;> rfl

/-- No character is lost between the lines. -/
theorem flatMap_characters (m : Memory) :
    m.lines.flatMap Line.characters = m.content.characters := by
  cases m with
  | text s mode =>
    have h := Text.flatten_splitAfter mode.ends (mode.kept s.toList)
    simp only [lines, content, Line.characters, Text.Newlines.lines, List.flatMap_map]
    rw [← h, List.map_flatten, ← List.flatMap_def, h]
  | bytes data =>
    have h := Text.flatten_splitAfter (fun b _ => b == 0x0A) data.toList
    simp only [lines, content, Line.characters, List.flatMap_map]
    rw [← h, List.map_flatten, ← List.flatMap_def, h]

theorem isPlain_of_mem (m : Memory) (l : Line) (h : l ∈ m.lines) : l.IsPlain := by
  cases m with
  | text s mode =>
    obtain ⟨r, -, rfl⟩ := List.mem_map.1 h
    trivial
  | bytes data =>
    obtain ⟨r, -, rfl⟩ := List.mem_map.1 h
    trivial

theorem size_pos_of_mem (m : Memory) (l : Line) (h : l ∈ m.lines) : 0 < l.size := by
  cases m with
  | text s mode =>
    obtain ⟨r, hr, rfl⟩ := List.mem_map.1 h
    have := Text.ne_nil_of_mem_splitAfter _ _ r hr
    simpa [Line.size, Line.characters, List.length_pos_iff] using this
  | bytes data =>
    obtain ⟨r, hr, rfl⟩ := List.mem_map.1 h
    have := Text.ne_nil_of_mem_splitAfter _ _ r hr
    simpa [Line.size, Line.characters, List.length_pos_iff] using this

theorem isTerminated_of_mem (m : Memory) (l : Line) (h : l ∈ m.lines.dropLast) :
    l.isTerminated = .ok true := by
  cases m with
  | text s mode =>
    simp only [lines, ← List.map_dropLast] at h
    obtain ⟨r, hr, rfl⟩ := List.mem_map.1 h
    obtain ⟨c, next, hc, he⟩ := Text.ends_of_mem_dropLast _ _ r hr
    rcases mode.ends_terminator c next he with rfl | rfl <;> simp [Line.isTerminated, hc]
  | bytes data =>
    simp only [lines, ← List.map_dropLast] at h
    obtain ⟨r, hr, rfl⟩ := List.mem_map.1 h
    obtain ⟨b, next, hb, he⟩ := Text.ends_of_mem_dropLast _ _ r hr
    simp only [beq_iff_eq] at he
    simp [Line.isTerminated, hb, he]

theorem plays (m : Memory) : m.file.Plays (m.lines.map .ok) m.blank := by
  cases m with
  | text s mode =>
    refine ⟨rfl, fun k => ?_⟩
    rw [← File.ok_scriptOf, show (text s mode).file.reads + k = k from Nat.zero_add k]
    rfl
  | bytes data =>
    refine ⟨rfl, fun k => ?_⟩
    rw [← File.ok_scriptOf, show (bytes data).file.reads + k = k from Nat.zero_add k]
    rfl

end Memory

/-! ## Reading it through an adapter -/

/-- The adapter has still to give these lines, all that its file has, and comes to its end with the
last one or behind it. -/
structure FileFeed.Holds (f : FileFeed) (ls : List Line) : Prop where
  sound : f.Sound
  plain : ∀ l ∈ ls, l.IsPlain
  size_pos : ∀ l ∈ ls, 0 < l.size
  terminated : ∀ l ∈ ls.dropLast, l.isTerminated = .ok true
  done : f.ended = true → ls = []
  plays : f.ended = false →
    ∃ blank : Line, blank.IsPlain ∧ blank.size = 0 ∧ f.file.Plays (ls.map .ok) blank

namespace FileFeed.Holds

variable {f : FileFeed} {l : Line} {ls : List Line}

theorem readLine_cons (h : f.Holds (l :: ls)) : ∃ g, f.readLine = (.ok l, g) ∧ g.Holds ls := by
  have hn : f.ended = false := by
    cases he : f.ended with
    | true => cases h.done he
    | false => rfl
  obtain ⟨blank, hp, h0, hplays⟩ := h.plays hn
  obtain ⟨hr, hplays⟩ := File.Plays.readLine_cons hplays
  obtain ⟨blank', b, hb, hp', h0', he⟩ := readLine_of_plain hn (h.plain l List.mem_cons_self) hr
  refine ⟨_, he, fun _ => ⟨hp', h0'⟩, fun r hm => h.plain r (List.mem_cons_of_mem _ hm),
    fun r hm => h.size_pos r (List.mem_cons_of_mem _ hm), ?_, ?_, fun _ => ⟨blank, hp, h0, hplays⟩⟩
  · intro r hm
    cases ls with
    | nil => cases hm
    | cons l' ls => exact h.terminated r (List.mem_cons_of_mem _ hm)
  · intro hend
    cases ls with
    | nil => rfl
    | cons l' ls =>
      -- a line with another one behind it has its terminator, so the end is not reached
      have ht := h.terminated l List.mem_cons_self
      rw [hb] at ht
      cases ht
      cases hend

theorem readLine_nil (h : f.Holds []) :
    ∃ blank g, f.readLine = (.ok blank, g) ∧ blank.IsPlain ∧ blank.size = 0 ∧ g.ended = true ∧
      g.Holds [] := by
  cases he : f.ended with
  | true =>
    obtain ⟨hp, h0⟩ := h.sound he
    exact ⟨f.blank, _, readLine_of_ended f he, hp, h0, he, h.sound, h.plain, h.size_pos,
      h.terminated, fun _ => rfl, h.plays⟩
  | false =>
    obtain ⟨blank, hp, h0, hplays⟩ := h.plays he
    obtain ⟨hr, hplays⟩ := File.Plays.readLine_nil hplays
    obtain ⟨blank', b, hb, hp', h0', hread⟩ := readLine_of_plain he hp hr
    obtain ⟨b', hb', hpos⟩ := blank.isTerminated_eq hp
    obtain rfl : b' = b := Except.ok.inj (hb'.symm.trans hb)
    have hf : b' = false := by
      cases b' with
      | true => have := hpos rfl; omega
      | false => rfl
    subst hf
    exact ⟨blank, _, hread, hp, h0, rfl, fun _ => ⟨hp', h0'⟩, h.plain, h.size_pos, h.terminated,
      fun _ => rfl, fun hx => nomatch hx⟩

/-- Reads that were made already have taken the first lines. -/
theorem after (n : Nat) (h : f.Holds ls) :
    ∃ g : FileFeed, (Feed.file f).after n = .file g ∧ g.Holds (ls.drop n) := by
  induction n generalizing f ls with
  | zero => exact ⟨f, rfl, h⟩
  | succ n ih =>
    cases ls with
    | nil =>
      obtain ⟨blank, g, hr, -, -, -, hg⟩ := h.readLine_nil
      obtain ⟨g', hg', hh⟩ := ih hg
      rw [List.drop_nil] at hh
      refine ⟨g', ?_, hh⟩
      show (Feed.file f.readLine.2).after n = _
      rw [hr]
      exact hg'
    | cons l ls =>
      obtain ⟨g, hr, hg⟩ := h.readLine_cons
      obtain ⟨g', hg', hh⟩ := ih hg
      refine ⟨g', ?_, hh⟩
      show (Feed.file f.readLine.2).after n = _
      rw [hr]
      exact hg'

/-- So the adapter is a feed that holds these lines. -/
theorem feed (h : f.Holds ls) : (Feed.file f).Holds ls where
  plain := h.plain
  size_pos := h.size_pos
  line := fun n l hl => by
    obtain ⟨hn, rfl⟩ := List.getElem?_eq_some_iff.1 hl
    obtain ⟨g, hg, hrest⟩ := h.after n
    rw [List.drop_eq_getElem_cons hn] at hrest
    obtain ⟨g', hr, -⟩ := hrest.readLine_cons
    rw [hg, Feed.readLine_file hr]
  blank := fun n hn => by
    obtain ⟨g, hg, hrest⟩ := h.after n
    rw [List.drop_eq_nil_of_le hn] at hrest
    obtain ⟨blank, g', hr, hp, h0, he, -⟩ := hrest.readLine_nil
    refine ⟨blank, ?_, hp, h0, ?_⟩
    · rw [hg, Feed.readLine_file hr]
    · rw [hg, Feed.readLine_file hr]
      exact he

end FileFeed.Holds

/-- The adapter around a file in memory holds all its lines. -/
theorem Memory.holds (m : Memory) (name : Option String) :
    ({ file := m.file, name } : FileFeed).Holds m.lines where
  sound := fun h => nomatch h
  plain := m.isPlain_of_mem
  size_pos := m.size_pos_of_mem
  terminated := m.isTerminated_of_mem
  done := fun h => nomatch h
  plays := fun _ => ⟨m.blank, m.isPlain_blank, m.size_blank, m.plays⟩

end LineCursor
