import LineCursor.Proofs.Feed.History
import LineCursor.Proofs.Feed.Twins

/-!
Sources that say at different moments that their end is reached.

A source may say so together with its last line, or only with the empty line behind that
(`Source.ofLines`).  Two feeds that differ in this way at most are beside each other
(`Feed.Beside`): their reads give the same, and what they say of their end may differ only when a
line with characters was read.

    f.Beside g → g.readLine.1 = f.readLine.1 ∧ f.readLine.2.Beside g.readLine.2    (Beside.readLine)
    … → f.readLine.1 = .ok l → f.readLine.2.MarkedAlike g.readLine.2 l 0

A source of lines holds them, whenever it says that its end is reached (`Source.holds_ofLines`).
-/

namespace LineCursor

theorem Line.size_ofString_pos {s : String} (h : s ≠ "") : 0 < (ofString s).size := by
  rw [size_ofString]
  exact Nat.pos_of_ne_zero fun h0 => h (String.length_eq_zero_iff.1 h0)

namespace Source

/-- The source that gives the lines and then empty ones.  A late source says that its end is reached
when it gives the first empty line, any other one when it gives the last line. -/
def ofLines (lines : List String) (late : Bool) (name before : Datum) : Source where
  name
  ended := before
  script k := (.bool (lines.length ≤ if late then k else k + 1), .ok (.ofString (lines.getD k "")))

end Source

namespace Feed

/-- Two feeds say the same of their end, or each says yes or no and the line has a character at the
given place. -/
def MarkedAlike (f g : Feed) (l : Line) (i : Nat) : Prop :=
  g.ended = f.ended ∨
    (∃ b b' : Bool, f.ended = .bool b ∧ g.ended = .bool b') ∧ l.IsPlain ∧ i < l.size

/-- The feeds are sources that give the same, and their marks are alike after each read. -/
inductive Beside : Feed → Feed → Prop
  | sources {s t : Source} (name : t.name = s.name) (reads : t.reads = s.reads)
    (outcome : ∀ k, (t.script k).2 = (s.script k).2)
    (marks : ∀ k, (t.script k).1 = (s.script k).1 ∨ ∃ b b' l, (s.script k).1 = .bool b ∧
      (t.script k).1 = .bool b' ∧ (s.script k).2 = .ok l ∧ l.IsPlain ∧ 0 < l.size) :
    Beside (.source s) (.source t)

namespace Beside

variable {f g : Feed}

theorem name_eq (h : f.Beside g) : g.name = f.name := by
  cases h with
  | sources name _ _ _ => exact name

theorem reads_eq (h : f.Beside g) : g.reads = f.reads := by
  cases h with
  | sources _ reads _ _ => exact reads

theorem marked (h : f.Beside g) (ended : Datum) : (f.marked ended).Beside (g.marked ended) := by
  cases h with
  | sources name reads outcome marks => exact .sources name reads outcome marks

/-- A source with another mark gives the same as before. -/
theorem marked_ended (h : f.Beside g) (ended : Datum) :
    (g.marked ended).ended = (f.marked ended).ended := by
  cases h with
  | sources => rfl

/-- Both reads give the same.  If they fail the marks are the same behind them, and if they give a
line the marks are alike at its beginning. -/
theorem readLine (h : f.Beside g) :
    ∃ r f' g', f.readLine = (r, f') ∧ g.readLine = (r, g') ∧ f'.Beside g' ∧
      (∀ e, r = .error e → g'.ended = f'.ended) ∧ ∀ l, r = .ok l → f'.MarkedAlike g' l 0 := by
  cases h with
  | @sources s t name reads outcome marks =>
    have hr : (t.script t.reads).2 = (s.script s.reads).2 := by rw [reads, outcome]
    refine ⟨(s.script s.reads).2, .source s.readLine.2, .source t.readLine.2, rfl, ?_, ?_, ?_, ?_⟩
    · rw [← hr]
      rfl
    · refine .sources name ?_ outcome marks
      exact congrArg (· + 1) reads
    · intro e he
      show (t.script t.reads).1 = (s.script s.reads).1
      rw [reads]
      rcases marks s.reads with hm | ⟨b, b', l, -, -, hl, -⟩
      · exact hm
      · rw [hl] at he
        cases he
    · intro l hl
      rcases marks s.reads with hm | ⟨b, b', l', hs, ht, hl', hp, hpos⟩
      · left
        show (t.script t.reads).1 = (s.script s.reads).1
        rw [reads, hm]
      · obtain rfl : l' = l := Except.ok.inj (hl'.symm.trans hl)
        refine .inr ⟨⟨b, b', hs, ?_⟩, hp, hpos⟩
        show (t.script t.reads).1 = .bool b'
        rw [reads, ht]

end Beside

end Feed

namespace Source

variable (lines : List String) (name : Datum)

theorem script_ofLines (late : Bool) (before : Datum) (k : Nat) :
    ((ofLines lines late name before).script k).2 = .ok (.ofString (lines.getD k "")) := rfl

/-- The marks differ when the last line is read, and only then. -/
theorem beside_ofLines (hne : ∀ l ∈ lines, l ≠ "") (before before' : Datum) :
    (Feed.source (ofLines lines false name before)).Beside
      (.source (ofLines lines true name before')) := by
  refine .sources rfl rfl (fun _ => rfl) fun k => ?_
  by_cases hk : k < lines.length
  · right
    refine ⟨_, _, .ofString lines[k], rfl, rfl, ?_, trivial, ?_⟩
    · rw [script_ofLines, List.getD_eq_getElem?_getD, List.getElem?_eq_getElem hk]
      rfl
    · exact Line.size_ofString_pos (hne lines[k] (List.getElem_mem hk))
  · left
    have hlate : lines.length ≤ k := Nat.not_lt.1 hk
    have hearly : lines.length ≤ k + 1 := Nat.le_succ_of_le hlate
    show Datum.bool (decide (lines.length ≤ k)) = Datum.bool (decide (lines.length ≤ k + 1))
    rw [decide_eq_true hlate, decide_eq_true hearly]

end Source

/-! ## Lines of a source -/

/-- A source after some reads has the same script. -/
theorem Feed.after_source (s : Source) (n : Nat) :
    ∃ t : Source, (Feed.source s).after n = .source t ∧ t.script = s.script ∧
      t.reads = s.reads + n := by
  induction n generalizing s with
  | zero => exact ⟨s, rfl, rfl, rfl⟩
  | succ n ih =>
    obtain ⟨t, ht, hscript, hreads⟩ := ih s.readLine.2
    refine ⟨t, ht, hscript, ?_⟩
    rw [hreads]
    show s.reads + 1 + n = s.reads + (n + 1)
    omega

/-- Whenever it says that its end is reached, a source of lines holds these lines. -/
theorem Source.holds_ofLines (lines : List String) (hne : ∀ l ∈ lines, l ≠ "") (late : Bool)
    (name before : Datum) :
    (Feed.source (ofLines lines late name before)).Holds (lines.map .ofString) := by
  have hread (n : Nat) : ∃ t : Source,
      ((Feed.source (ofLines lines late name before)).after n).readLine =
        (.ok (.ofString (lines.getD n "")), .source t) ∧
      t.ended = .bool (lines.length ≤ if late then n else n + 1) := by
    obtain ⟨t, ht, hscript, hreads⟩ := Feed.after_source (ofLines lines late name before) n
    have hn : t.script t.reads = (ofLines lines late name before).script n := by
      rw [hscript, hreads]
      exact congrArg _ (Nat.zero_add n)
    refine ⟨t.readLine.2, ?_, ?_⟩
    · rw [ht]
      show ((t.script t.reads).2, Feed.source t.readLine.2) = _
      rw [hn]
      rfl
    · show (t.script t.reads).1 = _
      rw [hn]
      rfl
  refine ⟨fun l hl => ?_, fun l hl => ?_, fun n l hl => ?_, fun n hn => ?_⟩
  · obtain ⟨text, -, rfl⟩ := List.mem_map.1 hl
    trivial
  · obtain ⟨text, ht, rfl⟩ := List.mem_map.1 hl
    exact Line.size_ofString_pos (hne text ht)
  · obtain ⟨t, hr, -⟩ := hread n
    rw [List.getElem?_map, Option.map_eq_some_iff] at hl
    obtain ⟨text, ht, rfl⟩ := hl
    rw [hr, List.getD_eq_getElem?_getD, ht]
    rfl
  · obtain ⟨t, hr, he⟩ := hread n
    rw [List.length_map] at hn
    refine ⟨.ofString "", ?_, trivial, rfl, ?_⟩
    · rw [hr, List.getD_eq_getElem?_getD, List.getElem?_eq_none hn]
      rfl
    · rw [hr]
      show t.ended.truthy = true
      have hle : lines.length ≤ if late then n else n + 1 := by
        split <;> omega
      rw [he, decide_eq_true hle]
      rfl

end LineCursor
