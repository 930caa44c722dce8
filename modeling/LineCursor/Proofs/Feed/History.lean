import Mathlib.Data.List.DropRight
import LineCursor.Proofs.Feed

/-!
What the reads of a feed have given so far.

Of the next reads of a feed, `Feed.outcomes` lists what each gives and `Feed.lines` the lines among
that; `Feed.failed` counts the failures, and `Feed.failing` those behind the last line.  One read
more adds one outcome:

    f.outcomes (n + 1) = f.outcomes n ++ [(f.after n).readLine.1]      (outcomes_succ)

A source may change what it says about its end without being read (`Feed.marked`); its reads go on
as before.
-/

namespace LineCursor.Feed

/-- What the next `n` reads give. -/
def outcomes (f : Feed) (n : Nat) : List (Except Fault Line) :=
  (List.range n).map fun k => (f.after k).readLine.1

/-- The lines that the next `n` reads give, but for those that fail. -/
def lines (f : Feed) (n : Nat) : List Line :=
  (f.outcomes n).filterMap (·.toOption)

/-- The number of failures among the next `n` reads. -/
def failed (f : Feed) (n : Nat) : Nat :=
  (f.outcomes n).countP (!·.isOk)

/-- The number of failures behind the last line that the next `n` reads give. -/
def failing (f : Feed) (n : Nat) : Nat :=
  ((f.outcomes n).rtakeWhile (!·.isOk)).length

/-- A source with another mark of its end.  The adapter around a file sets that mark by itself. -/
def marked (ended : Datum) : Feed → Feed
  | source s => source { s with ended }
  | file f => file f

theorem readLine_marked (f : Feed) (ended : Datum) : (f.marked ended).readLine = f.readLine := by
  cases f <;> rfl

theorem reads_marked (f : Feed) (ended : Datum) : (f.marked ended).reads = f.reads := by
  cases f <;> rfl

theorem Plain.marked {f : Feed} (h : f.Plain) (ended : Datum) : (f.marked ended).Plain := by
  intro n l hl
  cases n with
  | zero =>
    change (f.marked ended).readLine.1 = .ok l at hl
    rw [f.readLine_marked] at hl
    exact h 0 l hl
  | succ n =>
    change ((f.marked ended).readLine.2.after n).readLine.1 = .ok l at hl
    rw [f.readLine_marked] at hl
    exact h (n + 1) l hl

/-- The lines of a source are plain if those of its script are. -/
theorem plain_source (s : Source) (h : ∀ k l, (s.script k).2 = .ok l → l.IsPlain) :
    (source s).Plain := by
  intro n
  induction n generalizing s with
  | zero => exact h s.reads
  | succ n ih => exact ih s.readLine.2 h

/-- Each read counts, also one that fails or leaves the file alone. -/
theorem reads_readLine (f : Feed) : f.readLine.2.reads = f.reads + 1 := by
  cases f with
  | source s => rfl
  | file f =>
    show f.readLine.2.reads = f.reads + 1
    unfold FileFeed.readLine
    dsimp only
    repeat' split
    all_goals rfl

theorem after_succ (f : Feed) (n : Nat) : f.after (n + 1) = (f.after n).readLine.2 := by
  induction n generalizing f with
  | zero => rfl
  | succ n ih => exact ih f.readLine.2

section

variable (f : Feed) (n : Nat)

theorem outcomes_succ : f.outcomes (n + 1) = f.outcomes n ++ [(f.after n).readLine.1] := by
  rw [outcomes, outcomes, List.range_succ, List.map_append]
  rfl

theorem taken_succ : f.taken (n + 1) = f.taken n + given (f.after n).readLine.1 := by
  induction n generalizing f with
  | zero => exact Nat.add_comm _ _
  | succ n ih =>
    have h := ih f.readLine.2
    show given f.readLine.1 + f.readLine.2.taken (n + 1) = _
    rw [h, ← Nat.add_assoc]
    rfl

end

section

variable {f : Feed} {n : Nat}

theorem lines_succ_of_ok {l : Line} (h : (f.after n).readLine.1 = .ok l) :
    f.lines (n + 1) = f.lines n ++ [l] := by
  rw [lines, outcomes_succ, h, List.filterMap_append]
  rfl

theorem lines_succ_of_error {e : Fault} (h : (f.after n).readLine.1 = .error e) :
    f.lines (n + 1) = f.lines n := by
  rw [lines, outcomes_succ, h, List.filterMap_append]
  exact List.append_nil _

theorem failing_succ_of_ok {l : Line} (h : (f.after n).readLine.1 = .ok l) :
    f.failing (n + 1) = 0 := by
  rw [failing, outcomes_succ, h, List.rtakeWhile_concat_neg]
  · rfl
  · simp [Except.isOk, Except.toBool]

theorem failing_succ_of_error {e : Fault} (h : (f.after n).readLine.1 = .error e) :
    f.failing (n + 1) = f.failing n + 1 := by
  rw [failing, outcomes_succ, h, List.rtakeWhile_concat_pos]
  · exact List.length_append
  · rfl

end

theorem Plain.of_mem_lines {f : Feed} (h : f.Plain) {n : Nat} {l : Line} (hl : l ∈ f.lines n) :
    l.IsPlain := by
  obtain ⟨outcome, hm, hl⟩ := List.mem_filterMap.1 hl
  obtain ⟨k, -, rfl⟩ := List.mem_map.1 hm
  cases hr : (f.after k).readLine.1 with
  | error e =>
    rw [hr] at hl
    cases hl
  | ok l' =>
    rw [hr] at hl
    cases hl
    exact h k l hr

/-- Each read gives a line or fails. -/
theorem length_lines_add_failed (f : Feed) (n : Nat) : (f.lines n).length + f.failed n = n := by
  induction n with
  | zero => rfl
  | succ n ih =>
    rw [failed, outcomes_succ, List.countP_append, ← failed]
    cases h : (f.after n).readLine.1 with
    | error e =>
      rw [lines_succ_of_error h, ← Nat.add_assoc, ih]
      rfl
    | ok l =>
      rw [lines_succ_of_ok h, List.length_append, Nat.add_right_comm, ← Nat.add_assoc, ih]
      rfl

/-- The characters that reads give are those of their lines. -/
theorem taken_eq_sum (f : Feed) (n : Nat) : f.taken n = ((f.lines n).map Line.size).sum := by
  induction n with
  | zero => rfl
  | succ n ih =>
    rw [taken_succ, ih]
    cases h : (f.after n).readLine.1 with
    | error e => rw [lines_succ_of_error h, given, Nat.add_zero]
    | ok l => rw [lines_succ_of_ok h, given, List.map_append, List.sum_append, List.map_singleton,
        List.sum_singleton]

end LineCursor.Feed
