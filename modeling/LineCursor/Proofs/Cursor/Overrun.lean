import LineCursor.Proofs.Cursor.Accounting

/-!
Cursors on files whose reads have failed.

A move that fails leaves a cursor behind the last character of its line, and each further one that
fails takes it one column further.  So on a file the place of a cursor follows from the number of
reads that have failed since its line came (`Outline.Overruns`, `Reached.overruns`):

    no failure    a character is in front, or the end is reached
    k failures    column = length of the line + k, and the end is not reached

In the second case no character is in front of the cursor, though it is not at the end
(`Reached.front_exhausted_iff`), and from the second failure in a row on it lies beyond the place
behind its line (`Reached.column_le_iff`).
-/

namespace LineCursor

namespace Outline

/-- The place of an outline after so many failed reads on its line. -/
def Overruns (o : Outline) (failures : Nat) : Prop :=
  (failures = 0 ∧ o.Settled) ∨
    (0 < failures ∧ o.index + 1 = o.buffer.size + failures ∧ o.feed.ended.truthy = false)

/-- The outline has read a file, and its place follows from the failures. -/
structure OnReadFile (o : Outline) (feed : Feed) (n : Nat) : Prop where
  onFile : o.OnFile
  hasRead : o.HasRead feed n
  overruns : o.Overruns (feed.failing n)

section

variable {o : Outline} {k : Nat}

theorem Overruns.atEnd_of_pos (h : o.Overruns k) (hk : 0 < k) : o.atEnd = false := by
  rcases h with ⟨rfl, -⟩ | ⟨-, -, he⟩
  · omega
  · rw [atEnd, he, Bool.false_and]

/-- Behind the last character the next failure is one column further. -/
theorem Overruns.of_error (h : o.Overruns k) (ha : o.atEnd = false)
    (hi : o.buffer.size ≤ o.index + 1) {g : Feed} (hg : g.ended.truthy = false) :
    ({ o with feed := g, index := o.index + 1 } : Outline).Overruns (k + 1) := by
  refine .inr ⟨Nat.succ_pos k, ?_, hg⟩
  show o.index + 1 + 1 = o.buffer.size + (k + 1)
  rcases h with ⟨rfl, hs⟩ | ⟨-, hk, -⟩
  · have := hs.lt ha
    omega
  · omega

theorem Overruns.index_le_iff (h : o.Overruns k) : o.index ≤ o.buffer.size ↔ k ≤ 1 := by
  rcases h with ⟨rfl, hi | ha⟩ | ⟨hk, hi, -⟩
  · omega
  · simp only [atEnd, Bool.and_eq_true, beq_iff_eq] at ha
    omega
  · omega

/-- The cursor is in front of a character if no read has failed and the end is not reached. -/
theorem Overruns.lt_iff (h : o.Overruns k) :
    o.index < o.buffer.size ↔ k = 0 ∧ o.atEnd = false := by
  rcases h with ⟨rfl, hs⟩ | ⟨hk, hi, -⟩
  · exact ⟨fun hi => ⟨rfl, atEnd_of_lt hi⟩, fun ⟨_, ha⟩ => hs.lt ha⟩
  · omega

/-- A character is in front, or the end is reached, or a read has failed. -/
theorem Overruns.front_cases (h : o.Overruns k) :
    (k = 0 ∧ o.atEnd = false ∧ ∃ x, o.front = .ok x ∧ x.length? = some 1) ∨
      (k = 0 ∧ o.atEnd = true ∧ o.front = .error (.exhausted o.location)) ∨
      (0 < k ∧ o.atEnd = false ∧ o.front = .error (.exhausted o.location)) := by
  rcases Nat.eq_zero_or_pos k with hk | hk
  · cases ha : o.atEnd with
    | false => exact .inl ⟨hk, rfl, o.front_of_lt (h.lt_iff.2 ⟨hk, ha⟩)⟩
    | true =>
      refine .inr (.inl ⟨hk, rfl, o.front_of_le (Nat.not_lt.1 fun hi => ?_)⟩)
      rw [(h.lt_iff.1 hi).2] at ha
      cases ha
  · refine .inr (.inr ⟨hk, h.atEnd_of_pos hk, o.front_of_le (Nat.not_lt.1 fun hi => ?_)⟩)
    have := (h.lt_iff.1 hi).1
    omega

end

namespace OnReadFile

variable {o : Outline} {feed : Feed} {n : Nat}

theorem advance (h : o.OnReadFile feed n) : ∃ m, o.advance.2.OnReadFile feed m := by
  have hfile := h.onFile.advance
  obtain ⟨f, hf, hsound⟩ := h.onFile
  rcases o.advance_cases with
    ⟨-, he⟩ | ⟨ha, hi, he⟩ | ⟨e, g, ha, hi, hr, he⟩ | ⟨l, g, -, -, hr, he⟩
  · rw [he]
    exact ⟨n, h⟩
  · rw [he] at hfile ⊢
    have hk := ((h.overruns.lt_iff).1 (by omega)).1
    exact ⟨n, hfile, ⟨h.hasRead.lines, h.hasRead.reads, h.hasRead.rest⟩, .inl ⟨hk, .inl hi⟩⟩
  · rw [he] at hfile ⊢
    obtain ⟨hread, hfailing⟩ := h.hasRead.of_error hr (o.index + 1)
    refine ⟨n + 1, hfile, hread, ?_⟩
    rw [hfailing]
    refine h.overruns.of_error ha hi ?_
    rw [hf] at hr
    exact Feed.ended_of_error hsound hr
  · rw [he] at hfile ⊢
    obtain ⟨hread, hfailing⟩ := h.hasRead.of_ok hr
    refine ⟨n + 1, hfile, hread, .inl ⟨hfailing, ?_⟩⟩
    rw [hf] at hr
    exact settled_of_read hsound _ hr

theorem marked (h : o.OnReadFile feed n) (ended : Datum) : (o.marked ended).OnReadFile feed n := by
  rw [h.onFile.marked_eq]
  exact h

theorem after (h : o.OnReadFile feed n) (events : List Event) :
    ∃ m, (o.after events).OnReadFile feed m := by
  refine after_induction (P := fun o => ∃ m, o.OnReadFile feed m) ?_ ?_ events ⟨n, h⟩
  · rintro p ⟨m, hp⟩
    exact hp.advance
  · rintro p ended ⟨m, hp⟩
    exact ⟨m, hp.marked ended⟩

end OnReadFile

end Outline

namespace Cursor

/-- The number of reads of a feed that have failed since the cursor came to its line. -/
def failures (d : Cursor) (feed : Feed) : Nat :=
  feed.failing (d.readsSince feed)

section

variable {o : Offer} {f : FileFeed} {d : Cursor}

theorem Reached.overruns (ho : o.toFeed = .ok (.file f)) (h : Reached (.file f) d) :
    ∃ p : Outline, d.Shows d.settings p ∧ p.Plain ∧ p.Overruns (d.failures (.file f)) := by
  have hsound := Feed.sound_of_toFeed ho
  obtain ⟨l, g, events, hr, hs, hp⟩ := h.exists_outline (Feed.plain_file f hsound)
  have hfirst : (⟨g, [], l, 0⟩ : Outline).OnReadFile (.file f) 1 := by
    refine ⟨?_, .first hr, .inl ⟨?_, Outline.settled_of_read hsound [] hr⟩⟩
    · exact Feed.file_of_readLine hsound hr
    · exact Feed.failing_succ_of_ok (by rw [Feed.after, hr])
  obtain ⟨n, hread⟩ := hfirst.after events
  refine ⟨_, hs, hp, ?_⟩
  rw [failures, hs.readsSince_eq hread.hasRead]
  exact hread.overruns

/-- On a file line and column are at least one, and the index of the column is at most the length of
the line exactly if at most one read has failed since the cursor came to that line.  After some
failures the column lies as many places behind the line. -/
theorem Reached.column_le_iff (ho : o.toFeed = .ok (.file f)) (h : Reached (.file f) d) :
    1 ≤ d.line ∧ 1 ≤ d.column ∧ ∃ n, d.buffer.length = .ok n ∧
      (d.column - 1 ≤ n ↔ d.failures (.file f) ≤ 1) ∧
      (0 < d.failures (.file f) → d.column = n + d.failures (.file f)) := by
  obtain ⟨p, hs, hp, hover⟩ := h.overruns ho
  refine ⟨?_, ?_, p.buffer.size, hs.length_eq hp.buffer, ?_, fun hk => ?_⟩
  · rw [hs.line]
    exact Nat.le_add_left _ _
  · rw [hs.column]
    exact Nat.le_add_left _ _
  · rw [hs.column, Nat.add_sub_cancel]
    exact hover.index_le_iff
  · rw [hs.column]
    rcases hover with ⟨hk', -⟩ | ⟨-, hi, -⟩
    · omega
    · exact hi

/-- A file that fails twice behind its first line. -/
def failingTwice : File where
  script := File.scriptOf
    #[.ok (.text #['a', '\n']), .error (.device "OSError" "busy"),
      .error (.device "OSError" "gone"), .ok (.text #['b'])] (.ok (.text #[]))

/-- One failure behind the line leaves the cursor next to it. -/
theorem column_le_iff_once :
    (Offer.ofFile failingTwice .absent).toFeed = .ok (.file { file := failingTwice }) ∧
      ∃ d, Reached (.file { file := failingTwice }) d ∧
        d.failures (.file { file := failingTwice }) = 1 ∧
        d.buffer.length = .ok 2 ∧ d.column - 1 ≤ 2 := by
  have ho : (Offer.ofFile failingTwice .absent).toFeed = .ok (.file { file := failingTwice }) :=
    rfl
  have hd := reached_of_start (.file { file := failingTwice }) {} {} rfl
    [.popFront, .popFront]
  obtain ⟨-, -, n, hn, hle, -⟩ := Reached.column_le_iff ho hd
  cases hn
  exact ⟨ho, _, hd, rfl, rfl, hle.2 (by decide)⟩

/-- The second failure in a row takes the column beyond the place behind the line. -/
theorem column_beyond_line :
    (Offer.ofFile failingTwice .absent).toFeed = .ok (.file { file := failingTwice }) ∧
      ∃ d, Reached (.file { file := failingTwice }) d ∧
        d.buffer.length = .ok 2 ∧ ¬ d.column - 1 ≤ 2 :=
  ⟨rfl, _, reached_of_start _ {} {} rfl [.popFront, .popFront, .popFront], rfl,
    by decide⟩

/-- On a file the character in front is missing exactly at the end, and else there is one, as long
as no read has failed since the cursor came to its line.  After a failure it is missing though the
end is not reached. -/
theorem Reached.front_exhausted_iff (ho : o.toFeed = .ok (.file f)) (h : Reached (.file f) d) :
    (∃ b, d.atEnd = .ok b) ∧
      ((((∃ place, d.front.1 = .error (.exhausted place)) ↔ d.atEnd = .ok true) ∧
          (d.atEnd = .ok false → ∃ x, d.front.1 = .ok x ∧ x.length? = some 1)) ↔
        d.failures (.file f) = 0) ∧
      (0 < d.failures (.file f) →
        d.atEnd = .ok false ∧ d.front.1 = .error (.exhausted d.location)) := by
  obtain ⟨p, hs, hp, hover⟩ := h.overruns ho
  have ha := hs.atEnd hp.buffer
  have hfront := (hs.front hp.buffer).1
  rw [ha, hfront, hs.location]
  refine ⟨⟨_, rfl⟩, ?_⟩
  rcases hover.front_cases with ⟨hk, ha, x, hx, h1⟩ | ⟨hk, ha, hx⟩ | ⟨hk, ha, hx⟩
  · rw [ha, hx, hk]
    simp [h1]
  · rw [ha, hx, hk]
    simp
  · rw [ha, hx]
    simp [Nat.ne_of_gt hk]

/-- Behind the first line the character is missing after the failure, and it comes when the move is
repeated. -/
theorem front_exhausted_iff_failed :
    (Offer.ofFile failingTwice .absent).toFeed = .ok (.file { file := failingTwice }) ∧
      ∃ d, Reached (.file { file := failingTwice }) d ∧
        0 < d.failures (.file { file := failingTwice }) ∧
        d.atEnd = .ok false ∧ d.front.1 = .error (.exhausted d.location) ∧
        (d.after [.popFront, .popFront]).front.1 = .ok (.str "b") := by
  have ho : (Offer.ofFile failingTwice .absent).toFeed = .ok (.file { file := failingTwice }) :=
    rfl
  have hd := reached_of_start (.file { file := failingTwice }) {} {} rfl
    [.popFront, .popFront]
  obtain ⟨-, -, hfailed⟩ := Reached.front_exhausted_iff ho hd
  exact ⟨ho, _, hd, by decide, (hfailed (by decide)).1, (hfailed (by decide)).2, rfl⟩

/-- The end is not all that the missing character stands for. -/
theorem exhausted_before_end :
    (Offer.ofFile failingTwice .absent).toFeed = .ok (.file { file := failingTwice }) ∧
      ∃ d, Reached (.file { file := failingTwice }) d ∧
        ¬ ((∃ place, d.front.1 = .error (.exhausted place)) ↔ d.atEnd = .ok true) := by
  refine ⟨rfl, _, reached_of_start _ {} {} rfl [.popFront, .popFront], fun h => ?_⟩
  cases h.1 ⟨_, rfl⟩

end

end Cursor

end LineCursor
