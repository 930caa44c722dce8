import LineCursor.Proofs.Cursor.Accounting
import LineCursor.Proofs.Log.Notice

/-!
The records of a cursor on a file are the history of its reads.

What an event tells follows from what can be seen of the cursor before and behind it
(`Cursor.notices`), and the story of a cursor is what its opening and all events since have told
(`Cursor.story`).  A verbose cursor on a file has written just that (`journal_eq_story`).  So its
records give back what its file gave:

    reads      the outcomes of all reads, in order
    refills    the lines 2, 3, …, line
    the end    once if the end is reached, behind the record of the line that brought it
-/

namespace LineCursor

open Log

/-! ## Notices of events -/

namespace Cursor

/-- What a move tells: nothing on the same line unless a read fails, else the line that came, and
the end if that line brings it. -/
def moveNotices (c : Cursor) : List Notice :=
  if c.popFront.2.line = c.line then
    match c.popFront.1 with
    | .ok () => []
    | .error e => [.failed c.line e]
  else .refilled c.popFront.2.line c.popFront.2.buffer.size :: c.popFront.2.endNotices

/-- What an event tells.  Whoever takes a character looks at the front first. -/
def notices (c : Cursor) : Event → List Notice
  | .look .front => c.missedNotices
  | .look _ => []
  | .popFront => c.moveNotices
  | .next =>
    match c.atEnd, c.front.1 with
    | .ok false, .ok _ => c.moveNotices
    | .ok false, .error _ => c.missedNotices
    | _, _ => []
  | .mark _ => []

def history (c : Cursor) : List Event → List Notice
  | [] => []
  | e :: events => c.notices e ++ (c.step e).2.history events

/-- What a cursor tells that was just opened, and in all events from then on. -/
def story (c : Cursor) (events : List Event) : List Notice :=
  .opened c.buffer.size :: (c.endNotices ++ c.history events)

/-- The cursor is on a file, tells all it does, and has told its end if it has reached it. -/
structure Reports (c : Cursor) (s : Settings) (o : Outline) : Prop where
  shows : c.Shows s o
  plain : o.Plain
  onFile : o.OnFile
  ordinary : o.feed.Ordinary
  verbose : c.Verbose
  noted : c.endNoted = o.atEnd

theorem endNotices_of_before {c : Cursor} (h : c.atEnd = .ok false) : c.endNotices = [] := by
  rw [endNotices, h]

namespace Reports

variable {c d : Cursor} {s : Settings} {o : Outline}

theorem endNotices_eq_nil (h : c.Reports s o) (ha : o.atEnd = false) : c.endNotices = [] :=
  endNotices_of_before (by rw [h.shows.atEnd h.plain.buffer, ha])

/-- What leaves the outline alone leaves a reporting cursor. -/
theorem of_tells (h : c.Reports s o) (hs : d.Shows s o) {l : List Notice} (ht : c.Tells d l)
    (hn : d.endNoted = c.endNoted) : d.Reports s o :=
  ⟨hs, h.plain, h.onFile, h.ordinary, ht.verbose h.verbose, hn.trans h.noted⟩

/-- Before the end a move counts a character, which tells nothing, and goes on behind it. -/
theorem counted (h : c.Reports s o) (ha : o.atEnd = false) :
    ∃ d, c.Tells d [] ∧ d.endNoted = false ∧ d.line = c.line ∧
      d.Shows s { o with index := o.index + 1 } ∧
      c.popFront = if o.index + 1 < o.buffer.size then (.ok (), d) else d.refill := by
  obtain ⟨d, hd, hs, hpop⟩ := h.shows.popFront_of_before h.plain.buffer ha
  obtain ⟨t, rfl⟩ := eq_of_countCharacter hd
  refine ⟨_, ?_, ?_, ?_, hs, hpop⟩
  · exact .of_eq rfl rfl rfl rfl
  · exact h.noted.trans ha
  · rfl

theorem move_of_atEnd (h : c.Reports s o) (ha : o.atEnd = true) :
    c.popFront = (.ok (), c) ∧ c.moveNotices = [] := by
  have hpop : c.popFront = (.ok (), c) := by
    rw [popFront, h.shows.atEnd h.plain.buffer, ha]
  refine ⟨hpop, ?_⟩
  rw [moveNotices, hpop]
  exact if_pos rfl

theorem move_of_lt (h : c.Reports s o) (ha : o.atEnd = false)
    (hi : o.index + 1 < o.buffer.size) :
    ∃ d, c.popFront = (.ok (), d) ∧ c.moveNotices = [] ∧ c.Tells d [] ∧
      d.Reports s { o with index := o.index + 1 } := by
  obtain ⟨d, ht, hn, hl, hs, hpop⟩ := h.counted ha
  rw [if_pos hi] at hpop
  refine ⟨d, hpop, ?_, ht, hs, ⟨h.plain.buffer, h.plain.feed⟩, h.onFile, h.ordinary,
    ht.verbose h.verbose, ?_⟩
  · rw [moveNotices, hpop]
    exact if_pos hl
  · have hne : (o.index + 1 == o.buffer.size) = false := beq_false_of_ne (Nat.ne_of_lt hi)
    show d.endNoted = (o.feed.ended.truthy && (o.index + 1 == o.buffer.size))
    rw [hn, hne, Bool.and_false]

theorem ended_of_error (h : c.Reports s o) {e : Fault} {g : Feed}
    (hr : o.feed.readLine = (.error e, g)) : g.ended.truthy = false := by
  obtain ⟨f, hf, hsound⟩ := h.onFile
  rw [hf] at hr
  exact Feed.ended_of_error hsound hr

/-- A read that fails is told, and the end stays ahead. -/
theorem move_of_error (h : c.Reports s o) (ha : o.atEnd = false)
    (hi : o.buffer.size ≤ o.index + 1) {e : Fault} {g : Feed}
    (hr : o.feed.readLine = (.error e, g)) :
    ∃ d, c.popFront = (.error e, d) ∧ c.moveNotices = [.failed c.line e] ∧
      c.Tells d [.failed c.line e] ∧ d.line = c.line ∧
      d.Reports s { o with feed := g, index := o.index + 1 } := by
  obtain ⟨d, ht, hn, hl, hs, hpop⟩ := h.counted ha
  rw [if_neg (Nat.not_lt.2 hi)] at hpop
  obtain ⟨d', hd', hs'⟩ := hs.refill_of_error hr
  have hrd : d.feed.readLine = (.error e, g) := by
    rw [hs.feed]
    exact hr
  have hname : g.name = d.feed.name := by
    rw [← d.feed.name_readLine, hrd]
  have he : e.isOrdinary = true := h.ordinary 0 e (by rw [Feed.after, hr])
  obtain ⟨ht', hn'⟩ := tells_refill_error (ht.verbose h.verbose) hrd hname he
  rw [hd'] at ht' hn' hpop
  have htold := ht.trans ht'
  rw [hl, List.nil_append] at htold
  have hline : d'.line = c.line := hs'.line.trans h.shows.line.symm
  refine ⟨d', hpop, ?_, htold, hline, hs', ?_, ?_, ?_, htold.verbose h.verbose, ?_⟩
  · rw [moveNotices, hpop]
    exact if_pos hline
  · have hg := h.plain.feed.readLine
    rw [hr] at hg
    exact ⟨h.plain.buffer, hg⟩
  · obtain ⟨f, hf, hsound⟩ := h.onFile
    rw [hf] at hr
    exact Feed.file_of_readLine hsound hr
  · have hg := h.ordinary.readLine
    rw [hr] at hg
    exact hg
  · show d'.endNoted = (g.ended.truthy && _)
    rw [hn', hn, h.ended_of_error hr, Bool.false_and]

/-- The line that comes is told, and the end if it is the last one and empty. -/
theorem move_of_ok (h : c.Reports s o) (ha : o.atEnd = false)
    (hi : o.buffer.size ≤ o.index + 1) {l : Line} {g : Feed}
    (hr : o.feed.readLine = (.ok l, g)) :
    ∃ r d, c.popFront = (r, d) ∧
      c.moveNotices = .refilled (c.line + 1) l.size :: d.endNotices ∧
      c.Tells d (.refilled (c.line + 1) l.size :: d.endNotices) ∧ d.line = c.line + 1 ∧
      d.Reports s ⟨g, o.buffer :: o.past, l, 0⟩ := by
  obtain ⟨d, ht, hn, hl, hs, hpop⟩ := h.counted ha
  rw [if_neg (Nat.not_lt.2 hi)] at hpop
  have hlp : l.IsPlain := h.plain.feed 0 l (by rw [Feed.after, hr])
  obtain ⟨r, d', hd', hs', -⟩ := hs.refill_of_ok hi hlp hr
  have hrd : d.feed.readLine = (.ok l, g) := by
    rw [hs.feed]
    exact hr
  have hname : g.name = d.feed.name := by
    rw [← d.feed.name_readLine, hrd]
  obtain ⟨ht', hn'⟩ := tells_refill_ok (ht.verbose h.verbose) hn hlp hrd hname
  rw [hd'] at ht' hn' hpop
  have htold := ht.trans ht'
  rw [hl, List.nil_append] at htold
  have hline : d'.line = c.line + 1 := by
    rw [hs'.line, h.shows.line]
    rfl
  have hplain : (⟨g, o.buffer :: o.past, l, 0⟩ : Outline).Plain := by
    have hg := h.plain.feed.readLine
    rw [hr] at hg
    exact ⟨hlp, hg⟩
  refine ⟨r, d', hpop, ?_, htold, hline, hs', hplain, ?_, ?_, htold.verbose h.verbose, ?_⟩
  · have hne : ¬ d'.line = c.line := by omega
    rw [moveNotices, hpop]
    dsimp only
    rw [if_neg hne, hline, hs'.buffer]
  · obtain ⟨f, hf, hsound⟩ := h.onFile
    rw [hf] at hr
    exact Feed.file_of_readLine hsound hr
  · have hg := h.ordinary.readLine
    rw [hr] at hg
    exact hg
  · rw [hs'.atEnd hplain.buffer] at hn'
    exact (Except.ok.inj hn').symm

end Reports

/-! ## Runs -/

/-- After so many reads of a feed all that a cursor has told is known, and what was told of lines
and of the end agrees with where it stands. -/
structure Chronicled (c : Cursor) (s : Settings) (o : Outline) (feed : Feed) (n : Nat)
    (before : List Record) (told : List Notice) : Prop where
  reports : c.Reports s o
  hasRead : o.HasRead feed n
  name : c.name = feed.name
  journal : c.context.journal.toList = before ++ told.map (·.record s feed.name)
  reads : told.filterMap Notice.read? = (feed.outcomes n).map (Except.map Line.size)
  lines : told.filterMap Notice.line? = List.range' 2 (c.line - 1)
  ends : told.filter Notice.isEnd = c.endNotices

namespace Chronicled

variable {c d : Cursor} {s : Settings} {o p : Outline} {feed : Feed} {n m : Nat}
  {before : List Record} {told l : List Notice}

theorem extend (h : c.Chronicled s o feed n before told) (ht : c.Tells d l) (hr : d.Reports s p)
    (hread : p.HasRead feed m)
    (hreads : (feed.outcomes m).map (Except.map Line.size) =
      (feed.outcomes n).map (Except.map Line.size) ++ l.filterMap Notice.read?)
    (hlines : List.range' 2 (d.line - 1) =
      List.range' 2 (c.line - 1) ++ l.filterMap Notice.line?)
    (hends : d.endNotices = c.endNotices ++ l.filter Notice.isEnd) :
    d.Chronicled s p feed m before (told ++ l) where
  reports := hr
  hasRead := hread
  name := ht.name.trans h.name
  journal := by
    rw [ht.journal, h.journal, h.name, h.reports.shows.settings, List.map_append,
      List.append_assoc]
  reads := by rw [List.filterMap_append, h.reads, hreads]
  lines := by rw [List.filterMap_append, h.lines, hlines]
  ends := by rw [List.filter_append, h.ends, hends]

/-- What tells neither of a read nor of the end leaves the line and the end as they are. -/
theorem extend_quiet (h : c.Chronicled s o feed n before told) (ht : c.Tells d l)
    (hr : d.Reports s p) (hread : p.HasRead feed n) (hline : d.line = c.line)
    (hend : d.endNotices = c.endNotices) (hl : l = [] ∨ ∃ place, l = [.missed place]) :
    d.Chronicled s p feed n before (told ++ l) := by
  refine h.extend ht hr hread ?_ ?_ ?_
  · rcases hl with rfl | ⟨place, rfl⟩ <;> simp [Notice.read?]
  · rw [hline]
    rcases hl with rfl | ⟨place, rfl⟩ <;> simp [Notice.line?]
  · rw [hend]
    rcases hl with rfl | ⟨place, rfl⟩ <;> simp [Notice.isEnd]

theorem front (h : c.Chronicled s o feed n before told) :
    c.front.2.Chronicled s o feed n before (told ++ c.missedNotices) := by
  have hb : c.buffer.IsPlain := by
    rw [h.reports.shows.buffer]
    exact h.reports.plain.buffer
  have ht := tells_front h.reports.verbose hb
  have hs := (h.reports.shows.front h.reports.plain.buffer).2
  have hkept : c.Beside c.front.2 ∧ c.front.2.endNoted = c.endNoted := by
    unfold Cursor.front
    split
    · exact ⟨.refl c, rfl⟩
    · split
      · exact ⟨.refl c, rfl⟩
      · exact ⟨.note c _ _ _ _, rfl⟩
  refine h.extend_quiet ht (h.reports.of_tells hs ht hkept.2) h.hasRead hkept.1.line
    (endNotices_of_beside hkept.1) c.missedNotices_cases

theorem move (h : c.Chronicled s o feed n before told) :
    ∃ m, c.popFront.2.Chronicled s o.advance.2 feed m before (told ++ c.moveNotices) := by
  rcases o.advance_cases with
    ⟨ha, he⟩ | ⟨ha, hi, he⟩ | ⟨e, g, ha, hi, hr, he⟩ | ⟨l, g, ha, hi, hr, he⟩
  · obtain ⟨hpop, hl⟩ := h.reports.move_of_atEnd ha
    rw [he, hpop, hl, List.append_nil]
    exact ⟨n, h⟩
  · obtain ⟨d, hpop, hl, ht, hd⟩ := h.reports.move_of_lt ha hi
    have hread := h.hasRead
    have hends : d.endNotices = c.endNotices := by
      rw [h.reports.endNotices_eq_nil ha]
      refine hd.endNotices_eq_nil ?_
      simp only [Outline.atEnd, Bool.and_eq_false_iff, beq_eq_false_iff_ne]
      exact .inr (Nat.ne_of_lt hi)
    rw [he, hpop, hl]
    refine ⟨n, h.extend_quiet ht hd ⟨hread.lines, hread.reads, hread.rest⟩ ?_ hends (.inl rfl)⟩
    exact hd.shows.line.trans h.reports.shows.line.symm
  · obtain ⟨d, hpop, hl, ht, hline, hd⟩ := h.reports.move_of_error ha hi hr
    obtain ⟨hread, -⟩ := h.hasRead.of_error hr (o.index + 1)
    have hout : (feed.after n).readLine.1 = .error e := by rw [← h.hasRead.rest, hr]
    -- a read that fails leaves the end of a file ahead, so there is none to tell of
    have hends : d.endNotices = [] := by
      refine hd.endNotices_eq_nil ?_
      simp only [Outline.atEnd, h.reports.ended_of_error hr, Bool.false_and]
    rw [he, hpop, hl]
    refine ⟨n + 1, h.extend ht hd hread ?_ ?_ ?_⟩
    · rw [Feed.outcomes_succ, hout, List.map_append]
      rfl
    · rw [hline]
      simp [Notice.line?]
    · rw [hends, h.reports.endNotices_eq_nil ha]
      rfl
  · obtain ⟨r, d, hpop, hl, ht, hline, hd⟩ := h.reports.move_of_ok ha hi hr
    obtain ⟨hread, -⟩ := h.hasRead.of_ok hr
    have hout : (feed.after n).readLine.1 = .ok l := by rw [← h.hasRead.rest, hr]
    -- the cursor was before the end, so if the new line brings it nobody has told of it yet
    rw [he, hpop, hl]
    refine ⟨n + 1, h.extend ht hd hread ?_ ?_ ?_⟩
    · rw [Feed.outcomes_succ, hout, List.map_append, List.filterMap_cons,
        filterMap_read?_endNotices]
      rfl
    · have hnext : List.range' 2 (o.past.length + 1) =
          List.range' 2 o.past.length ++ [o.past.length + 2] := by
        rw [List.range'_1_concat, Nat.add_comm 2]
      rw [hline, h.reports.shows.line, List.filterMap_cons, filterMap_line?_endNotices]
      exact hnext
    · rw [h.reports.endNotices_eq_nil ha, List.filter_cons_of_neg (by simp [Notice.isEnd]),
        filter_isEnd_endNotices]
      rfl

/-- On a file no event but a move or a look at the front tells anything. -/
theorem step (h : c.Chronicled s o feed n before told) (e : Event) :
    ∃ m, (c.step e).2.Chronicled s (o.step e).2 feed m before (told ++ c.notices e) := by
  cases e with
  | look l =>
    cases l with
    | front => exact ⟨n, h.front⟩
    | location =>
      show ∃ m, c.Chronicled s o feed m before (told ++ [])
      rw [List.append_nil]
      exact ⟨n, h⟩
    | atEnd =>
      show ∃ m, c.Chronicled s o feed m before (told ++ [])
      rw [List.append_nil]
      exact ⟨n, h⟩
  | popFront => exact h.move
  | next =>
    show ∃ m, c.next?.2.Chronicled s o.next?.2 feed m before (told ++ c.notices .next)
    have hat := h.reports.shows.atEnd h.reports.plain.buffer
    have hfront := (h.reports.shows.front h.reports.plain.buffer).1
    unfold Outline.next? notices
    cases ha : o.atEnd with
    | true =>
      rw [ha] at hat
      rw [next?_of_atEnd hat, hat, List.append_nil]
      exact ⟨n, h⟩
    | false =>
      rw [ha] at hat
      cases hx : o.buffer.characters[o.index]? with
      | none =>
        have hnone : o.front = .error (.exhausted o.location) := by rw [Outline.front, hx]
        rw [hnone] at hfront ⊢
        rw [next?_of_front_error hat hfront, hat, hfront]
        exact ⟨n, h.front⟩
      | some x =>
        have hsome : o.front = .ok x := by rw [Outline.front, hx]
        rw [hsome] at hfront ⊢
        rw [next?_of_front_ok hat (h.reports.shows.front_of_some h.reports.plain.buffer hx), hat,
          hfront]
        exact h.move
  | mark ended =>
    have ho : (o.step (.mark ended)).2 = o := h.reports.onFile.marked_eq ended
    have hfeed : o.feed.marked ended = o.feed := congrArg Outline.feed ho
    have hc : (c.step (.mark ended)).2 = c := by
      show ({ c with feed := c.feed.marked ended } : Cursor) = c
      rw [h.reports.shows.feed, hfeed, ← h.reports.shows.feed]
    rw [hc, ho, notices, List.append_nil]
    exact ⟨n, h⟩

theorem after (h : c.Chronicled s o feed n before told) (events : List Event) :
    ∃ m, (c.after events).Chronicled s (o.after events) feed m before
      (told ++ c.history events) := by
  induction events generalizing c o n told with
  | nil =>
    rw [history, List.append_nil]
    exact ⟨n, h⟩
  | cons e events ih =>
    obtain ⟨m, hstep⟩ := h.step e
    obtain ⟨m', hafter⟩ := ih hstep
    rw [List.append_assoc] at hafter
    exact ⟨m', hafter⟩

/-- A cursor opens on a file that gives a line first, and has told that. -/
theorem start {f : FileFeed} (hsound : f.Sound) (hordinary : (Feed.file f).Ordinary)
    {l : Line} {g : Feed} (hl : l.IsPlain) (hr : (Feed.file f).readLine = (.ok l, g))
    {x : Context} (hv : ({ settings := s, context := x, feed := .file f } : Cursor).Verbose) :
    ∃ c, Cursor.start (.file f) s x = (.ok (), c) ∧ c.buffer = l ∧
      c.Chronicled s ⟨g, [], l, 0⟩ (.file f) 1 x.journal.toList
        (.opened c.buffer.size :: c.endNotices) := by
  obtain ⟨c, hc, hs⟩ := start_of_ok hl hr s x
  have hname := (Feed.file f).name_readLine
  rw [hr] at hname
  obtain ⟨ht, hn⟩ := tells_start hv hl hr hname
  rw [hc] at ht hn
  have hplain : (⟨g, [], l, 0⟩ : Outline).Plain := by
    have hg := (Feed.plain_file f hsound).readLine
    rw [hr] at hg
    exact ⟨hl, hg⟩
  rw [hs.atEnd hplain.buffer] at hn
  have hfile : (⟨g, [], l, 0⟩ : Outline).OnFile := Feed.file_of_readLine hsound hr
  have hord : g.Ordinary := by
    have hg := hordinary.readLine
    rw [hr] at hg
    exact hg
  refine ⟨c, hc, hs.buffer, ?_⟩
  rw [hs.buffer]
  refine ⟨⟨hs, hplain, hfile, hord, ht.verbose hv, (Except.ok.inj hn).symm⟩, .first hr, ht.name,
    ht.journal, ?_, ?_, ?_⟩
  · have hout : (Feed.file f).outcomes 1 = [.ok l] := by
      rw [Feed.outcomes_succ, Feed.after, hr]
      rfl
    rw [hout, List.filterMap_cons, filterMap_read?_endNotices]
    rfl
  · rw [hs.line, List.filterMap_cons, filterMap_line?_endNotices]
    rfl
  · rw [List.filter_cons_of_neg (by simp [Notice.isEnd]), filter_isEnd_endNotices]

end Chronicled

/-- A cursor that records everything, on a file that gives a line first and is never interrupted.
Behind the records that were there before, its records are those of its story: one for the opening,
one for each read since, one for each look at the front in vain, and one for the end behind the
record of the line that brought it.  So they tell all reads of the file in order, and their lines
are 2, 3 and so on up to the cursor's own; the end is told once if the cursor is there, and not
otherwise. -/
theorem journal_eq_story {o : Offer} {f : FileFeed} (ho : o.toFeed = .ok (.file f))
    (hfirst : ∃ l, f.file.script f.file.reads = .ok l ∧ l.IsPlain)
    (hordinary : ∀ k e, f.file.script k = .error e → e.isOrdinary = true) (s : Settings)
    (hthreshold : Severity.ofSpelling? s.threshold = some .debug)
    (hrefills : s.refillRecords.truthy = true) (x : Context)
    (hlevel : x.levels.effective "lexstream.character.stream" ≤ 10) :
    ∃ c, Cursor.start (.file f) s x = (.ok (), c) ∧ ∀ events,
      (c.after events).context.journal.toList =
        x.journal.toList ++ (c.story events).map (·.record s (.ofString? f.name)) ∧
      (c.story events).filterMap Notice.read? =
        ((Feed.file f).outcomes ((c.after events).readsSince (.file f))).map
          (Except.map Line.size) ∧
      (c.story events).filterMap Notice.line? = List.range' 2 ((c.after events).line - 1) ∧
      (c.story events).filter Notice.isEnd = (c.after events).endNotices ∧
      ((Feed.file f).taken ((c.after events).readsSince (.file f)) < 2 ^ 1000 →
        ((∃ metrics, (c.story events).filter Notice.isEnd = [.ended metrics]) ↔
          (c.after events).atEnd = .ok true)) := by
  obtain ⟨hopen, hn, -⟩ := Feed.toFeed_file ho
  have hsound := Feed.sound_of_toFeed ho
  obtain ⟨l, hscript, hl⟩ := hfirst
  have hread := f.file.readLine_of_open hopen
  rw [hscript] at hread
  obtain ⟨blank, b, -, -, -, he⟩ := FileFeed.readLine_of_plain hn hl hread
  have hleast : s.level ≤ 10 := by
    rw [Settings.level, hthreshold]
    exact Int.le_refl 10
  obtain ⟨c, hc, -, hopened⟩ := Chronicled.start hsound (Feed.ordinary_file f hopen hordinary) hl
    (Feed.readLine_file he) ⟨hleast, hlevel, hrefills⟩
  refine ⟨c, hc, fun events => ?_⟩
  obtain ⟨n, h⟩ := hopened.after events
  rw [List.cons_append, ← story] at h
  have hreads := h.reports.shows.readsSince_eq h.hasRead
  refine ⟨h.journal, ?_, h.lines, h.ends, fun hlt => ?_⟩
  · rw [hreads]
    exact h.reads
  · rw [h.ends]
    constructor
    · rintro ⟨metrics, hmetrics⟩
      rcases (c.after events).endNotices_cases with hnone | ⟨-, -, hat⟩
      · rw [hnone] at hmetrics
        cases hmetrics
      · exact hat
    · intro hat
      -- the rates exist, as no more was counted than was read
      rw [hreads, ← h.hasRead.received_eq] at hlt
      obtain ⟨metrics, hmetrics⟩ := h.reports.shows.toDatum_ok fun _ =>
        Nat.lt_of_le_of_lt (Outline.consumed_le _) hlt
      refine ⟨metrics, ?_⟩
      rw [endNotices, hat, hmetrics]

/-- A file whose second read fails. -/
def failingOnce : File where
  script := File.scriptOf
    #[.ok (.text #['a', '\n']), .error (.device "OSError" "busy"), .ok (.text #['b'])]
    (.ok (.text #[]))

/-- The first move stays on the line, the second one fails, and the third one comes to the next
line. -/
theorem journal_eq_story_failing :
    (Offer.ofFile failingOnce .absent).toFeed = .ok (.file { file := failingOnce }) ∧
      (∃ l, failingOnce.script failingOnce.reads = .ok l ∧ l.IsPlain) ∧
      (∀ k e, failingOnce.script k = .error e → e.isOrdinary = true) ∧
      Severity.ofSpelling? "debug" = some .debug ∧
      (Datum.int 1).truthy = true ∧
      ({ root := 10 } : Levels).effective "lexstream.character.stream" ≤ 10 ∧
      ∃ c, Cursor.start (.file { file := failingOnce })
          { threshold := "debug", refillRecords := .int 1 } { levels := { root := 10 } } =
            (.ok (), c) ∧
        (c.after [.popFront, .popFront, .look .front, .popFront]).context.journal.toList.map
          (·.message) = ["Character stream opened", "Failed to read from source",
            "Read past end of stream", "Buffer refilled"] ∧
        (c.after [.popFront, .popFront, .look .front, .popFront]).line = 2 := by
  have ho : (Offer.ofFile failingOnce .absent).toFeed = .ok (.file { file := failingOnce }) := rfl
  have hfirst : ∃ l, failingOnce.script failingOnce.reads = .ok l ∧ l.IsPlain :=
    ⟨_, rfl, trivial⟩
  have hordinary : ∀ k e, failingOnce.script k = .error e → e.isOrdinary = true := by
    intro k e he
    match k with
    | 0 | 2 | k + 3 => cases he
    | 1 =>
      cases he
      rfl
  have hthreshold : Severity.ofSpelling? "debug" = some .debug := by decide
  have hlevel : ({ root := 10 } : Levels).effective "lexstream.character.stream" ≤ 10 := by decide
  obtain ⟨c, hc, hstory⟩ := journal_eq_story ho hfirst hordinary
    { threshold := "debug", refillRecords := .int 1 } hthreshold rfl { levels := { root := 10 } }
    hlevel
  refine ⟨ho, hfirst, hordinary, hthreshold, rfl, hlevel, c, hc, ?_, ?_⟩
  · rw [(hstory _).1]
    cases hc
    rfl
  · cases hc
    rfl

end Cursor

end LineCursor
