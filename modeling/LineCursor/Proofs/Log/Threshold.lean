import LineCursor.Proofs.Cursor.Accounting
import LineCursor.Proofs.Log.Lineage
import LineCursor.Proofs.Settings.Validity

/-!
A threshold is a filter on the records of a cursor, and nothing else.

Take a cursor that records everything (`Cursor.Loud`), and one at the same place with another
threshold and other levels of loggers that kept those of its records which reach both
(`Cursor.muted`).  Whatever happens to the first happens to the second, and leaves them so:

    c.Loud → (c.muted t levels).step e = ((c.step e).1, (c.step e).2.muted t levels)

So all that a cursor does, its mark for the end that was recorded included, is the same at every
threshold, and its records are those of the cursor that records everything, filtered
(`journal_eq_filter`).
-/

namespace LineCursor

open Log

/-! ## Levels that are all the same -/

namespace Log.Levels

/-- The same loggers, each with the given level. -/
def evened (levels : Levels) (level : Int) : Levels where
  root := level
  named := levels.named.map fun (name, _) => (name, level)

variable (levels : Levels) (level : Int)

theorem own?_evened (name : String) :
    (levels.evened level).own? name = none ∨ (levels.evened level).own? name = some level := by
  unfold own? evened
  dsimp only
  induction levels.named with
  | nil => exact .inl rfl
  | cons entry named ih =>
    rw [List.map_cons, List.lookup_cons]
    split
    · exact .inr rfl
    · exact ih

theorem inherited?_evened (name : String) (rest : List Char) :
    (levels.evened level).inherited? name rest = none ∨
      (levels.evened level).inherited? name rest = some level := by
  fun_induction inherited? (levels.evened level) name rest with
  | case1 name c rest parent hown ih => exact ih
  | case2 name c rest parent own hown hpassed => exact .inl rfl
  | case3 name c rest parent hown hpassed ih => exact ih
  | case4 name c rest parent own hown hpassed hne =>
    rcases levels.own?_evened level parent with he | he
    · rw [he] at hown
      cases hown
    · rw [he] at hown
      exact .inr hown.symm
  | case5 name c rest hne ih => exact ih
  | case6 => exact .inl rfl

theorem effective_evened (name : String) : (levels.evened level).effective name = level := by
  have hinherited :
      ((levels.evened level).inherited? name name.toList.reverse).getD level = level := by
    rcases levels.inherited?_evened level name name.toList.reverse with he | he <;>
      rw [he] <;> rfl
  unfold effective
  split
  · rfl
  · split
    · exact hinherited
    · exact hinherited
    · next own hown =>
      rcases levels.own?_evened level name with he | he
      · rw [he] at hown
        cases hown
      · rw [he] at hown
        exact (Option.some.inj hown).symm

end Log.Levels

/-- The same settings with another threshold. -/
def Settings.withThreshold (s : Settings) (threshold : String) : Settings :=
  { s with threshold }

namespace Cursor

/-- No record of the cursor is filtered. -/
structure Loud (c : Cursor) : Prop where
  least : c.settings.level ≤ 10
  effective : c.context.levels.effective "lexstream.character.stream" ≤ 10

theorem Loud.of_eq {c d : Cursor} (h : c.Loud) (hs : d.settings = c.settings)
    (hl : d.context.levels = c.context.levels) : d.Loud := by
  refine ⟨?_, ?_⟩
  · rw [hs]
    exact h.least
  · rw [hl]
    exact h.effective

/-- Whether a record of a cursor reaches the threshold of some settings and the level of the logger
of cursors. -/
def heard (s : Settings) (levels : Levels) (r : Record) : Bool :=
  decide (s.level ≤ r.level) &&
    decide (levels.effective "lexstream.character.stream" ≤ r.level)

/-- The cursor with another threshold and other levels of loggers, and those of its records that
reach both. -/
def muted (c : Cursor) (threshold : String) (levels : Levels) : Cursor :=
  let settings := c.settings.withThreshold threshold
  let journal := c.context.journal.filter (heard settings levels)
  { c with settings, context := { c.context with levels, journal } }

/-! ## Operations of a muted cursor -/

section

variable {c : Cursor} {threshold : String} {levels : Levels}

theorem ten_le_level (severity : Severity) : (10 : Int) ≤ severity.level := by
  cases severity <;> decide

theorem passes_of_loud (hc : c.Loud) (severity : Severity) :
    c.reporter.passes c.context.levels severity.level = true := by
  have hlevel := ten_le_level severity
  have hleast : c.reporter.least ≤ severity.level := Int.le_trans hc.least hlevel
  have heffective := Int.le_trans hc.effective hlevel
  have hpos : 0 < severity.level := by omega
  unfold Reporter.passes Levels.passes
  rw [decide_eq_true hleast, decide_eq_true hpos]
  exact decide_eq_true heffective

/-- A muted cursor writes the records that are kept of a loud one. -/
theorem passes_muted (severity : Severity) (r : Record) (hr : r.level = severity.level) :
    (c.muted threshold levels).reporter.passes levels severity.level =
      heard (c.settings.withThreshold threshold) levels r := by
  have hpos : 0 < severity.level := by
    have := ten_le_level severity
    omega
  show (decide _ && (decide (0 < severity.level) && decide _)) = _
  rw [decide_eq_true hpos, heard, hr]
  rfl

theorem note_of_some {severity : Severity} {message : String} {extra : Entries}
    {cause : Option (Option Fault)} {r : Record}
    (h : c.reporter.record? c.context.levels severity message extra cause = some r) :
    c.note severity message extra cause =
      { c with context := { c.context with journal := c.context.journal.push r } } := by
  unfold Cursor.note Context.note
  rw [h]

theorem note_of_none {severity : Severity} {message : String} {extra : Entries}
    {cause : Option (Option Fault)}
    (h : c.reporter.record? c.context.levels severity message extra cause = none) :
    c.note severity message extra cause = c := by
  unfold Cursor.note Context.note
  rw [h]

/-- A record is kept of a loud cursor exactly if the muted one writes it. -/
theorem note_muted (hc : c.Loud) (severity : Severity) (message : String) (extra : Entries)
    (cause : Option (Option Fault)) :
    (c.muted threshold levels).note severity message extra cause =
      (c.note severity message extra cause).muted threshold levels := by
  obtain ⟨r, hr, hlevel⟩ : ∃ r, c.reporter.record? c.context.levels severity message extra cause =
      some r ∧ r.level = severity.level := by
    unfold Reporter.record?
    rw [if_pos (passes_of_loud hc severity)]
    exact ⟨_, rfl, rfl⟩
  have hmuted : (c.muted threshold levels).reporter.record? levels severity message extra cause =
      if heard (c.settings.withThreshold threshold) levels r then some r else none := by
    rw [← passes_muted severity r hlevel]
    unfold Reporter.record? at hr ⊢
    rw [if_pos (passes_of_loud hc severity)] at hr
    rw [← Option.some.inj hr]
    rfl
  rw [note_of_some hr]
  by_cases hheard : heard (c.settings.withThreshold threshold) levels r = true
  · rw [if_pos hheard] at hmuted
    rw [note_of_some hmuted]
    unfold muted
    dsimp only
    rw [Array.filter_push_of_pos hheard (Array.size_push _)]
  · rw [if_neg hheard] at hmuted
    rw [note_of_none hmuted]
    unfold muted
    dsimp only
    rw [Array.filter_push_of_neg hheard (Array.size_push _)]

@[simp]
theorem buffer_muted : (c.muted threshold levels).buffer = c.buffer := rfl

@[simp]
theorem index_muted : (c.muted threshold levels).index = c.index := rfl

@[simp]
theorem atEnd_muted : (c.muted threshold levels).atEnd = c.atEnd := rfl

@[simp]
theorem tally_muted : (c.muted threshold levels).tally = c.tally := rfl

@[simp]
theorem tallies_muted : (c.muted threshold levels).tallies = c.tallies := rfl

theorem Loud.note (hc : c.Loud) (severity : Severity) (message : String) (extra : Entries)
    (cause : Option (Option Fault)) : (c.note severity message extra cause).Loud := by
  refine hc.of_eq rfl ?_
  unfold Cursor.note Context.note
  dsimp only
  split <;> rfl

/-- The operation does the same on a muted cursor, and it leaves a loud cursor loud. -/
structure Mutes {α : Type} (c : Cursor) (op : Cursor → Except Fault α × Cursor) : Prop where
  loud : (op c).2.Loud
  muted : ∀ threshold levels,
    op (c.muted threshold levels) = ((op c).1, (op c).2.muted threshold levels)

/-- What leaves a cursor where it is, and the muted one with the same outcome. -/
theorem Mutes.of_stay {α : Type} {op : Cursor → Except Fault α × Cursor} {r : Except Fault α}
    (hc : c.Loud) (h : op c = (r, c))
    (hm : ∀ threshold levels, op (c.muted threshold levels) = (r, c.muted threshold levels)) :
    c.Mutes op := by
  refine ⟨?_, fun threshold levels => ?_⟩
  · rw [h]
    exact hc
  · rw [h, hm]

theorem Mutes.congr {α : Type} {op op' : Cursor → Except Fault α × Cursor} (h : c.Mutes op)
    (he : ∀ d, op' d = op d) : c.Mutes op' := by
  rw [funext he]
  exact h

/-- What follows an operation, unless that fails, mutes together with it. -/
theorem Mutes.andThen {α β : Type} {op : Cursor → Except Fault α × Cursor}
    {next : α → Cursor → Except Fault β × Cursor} (h : c.Mutes op)
    (hnext : ∀ a, (op c).2.Mutes (next a)) :
    c.Mutes fun c =>
      match op c with
      | (.error e, c) => (.error e, c)
      | (.ok a, c) => next a c := by
  obtain ⟨hloud, hmuted⟩ := h
  constructor
  · cases hop : op c with
    | mk r d =>
      rw [hop] at hloud hnext
      cases r with
      | error e => exact hloud
      | ok a => exact (hnext a).loud
  · intro threshold levels
    rw [hmuted]
    cases hop : op c with
    | mk r d =>
      rw [hop] at hnext
      cases r with
      | error e => rfl
      | ok a => exact (hnext a).muted threshold levels

theorem mutes_front (hc : c.Loud) : c.Mutes front := by
  unfold front
  constructor
  · split
    · exact hc
    · split
      · exact hc
      · exact hc.note _ _ _ _
  · intro threshold levels
    rw [buffer_muted]
    cases c.buffer.length with
    | error e => rfl
    | ok n =>
      dsimp only
      rw [index_muted]
      split
      · rfl
      · rw [← note_muted hc]
        rfl

theorem fetch_eq_of_error {e : Fault} {g : Feed} (hr : c.feed.readLine = (.error e, g)) :
    c.fetch = (.error e,
      if e.isOrdinary then
        ({ c.tick.2 with feed := g } : Cursor).note .error "Failed to read from source"
          [("source_name", g.name), ("line", .int c.line)] (some (some e))
      else { c.tick.2 with feed := g }) := by
  unfold fetch tick
  dsimp only
  rw [hr]
  rfl

theorem fetch_eq_of_ok {l : Line} {g : Feed} (hr : c.feed.readLine = (.ok l, g)) :
    c.fetch = (.ok l,
      if c.tallies then
        ({ c.tick.2 with feed := g } : Cursor).tick.2.countRead l
          ((c.tick.2.tick.1 - c.tick.1) * 1000.0)
      else { c.tick.2 with feed := g }) := by
  unfold fetch tick
  dsimp only
  rw [hr]
  dsimp only
  split
  · next ht => rw [if_pos (show c.tallies = true from ht)]
  · next ht => rw [if_neg (show ¬ c.tallies = true from ht)]

theorem mutes_fetch (hc : c.Loud) : c.Mutes fetch := by
  cases hr : c.feed.readLine with
  | mk outcome g =>
    have hread : ({ c.tick.2 with feed := g } : Cursor).Loud := hc.of_eq rfl rfl
    cases outcome with
    | error e =>
      constructor
      · rw [fetch_eq_of_error hr]
        dsimp only
        split
        · exact hread.note _ _ _ _
        · exact hread
      · intro threshold levels
        have hr' : (c.muted threshold levels).feed.readLine = (.error e, g) := hr
        rw [fetch_eq_of_error hr, fetch_eq_of_error hr']
        dsimp only
        split
        · rw [← note_muted hread]
          rfl
        · rfl
    | ok l =>
      constructor
      · rw [fetch_eq_of_ok hr]
        dsimp only
        split
        · exact hread.of_eq rfl rfl
        · exact hread
      · intro threshold levels
        have hr' : (c.muted threshold levels).feed.readLine = (.ok l, g) := hr
        rw [fetch_eq_of_ok hr, fetch_eq_of_ok hr', tallies_muted]
        dsimp only
        split <;> rfl

/-- The end counts as recorded also where its record is filtered. -/
theorem mutes_noteEnd (hc : c.Loud) : c.Mutes noteEnd := by
  unfold noteEnd
  have hnoted : ({ c with endNoted := true } : Cursor).Loud := hc.of_eq rfl rfl
  constructor
  · split
    · exact hc
    · split
      · exact hc
      · exact hc
      · dsimp only
        split
        · exact hnoted
        · exact hnoted.note _ _ _ _
  · intro threshold levels
    rw [atEnd_muted]
    show (if c.endNoted then _ else _) = _
    split
    · rfl
    · cases c.atEnd with
      | error e => rfl
      | ok b =>
        cases b with
        | false => rfl
        | true =>
          dsimp only
          rw [tally_muted]
          cases c.tally.toDatum with
          | error e => rfl
          | ok metrics =>
            dsimp only
            rw [← note_muted hnoted]
            rfl

theorem mutes_noteRefill (hc : c.Loud) : c.Mutes noteRefill := by
  unfold noteRefill
  constructor
  · split
    · split
      · exact hc
      · exact hc.note _ _ _ _
    · exact hc
  · intro threshold levels
    show (if c.settings.refillRecords.truthy then _ else _) = _
    split
    · rw [buffer_muted]
      cases c.buffer.length with
      | error e => rfl
      | ok n =>
        dsimp only
        rw [← note_muted hc]
        rfl
    · rfl

theorem mutes_onNextLine (hc : c.Loud) (line : Line) :
    c.Mutes fun c => (c.onNextLine line).noteRefill := by
  have hnext : (c.onNextLine line).Loud := hc.of_eq rfl rfl
  exact ⟨(mutes_noteRefill hnext).loud, (mutes_noteRefill hnext).muted⟩

theorem mutes_refill (hc : c.Loud) : c.Mutes refill := by
  have hfetch := mutes_fetch hc
  have hrefill := hfetch.andThen fun line => (mutes_onNextLine hfetch.loud line).andThen fun _ =>
    mutes_noteEnd (mutes_onNextLine hfetch.loud line).loud
  refine hrefill.congr fun d => ?_
  unfold refill
  cases d.fetch with
  | mk r d =>
    cases r with
    | error e => rfl
    | ok line =>
      dsimp only
      cases (d.onNextLine line).noteRefill with
      | mk r d => cases r <;> rfl

theorem countCharacter_muted (threshold : String) (levels : Levels) :
    (c.muted threshold levels).countCharacter =
      c.countCharacter.map (·.muted threshold levels) := by
  unfold countCharacter
  rw [tallies_muted, buffer_muted]
  split
  · cases c.buffer.length with
    | error e => rfl
    | ok n =>
      by_cases hi : c.index < n
      · simp only [Except.map, index_muted, hi, if_true]
        rfl
      · simp only [Except.map, index_muted, hi, if_false]
  · rfl

theorem mutes_goOn (hc : c.Loud) : c.Mutes goOn := by
  have hrefill := mutes_refill hc
  unfold goOn
  constructor
  · split
    · exact hc
    · split
      · exact hc
      · exact hrefill.loud
  · intro threshold levels
    rw [buffer_muted]
    cases c.buffer.length with
    | error e => rfl
    | ok n =>
      dsimp only
      rw [index_muted]
      split
      · rfl
      · exact hrefill.muted threshold levels

theorem mutes_popFront (hc : c.Loud) : c.Mutes popFront := by
  cases ha : c.atEnd with
  | error e =>
    refine .of_stay hc (by rw [popFront, ha]) fun threshold levels => ?_
    rw [popFront, atEnd_muted, ha]
  | ok b =>
    cases b with
    | true =>
      refine .of_stay hc (popFront_of_atEnd ha) fun threshold levels => ?_
      exact popFront_of_atEnd ha
    | false =>
      have hcount := countCharacter_muted (c := c)
      cases hd : c.countCharacter with
      | error e =>
        rw [hd] at hcount
        refine .of_stay (r := .error e) hc ?_ fun threshold levels => ?_
        · rw [popFront, ha]
          dsimp only
          rw [hd]
        · rw [popFront, atEnd_muted, ha]
          dsimp only
          rw [hcount]
          rfl
      | ok d =>
        obtain ⟨t, rfl⟩ := eq_of_countCharacter hd
        rw [hd] at hcount
        have hmoved : ({ c with tally := t, column := c.column + 1 } : Cursor).Loud :=
          hc.of_eq rfl rfl
        have hgo := mutes_goOn hmoved
        constructor
        · rw [popFront_of_counted ha hd]
          exact hgo.loud
        · intro threshold levels
          have hpop := popFront_of_counted (c := c.muted threshold levels) ha (hcount _ _)
          rw [popFront_of_counted ha hd, hpop]
          exact hgo.muted threshold levels

theorem front_eq_of_ok {x : Datum} (h : c.front.1 = .ok x) : c.front = (.ok x, c) := by
  refine Prod.ext h ?_
  unfold front at h ⊢
  split
  · rfl
  · next hn =>
    rw [hn] at h
    split
    · rfl
    · next hi =>
      dsimp only at h
      rw [if_neg hi] at h
      cases h

theorem mutes_next? (hc : c.Loud) : c.Mutes next? := by
  have hfront := mutes_front hc
  have hpop := mutes_popFront hc
  cases ha : c.atEnd with
  | error e =>
    refine .of_stay hc (by rw [next?, ha]) fun threshold levels => ?_
    rw [next?, atEnd_muted, ha]
  | ok b =>
    cases b with
    | true =>
      refine .of_stay hc (next?_of_atEnd ha) fun threshold levels => ?_
      exact next?_of_atEnd ha
    | false =>
      cases hx : c.front.1 with
      | error e =>
        constructor
        · rw [next?_of_front_error ha hx]
          exact hfront.loud
        · intro threshold levels
          have hm := hfront.muted threshold levels
          have hx' : (c.muted threshold levels).front.1 = .error e := by rw [hm, hx]
          rw [next?_of_front_error ha hx,
            next?_of_front_error (c := c.muted threshold levels) ha hx', hm]
      | ok x =>
        have hx := front_eq_of_ok hx
        constructor
        · rw [next?_of_front_ok ha hx]
          exact hpop.loud
        · intro threshold levels
          have hm := hfront.muted threshold levels
          rw [hx] at hm
          rw [next?_of_front_ok ha hx,
            next?_of_front_ok (c := c.muted threshold levels) ha hm, hpop.muted]

/-- Puts a cursor in front of a line, which is the first one. -/
def openAt (buffer : Line) (c : Cursor) : Except Fault Unit × Cursor :=
  match buffer.length with
  | .error e => (.error e, { c with buffer })
  | .ok n =>
    (({ c with buffer } : Cursor).note .debug "Character stream opened"
      [("source_name", c.name), ("first_line_length", .int n)]).noteEnd

/-- Puts a cursor in front of the first line that its feed gives. -/
def opening (c : Cursor) : Except Fault Unit × Cursor :=
  match c.fetch with
  | (.error e, c) => (.error e, c)
  | (.ok buffer, c) => c.openAt buffer

theorem start_eq_opening (feed : Feed) (s : Settings) (x : Context) :
    Cursor.start feed s x = ({ settings := s, context := x, feed } : Cursor).opening := rfl

theorem mutes_openAt (hc : c.Loud) (buffer : Line) : c.Mutes (openAt buffer) := by
  have hline : ({ c with buffer } : Cursor).Loud := hc.of_eq rfl rfl
  unfold openAt
  cases buffer.length with
  | error e => exact ⟨hline, fun _ _ => rfl⟩
  | ok n =>
    have hend := mutes_noteEnd (hline.note .debug "Character stream opened"
      [("source_name", c.name), ("first_line_length", .int n)] none)
    refine ⟨hend.loud, fun threshold levels => ?_⟩
    have hmuted := hend.muted threshold levels
    rw [← note_muted hline] at hmuted
    exact hmuted

theorem mutes_opening (hc : c.Loud) : c.Mutes opening := by
  have hfetch := mutes_fetch hc
  have hopen := hfetch.andThen fun buffer => mutes_openAt hfetch.loud buffer
  refine hopen.congr fun d => ?_
  unfold opening
  cases d.fetch with
  | mk r d => cases r <;> rfl

theorem mutes_step (hc : c.Loud) (e : Event) : c.Mutes (step e) := by
  cases e with
  | look l =>
    cases l with
    | front =>
      have hfront := mutes_front hc
      refine ⟨hfront.loud, fun threshold levels => ?_⟩
      show ((c.muted threshold levels).front.1.map _, (c.muted threshold levels).front.2) = _
      rw [hfront.muted]
      rfl
    | location => exact ⟨hc, fun _ _ => rfl⟩
    | atEnd => exact ⟨hc, fun _ _ => rfl⟩
  | popFront =>
    have hpop := mutes_popFront hc
    refine ⟨hpop.loud, fun threshold levels => ?_⟩
    show ((c.muted threshold levels).popFront.1.map _, (c.muted threshold levels).popFront.2) = _
    rw [hpop.muted]
    rfl
  | next =>
    have hnext := mutes_next? hc
    refine ⟨hnext.loud, fun threshold levels => ?_⟩
    show ((c.muted threshold levels).next?.1.map _, (c.muted threshold levels).next?.2) = _
    rw [hnext.muted]
    rfl
  | mark ended => exact ⟨hc.of_eq rfl rfl, fun _ _ => rfl⟩

/-- A run of a muted cursor is the run of the loud one, muted. -/
theorem after_muted (hc : c.Loud) (threshold : String) (levels : Levels) (events : List Event) :
    (c.muted threshold levels).after events = (c.after events).muted threshold levels := by
  induction events generalizing c with
  | nil => rfl
  | cons e events ih =>
    have hstep := mutes_step hc e
    have hafter : (c.muted threshold levels).after (e :: events) =
        ((c.muted threshold levels).step e).2.after events := rfl
    rw [hafter, hstep.muted]
    exact ih hstep.loud

end

/-- The records of a cursor with some settings, whatever happens to it, are those of the cursor that
has `DEBUG` for threshold, while all loggers have the level of that, as far as they reach the
threshold of the settings and the level that counts for the logger of cursors.  That holds also if
the cursor does not open. -/
theorem journal_eq_filter (feed : Feed) {s : Settings} (hs : s.Valid) (clock : Clock)
    (levels : Levels) :
    ∃ t, s.override [("diagnostic_level", .str "DEBUG")] = .ok t ∧
      (Cursor.start feed s { clock, levels }).1 =
        (Cursor.start feed t { clock, levels := levels.evened 10 }).1 ∧
      ∀ events, ((Cursor.start feed s { clock, levels }).2.after events).context.journal =
        ((Cursor.start feed t { clock, levels := levels.evened 10 }).2.after
          events).context.journal.filter fun r =>
            decide (s.level ≤ r.level) &&
              decide (levels.effective "lexstream.character.stream" ≤ r.level) := by
  have hdebug : Severity.ofSpelling? (s.withThreshold "DEBUG").threshold = some .debug :=
    show Severity.ofSpelling? "DEBUG" = some .debug by decide
  have hlevel := Settings.level_eq hdebug
  have hvalid : (s.withThreshold "DEBUG").Valid :=
    ⟨⟨.debug, Severity.ofSpelling?_eq_some_iff.1 hdebug, hlevel⟩, hs.correlation⟩
  generalize hd : ({ settings := s.withThreshold "DEBUG"
                     context := { clock, levels := levels.evened 10 }, feed } : Cursor) = d
  have hloud : d.Loud := by
    rw [← hd]
    exact ⟨Int.le_of_eq hlevel, Int.le_of_eq (levels.effective_evened 10 _)⟩
  have hmuted : ({ settings := s, context := { clock, levels }, feed } : Cursor) =
      d.muted s.threshold levels := by
    rw [← hd]
    simp only [muted, Array.filter_empty]
    rfl
  have hopen := mutes_opening hloud
  refine ⟨s.withThreshold "DEBUG", (Draft.check_draft_iff _).2 hvalid, ?_, fun events => ?_⟩
  · rw [start_eq_opening, start_eq_opening, hmuted, hd, hopen.muted]
  · rw [start_eq_opening, start_eq_opening, hmuted, hd, hopen.muted, after_muted hopen.loud]
    rfl

/-- The settings let warnings through only, and so does the root; the logger of cursors has its
level from a parent that lets everything through.  Of four records only that of the failure is
left. -/
theorem journal_eq_filter_stuttering :
    ({ threshold := "Warning", refillRecords := .bool true } : Settings).Valid ∧
      ∃ t, ({ threshold := "Warning", refillRecords := .bool true } : Settings).override
          [("diagnostic_level", .str "DEBUG")] = .ok t ∧
        ((Cursor.start (.source stuttering) t
            { levels := ({ named := [("lexstream", 10)] } : Levels).evened 10 }).2.after
          [.popFront, .popFront, .look .front, .popFront]).context.journal.toList.map (·.message) =
          ["Character stream opened", "Failed to read from source", "Read past end of stream",
            "Buffer refilled"] ∧
        ((Cursor.start (.source stuttering)
            { threshold := "Warning", refillRecords := .bool true }
            { levels := { named := [("lexstream", 10)] } }).2.after
          [.popFront, .popFront, .look .front, .popFront]).context.journal.toList.map (·.message) =
          ["Failed to read from source"] := by
  have hv : ({ threshold := "Warning", refillRecords := .bool true } : Settings).Valid :=
    (Draft.check_draft_iff _).1 rfl
  obtain ⟨t, ht, -, hjournal⟩ :=
    journal_eq_filter (.source stuttering) hv {} { named := [("lexstream", 10)] }
  refine ⟨hv, t, ht, ?_, ?_⟩
  · cases ht
    rfl
  · rw [hjournal]
    cases ht
    rfl

end Cursor

end LineCursor
