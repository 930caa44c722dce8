import LineCursor.Proofs.Cursor.Events
import LineCursor.Proofs.Cursor.Reconstitution
import LineCursor.Proofs.Feed.EndMark

/-!
The moment at which a source says that its end is reached does not matter to a cursor.

A cursor asks its feed for the end only together with the length of its line: while a character is
in front of it, either answer means that it goes on.  So a cursor may stand on any feed beside its
own (`Cursor.Suits`), and what happens to it happens there in the same way (`Suits.step_on`,
`Suits.after_on`):

    c.Suits g → (c.on g).step e = ((c.step e).1, (c.step e).2.on g') ∧ (c.step e).2.Suits g'

For a source of lines it follows that a cursor is alike in all that can be seen of it, in its tally
and in its records, whether the source says so early or late (`alike_ofLines`).
-/

namespace LineCursor

namespace Cursor

/-- The cursor at the same place of another feed. -/
def on (c : Cursor) (g : Feed) : Cursor :=
  { c with feed := g }

/-- The feed is beside the cursor's own, and where their marks differ a character is in front of the
cursor. -/
structure Suits (c : Cursor) (g : Feed) : Prop where
  beside : c.feed.Beside g
  marks : c.feed.MarkedAlike g c.buffer c.index

theorem atEnd_of_lt (c : Cursor) (hp : c.buffer.IsPlain) (hi : c.index < c.buffer.size) :
    c.atEnd = .ok false := by
  have hne : (c.index == c.buffer.size) = false := beq_false_of_ne (Nat.ne_of_lt hi)
  unfold atEnd
  rw [c.buffer.length_eq hp]
  simp only [Except.map, hne, ite_self]

/-! ## Operations on another feed -/

section

variable {c : Cursor} {g : Feed}

@[simp]
theorem settings_on : (c.on g).settings = c.settings := rfl

@[simp]
theorem buffer_on : (c.on g).buffer = c.buffer := rfl

@[simp]
theorem index_on : (c.on g).index = c.index := rfl

@[simp]
theorem tally_on : (c.on g).tally = c.tally := rfl

@[simp]
theorem endNoted_on : (c.on g).endNoted = c.endNoted := rfl

theorem note_on (severity : Log.Severity) (message : String) (extra : Entries)
    (cause : Option (Option Fault)) :
    (c.on g).note severity message extra cause = (c.note severity message extra cause).on g := rfl

theorem location_on (hn : g.name = c.feed.name) : (c.on g).location = c.location := by
  unfold location name on
  dsimp only
  rw [hn]

theorem front_on (hn : g.name = c.feed.name) :
    (c.on g).front = (c.front.1, c.front.2.on g) := by
  unfold front
  simp only [buffer_on, index_on, location_on hn]
  cases c.buffer.length with
  | error e => rfl
  | ok n =>
    dsimp only
    split <;> rfl

/-- A read that gives the same is counted and recorded in the same way. -/
theorem fetch_on {r : Except Fault Line} {f' g' : Feed} (hf : c.feed.readLine = (r, f'))
    (hg : g.readLine = (r, g')) (hn : g'.name = f'.name) :
    ∃ d, c.fetch = (r, d) ∧ (c.on g).fetch = (r, d.on g') ∧ d.feed = f' ∧
      d.buffer = c.buffer ∧ d.column = c.column := by
  unfold fetch tick on
  dsimp only
  rw [hf, hg]
  cases r with
  | error e =>
    dsimp only
    unfold name
    dsimp only
    rw [hn]
    split <;> exact ⟨_, rfl, rfl, rfl, rfl, rfl⟩
  | ok l =>
    by_cases ht : c.settings.tallying.truthy = true
    · simp only [tallies, ht, if_true]
      exact ⟨_, rfl, rfl, rfl, rfl, rfl⟩
    · simp only [tallies, ht]
      exact ⟨_, rfl, rfl, rfl, rfl, rfl⟩

theorem noteRefill_on :
    ∃ r d, c.noteRefill = (r, d) ∧ (c.on g).noteRefill = (r, d.on g) ∧
      d.feed = c.feed ∧ d.buffer = c.buffer ∧ d.column = c.column := by
  unfold noteRefill
  by_cases hr : c.settings.refillRecords.truthy = true
  · simp only [settings_on, buffer_on, hr, if_true]
    cases c.buffer.length with
    | error e => exact ⟨_, _, rfl, rfl, rfl, rfl, rfl⟩
    | ok n => exact ⟨_, _, rfl, rfl, rfl, rfl, rfl⟩
  · simp only [settings_on, hr]
    exact ⟨_, _, rfl, rfl, rfl, rfl, rfl⟩

/-- The end is recorded on the other feed if it is seen there too. -/
theorem noteEnd_on (hn : g.name = c.feed.name) (ha : (c.on g).atEnd = c.atEnd) :
    ∃ r d, c.noteEnd = (r, d) ∧ (c.on g).noteEnd = (r, d.on g) ∧
      d.feed = c.feed ∧ d.buffer = c.buffer ∧ d.column = c.column := by
  unfold noteEnd
  by_cases hnoted : c.endNoted = true
  · simp only [endNoted_on, hnoted, if_true]
    exact ⟨_, _, rfl, rfl, rfl, rfl, rfl⟩
  · simp only [endNoted_on, ha, tally_on, hnoted]
    cases c.atEnd with
    | error e => exact ⟨_, _, rfl, rfl, rfl, rfl, rfl⟩
    | ok b =>
      cases b with
      | false => exact ⟨_, _, rfl, rfl, rfl, rfl, rfl⟩
      | true =>
        cases c.tally.toDatum with
        | error e => exact ⟨_, _, rfl, rfl, rfl, rfl, rfl⟩
        | ok metrics =>
          have hname (d : Cursor) (hd : d.feed = c.feed) : (d.on g).name = d.name := by
            rw [name, name, hd]
            exact hn
          refine ⟨_, _, rfl, ?_, rfl, rfl, rfl⟩
          rw [← note_on, ← hname { c with endNoted := true } rfl]
          rfl

theorem countCharacter_on : (c.on g).countCharacter = c.countCharacter.map (·.on g) := by
  unfold countCharacter tallies
  by_cases ht : c.settings.tallying.truthy = true
  · simp only [settings_on, buffer_on, index_on, ht, if_true]
    cases c.buffer.length with
    | error e => rfl
    | ok n =>
      by_cases hi : c.index < n
      · simp only [Except.map, hi, if_true]
        rfl
      · simp only [Except.map, hi, if_false]
  · simp only [settings_on, ht]
    rfl

end

/-! ## Cursors on feeds beside each other -/

namespace Suits

variable {c d : Cursor} {g : Feed}

theorem of_eq (h : c.Suits g) (hf : d.feed = c.feed) (hb : d.buffer = c.buffer)
    (hc : d.column = c.column) : d.Suits g := by
  refine ⟨by rw [hf]; exact h.beside, ?_⟩
  unfold index
  rw [hf, hb, hc]
  exact h.marks

theorem front (h : c.Suits g) : c.front.2.Suits g := by
  unfold Cursor.front
  split
  · exact h
  · split
    · exact h
    · exact h.of_eq rfl rfl rfl

/-- While a character is in front, the answer to whether the end is reached does not matter. -/
theorem atEnd_on (h : c.Suits g) : (c.on g).atEnd = c.atEnd := by
  rcases h.marks with he | ⟨-, hp, hi⟩
  · unfold atEnd
    simp only [buffer_on, index_on]
    show (if g.ended.truthy then _ else _) = _
    rw [he]
  · rw [c.atEnd_of_lt hp hi]
    exact (c.on g).atEnd_of_lt hp hi

theorem endMark_on (h : c.Suits g) : (c.on g).endMark = c.endMark := by
  unfold endMark
  rw [h.atEnd_on]
  show (if g.ended.truthy then _ else Except.ok g.ended) = _
  rcases h.marks with he | ⟨⟨b, b', hb, hb'⟩, hp, hi⟩
  · rw [he]
  · rw [c.atEnd_of_lt hp hi, hb, hb']
    cases b <;> cases b' <;> rfl

/-- Both read the same, and the marks are alike on the line that was read. -/
theorem refill_on (h : c.feed.Beside g) :
    ∃ r d g', c.refill = (r, d) ∧ (c.on g).refill = (r, d.on g') ∧ d.Suits g' := by
  obtain ⟨r, f', g', hf, hg, hbeside, hfailed, hmarks⟩ := h.readLine
  obtain ⟨d, hd, hd', hfeed, -, -⟩ := fetch_on hf hg hbeside.name_eq
  unfold refill
  rw [hd, hd']
  cases r with
  | error e =>
    refine ⟨_, d, g', rfl, rfl, ?_, ?_⟩
    · rw [hfeed]
      exact hbeside
    · rw [hfeed]
      exact .inl (hfailed e rfl)
  | ok l =>
    have hsuits : (d.onNextLine l).Suits g' := by
      refine ⟨?_, ?_⟩
      · show d.feed.Beside g'
        rw [hfeed]
        exact hbeside
      · show d.feed.MarkedAlike g' l 0
        rw [hfeed]
        exact hmarks l rfl
    obtain ⟨r, d₂, hn, hn', hf₂, hb₂, hc₂⟩ :=
      noteRefill_on (c := d.onNextLine l) (g := g')
    have hsuits₂ := hsuits.of_eq hf₂ hb₂ hc₂
    obtain ⟨r', d₃, he, he', hf₃, hb₃, hc₃⟩ := noteEnd_on hsuits₂.beside.name_eq hsuits₂.atEnd_on
    have hnext : (d.on g').onNextLine l = (d.onNextLine l).on g' := rfl
    dsimp only
    rw [hnext, hn, hn']
    cases r with
    | error e => exact ⟨_, d₂, g', rfl, rfl, hsuits₂⟩
    | ok u =>
      dsimp only
      rw [he, he']
      exact ⟨r', d₃, g', rfl, rfl, hsuits₂.of_eq hf₃ hb₃ hc₃⟩

theorem goOn_on (h : c.feed.Beside g)
    (hm : g.ended = c.feed.ended ∨
      (∃ b b' : Bool, c.feed.ended = .bool b ∧ g.ended = .bool b') ∧ c.buffer.IsPlain) :
    ∃ r d g', c.goOn = (r, d) ∧ (c.on g).goOn = (r, d.on g') ∧ d.Suits g' := by
  unfold goOn
  simp only [buffer_on, index_on]
  cases hn : c.buffer.length with
  | error e =>
    refine ⟨_, c, g, rfl, rfl, h, ?_⟩
    rcases hm with he | ⟨-, hp⟩
    · exact .inl he
    · rw [c.buffer.length_eq hp] at hn
      cases hn
  | ok n =>
    by_cases hi : c.index < n
    · simp only [hi, if_true]
      refine ⟨_, c, g, rfl, rfl, h, ?_⟩
      rcases hm with he | ⟨hb, hp⟩
      · exact .inl he
      · rw [c.buffer.length_eq hp] at hn
        cases hn
        exact .inr ⟨hb, hp, hi⟩
    · simp only [hi, if_false]
      -- behind the last character the marks may still differ, but the next line is read before
      -- anybody asks for them
      exact refill_on h

theorem popFront_on (h : c.Suits g) :
    ∃ r d g', c.popFront = (r, d) ∧ (c.on g).popFront = (r, d.on g') ∧ d.Suits g' := by
  have hon := h.atEnd_on
  cases ha : c.atEnd with
  | error e =>
    rw [ha] at hon
    refine ⟨.error e, c, g, ?_, ?_, h⟩
    · rw [popFront, ha]
    · rw [popFront, hon]
  | ok b =>
    rw [ha] at hon
    cases b with
    | true =>
      refine ⟨.ok (), c, g, ?_, ?_, h⟩
      · rw [popFront, ha]
      · rw [popFront, hon]
    | false =>
      have hcount := countCharacter_on (c := c) (g := g)
      cases hd : c.countCharacter with
      | error e =>
        rw [hd] at hcount
        refine ⟨.error e, c, g, ?_, ?_, h⟩
        · rw [popFront, ha]
          dsimp only
          rw [hd]
        · rw [popFront, hon]
          dsimp only
          rw [hcount]
          rfl
      | ok d =>
        rw [hd] at hcount
        obtain ⟨t, rfl⟩ := eq_of_countCharacter hd
        rw [popFront_of_counted ha hd, popFront_of_counted hon hcount]
        refine goOn_on (c := { c with tally := t, column := c.column + 1 }) h.beside ?_
        rcases h.marks with he | ⟨hb, hp, -⟩
        · exact .inl he
        · exact .inr ⟨hb, hp⟩

theorem next?_on (h : c.Suits g) :
    ∃ r d g', c.next? = (r, d) ∧ (c.on g).next? = (r, d.on g') ∧ d.Suits g' := by
  unfold next?
  rw [h.atEnd_on, front_on h.beside.name_eq]
  cases c.atEnd with
  | error e => exact ⟨_, c, g, rfl, rfl, h⟩
  | ok b =>
    cases b with
    | true => exact ⟨_, c, g, rfl, rfl, h⟩
    | false =>
      have hfront : c.front.2.Suits g := h.front
      cases hx : c.front with
      | mk seen d =>
        rw [hx] at hfront
        cases seen with
        | error e => exact ⟨_, d, g, rfl, rfl, hfront⟩
        | ok x =>
          obtain ⟨r, d', g', hpop, hpop', hsuits⟩ := hfront.popFront_on
          dsimp only
          rw [hpop, hpop']
          cases r with
          | ok u => exact ⟨_, d', g', rfl, rfl, hsuits⟩
          | error e => cases e <;> exact ⟨_, d', g', rfl, rfl, hsuits⟩

/-- What happens to a cursor happens on the other feed with the same outcome. -/
theorem step_on (h : c.Suits g) (e : Event) :
    ∃ r d g', c.step e = (r, d) ∧ (c.on g).step e = (r, d.on g') ∧ d.Suits g' := by
  cases e with
  | look l =>
    cases l with
    | front =>
      refine ⟨_, _, g, rfl, ?_, h.front⟩
      show ((c.on g).front.1.map _, (c.on g).front.2) = _
      rw [front_on h.beside.name_eq]
    | location =>
      refine ⟨_, _, g, rfl, ?_, h⟩
      show (Except.ok (Answer.location (c.on g).location), c.on g) = _
      rw [location_on h.beside.name_eq]
    | atEnd =>
      refine ⟨_, _, g, rfl, ?_, h⟩
      show ((c.on g).endMark.map _, c.on g) = _
      rw [h.endMark_on]
  | popFront =>
    obtain ⟨r, d, g', hpop, hpop', hsuits⟩ := h.popFront_on
    refine ⟨r.map fun _ => .nothing, d, g', ?_, ?_, hsuits⟩
    · rw [step, hpop]
    · rw [step, hpop']
  | next =>
    obtain ⟨r, d, g', hnext, hnext', hsuits⟩ := h.next?_on
    refine ⟨r.map .ofNext?, d, g', ?_, ?_, hsuits⟩
    · rw [step, hnext]
    · rw [step, hnext']
  | mark ended =>
    refine ⟨_, _, g.marked ended, rfl, rfl, h.beside.marked ended, ?_⟩
    exact .inl (h.beside.marked_ended ended)

theorem after_on (h : c.Suits g) (events : List Event) :
    ∃ g', (c.on g).after events = (c.after events).on g' ∧ (c.after events).Suits g' := by
  induction events generalizing c g with
  | nil => exact ⟨g, rfl, h⟩
  | cons e events ih =>
    obtain ⟨r, d, g', he, he', hsuits⟩ := h.step_on e
    have hafter : c.after (e :: events) = (c.step e).2.after events := rfl
    have hafter' : (c.on g).after (e :: events) = ((c.on g).step e).2.after events := rfl
    rw [hafter, hafter', he, he']
    exact ih hsuits

end Suits

/-- Cursors on feeds beside each other open or fail alike. -/
theorem start_on {f g : Feed} (h : f.Beside g) (s : Settings) (x : Context) :
    ∃ r d g', Cursor.start f s x = (r, d) ∧ Cursor.start g s x = (r, d.on g') ∧
      (r = .ok () → d.Suits g') := by
  obtain ⟨r, f', g', hf, hg, hbeside, -, hmarks⟩ := h.readLine
  obtain ⟨d, hd, hd', hfeed, -, hcolumn⟩ :=
    fetch_on (c := { settings := s, context := x, feed := f }) hf hg hbeside.name_eq
  change Cursor.fetch { settings := s, context := x, feed := g } = (r, d.on g') at hd'
  unfold Cursor.start
  dsimp only
  rw [hd, hd']
  cases r with
  | error e => exact ⟨_, d, g', rfl, rfl, fun hr => nomatch hr⟩
  | ok l =>
    have hname : (d.on g').name = d.name := by
      show g'.name = d.feed.name
      rw [hfeed]
      exact hbeside.name_eq
    dsimp only
    cases hn : l.length with
    | error e => exact ⟨_, { d with buffer := l }, g', rfl, rfl, fun hr => nomatch hr⟩
    | ok n =>
      have hsuits : (({ d with buffer := l } : Cursor).note .debug "Character stream opened"
          [("source_name", d.name), ("first_line_length", .int n)]).Suits g' := by
        refine ⟨?_, ?_⟩
        · show d.feed.Beside g'
          rw [hfeed]
          exact hbeside
        · show d.feed.MarkedAlike g' l (d.column - 1)
          rw [hfeed, hcolumn]
          exact hmarks l rfl
      obtain ⟨r, d', he, he', hf', hb', hc'⟩ :=
        noteEnd_on hsuits.beside.name_eq hsuits.atEnd_on
      refine ⟨r, d', g', he, ?_, fun _ => hsuits.of_eq hf' hb' hc'⟩
      rw [← he', ← note_on, ← hname]
      rfl

/-! ## Sources of lines -/

/-- All that can be seen of two cursors is the same: where they stand, what they say of their end,
how often they have read, what they have counted, the time and the records. -/
structure Alike (c d : Cursor) : Prop where
  line : d.line = c.line
  column : d.column = c.column
  buffer : d.buffer = c.buffer
  ended : d.endMark = c.endMark
  reads : d.feed.reads = c.feed.reads
  tally : d.tally = c.tally
  context : d.context = c.context

theorem Suits.alike {c : Cursor} {g : Feed} (h : c.Suits g) : c.Alike (c.on g) :=
  ⟨rfl, rfl, rfl, h.endMark_on, h.beside.reads_eq, rfl, rfl⟩

/-- A walk took the characters of all lines and came to the line behind them. -/
structure Took (w : Walk Datum) (lines : List String) : Prop where
  fault : w.fault = none
  items : w.items.toList = (Line.ofString (String.join lines)).characters
  line : w.cursor.line = lines.length + 1
  column : w.cursor.column = 1
  atEnd : w.cursor.atEnd = .ok true

/-- A drain takes all lines of a source, whenever it says that its end is reached. -/
theorem drain_ofLines (lines : List String) (hne : ∀ l ∈ lines, l ≠ "") (late : Bool)
    (name before : Datum) (s : Settings) (x : Context)
    (hlt : (String.join lines).length < 2 ^ 1000) :
    ∃ c, Cursor.start (.source (.ofLines lines late name before)) s x = (.ok (), c) ∧
      ∀ limit, (String.join lines).length ≤ limit → Took (c.drain limit) lines := by
  have hsum : ((lines.map Line.ofString).map Line.size).sum = (String.join lines).length := by
    rw [String.length_join, List.map_map]
    congr 2
    funext l
    exact Line.size_ofString l
  rw [← hsum] at hlt ⊢
  obtain ⟨c, hc, hwalk⟩ := walk_of_holds (Source.holds_ofLines lines hne late name before) s x
    fun _ => hlt
  refine ⟨c, hc, fun limit hlimit => ?_⟩
  obtain ⟨-, hitems, hdrain, hend⟩ := hwalk limit
  obtain ⟨hline, hcolumn, hat⟩ := hend hlimit
  rw [hdrain]
  refine ⟨rfl, ?_, ?_, hcolumn, hat⟩
  · rw [Array.toList_map, hitems, List.take_of_length_le, Line.map_character_sightingsFrom]
    · rw [Line.ofString, Line.characters, String.toList_join, List.map_flatMap, List.flatMap_map]
      rfl
    · rw [Line.length_sightingsFrom]
      exact hlimit
  · rw [hline, List.length_map]

/-- The lines of two sources are the same, and one source says that its end is reached together with
its last line, the other one with the empty line behind it.  Then whatever happens to cursors on
them has the same outcome and leaves them alike, records included; and if the lines have fewer than
`2^1000` characters, a drain takes all of them and ends behind the last line. -/
theorem alike_ofLines (lines : List String) (hne : ∀ l ∈ lines, l ≠ "")
    (name before before' : Datum) (s : Settings) (x : Context) :
    ∃ c d, Cursor.start (.source (.ofLines lines false name before)) s x = (.ok (), c) ∧
      Cursor.start (.source (.ofLines lines true name before')) s x = (.ok (), d) ∧
      (∀ events, (c.after events).Alike (d.after events) ∧
        ∀ event, ((d.after events).step event).1 = ((c.after events).step event).1) ∧
      ((String.join lines).length < 2 ^ 1000 → ∀ limit, (String.join lines).length ≤ limit →
        Took (c.drain limit) lines ∧ Took (d.drain limit) lines) := by
  obtain ⟨r, c, g, hc, hd, hsuits⟩ :=
    start_on (Source.beside_ofLines lines name hne before before') s x
  have hholds := Source.holds_ofLines lines hne false name before
  obtain ⟨l, f, hread, hp, -⟩ := Outline.Facing.of_read hholds []
  obtain ⟨c', hc', -⟩ := start_of_ok hp hread s x
  have hok : r = .ok () := by
    rw [hc] at hc'
    exact (Prod.mk.inj hc').1
  subst hok
  refine ⟨c, c.on g, hc, hd, fun events => ?_, fun hlt limit hlimit => ⟨?_, ?_⟩⟩
  · obtain ⟨g', hafter, hsuits'⟩ := (hsuits rfl).after_on events
    rw [hafter]
    refine ⟨hsuits'.alike, fun event => ?_⟩
    obtain ⟨r, d, g'', he, he', -⟩ := hsuits'.step_on event
    rw [he, he']
  · obtain ⟨c', hc', hdrain⟩ := drain_ofLines lines hne false name before s x hlt
    rw [hc] at hc'
    obtain rfl := (Prod.mk.inj hc').2
    exact hdrain limit hlimit
  · obtain ⟨d', hd', hdrain⟩ := drain_ofLines lines hne true name before' s x hlt
    rw [hd] at hd'
    obtain rfl := (Prod.mk.inj hd').2
    exact hdrain limit hlimit

/-- On the last line one source says that its end is reached and the other one does not. -/
theorem alike_ofLines_two :
    (∀ l ∈ ["a\n", "b"], l ≠ "") ∧ (String.join ["a\n", "b"]).length < 2 ^ 1000 ∧
      ∃ c d, Cursor.start (.source (.ofLines ["a\n", "b"] false (.str "x") (.bool false))) {} {} =
          (.ok (), c) ∧
        Cursor.start (.source (.ofLines ["a\n", "b"] true (.str "x") (.bool false))) {} {} =
          (.ok (), d) ∧
        (c.after [.popFront, .next]).feed.ended = .bool true ∧
        (d.after [.popFront, .next]).feed.ended = .bool false ∧
        (c.after [.popFront, .next]).Alike (d.after [.popFront, .next]) ∧
        Took (c.drain 3) ["a\n", "b"] ∧ Took (d.drain 3) ["a\n", "b"] := by
  have hne : ∀ l ∈ ["a\n", "b"], l ≠ "" := by decide
  have hlt : (String.join ["a\n", "b"]).length < 2 ^ 1000 :=
    lt_of_lt_of_le (show _ < 2 ^ 10 by decide) (pow_le_pow_right₀ one_le_two (by decide))
  obtain ⟨c, d, hc, hd, halike, hdrain⟩ :=
    alike_ofLines ["a\n", "b"] hne (.str "x") (.bool false) (.bool false) {} {}
  have htook := hdrain hlt 3 (by decide)
  refine ⟨hne, hlt, c, d, hc, hd, ?_, ?_, (halike _).1, htook⟩
  · cases hc
    rfl
  · cases hd
    rfl

end Cursor

end LineCursor
