import LineCursor.Proofs.Cursor.Iteration
import LineCursor.Proofs.Feed.Memory

/-!
A walk through a file in memory meets every character once, with its line and column.

`Line.sightingsFrom n ls` lists the characters of some lines with their places, the first line being
the `n`-th.  A cursor on a feed that holds the lines `ls` behind the cursor's own has the characters
`Outline.ahead o ls` before it, and a move takes the first of them away (`Facing.advance`):

    o.ahead ls = ⟨character, o.line, o.index + 1⟩ :: o.advance.2.ahead ls'

So a walk meets all of them (`walkFrom_of_facing`, `walk_of_holds`), on any file in memory, however
often it was adapted and read before (`walk_memory`).
-/

namespace LineCursor

/-! ## Characters with their places -/

namespace Line

/-- The characters of a line with their places, if it is the `n`-th. -/
def sightings (n : Nat) (l : Line) : List Sighting :=
  l.characters.mapIdx fun j d => ⟨d, n, j + 1⟩

/-- The characters of lines with their places, if the first line is the `n`-th. -/
def sightingsFrom : Nat → List Line → List Sighting
  | _, [] => []
  | n, l :: ls => l.sightings n ++ sightingsFrom (n + 1) ls

theorem length_sightings (n : Nat) (l : Line) : (l.sightings n).length = l.size := by
  rw [sightings, List.length_mapIdx, size]

theorem length_sightingsFrom (n : Nat) (ls : List Line) :
    (sightingsFrom n ls).length = (ls.map size).sum := by
  induction ls generalizing n with
  | nil => rfl
  | cons l ls ih =>
    rw [sightingsFrom, List.length_append, length_sightings, ih, List.map_cons, List.sum_cons]

theorem map_character_sightingsFrom (n : Nat) (ls : List Line) :
    (sightingsFrom n ls).map (·.character) = ls.flatMap characters := by
  induction ls generalizing n with
  | nil => rfl
  | cons l ls ih =>
    have h : (l.sightings n).map (·.character) = l.characters := by
      apply List.ext_getElem?
      intro i
      simp [sightings, Function.comp_def]
    rw [sightingsFrom, List.map_append, ih, List.flatMap_cons, h]

theorem drop_sightings (n : Nat) (l : Line) (i : Nat) (x : Datum)
    (h : l.characters[i]? = some x) :
    (l.sightings n).drop i = ⟨x, n, i + 1⟩ :: (l.sightings n).drop (i + 1) := by
  obtain ⟨hi, hx⟩ := List.getElem?_eq_some_iff.1 h
  have hi' : i < (l.sightings n).length := by rw [length_sightings]; exact hi
  rw [List.drop_eq_getElem_cons hi']
  simp [sightings, hx]

end Line

/-! ## What lies before a cursor -/

namespace Outline

/-- The characters in front of the cursor, if the lines `ls` follow its own. -/
def ahead (o : Outline) (ls : List Line) : List Sighting :=
  (o.buffer.sightings o.line).drop o.index ++ Line.sightingsFrom (o.line + 1) ls

/-- The line behind the last one: the cursor's own if it is empty. -/
def lastLine (o : Outline) (ls : List Line) : Nat :=
  o.line + ls.length + if o.buffer.size = 0 then 0 else 1

/-- The cursor is on a feed that holds the lines `ls` behind the cursor's own, in front of a
character or on the empty line at the end. -/
structure Facing (o : Outline) (ls : List Line) : Prop where
  feed : o.feed.Holds ls
  buffer : o.buffer.IsPlain
  place : o.index < o.buffer.size ∨
    o.buffer.size = 0 ∧ o.index = 0 ∧ o.feed.ended.truthy = true ∧ ls = []

namespace Facing

variable {o : Outline} {ls : List Line}

theorem plain (h : o.Facing ls) : o.Plain :=
  ⟨h.buffer, h.feed.isPlain⟩

theorem atEnd_iff (h : o.Facing ls) : o.atEnd = true ↔ o.ahead ls = [] := by
  rcases h.place with hi | ⟨h0, hi, he, hls⟩
  · rw [ahead, Line.drop_sightings _ _ _ _ (List.getElem?_eq_getElem hi), atEnd]
    simp
    omega
  · rw [ahead, atEnd, he, hi, h0, hls, List.drop_eq_nil_of_le]
    · simp [Line.sightingsFrom]
    · exact Nat.le_of_eq ((Line.length_sightings _ _).trans h0)

theorem settled (h : o.Facing ls) : o.Settled := by
  rcases h.place with hi | ⟨h0, hi, he, -⟩
  · exact .inl hi
  · right
    rw [atEnd, he, hi, h0]
    rfl

/-- The place at the end: on the empty line behind the last one. -/
theorem line_of_atEnd (h : o.Facing ls) (he : o.atEnd = true) :
    o.line = o.lastLine ls ∧ o.index = 0 := by
  rcases h.place with hi | ⟨h0, hi, -, hls⟩
  · simp only [atEnd, Bool.and_eq_true, beq_iff_eq] at he
    omega
  · rw [lastLine, h0, hls]
    exact ⟨rfl, hi⟩

/-- Behind some lines, a read of the feed brings the cursor in front of all lines that it holds. -/
theorem of_read {f : Feed} (h : f.Holds ls) (past : List Line) :
    ∃ l g, f.readLine = (.ok l, g) ∧ l.IsPlain ∧
      ∃ ls', (⟨g, past, l, 0⟩ : Outline).Facing ls' ∧
        (⟨g, past, l, 0⟩ : Outline).ahead ls' = Line.sightingsFrom (past.length + 1) ls ∧
        (⟨g, past, l, 0⟩ : Outline).lastLine ls' = past.length + ls.length + 1 := by
  cases ls with
  | nil =>
    obtain ⟨blank, g, hr, hp, h0, he, hg⟩ := h.readLine_nil
    have hnone : blank.sightings (past.length + 1) = [] := by
      rw [← List.length_eq_zero_iff, Line.length_sightings, h0]
    refine ⟨blank, g, hr, hp, [], ⟨hg, hp, ?_⟩, ?_, ?_⟩
    · exact .inr ⟨h0, rfl, he, rfl⟩
    · simp [ahead, line, hnone, Line.sightingsFrom]
    · simp [lastLine, line, h0]
  | cons l ls =>
    obtain ⟨g, hr, hg⟩ := h.readLine_cons
    have hpos := h.size_pos l List.mem_cons_self
    have hp := h.plain l List.mem_cons_self
    refine ⟨l, g, hr, hp, ls, ⟨hg, hp, .inl hpos⟩, rfl, ?_⟩
    simp only [lastLine, line, if_neg (Nat.ne_of_gt hpos), List.length_cons]
    omega

/-- A move takes the first character away from those ahead, and it does not fail. -/
theorem advance (h : o.Facing ls) (hi : o.index < o.buffer.size) :
    o.advance.1 = .ok () ∧ ∃ x ls', o.buffer.characters[o.index]? = some x ∧
      o.advance.2.Facing ls' ∧ o.ahead ls = ⟨x, o.line, o.index + 1⟩ :: o.advance.2.ahead ls' ∧
      o.advance.2.lastLine ls' = o.lastLine ls := by
  have hx := List.getElem?_eq_getElem hi
  generalize o.buffer.characters[o.index] = x at hx
  have ha : o.atEnd = false := by
    simp only [atEnd, Bool.and_eq_false_iff, beq_eq_false_iff_ne]
    exact .inr (Nat.ne_of_lt hi)
  rw [ahead, Line.drop_sightings _ _ _ _ hx, List.cons_append]
  by_cases hlt : o.index + 1 < o.buffer.size
  · rw [advance_of_lt ha hlt]
    exact ⟨rfl, x, ls, hx, ⟨h.feed, h.buffer, .inl hlt⟩, rfl, rfl⟩
  · have hle : o.buffer.size ≤ o.index + 1 := by omega
    have hdrop : (o.buffer.sightings o.line).drop (o.index + 1) = [] := by
      rw [List.drop_eq_nil_iff, Line.length_sightings]
      exact hle
    obtain ⟨l, g, hr, -, ls', hfacing, hahead, hlast⟩ := of_read h.feed (o.buffer :: o.past)
    rw [hdrop, List.nil_append, advance_of_ok ha hle hr]
    refine ⟨rfl, x, ls', hx, hfacing, ?_, ?_⟩
    · rw [hahead]
      rfl
    · rw [hlast, lastLine, if_neg (by omega), line, List.length_cons]

end Facing

end Outline

/-! ## Walking to the end -/

namespace Cursor

/-- A walk meets the characters ahead one after the other, up to its limit, and never fails. -/
theorem walkFrom_of_facing (limit : Nat) {s : Settings} {c : Cursor} {o : Outline}
    {ls : List Line} (items : Array Sighting) (hs : c.Shows s o) (hf : o.Facing ls)
    (hl : s.tallying.truthy = true → o.Light) :
    ∃ c' o' ls', c.walkFrom limit items =
        { items := items ++ ((o.ahead ls).take limit).toArray, cursor := c' } ∧
      c'.Shows s o' ∧ o'.Facing ls' ∧ o'.ahead ls' = (o.ahead ls).drop limit ∧
      o'.lastLine ls' = o.lastLine ls := by
  induction limit generalizing c o ls items with
  | zero => exact ⟨c, o, ls, by simp [walkFrom], hs, hf, rfl, rfl⟩
  | succ limit ih =>
    cases ha : o.atEnd with
    | true =>
      have hnil := hf.atEnd_iff.1 ha
      refine ⟨c, o, ls, ?_, hs, hf, by simp [hnil], rfl⟩
      rw [walkFrom, hs.atEnd hf.buffer, ha, hnil]
      simp
    | false =>
      have hi := hf.settled.lt ha
      obtain ⟨hok, x, ls', hx, hf', hahead, hlast⟩ := hf.advance hi
      obtain ⟨d, hpop, hd⟩ := hs.popFront_eq hf.plain fun ht => (hl ht).advance
      rw [hok] at hpop
      have hfront := hs.front_of_some hf.buffer hx
      obtain ⟨c', o', ls'', hw, hs', hf'', ha', hl'⟩ :=
        ih (items.push ⟨x, c.line, c.column⟩) hd hf' fun ht => (hl ht).advance
      refine ⟨c', o', ls'', ?_, hs', hf'', ?_, hl'.trans hlast⟩
      · rw [walkFrom, hs.atEnd hf.buffer, ha]
        dsimp only
        rw [hfront]
        dsimp only
        rw [hpop]
        dsimp only
        rw [hw, hahead, hs.line, hs.column]
        simp
      · rw [ha', hahead, List.drop_succ_cons]

/-- At the end moves change nothing any more. -/
theorem popMany_of_atEnd {c : Cursor} (h : c.atEnd = .ok true) (n : Nat) :
    c.popMany n = (.ok (), c) := by
  induction n with
  | zero => rfl
  | succ n ih =>
    rw [popMany, popFront_of_atEnd h]
    exact ih

/-- A cursor opens on a feed that holds some lines, and a walk or a drain meets all their characters
and comes to the end. -/
theorem walk_of_holds {feed : Feed} {ls : List Line} (hh : feed.Holds ls) (s : Settings)
    (x : Context) (hl : s.tallying.truthy = true → (ls.map Line.size).sum < 2 ^ 1000) :
    ∃ c, Cursor.start feed s x = (.ok (), c) ∧ ∀ limit,
      (c.walk limit).fault = none ∧
      (c.walk limit).items.toList = (Line.sightingsFrom 1 ls).take limit ∧
      c.drain limit =
        { items := (c.walk limit).items.map (·.character), cursor := (c.walk limit).cursor } ∧
      ((ls.map Line.size).sum ≤ limit →
        (c.walk limit).cursor.line = ls.length + 1 ∧
        (c.walk limit).cursor.column = 1 ∧
        (c.walk limit).cursor.atEnd = .ok true) := by
  obtain ⟨l, g, hr, hp, ls', hf, hahead, hlast⟩ := Outline.Facing.of_read hh []
  have hlo : s.tallying.truthy = true → (⟨g, [], l, 0⟩ : Outline).Light :=
    fun ht => Outline.light_of_read (hh.light (hl ht)) hr
  obtain ⟨c, hc, hs⟩ := start_of_ok hp hr s x
  refine ⟨c, hc, fun limit => ?_⟩
  obtain ⟨c', o', ls'', hw, hs', hf', ha', hl'⟩ := walkFrom_of_facing limit #[] hs hf hlo
  have hd := drainFrom_of_walkFrom limit c #[] (by rw [hw])
  rw [Array.map_empty, ← drain, ← walk] at hd
  rw [← walk, hahead] at hw
  refine ⟨by rw [hw], by rw [hw]; simp, hd, fun hlimit => ?_⟩
  rw [hahead, List.drop_eq_nil_of_le (by rw [Line.length_sightingsFrom]; exact hlimit)] at ha'
  have hend := hf'.atEnd_iff.2 ha'
  obtain ⟨hline, hindex⟩ := hf'.line_of_atEnd hend
  rw [hw]
  refine ⟨?_, ?_, ?_⟩
  · rw [hs'.line, hline, hl', hlast, List.length_nil, Nat.zero_add]
  · rw [hs'.column, hindex]
  · rw [hs'.atEnd hf'.buffer, hend]

end Cursor

/-! ## Files in memory -/

/-- An input that was adapted a number of times before it is handed over. -/
def Input.adapted : Nat → Input → Except Fault Input
  | 0, input => .ok input
  | n + 1, input => input.toFeed.bind fun feed => adapted n (.feed feed)

/-- The first adaptation puts an adapter around a file, all others find it. -/
theorem Input.adapted_toFeed (n : Nat) (input : Input) (feed : Feed)
    (h : input.toFeed = .ok feed) : (input.adapted n).bind Input.toFeed = .ok feed := by
  induction n generalizing input with
  | zero => exact h
  | succ n ih =>
    rw [adapted, h]
    exact ih (.feed feed) rfl

theorem Memory.toFeed_ofFile (m : Memory) (name : Label) :
    (Offer.ofFile m.file name).toFeed = .ok (.file { file := m.file, name := name.text? }) := by
  cases m <;> exact Offer.toFeed_ofFile _ name rfl rfl

namespace Cursor

/-- A file in memory, adapted any number of times, of which `p` lines were read before.  A walk
never fails and meets each character of the lines that are left once, with its line and column; it
ends on the empty line behind them, and there the cursor stays.  A drain takes the same characters
and then says that there is no more.  If nothing was read before, these are all characters of the
file. -/
theorem walk_memory (m : Memory) (name : Label) (adaptations p : Nat) (s : Settings) (x : Context)
    (hlight : ((m.lines.drop p).map Line.size).sum < 2 ^ 1000) :
    ∃ feed c,
      ((Input.offer (.ofFile m.file name)).adapted adaptations).bind Input.toFeed = .ok feed ∧
      Cursor.start (feed.after p) s x = (.ok (), c) ∧
      (∀ limit,
        (c.walk limit).fault = none ∧
        (c.walk limit).items.toList = (Line.sightingsFrom 1 (m.lines.drop p)).take limit ∧
        c.drain limit =
          { items := (c.walk limit).items.map (·.character), cursor := (c.walk limit).cursor }) ∧
      (∀ limit, ((m.lines.drop p).map Line.size).sum ≤ limit →
        (c.walk limit).items.size = ((m.lines.drop p).map Line.size).sum ∧
        (c.walk limit).cursor.line = (m.lines.drop p).length + 1 ∧
        (c.walk limit).cursor.column = 1 ∧
        (c.walk limit).cursor.atEnd = .ok true ∧
        (∀ n, (c.walk limit).cursor.popMany n = (.ok (), (c.walk limit).cursor)) ∧
        (c.walk limit).cursor.next? = (.ok none, (c.walk limit).cursor)) ∧
      (p = 0 → (Line.sightingsFrom 1 (m.lines.drop p)).map (·.character) =
        m.content.characters) := by
  obtain ⟨f, hf, hh⟩ := (m.holds name.text?).after p
  obtain ⟨c, hc, hwalk⟩ := walk_of_holds hh.feed s x fun _ => hlight
  rw [← hf] at hc
  refine ⟨_, c, Input.adapted_toFeed _ _ _ (m.toFeed_ofFile name), hc, fun limit => ?_,
    fun limit hlimit => ?_, fun hp => ?_⟩
  · obtain ⟨hnone, hitems, hdrain, -⟩ := hwalk limit
    exact ⟨hnone, hitems, hdrain⟩
  · obtain ⟨-, hitems, -, hend⟩ := hwalk limit
    obtain ⟨hline, hcolumn, hat⟩ := hend hlimit
    refine ⟨?_, hline, hcolumn, hat, popMany_of_atEnd hat, next?_of_atEnd hat⟩
    rw [← Array.length_toList, hitems, List.length_take, Line.length_sightingsFrom]
    omega
  · subst hp
    rw [Line.map_character_sightingsFrom, List.drop_zero]
    exact m.flatMap_characters

/-- One line was read before, and the next one ends in a carriage return. -/
theorem walk_memory_carriage_return :
    ((((Memory.text "ab\r\nc\r" .any).lines.drop 1).map Line.size).sum < 2 ^ 1000) ∧
      ∃ feed c, ((Input.offer (.ofFile (.ofText "ab\r\nc\r" .any) .absent)).adapted 2).bind
          Input.toFeed = .ok feed ∧
        Cursor.start (feed.after 1) {} {} = (.ok (), c) ∧
        (c.walk 2).items.toList = [⟨.str "c", 1, 1⟩, ⟨.str "\r", 1, 2⟩] ∧
        (c.walk 2).cursor.line = 2 := by
  have hlight : (((Memory.text "ab\r\nc\r" .any).lines.drop 1).map Line.size).sum < 2 ^ 1000 :=
    lt_of_lt_of_le (show _ < 2 ^ 10 by decide) (pow_le_pow_right₀ one_le_two (by decide))
  obtain ⟨feed, c, hfeed, hc, hwalk, hend, -⟩ :=
    walk_memory (.text "ab\r\nc\r" .any) .absent 2 1 {} {} hlight
  exact ⟨hlight, feed, c, hfeed, hc, (hwalk 2).2.1, (hend 2 (by decide)).2.1⟩

end Cursor

end LineCursor
