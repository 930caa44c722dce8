import LineCursor.Cursor.Walk
import LineCursor.Proofs.Cursor.Outline

/-!
Taking characters one after the other, and looking at each before moving on.

On a file a cursor that moves without failure is `Settled`: a character is in front of it, or it is
at the end.  So only a move can end a walk early, and a walk and a drain from the same place meet
the same characters up to there.  The drain does not hand out the character of the move that failed:

    w.fault = none   → d.items = w.items.map (·.character)
    w.fault = some e → w.items = seen.push last ∧ d.items = seen.map (·.character)
-/

namespace LineCursor

/-! ## Settled outlines -/

namespace Outline

/-- The feed is a file. -/
def OnFile (o : Outline) : Prop :=
  ∃ f : FileFeed, o.feed = .file f ∧ f.Sound

/-- A character is in front, or the end is reached. -/
def Settled (o : Outline) : Prop :=
  o.index < o.buffer.size ∨ o.atEnd = true

theorem Settled.lt {o : Outline} (h : o.Settled) (ha : o.atEnd = false) :
    o.index < o.buffer.size := by
  rcases h with h | h
  · exact h
  · rw [ha] at h
    cases h

theorem OnFile.advance {o : Outline} (h : o.OnFile) : o.advance.2.OnFile := by
  obtain ⟨f, hf, hs⟩ := h
  rcases o.advance_cases with ⟨-, he⟩ | ⟨-, -, he⟩ | ⟨e, g, -, -, hr, he⟩ | ⟨l, g, -, -, hr, he⟩
  · rw [he]
    exact ⟨f, hf, hs⟩
  · rw [he]
    exact ⟨f, hf, hs⟩
  · rw [he]
    rw [hf] at hr
    exact Feed.file_of_readLine hs hr
  · rw [he]
    rw [hf] at hr
    exact Feed.file_of_readLine hs hr

/-- A line of a file has a character to stand in front of, or it is the empty one at the end. -/
theorem settled_of_read {f : FileFeed} (hs : f.Sound) {l : Line} {g : Feed} (past : List Line)
    (hr : (Feed.file f).readLine = (.ok l, g)) : (⟨g, past, l, 0⟩ : Outline).Settled := by
  rcases f.readLine_cases hs with ⟨e, he, -⟩ | ⟨l', hl', -, hend, -⟩
  · cases hr.symm.trans (show _ = (Except.error e, Feed.file f.readLine.2) by rw [← he]; rfl)
  · cases hr.symm.trans (show _ = (Except.ok l', Feed.file f.readLine.2) by rw [← hl']; rfl)
    rcases Nat.eq_zero_or_pos l.size with h0 | h0
    · right
      simp only [atEnd, Feed.ended, hend h0, h0, Datum.truthy, Bool.true_and, beq_iff_eq]
    · exact .inl h0

theorem Settled.advance {o : Outline} (h : o.Settled) (hf : o.OnFile)
    (hok : o.advance.1 = .ok ()) : o.advance.2.Settled := by
  obtain ⟨f, hf, hs⟩ := hf
  rcases o.advance_cases with ⟨-, he⟩ | ⟨-, hi, he⟩ | ⟨e, g, -, -, -, he⟩ | ⟨l, g, -, -, hr, he⟩
  · rw [he]
    exact h
  · rw [he]
    exact .inl hi
  · rw [he] at hok
    cases hok
  · rw [he]
    rw [hf] at hr
    exact settled_of_read hs _ hr

end Outline

/-! ## Walks and drains -/

/-- How a drain ends after a failed move: a feed that says that there is no more just ends it. -/
def Fault.endOfDrain : Fault → Option Fault
  | .stopped _ => none
  | e => some e

namespace Cursor

theorem popFront_of_atEnd {c : Cursor} (ha : c.atEnd = .ok true) : c.popFront = (.ok (), c) := by
  rw [popFront, ha]

theorem next?_of_atEnd {c : Cursor} (ha : c.atEnd = .ok true) : c.next? = (.ok none, c) := by
  rw [next?, ha]

section

variable {c d : Cursor} {x : Datum} (ha : c.atEnd = .ok false) (hx : c.front = (.ok x, c))

include ha hx

theorem next?_of_ok (hd : c.popFront = (.ok (), d)) : c.next? = (.ok (some x), d) := by
  rw [next?, ha]
  dsimp only
  rw [hx]
  dsimp only
  rw [hd]

/-- The character is lost to the caller when the move behind it fails. -/
theorem next?_of_error {e : Fault} (hd : c.popFront = (.error e, d)) :
    c.next? = (match e.endOfDrain with
      | some e => .error e
      | none => .ok none, d) := by
  rw [next?, ha]
  dsimp only
  rw [hx]
  dsimp only
  rw [hd]
  cases e <;> rfl

end

/-- A drain meets what a walk that does not fail meets. -/
theorem drainFrom_of_walkFrom (limit : Nat) (c : Cursor) (items : Array Sighting)
    (h : (c.walkFrom limit items).fault = none) :
    c.drainFrom limit (items.map (·.character)) =
      { items := (c.walkFrom limit items).items.map (·.character)
        cursor := (c.walkFrom limit items).cursor } := by
  induction limit generalizing c items with
  | zero => rfl
  | succ limit ih =>
    unfold walkFrom at h ⊢
    unfold drainFrom next?
    cases ha : c.atEnd with
    | error e =>
      rw [ha] at h
      cases h
    | ok b =>
      cases b with
      | true => rfl
      | false =>
        rw [ha] at h
        cases hx : c.front with
        | mk seen d =>
          rw [hx] at h
          cases seen with
          | error e => cases h
          | ok x =>
            cases hpop : d.popFront with
            | mk moved d' =>
              cases moved with
              | error e =>
                dsimp only at h
                rw [hpop] at h
                cases h
              | ok u =>
                dsimp only at h ⊢
                rw [hpop] at h ⊢
                have hrest := ih d' (items.push ⟨x, d.line, d.column⟩) h
                rw [Array.map_push] at hrest
                exact hrest

/-- A drain that starts with the characters of a walk meets those that the walk meets, except for
the last one if its move fails. -/
theorem drainFrom_eq_of_walkFrom (limit : Nat) {s : Settings} {c : Cursor} {o : Outline}
    (items : Array Sighting) (hs : c.Shows s o) (hp : o.Plain) (hf : o.OnFile)
    (hset : o.Settled) :
    ((c.walkFrom limit items).fault = none ∧
      c.drainFrom limit (items.map (·.character)) =
        { items := (c.walkFrom limit items).items.map (·.character)
          cursor := (c.walkFrom limit items).cursor }) ∨
    ∃ (e : Fault) (seen : Array Sighting) (last : Sighting),
      (c.walkFrom limit items).fault = some e ∧
      (c.walkFrom limit items).items = seen.push last ∧
      c.drainFrom limit (items.map (·.character)) =
        { items := seen.map (·.character)
          fault := e.endOfDrain
          cursor := (c.walkFrom limit items).cursor } := by
  induction limit generalizing c o items with
  | zero => exact .inl ⟨rfl, rfl⟩
  | succ limit ih =>
    cases ha : o.atEnd with
    | true =>
      have hc : c.atEnd = .ok true := by rw [hs.atEnd hp.buffer, ha]
      left
      simp only [walkFrom, drainFrom, hc, next?_of_atEnd hc, and_self]
    | false =>
      have hc : c.atEnd = .ok false := by rw [hs.atEnd hp.buffer, ha]
      have hi := hset.lt ha
      have hx := hs.front_of_some hp.buffer (List.getElem?_eq_getElem hi)
      generalize o.buffer.characters[o.index] = x at hx
      obtain ⟨r, d, hpop, hd, hr⟩ := hs.popFront hp
      cases r with
      | error e =>
        right
        refine ⟨e, items, ⟨x, c.line, c.column⟩, ?_, ?_, ?_⟩
        · simp only [walkFrom, hc, hx, hpop]
        · simp only [walkFrom, hc, hx, hpop]
        · simp only [walkFrom, drainFrom, hc, hx, hpop, next?_of_error hc hx hpop]
          cases e <;> rfl
      | ok u =>
        have hok : o.advance.1 = .ok () := by
          rcases hr with hr | ⟨hr, -⟩
          · exact hr.symm
          · exact hr
        have hnext := ih (items.push ⟨x, c.line, c.column⟩) hd hp.advance hf.advance
          (hset.advance hf hok)
        rw [Array.map_push] at hnext
        simp only [walkFrom, drainFrom, hc, hx, hpop, next?_of_ok hc hx hpop]
        exact hnext

/-- A cursor opens on an object that is read as a file and gives a text first. -/
theorem start_of_toFeed {o : Offer} {f : FileFeed} (ho : o.toFeed = .ok (.file f))
    (hfirst : ∃ chars, f.file.script f.file.reads = .ok (.text chars)) (s : Settings)
    (x : Context) :
    ∃ c p, Cursor.start (.file f) s x = (.ok (), c) ∧ c.Shows s p ∧ p.Plain ∧ p.OnFile ∧
      p.Settled := by
  obtain ⟨hopen, hn, -⟩ := Feed.toFeed_file ho
  have hs := Feed.sound_of_toFeed ho
  obtain ⟨chars, hfirst⟩ := hfirst
  have hread := f.file.readLine_of_open hopen
  rw [hfirst] at hread
  have hl : (Line.text chars).IsPlain := trivial
  obtain ⟨blank, b, -, -, -, he⟩ := FileFeed.readLine_of_plain hn hl hread
  have hr := Feed.readLine_file he
  have hplain := (Feed.plain_file f hs).readLine
  have hsound := f.readLine_sound hs
  rw [hr] at hplain
  rw [he] at hsound
  obtain ⟨c, hc, hshows⟩ := start_of_ok hl hr s x
  exact ⟨c, _, hc, hshows, ⟨hl, hplain⟩, ⟨_, rfl, hsound⟩, Outline.settled_of_read hs [] hr⟩

/-- An object that is read as a file and gives a line first: a drain meets what a walk meets exactly
if no move of the walk fails, and then both end alike.  If a move fails the drain has all characters
but the last one, which was read and is lost, and the same failure ends it. -/
theorem drain_items_eq_iff (o : Offer) (f : FileFeed) (ho : o.toFeed = .ok (.file f))
    (hfirst : ∃ chars, f.file.script f.file.reads = .ok (.text chars)) (s : Settings)
    (x : Context) :
    ∃ c, Cursor.start (.file f) s x = (.ok (), c) ∧ ∀ limit,
      (c.drain limit).cursor = (c.walk limit).cursor ∧
      ((c.drain limit).items = (c.walk limit).items.map (·.character) ↔
        (c.walk limit).fault = none) ∧
      ((c.walk limit).fault = none → (c.drain limit).fault = none) ∧
      ∀ e, (c.walk limit).fault = some e →
        (c.drain limit).fault = e.endOfDrain ∧
        ∃ (seen : Array Sighting) (last : Sighting), (c.walk limit).items = seen.push last ∧
          (c.drain limit).items = seen.map (·.character) := by
  obtain ⟨c, p, hc, hshows, hplain, hfile, hset⟩ := start_of_toFeed ho hfirst s x
  refine ⟨c, hc, fun limit => ?_⟩
  have hwalk := drainFrom_eq_of_walkFrom limit #[] hshows hplain hfile hset
  rw [Array.map_empty, ← drain, ← walk] at hwalk
  rcases hwalk with ⟨hnone, hd⟩ | ⟨e, seen, last, hsome, hitems, hd⟩
  · rw [hd, hnone]
    exact ⟨rfl, by simp, fun _ => rfl, fun e he => nomatch he⟩
  · rw [hd, hsome, hitems]
    refine ⟨rfl, ?_, (fun h => nomatch h), fun e' he' => ?_⟩
    · constructor
      · intro h
        have := congrArg Array.size h
        simp at this
      · intro h
        cases h
    · cases he'
      exact ⟨rfl, seen, last, rfl, rfl⟩

/-- The file with one line, whose second read fails. -/
def failingBehindLine : Offer where
  file := some
    { script := File.scriptOf #[.ok (.text #['a', '\n']), .error (.device "OSError" "device gone")]
        (.ok (.text #[])) }

theorem drain_items_eq_iff_failing :
    ∃ f, failingBehindLine.toFeed = .ok (.file f) ∧
      (∃ chars, f.file.script f.file.reads = .ok (.text chars)) ∧
      ∃ c, Cursor.start (.file f) = (.ok (), c) ∧ (c.walk 2).fault.isSome = true ∧
        ¬ (c.drain 2).items = (c.walk 2).items.map (·.character) := by
  obtain ⟨c, hc, h⟩ := drain_items_eq_iff failingBehindLine _ rfl ⟨_, rfl⟩ {} {}
  have hw : (c.walk 2).fault.isSome = true := by
    cases hc
    decide
  refine ⟨_, rfl, ⟨_, rfl⟩, c, hc, hw, fun heq => ?_⟩
  rw [(h 2).2.1.1 heq] at hw
  cases hw

/-- The line feed was read, a walk meets it, and no drain does. -/
theorem drain_loses_line_feed :
    ∃ f c, failingBehindLine.toFeed = .ok (.file f) ∧ Cursor.start (.file f) = (.ok (), c) ∧
      ∀ limit, 2 ≤ limit →
        (c.walk limit).items.toList.map (·.character) = [.str "a", .str "\n"] ∧
        (c.drain limit).items.toList = [.str "a"] := by
  refine ⟨_, _, rfl, rfl, fun limit hl => ?_⟩
  obtain ⟨limit, rfl⟩ := Nat.exists_eq_add_of_le' hl
  exact ⟨rfl, rfl⟩

end Cursor

end LineCursor
