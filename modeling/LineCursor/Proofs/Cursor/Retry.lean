import LineCursor.Proofs.Cursor.Outline
import LineCursor.Proofs.Feed.Twins

/-!
Moves that are repeated after a failed read.

A caller may repeat each move that fails until it succeeds (`Cursor.Retried`).  A cursor that is
moved so over a file with failures goes along with one over the same file without them: a failed
move leaves it on its line, behind the last character, while the other cursor still stands in front
of that character (`Outline.Twins`).  The move that succeeds brings both to the next line:

    o.Twins p (.error e :: rest) last → o.advance.2.Twins p rest last        (failed)
    o.Twins p items last → o.advance.2.Twins p.advance.2 rest last           (moved)

So the two agree after any number of moves that succeed (`retried_agrees`).
-/

namespace LineCursor

/-! ## Outlines on twins -/

namespace Outline

/-- The outlines are on the same line of twins, at the same place.  Or the read of the next line has
failed for the first one, and the second one has that read before it. -/
structure Twins (o p : Outline) (items : List (Except Fault Line)) (last : Line) : Prop where
  past : p.past = o.past
  buffer : p.buffer = o.buffer
  plain : o.buffer.IsPlain
  light : o.Light
  light_twin : p.Light
  feeds : ∃ f g : FileFeed, o.feed = .file f ∧ p.feed = .file g ∧ f.Twins g items last
  place : p.index = o.index ∨ o.feed.ended.truthy = false ∧
    o.buffer.size ≤ o.index + 1 ∧ o.buffer.size ≤ p.index + 1

/-- A move of the first outline fails as its file does and leaves the two twins, or both move to the
same place. -/
def MovesBeside (o p : Outline) (items : List (Except Fault Line)) (last : Line) : Prop :=
  (∃ e rest f f', items = .error e :: rest ∧ o.feed = .file f ∧ f.Fails e f' ∧
      o.advance = (.error e, { o with feed := .file f', index := o.index + 1 }) ∧
      o.advance.2.Twins p rest last) ∨
    o.advance.1 = .ok () ∧ p.advance.1 = .ok () ∧ p.advance.2.index = o.advance.2.index ∧
      ∃ rest, o.advance.2.Twins p.advance.2 rest last

namespace Twins

variable {o p : Outline} {items : List (Except Fault Line)} {last : Line}

theorem plain_left (h : o.Twins p items last) : o.Plain := by
  obtain ⟨f, g, hf, -, ht⟩ := h.feeds
  refine ⟨h.plain, ?_⟩
  rw [hf]
  exact Feed.plain_file f ht.sound

theorem plain_right (h : o.Twins p items last) : p.Plain := by
  obtain ⟨f, g, -, hg, ht⟩ := h.feeds
  refine ⟨by rw [h.buffer]; exact h.plain, ?_⟩
  rw [hg]
  exact Feed.plain_file g ht.sound_twin

theorem ended (h : o.Twins p items last) : p.feed.ended = o.feed.ended := by
  obtain ⟨f, g, hf, hg, ht⟩ := h.feeds
  rw [hf, hg]
  exact congrArg Datum.bool ht.ended

theorem name (h : o.Twins p items last) : p.feed.name = o.feed.name := by
  obtain ⟨f, g, hf, hg, ht⟩ := h.feeds
  rw [hf, hg]
  exact congrArg Datum.ofString? ht.name

theorem atEnd (h : o.Twins p items last) : p.atEnd = o.atEnd := by
  rcases h.place with hi | ⟨he, -, -⟩
  · rw [Outline.atEnd, Outline.atEnd, h.ended, h.buffer, hi]
  · rw [Outline.atEnd, Outline.atEnd, h.ended, he, Bool.false_and, Bool.false_and]

theorem index_eq_of_atEnd (h : o.Twins p items last) (ha : o.atEnd = true) :
    p.index = o.index := by
  rcases h.place with hi | ⟨he, -, -⟩
  · exact hi
  · rw [Outline.atEnd, he, Bool.false_and] at ha
    cases ha

theorem index_eq_of_lt (h : o.Twins p items last) (hi : o.index + 1 < o.buffer.size) :
    p.index = o.index := by
  rcases h.place with hpi | ⟨-, hle, -⟩
  · exact hpi
  · omega

theorem le_of_le (h : o.Twins p items last) (hle : o.buffer.size ≤ o.index + 1) :
    o.buffer.size ≤ p.index + 1 := by
  rcases h.place with hpi | ⟨-, -, hle'⟩
  · rw [hpi]
    exact hle
  · exact hle'

/-- Behind the last character of the line the read of the first outline may fail. -/
theorem advance_of_le (h : o.Twins p items last) (ha : o.atEnd = false)
    (hle : o.buffer.size ≤ o.index + 1) : o.MovesBeside p items last := by
  obtain ⟨f, g, hf, hg, ht⟩ := h.feeds
  have hlo := h.light.advance
  have hlp := h.light_twin.advance
  have hle' := h.le_of_le hle
  rcases ht.readLine with
    ⟨e, rest, f', hitems, hn, hfail, ht'⟩ | ⟨l, rest, f', g', hl, hrf, hrg, ht'⟩
  · left
    have he := advance_of_error ha hle (e := e) (g := .file f')
      (by rw [hf, Feed.readLine_file hfail.readLine])
    have hn' : (Feed.file f').ended.truthy = false := hfail.ended.trans hn
    refine ⟨e, rest, f, f', hitems, hf, hfail, he, ?_⟩
    rw [he] at hlo ⊢
    exact ⟨h.past, h.buffer, h.plain, hlo, h.light_twin, ⟨f', g, rfl, hg, ht'⟩,
      .inr ⟨hn', Nat.le_succ_of_le hle, hle'⟩⟩
  · right
    have he := advance_of_ok ha hle (l := l) (g := .file f')
      (by rw [hf, Feed.readLine_file hrf])
    rw [← h.buffer] at hle'
    have he' := advance_of_ok (h.atEnd.trans ha) hle' (l := l) (g := .file g')
      (by rw [hg, Feed.readLine_file hrg])
    have hpast : p.buffer :: p.past = o.buffer :: o.past := by rw [h.buffer, h.past]
    rw [he] at hlo ⊢
    rw [he'] at hlp ⊢
    exact ⟨rfl, rfl, rfl, rest, hpast, rfl, hl, hlo, hlp, ⟨f', g', rfl, rfl, ht'⟩, .inl rfl⟩

theorem advance (h : o.Twins p items last) : o.MovesBeside p items last := by
  cases ha : o.atEnd with
  | true =>
    right
    rw [o.advance_of_atEnd ha, p.advance_of_atEnd (h.atEnd.trans ha)]
    exact ⟨rfl, rfl, h.index_eq_of_atEnd ha, items, h⟩
  | false =>
    by_cases hi : o.index + 1 < o.buffer.size
    · right
      have hpi := h.index_eq_of_lt hi
      have hi' : p.index + 1 < p.buffer.size := by
        rw [hpi, h.buffer]
        exact hi
      have hlo := h.light.advance
      have hlp := h.light_twin.advance
      rw [advance_of_lt ha hi] at hlo ⊢
      rw [advance_of_lt (h.atEnd.trans ha) hi'] at hlp ⊢
      have hnext : p.index + 1 = o.index + 1 := by rw [hpi]
      exact ⟨rfl, rfl, hnext, items, h.past, h.buffer, h.plain, hlo, hlp, h.feeds, .inl hnext⟩
    · exact h.advance_of_le ha (Nat.not_lt.1 hi)

end Twins

end Outline

/-! ## Cursors on twins -/

namespace Cursor

/-- Two cursors cannot be told apart by what they show and what they have counted. -/
structure Agrees (c d : Cursor) : Prop where
  line : d.line = c.line
  column : d.column = c.column
  buffer : d.buffer = c.buffer
  atEnd : d.atEnd = c.atEnd
  front : d.front.1 = c.front.1
  characters : d.tally.characters = c.tally.characters
  lines : d.tally.lines = c.tally.lines
  refills : d.tally.refills = c.tally.refills

section

variable {s : Settings} {c d : Cursor} {o p : Outline} {items : List (Except Fault Line)}
  {last : Line}

/-- Cursors on the same line after the same lines have read as many of them. -/
theorem Shows.lines_refills_eq (hc : c.Shows s o) (hd : d.Shows s p) (hpast : p.past = o.past)
    (hbuffer : p.buffer = o.buffer) :
    d.tally.lines = c.tally.lines ∧ d.tally.refills = c.tally.refills := by
  cases hs : s.tallying.truthy with
  | false => rw [hc.idle hs, hd.idle hs]; exact ⟨rfl, rfl⟩
  | true =>
    rw [(hc.counted hs).lines, (hd.counted hs).lines, (hc.counted hs).refills,
      (hd.counted hs).refills, Outline.linesRead, Outline.linesRead, hpast, hbuffer]
    exact ⟨rfl, rfl⟩

theorem Shows.popFront_left (hc : c.Shows s o) (h : o.Twins p items last) :
    ∃ c', c.popFront = (o.advance.1, c') ∧ c'.Shows s o.advance.2 :=
  hc.popFront_eq h.plain_left fun _ => h.light.advance

theorem Shows.popFront_right (hd : d.Shows s p) (h : o.Twins p items last) :
    ∃ d', d.popFront = (p.advance.1, d') ∧ d'.Shows s p.advance.2 :=
  hd.popFront_eq h.plain_right fun _ => h.light_twin.advance

theorem Shows.agrees (hc : c.Shows s o) (hd : d.Shows s p) (h : o.Twins p items last)
    (hi : p.index = o.index) : c.Agrees d := by
  have hline : p.line = o.line := by rw [Outline.line, Outline.line, h.past]
  obtain ⟨hlines, hrefills⟩ := hc.lines_refills_eq hd h.past h.buffer
  refine ⟨?_, ?_, ?_, ?_, ?_, ?_, hlines, hrefills⟩
  · rw [hc.line, hd.line, hline]
  · rw [hc.column, hd.column, hi]
  · rw [hc.buffer, hd.buffer, h.buffer]
  · rw [hc.atEnd h.plain, hd.atEnd h.plain_right.buffer, h.atEnd]
  · rw [(hc.front h.plain).1, (hd.front h.plain_right.buffer).1, Outline.front, Outline.front,
      Outline.location, Outline.location, h.buffer, hi, hline, h.name]
  · cases hs : s.tallying.truthy with
    | false => rw [hc.idle hs, hd.idle hs]
    | true =>
      rw [(hc.counted hs).characters, (hd.counted hs).characters, Outline.consumed,
        Outline.consumed, h.past, h.buffer, hi]

end

/-! ## Repeated moves -/

/-- `c.Retried n d`: the cursor has come to `d` by moves of which `n` succeeded, the last one among
them, and each failed move was followed by another one. -/
inductive Retried : Nat → Cursor → Cursor → Prop where
  | done {c : Cursor} : Retried 0 c c
  | moved {n : Nat} {c d e : Cursor} :
      c.popFront = (.ok (), d) → Retried n d e → Retried (n + 1) c e
  | failed {n : Nat} {c d e : Cursor} {x : Fault} :
      c.popFront = (.error x, d) → Retried (n + 1) d e → Retried (n + 1) c e

/-- The cursor after some moves, the failed ones included. -/
def afterPops : Nat → Cursor → Cursor
  | 0, c => c
  | k + 1, c => afterPops k c.popFront.2

section

variable {s : Settings} {c d : Cursor} {o p : Outline} {items : List (Except Fault Line)}
  {last : Line}

/-- Repeated moves succeed in the end, as only so many reads fail. -/
theorem exists_retried (n : Nat) (hc : c.Shows s o) (h : o.Twins p items last) :
    ∃ c', Retried n c c' := by
  induction n generalizing c o p items with
  | zero => exact ⟨c, .done⟩
  | succ n ihn =>
    -- a failed read takes its item away from the script, so the next success comes
    induction items generalizing c o with
    | nil =>
      obtain ⟨c₁, hpop, hc₁⟩ := hc.popFront_left h
      rcases h.advance with ⟨e, rest, f, f', hitems, -⟩ | ⟨hok, -, -, rest, ht⟩
      · cases hitems
      · rw [hok] at hpop
        obtain ⟨c', hc'⟩ := ihn hc₁ ht
        exact ⟨c', .moved hpop hc'⟩
    | cons item items ihi =>
      obtain ⟨c₁, hpop, hc₁⟩ := hc.popFront_left h
      rcases h.advance with ⟨e, rest, f, f', hitems, -, -, he, ht⟩ | ⟨hok, -, -, rest, ht⟩
      · cases hitems
        rw [congrArg Prod.fst he] at hpop
        obtain ⟨c', hc'⟩ := ihi hc₁ ht
        exact ⟨c', .failed hpop hc'⟩
      · rw [hok] at hpop
        obtain ⟨c', hc'⟩ := ihn hc₁ ht
        exact ⟨c', .moved hpop hc'⟩

/-- Repeated moves over a file with failures lead where plain moves lead over its twin.  While a
move is still to succeed the first cursor may be ahead of the second one. -/
theorem retried_agrees {n : Nat} {c' : Cursor} (hr : Retried n c c') (hc : c.Shows s o)
    (hd : d.Shows s p) (h : o.Twins p items last) (hi : n = 0 → p.index = o.index) :
    ∃ d', d.popMany n = (.ok (), d') ∧ c'.Agrees d' := by
  induction hr generalizing d o p items with
  | done => exact ⟨d, rfl, hc.agrees hd h (hi rfl)⟩
  | moved hpop hr ih =>
    obtain ⟨c₁, hpop₁, hc₁⟩ := hc.popFront_left h
    obtain ⟨d₁, hpop₂, hd₁⟩ := hd.popFront_right h
    obtain ⟨hok, rfl⟩ := Prod.mk.inj (hpop.symm.trans hpop₁)
    rcases h.advance with ⟨e, rest, f, f', -, -, -, he, -⟩ | ⟨-, hok', hi', rest, ht⟩
    · rw [he] at hok
      cases hok
    · rw [hok'] at hpop₂
      obtain ⟨d', hmany, hag⟩ := ih hc₁ hd₁ ht fun _ => hi'
      exact ⟨d', by rw [popMany, hpop₂]; exact hmany, hag⟩
  | failed hpop hr ih =>
    obtain ⟨c₁, hpop₁, hc₁⟩ := hc.popFront_left h
    obtain ⟨herror, rfl⟩ := Prod.mk.inj (hpop.symm.trans hpop₁)
    rcases h.advance with ⟨e, rest, f, f', -, -, -, -, ht⟩ | ⟨hok, -⟩
    · exact ih hc₁ hd ht fun hz => nomatch hz
    · rw [hok] at herror
      cases herror

theorem shows_afterPops (k : Nat) (hc : c.Shows s o) (h : o.Twins p items last) :
    ∃ o' p' rest, (c.afterPops k).Shows s o' ∧ o'.Twins p' rest last := by
  induction k generalizing c o p items with
  | zero => exact ⟨o, p, items, hc, h⟩
  | succ k ih =>
    obtain ⟨c₁, hpop, hc₁⟩ := hc.popFront_left h
    rw [afterPops, hpop]
    rcases h.advance with ⟨e, rest, f, f', -, -, -, -, ht⟩ | ⟨-, -, -, rest, ht⟩
    · exact ih hc₁ ht
    · exact ih hc₁ ht

/-- A move that fails raises what the file raised, and it changes neither the line nor what was
read so far. -/
theorem popFront_error {e : Fault} {c' : Cursor} (hc : c.Shows s o) (h : o.Twins p items last)
    (hpop : c.popFront = (.error e, c')) :
    ∃ f : FileFeed, c.feed = .file f ∧ f.file.script f.file.reads = .error e ∧
      c'.feed.deviceReads = f.file.reads + 1 ∧ c'.feed.ended = .bool f.ended ∧
      c'.line = c.line ∧ c'.buffer = c.buffer ∧
      c'.tally.lines = c.tally.lines ∧ c'.tally.refills = c.tally.refills := by
  obtain ⟨c₁, hpop₁, hc₁⟩ := hc.popFront_left h
  obtain ⟨herror, rfl⟩ := Prod.mk.inj (hpop.symm.trans hpop₁)
  rcases h.advance with ⟨e', rest, f, f', -, hf, hfail, he, -⟩ | ⟨hok, -⟩
  · rw [he] at herror hc₁
    cases herror
    obtain ⟨hlines, hrefills⟩ := hc.lines_refills_eq hc₁ rfl rfl
    refine ⟨f, hc.feed.trans hf, hfail.script, ?_, ?_, ?_, ?_, hlines, hrefills⟩
    · rw [hc₁.feed]
      exact hfail.reads
    · rw [hc₁.feed]
      exact congrArg Datum.bool hfail.ended
    · rw [hc.line, hc₁.line]
      rfl
    · rw [hc.buffer, hc₁.buffer]
  · rw [hok] at herror
    cases herror

end

/-! ## Files with failures -/

/-- Two cursors open on a text file, on one with failures among its reads and on one without them.
After any number of moves that succeed, those that fail being repeated on the first file, the two
agree.  Each move that fails raises what the file raised, and nothing is lost or counted by it. -/
theorem retried_agrees_undisturbed (first : String) (rest : List (Except Fault String))
    (last : String) (name : Label) (s : Settings) (x y : Context)
    (hsize : File.scriptSize (.ok first :: rest) last < 2 ^ 1000) :
    ∃ f g c d,
      (Offer.ofFile (.playing (.ok first :: rest) last) name).toFeed = .ok f ∧
      (Offer.ofFile (.playing ((.ok first :: rest).filter (·.isOk)) last) name).toFeed = .ok g ∧
      Cursor.start f s x = (.ok (), c) ∧ Cursor.start g s y = (.ok (), d) ∧
      (∀ n, (∃ c', Retried n c c') ∧
        ∀ c', Retried n c c' → ∃ d', d.popMany n = (.ok (), d') ∧ c'.Agrees d') ∧
      ∀ k e c', (c.afterPops k).popFront = (.error e, c') →
        ∃ f : FileFeed, (c.afterPops k).feed = .file f ∧ f.file.script f.file.reads = .error e ∧
          c'.feed.deviceReads = f.file.reads + 1 ∧ c'.feed.ended = .bool f.ended ∧
          c'.line = (c.afterPops k).line ∧ c'.buffer = (c.afterPops k).buffer ∧
          c'.tally.lines = (c.afterPops k).tally.lines ∧
          c'.tally.refills = (c.afterPops k).tally.refills := by
  have ht := FileFeed.twins_playing (.ok first :: rest) last name.text?
  have hlf := FileFeed.light_playing _ last name.text? hsize
  rw [← File.scriptSize_filter] at hsize
  have hlg := FileFeed.light_playing _ last name.text? hsize
  rcases ht.readLine with ⟨e, _, _, hitems, -⟩ | ⟨l, items, f', g', hl, hrf, hrg, ht'⟩
  · cases hitems
  · have hf := Feed.readLine_file hrf
    have hg := Feed.readLine_file hrg
    obtain ⟨c, hc, hcs⟩ := start_of_ok hl hf s x
    obtain ⟨d, hd, hds⟩ := start_of_ok hl hg s y
    have h : (⟨.file f', [], l, 0⟩ : Outline).Twins ⟨.file g', [], l, 0⟩ items (.ofString last) :=
      ⟨rfl, rfl, hl, Outline.light_of_read hlf hf, Outline.light_of_read hlg hg,
        ⟨f', g', rfl, rfl, ht'⟩, .inl rfl⟩
    refine ⟨_, _, c, d, Offer.toFeed_ofFile _ name rfl rfl, Offer.toFeed_ofFile _ name rfl rfl,
      hc, hd, fun n => ⟨exists_retried n hcs h, ?_⟩, ?_⟩
    · intro c' hr
      exact retried_agrees hr hcs hds h fun _ => rfl
    · intro k e c' hpop
      obtain ⟨o', p', rest', hk, htwins⟩ := shows_afterPops k hcs h
      exact popFront_error hk htwins hpop

/-- Both reads behind the first line fail before the second line comes. -/
theorem retried_agrees_undisturbed_twice :
    File.scriptSize [.ok "a\n", .error (.device "OSError" "busy"),
      .error (.device "OSError" "gone"), .ok "b"] "" < 2 ^ 1000 ∧
    ∃ f g c d, Cursor.start f = (.ok (), c) ∧ Cursor.start g = (.ok (), d) ∧
      (c.afterPops 1).popFront.1 = .error (.device "OSError" "busy") ∧
      (c.afterPops 2).popFront.1 = .error (.device "OSError" "gone") ∧
      ∃ c' d', Retried 3 c c' ∧ d.popMany 3 = (.ok (), d') ∧ c'.Agrees d' ∧ d'.line = 3 := by
  have hsize : File.scriptSize [.ok "a\n", .error (.device "OSError" "busy"),
      .error (.device "OSError" "gone"), .ok "b"] "" < 2 ^ 1000 :=
    lt_of_lt_of_le (show _ < 2 ^ 10 by decide) (pow_le_pow_right₀ one_le_two (by decide))
  obtain ⟨f, g, c, d, hf, hg, hc, hd, hret, -⟩ :=
    retried_agrees_undisturbed "a\n" [.error (.device "OSError" "busy"),
      .error (.device "OSError" "gone"), .ok "b"] "" .absent {} {} {} hsize
  obtain ⟨⟨c', hr⟩, hag⟩ := hret 3
  obtain ⟨d', hmany, hag⟩ := hag c' hr
  refine ⟨hsize, f, g, c, d, hc, hd, ?_, ?_, c', d', hr, hmany, hag, ?_⟩
  · cases hf
    cases hc
    rfl
  · cases hf
    cases hc
    rfl
  · cases hg
    cases hd
    cases hmany
    rfl

end Cursor

end LineCursor
