import LineCursor.Feed
import LineCursor.Proofs.Line

/-!
What the reads of a feed give.

A file whose script is known `Plays` it, one item a read.  The adapter around a file keeps an
invariant (`FileFeed.Sound`) from which follows what a cursor relies on:

    f.Sound → f.readLine.1 = .ok l → l.IsPlain ∧ (l.size = 0 → f.readLine.2.ended)

A feed of any kind is `Plain` if its reads give plain lines only, and `Light` if it gives fewer than
`2^1000` characters before it comes to its end.  It `Holds` some lines if it gives these and no
more, and it is `Ordinary` if no read is interrupted.
-/

namespace LineCursor

namespace File

/-- The file can be read, and its reads give the items one after the other and then `last` over and
over again. -/
structure Plays (f : File) (items : List (Except Fault Line)) (last : Line) : Prop where
  opened : f.closed.truthy = false
  script : ∀ k, f.script (f.reads + k) = (items[k]?).getD (.ok last)

theorem scriptOf_toArray {α : Type} (items : List α) (last : α) (k : Nat) :
    scriptOf items.toArray last k = (items[k]?).getD last := by
  rw [scriptOf, Array.getD_eq_getD_getElem?, List.getElem?_toArray]

theorem readLine_of_open (f : File) (h : f.closed.truthy = false) :
    f.readLine = (f.script f.reads, { f with reads := f.reads + 1 }) := by
  unfold readLine
  rw [h]
  rfl

theorem Plays.readLine_cons {f : File} {item : Except Fault Line} {items : List (Except Fault Line)}
    {last : Line} (h : f.Plays (item :: items) last) :
    f.readLine = (item, { f with reads := f.reads + 1 }) ∧
      ({ f with reads := f.reads + 1 } : File).Plays items last := by
  have h0 : f.script f.reads = item := h.script 0
  refine ⟨by rw [readLine_of_open f h.opened, h0], h.opened, fun k => ?_⟩
  show f.script (f.reads + 1 + k) = _
  rw [Nat.add_right_comm, Nat.add_assoc, h.script]
  rfl

theorem Plays.readLine_nil {f : File} {last : Line} (h : f.Plays [] last) :
    f.readLine = (.ok last, { f with reads := f.reads + 1 }) ∧
      ({ f with reads := f.reads + 1 } : File).Plays [] last := by
  have h0 : f.script f.reads = .ok last := h.script 0
  refine ⟨by rw [readLine_of_open f h.opened, h0], h.opened, fun k => ?_⟩
  show f.script (f.reads + 1 + k) = _
  rw [Nat.add_assoc, h.script]
  rfl

end File

/-! ## The adapter around a file -/

namespace FileFeed

/-- From its end on an adapter gives plain lines without characters. -/
def Sound (f : FileFeed) : Prop :=
  f.ended = true → f.blank.IsPlain ∧ f.blank.size = 0

theorem sound_of_not_ended {f : FileFeed} (h : f.ended = false) : f.Sound := by
  intro he
  rw [h] at he
  cases he

theorem readLine_of_ended (f : FileFeed) (h : f.ended = true) :
    f.readLine = (.ok f.blank, { f with reads := f.reads + 1 }) := by
  unfold readLine
  dsimp only
  rw [if_pos h]

section

variable {f : FileFeed} {g : File} (h : f.ended = false)

include h

theorem readLine_of_error {e : Fault} (hr : f.file.readLine = (.error e, g)) :
    f.readLine = (.error e, { f with reads := f.reads + 1, file := g }) := by
  simp [readLine, h, hr]

/-- A line of the file is handed on; without terminator it is the last one. -/
theorem readLine_of_line {l blank : Line} {b : Bool} (hb : l.emptied = .ok blank)
    (ht : l.isTerminated = .ok b) (hr : f.file.readLine = (.ok l, g)) :
    f.readLine = (.ok l, { f with reads := f.reads + 1, file := g, blank, ended := !b }) := by
  simp [readLine, h, hr, hb, ht]

theorem readLine_of_plain {l : Line} (hl : l.IsPlain) (hr : f.file.readLine = (.ok l, g)) :
    ∃ blank b, l.isTerminated = .ok b ∧ blank.IsPlain ∧ blank.size = 0 ∧
      f.readLine = (.ok l, { f with reads := f.reads + 1, file := g, blank, ended := !b }) := by
  obtain ⟨blank, hb, hp, h0⟩ := l.emptied_eq hl
  obtain ⟨b, ht, -⟩ := l.isTerminated_eq hl
  exact ⟨blank, b, ht, hp, h0, readLine_of_line h hb ht hr⟩

/-- Any other value of the file fails, and the end is not reached by it. -/
theorem readLine_of_other {d : Datum} (hr : f.file.readLine = (.ok (.other d), g)) :
    ∃ e blank, f.readLine = (.error e, { f with reads := f.reads + 1, file := g, blank }) := by
  cases hd : (Line.other d).emptied with
  | error e => exact ⟨e, f.blank, by simp [readLine, h, hr, hd]⟩
  | ok blank =>
    exact ⟨.noEnd d.typeName, blank, by simp [readLine, h, hr, hd, Line.isTerminated]⟩

end

/-- A read fails before the end and leaves it ahead, or it gives a plain line, and an empty one only
from the end on. -/
theorem readLine_cases (f : FileFeed) (hs : f.Sound) :
    (∃ e, f.readLine.1 = .error e ∧ f.ended = false ∧ f.readLine.2.ended = false) ∨
      ∃ l, f.readLine.1 = .ok l ∧ l.IsPlain ∧ (l.size = 0 → f.readLine.2.ended = true) ∧
        f.readLine.2.Sound := by
  cases h : f.ended with
  | true =>
    obtain ⟨hp, h0⟩ := hs h
    right
    rw [readLine_of_ended f h]
    exact ⟨f.blank, rfl, hp, fun _ => h, hs⟩
  | false =>
    cases hr : f.file.readLine with
    | mk outcome g =>
      cases outcome with
      | error e =>
        left
        rw [readLine_of_error h hr]
        exact ⟨e, rfl, rfl, h⟩
      | ok l =>
        by_cases hl : l.IsPlain
        · obtain ⟨blank, b, hb, hp, h0, he⟩ := readLine_of_plain h hl hr
          obtain ⟨b', hb', hpos⟩ := l.isTerminated_eq hl
          obtain rfl : b' = b := Except.ok.inj (hb'.symm.trans hb)
          right
          rw [he]
          refine ⟨l, rfl, hl, fun hz => ?_, fun _ => ⟨hp, h0⟩⟩
          cases b' with
          | true => have := hpos rfl; omega
          | false => rfl
        · left
          cases l with
          | text chars => exact absurd trivial hl
          | bytes data => exact absurd trivial hl
          | other d =>
            obtain ⟨e, blank, he⟩ := readLine_of_other h hr
            rw [he]
            exact ⟨e, rfl, rfl, h⟩

theorem readLine_sound (f : FileFeed) (hs : f.Sound) : f.readLine.2.Sound := by
  rcases f.readLine_cases hs with ⟨e, -, -, hn⟩ | ⟨l, -, -, -, h⟩
  · intro hend
    rw [hn] at hend
    cases hend
  · exact h

theorem name_readLine (f : FileFeed) : f.readLine.2.name = f.name := by
  unfold readLine
  dsimp only
  repeat' split
  all_goals rfl

theorem readLine_script (f : FileFeed) (h : f.file.closed.truthy = false) :
    f.readLine.2.file.closed = f.file.closed ∧ f.readLine.2.file.script = f.file.script := by
  unfold readLine
  dsimp only
  rw [f.file.readLine_of_open h]
  repeat' split
  all_goals exact ⟨rfl, rfl⟩

/-- A value that is no line of a file makes a read fail like any other failure does. -/
theorem isOrdinary_of_readLine {f : FileFeed} (hopen : f.file.closed.truthy = false) {e : Fault}
    (hscript : f.file.script f.file.reads = .error e → e.isOrdinary = true)
    (h : f.readLine.1 = .error e) : e.isOrdinary = true := by
  cases hn : f.ended with
  | true =>
    rw [f.readLine_of_ended hn] at h
    cases h
  | false =>
    have hr := f.file.readLine_of_open hopen
    cases hl : f.file.script f.file.reads with
    | error e' =>
      rw [hl] at hr hscript
      rw [readLine_of_error hn hr] at h
      cases h
      exact hscript rfl
    | ok l =>
      rw [hl] at hr
      cases hb : l.emptied with
      | error e' =>
        have hread : f.readLine.1 = .error e' := by simp [readLine, hn, hr, hb]
        rw [hread] at h
        cases h
        exact Line.isOrdinary_of_emptied hb
      | ok blank =>
        cases ht : l.isTerminated with
        | error e' =>
          have hread : f.readLine.1 = .error e' := by simp [readLine, hn, hr, hb, ht]
          rw [hread] at h
          cases h
          exact Line.isOrdinary_of_isTerminated ht
        | ok b =>
          rw [readLine_of_line hn hb ht hr] at h
          cases h

end FileFeed

/-- A file that was accepted is open, and the adapter around it has read nothing. -/
theorem Offer.of_toFileFeed {o : Offer} {f : FileFeed} (h : o.toFileFeed = .ok f) :
    f.file.closed.truthy = false ∧ f.ended = false ∧ o.file = some f.file := by
  unfold toFileFeed at h
  dsimp only at h
  split at h
  · cases h
  · next file hf =>
    split at h
    · cases h
    · next hc =>
      split at h
      · cases h
      · split at h
        · cases h
          exact ⟨by simpa using hc, rfl, hf⟩
        · cases h

/-! ## Feeds of any kind -/

namespace Feed

/-- A feed after some more reads. -/
def after : Nat → Feed → Feed
  | 0, f => f
  | n + 1, f => after n f.readLine.2

/-- The number of characters that a read gives. -/
def given : Except Fault Line → Nat
  | .ok l => l.size
  | .error _ => 0

/-- The number of characters that the next reads give. -/
def taken : Nat → Feed → Nat
  | 0, _ => 0
  | n + 1, f => given f.readLine.1 + taken n f.readLine.2

/-- All lines that the feed will give are plain. -/
def Plain (f : Feed) : Prop :=
  ∀ n l, (f.after n).readLine.1 = .ok l → l.IsPlain

/-- If the feed comes to its end, then with fewer than `2^1000` characters. -/
def Light (f : Feed) : Prop :=
  ∀ n, (f.after n).ended.truthy = true → f.taken n < 2 ^ 1000

theorem readLine_file {f g : FileFeed} {r : Except Fault Line} (h : f.readLine = (r, g)) :
    (Feed.file f).readLine = (r, .file g) := by
  rw [readLine, h]

/-- A read of a file leaves a file. -/
theorem file_of_readLine {f : FileFeed} (hs : f.Sound) {r : Except Fault Line} {g : Feed}
    (h : (Feed.file f).readLine = (r, g)) : ∃ f' : FileFeed, g = .file f' ∧ f'.Sound := by
  cases h
  exact ⟨f.readLine.2, rfl, f.readLine_sound hs⟩

/-- A read of a file that fails does not bring its end. -/
theorem ended_of_error {f : FileFeed} (hs : f.Sound) {e : Fault} {g : Feed}
    (h : (Feed.file f).readLine = (.error e, g)) : g.ended.truthy = false := by
  have he : f.readLine.1 = .error e := congrArg Prod.fst h
  have hg : Feed.file f.readLine.2 = g := congrArg Prod.snd h
  rcases f.readLine_cases hs with ⟨-, -, -, hn⟩ | ⟨l, hl, -⟩
  · rw [← hg]
    exact hn
  · rw [hl] at he
    cases he

theorem Plain.readLine {f : Feed} (h : f.Plain) : f.readLine.2.Plain :=
  fun n => h (n + 1)

theorem after_file (n : Nat) (f : FileFeed) (hs : f.Sound) :
    ∃ g : FileFeed, (Feed.file f).after n = .file g ∧ g.Sound := by
  induction n generalizing f with
  | zero => exact ⟨f, rfl, hs⟩
  | succ n ih => exact ih f.readLine.2 (f.readLine_sound hs)

/-- The lines of a file are plain. -/
theorem plain_file (f : FileFeed) (hs : f.Sound) : (Feed.file f).Plain := by
  intro n l hl
  obtain ⟨g, hg, hsg⟩ := after_file n f hs
  rw [hg] at hl
  change g.readLine.1 = .ok l at hl
  rcases g.readLine_cases hsg with ⟨e, he, -⟩ | ⟨l', hl', hp, -⟩
  · rw [he] at hl
    cases hl
  · rw [hl'] at hl
    cases hl
    exact hp

/-- From its end on a file gives no characters. -/
theorem taken_of_ended (n : Nat) (f : FileFeed) (hs : f.Sound) (he : f.ended = true) :
    (Feed.file f).taken n = 0 := by
  induction n generalizing f with
  | zero => rfl
  | succ n ih =>
    have hr := f.readLine_of_ended he
    have hz := ih { f with reads := f.reads + 1 } hs he
    show given f.readLine.1 + (Feed.file f.readLine.2).taken n = 0
    rw [hr]
    exact (congrArg (_ + ·) hz).trans (hs he).2

/-- A file that gives terminated lines over and over again has no end. -/
theorem ended_after_of_terminated (n : Nat) (f : FileFeed) {last : Line} (hl : last.IsPlain)
    (ht : last.isTerminated = .ok true) (hn : f.ended = false) (h : f.file.Plays [] last) :
    ((Feed.file f).after n).ended = .bool false := by
  induction n generalizing f with
  | zero => exact congrArg Datum.bool hn
  | succ n ih =>
    obtain ⟨hr, hg⟩ := h.readLine_nil
    obtain ⟨blank, hb, -, -⟩ := last.emptied_eq hl
    have he := FileFeed.readLine_of_line hn hb ht hr
    show ((Feed.file f.readLine.2).after n).ended = _
    rw [he]
    exact ih _ rfl hg

/-- A file that comes to its end has given the lines of its script at most, and its last line
once. -/
theorem taken_le_of_plays (n : Nat) (f : FileFeed) {items : List (Except Fault Line)} {last : Line}
    (hi : ∀ l, .ok l ∈ items → l.IsPlain) (hl : last.IsPlain) (hn : f.ended = false)
    (h : f.file.Plays items last) (he : ((Feed.file f).after n).ended.truthy = true) :
    (Feed.file f).taken n ≤ (items.map given).sum + last.size := by
  induction n generalizing f items with
  | zero => exact Nat.zero_le _
  | succ n ih =>
    change ((Feed.file f.readLine.2).after n).ended.truthy = true at he
    show given f.readLine.1 + (Feed.file f.readLine.2).taken n ≤ _
    cases items with
    | nil =>
      obtain ⟨hr, hg⟩ := h.readLine_nil
      obtain ⟨blank, b, ht, hp, h0, hread⟩ := FileFeed.readLine_of_plain hn hl hr
      rw [hread] at he ⊢
      cases b with
      | true =>
        -- the last line would be counted once for each read, but then there is no end
        rw [ended_after_of_terminated n _ hl ht rfl hg] at he
        cases he
      | false =>
        rw [taken_of_ended n _ (fun _ => ⟨hp, h0⟩) rfl]
        exact Nat.le_add_left _ _
    | cons item items =>
      obtain ⟨g, hr, hg⟩ : ∃ g, f.file.readLine = (item, g) ∧ g.Plays items last :=
        ⟨_, h.readLine_cons⟩
      have hi' : ∀ l, .ok l ∈ items → l.IsPlain := fun l hm => hi l (List.mem_cons_of_mem _ hm)
      rw [List.map_cons, List.sum_cons]
      cases item with
      | error e =>
        rw [FileFeed.readLine_of_error hn hr] at he ⊢
        have := ih { f with reads := f.reads + 1, file := g } hi' hn hg he
        dsimp only
        omega
      | ok l =>
        obtain ⟨blank, b, -, hp, h0, hread⟩ :=
          FileFeed.readLine_of_plain hn (hi l List.mem_cons_self) hr
        rw [hread] at he ⊢
        cases b with
        | true =>
          have := ih { f with reads := f.reads + 1, file := g, blank, ended := !true } hi' rfl hg he
          dsimp only
          omega
        | false =>
          rw [taken_of_ended n _ (fun _ => ⟨hp, h0⟩) rfl]
          dsimp only
          omega

theorem light_of_plays (f : FileFeed) {items : List (Except Fault Line)} {last : Line}
    (hi : ∀ l, .ok l ∈ items → l.IsPlain) (hl : last.IsPlain) (hn : f.ended = false)
    (h : f.file.Plays items last) (hlt : (items.map given).sum + last.size < 2 ^ 1000) :
    (Feed.file f).Light :=
  fun n he => Nat.lt_of_le_of_lt (taken_le_of_plays n f hi hl hn h he) hlt

/-- The feed has these lines still to give, comes to its end with the last one or behind it, and
gives lines without characters from then on. -/
structure Holds (f : Feed) (ls : List Line) : Prop where
  plain : ∀ l ∈ ls, l.IsPlain
  size_pos : ∀ l ∈ ls, 0 < l.size
  line : ∀ n l, ls[n]? = some l → (f.after n).readLine.1 = .ok l
  blank : ∀ n, ls.length ≤ n → ∃ l, (f.after n).readLine.1 = .ok l ∧ l.IsPlain ∧ l.size = 0 ∧
    (f.after n).readLine.2.ended.truthy = true

namespace Holds

variable {f : Feed} {l : Line} {ls : List Line}

theorem readLine_cons (h : f.Holds (l :: ls)) :
    ∃ g, f.readLine = (.ok l, g) ∧ g.Holds ls := by
  refine ⟨f.readLine.2, Prod.ext (h.line 0 l rfl) rfl, ?_⟩
  refine ⟨fun r hr => h.plain r (List.mem_cons_of_mem _ hr),
    fun r hr => h.size_pos r (List.mem_cons_of_mem _ hr), fun n => h.line (n + 1), fun n hn => ?_⟩
  exact h.blank (n + 1) (Nat.succ_le_succ hn)

theorem readLine_nil (h : f.Holds []) :
    ∃ blank g, f.readLine = (.ok blank, g) ∧ blank.IsPlain ∧ blank.size = 0 ∧
      g.ended.truthy = true ∧ g.Holds [] := by
  obtain ⟨blank, hr, hp, h0, he⟩ := h.blank 0 (Nat.le_refl 0)
  refine ⟨blank, f.readLine.2, Prod.ext hr rfl, hp, h0, he, h.plain, h.size_pos, ?_, ?_⟩
  · intro n l hl
    cases hl
  · intro n _
    exact h.blank (n + 1) (Nat.zero_le _)

theorem isPlain (h : f.Holds ls) : f.Plain := by
  intro n l hl
  by_cases hn : n < ls.length
  · have hline := h.line n ls[n] (List.getElem?_eq_getElem hn)
    obtain rfl : ls[n] = l := Except.ok.inj (hline.symm.trans hl)
    exact h.plain _ (List.getElem_mem hn)
  · obtain ⟨blank, hblank, hp, -⟩ := h.blank n (Nat.not_lt.1 hn)
    obtain rfl : blank = l := Except.ok.inj (hblank.symm.trans hl)
    exact hp

/-- Each line is given once. -/
theorem taken_le (n : Nat) (h : f.Holds ls) : f.taken n ≤ (ls.map Line.size).sum := by
  induction n generalizing f ls with
  | zero => exact Nat.zero_le _
  | succ n ih =>
    cases ls with
    | nil =>
      obtain ⟨blank, g, hr, -, h0, -, hg⟩ := h.readLine_nil
      have hrest := ih hg
      rw [taken, hr]
      simp only [given, h0]
      omega
    | cons l ls =>
      obtain ⟨g, hr, hg⟩ := h.readLine_cons
      have hrest := ih hg
      rw [taken, hr, List.map_cons, List.sum_cons]
      exact Nat.add_le_add_left hrest l.size

theorem light (h : f.Holds ls) (hlt : (ls.map Line.size).sum < 2 ^ 1000) : f.Light :=
  fun n _ => Nat.lt_of_le_of_lt (h.taken_le n) hlt

end Holds

theorem name_readLine (f : Feed) : f.readLine.2.name = f.name := by
  cases f with
  | source s => rfl
  | file f => exact congrArg Datum.ofString? f.name_readLine

/-- No read is interrupted. -/
def Ordinary (f : Feed) : Prop :=
  ∀ n e, (f.after n).readLine.1 = .error e → e.isOrdinary = true

theorem Ordinary.readLine {f : Feed} (h : f.Ordinary) : f.readLine.2.Ordinary :=
  fun n => h (n + 1)

/-- The reads of an open file are interrupted only by its script. -/
theorem ordinary_file (f : FileFeed) (hopen : f.file.closed.truthy = false)
    (h : ∀ k e, f.file.script k = .error e → e.isOrdinary = true) : (file f).Ordinary := by
  intro n
  induction n generalizing f with
  | zero =>
    intro e he
    exact FileFeed.isOrdinary_of_readLine hopen (h _ e) he
  | succ n ih =>
    obtain ⟨hclosed, hscript⟩ := f.readLine_script hopen
    refine ih f.readLine.2 ?_ ?_
    · rw [hclosed]
      exact hopen
    · rw [hscript]
      exact h

/-- An object that is read as a file becomes an adapter that has read nothing. -/
theorem toFeed_file {o : Offer} {f : FileFeed} (h : o.toFeed = .ok (.file f)) :
    f.file.closed.truthy = false ∧ f.ended = false ∧ o.file = some f.file := by
  unfold Offer.toFeed at h
  split at h
  · cases h
  · cases hf : o.toFileFeed with
    | error e =>
      rw [hf] at h
      cases h
    | ok g =>
      rw [hf] at h
      cases h
      exact Offer.of_toFileFeed hf

/-- An adapter that has read nothing is sound. -/
theorem sound_of_toFeed {o : Offer} {f : FileFeed} (h : o.toFeed = .ok (.file f)) : f.Sound :=
  FileFeed.sound_of_not_ended (toFeed_file h).2.1

end Feed

/-- A file as an object to read, under some name. -/
def Offer.ofFile (file : File) (name : Label) : Offer :=
  { name, file := some file }

/-- An open, readable file gets an adapter around it. -/
theorem Offer.toFeed_ofFile (file : File) (name : Label) (hc : file.closed.truthy = false)
    (hr : file.readable = .ok (.bool true)) :
    (ofFile file name).toFeed = .ok (.file { file, name := name.text? }) := by
  have hs : (ofFile file name).source? = none := by
    unfold source? ofFile
    cases name.value? <;> rfl
  unfold toFeed
  rw [hs]
  dsimp only
  unfold toFileFeed ofFile
  dsimp only
  rw [hc, hr]
  rfl

end LineCursor
