import LineCursor.Proofs.Feed

/-!
Files whose reads fail now and then, and the same files without the failures.

Two adapters are `Twins` if they have still to give the same lines, the first one with failures in
between.  A read of the first fails and leaves the twins as they are, one failure less to come, or
both read the same line (`Twins.readLine`).
-/

namespace LineCursor

/-! ## Scripts -/

/-- A text of a file as a line. -/
def Line.ofString (s : String) : Line :=
  .text s.toList.toArray

theorem Line.size_ofString (s : String) : (ofString s).size = s.length := by
  simp [size, characters, ofString, String.length_toList]

namespace File

/-- The items of a script that gives texts or fails. -/
def items (entries : List (Except Fault String)) : List (Except Fault Line) :=
  entries.map (·.map Line.ofString)

/-- A text file whose reads give the entries one after the other and then `last` over and over
again. -/
def playing (entries : List (Except Fault String)) (last : String) : File where
  script := scriptOf (items entries).toArray (.ok (.ofString last))

theorem plays_playing (entries : List (Except Fault String)) (last : String) :
    (playing entries last).Plays (items entries) (.ofString last) := by
  refine ⟨rfl, fun k => ?_⟩
  show scriptOf (items entries).toArray (.ok (.ofString last)) (0 + k) = _
  rw [Nat.zero_add, scriptOf_toArray]

theorem isPlain_of_mem_items {entries : List (Except Fault String)} {l : Line}
    (h : .ok l ∈ items entries) : l.IsPlain := by
  obtain ⟨entry, -, he⟩ := List.mem_map.1 h
  cases entry with
  | error e => cases he
  | ok s =>
    cases he
    trivial

/-- Without the failures of the entries there are none in the script. -/
theorem items_filter (entries : List (Except Fault String)) :
    items (entries.filter (·.isOk)) = (items entries).filter (·.isOk) := by
  have h : ((·.isOk) ∘ (·.map Line.ofString) : Except Fault String → Bool) = (·.isOk) := by
    funext entry
    cases entry <;> rfl
  rw [items, items, List.filter_map, h]

/-- The number of characters that a script gives, if its last text is given once. -/
def scriptSize (entries : List (Except Fault String)) (last : String) : Nat :=
  ((entries.filterMap (·.toOption)).map String.length).sum + last.length

theorem scriptSize_filter (entries : List (Except Fault String)) (last : String) :
    scriptSize (entries.filter (·.isOk)) last = scriptSize entries last := by
  have h : (entries.filter (·.isOk)).filterMap (·.toOption) = entries.filterMap (·.toOption) := by
    rw [List.filterMap_filter]
    congr 1
    funext entry
    cases entry <;> rfl
  rw [scriptSize, scriptSize, h]

theorem sum_given_items (entries : List (Except Fault String)) (last : String) :
    ((items entries).map Feed.given).sum + (Line.ofString last).size = scriptSize entries last := by
  rw [scriptSize, Line.size_ofString]
  congr 1
  induction entries with
  | nil => rfl
  | cons entry entries ih =>
    rw [items, List.map_cons, ← items, List.map_cons, List.sum_cons, ih]
    cases entry with
    | error e => exact Nat.zero_add _
    | ok s => exact congrArg (· + _) (Line.size_ofString s)

end File

/-! ## Twins -/

namespace FileFeed

/-- A read fails as the file does, and nothing but the number of reads changes. -/
structure Fails (f : FileFeed) (e : Fault) (f' : FileFeed) : Prop where
  script : f.file.script f.file.reads = .error e
  readLine : f.readLine = (.error e, f')
  reads : f'.file.reads = f.file.reads + 1
  ended : f'.ended = f.ended

/-- The adapters have the items to give and then `last`, but for the failures among the items, which
are those of the first adapter only. -/
structure Twins (f g : FileFeed) (items : List (Except Fault Line)) (last : Line) : Prop where
  name : g.name = f.name
  ended : g.ended = f.ended
  blank : g.blank = f.blank
  sound : f.Sound
  plain : ∀ l, .ok l ∈ items → l.IsPlain
  plain_last : last.IsPlain
  plays : f.ended = false → f.file.Plays items last
  plays_twin : f.ended = false → g.file.Plays (items.filter (·.isOk)) last

namespace Twins

variable {f g : FileFeed} {items : List (Except Fault Line)} {last : Line}

theorem sound_twin (h : f.Twins g items last) : g.Sound := by
  intro he
  rw [h.ended] at he
  rw [h.blank]
  exact h.sound he

/-- Both read a line of their files. -/
theorem readLine_of_line (h : f.Twins g items last) (hn : f.ended = false) {l : Line}
    (hl : l.IsPlain) {rest : List (Except Fault Line)} (hrest : ∀ l, .ok l ∈ rest → l.IsPlain)
    {p q : File} (hp : f.file.readLine = (.ok l, p)) (hq : g.file.readLine = (.ok l, q))
    (hplays : p.Plays rest last) (htwin : q.Plays (rest.filter (·.isOk)) last) :
    ∃ f' g', f.readLine = (.ok l, f') ∧ g.readLine = (.ok l, g') ∧ f'.Twins g' rest last := by
  obtain ⟨blank, hb, hbp, hb0⟩ := l.emptied_eq hl
  obtain ⟨b, ht, -⟩ := l.isTerminated_eq hl
  refine ⟨_, _, FileFeed.readLine_of_line hn hb ht hp,
    FileFeed.readLine_of_line (h.ended.trans hn) hb ht hq, ?_⟩
  exact ⟨h.name, rfl, rfl, fun _ => ⟨hbp, hb0⟩, hrest, h.plain_last, fun _ => hplays,
    fun _ => htwin⟩

/-- A read of the first adapter fails as its file does and leaves the end ahead, or both adapters
read the same line. -/
theorem readLine (h : f.Twins g items last) :
    (∃ e rest f', items = .error e :: rest ∧ f.ended = false ∧ f.Fails e f' ∧
        f'.Twins g rest last) ∨
      ∃ l rest f' g', l.IsPlain ∧ f.readLine = (.ok l, f') ∧ g.readLine = (.ok l, g') ∧
        f'.Twins g' rest last := by
  cases hn : f.ended with
  | true =>
    right
    have hg : g.readLine = (.ok f.blank, { g with reads := g.reads + 1 }) := by
      rw [← h.blank]
      exact g.readLine_of_ended (h.ended.trans hn)
    exact ⟨f.blank, items, _, _, (h.sound hn).1, f.readLine_of_ended hn, hg,
      ⟨h.name, h.ended, h.blank, h.sound, h.plain, h.plain_last, h.plays, h.plays_twin⟩⟩
  | false =>
    have hplays := h.plays hn
    have htwin := h.plays_twin hn
    cases items with
    | nil =>
      right
      obtain ⟨hp, hplays⟩ := hplays.readLine_nil
      obtain ⟨hq, htwin⟩ := htwin.readLine_nil
      obtain ⟨f', g', hf, hg, ht⟩ :=
        h.readLine_of_line hn h.plain_last h.plain hp hq hplays htwin
      exact ⟨last, [], f', g', h.plain_last, hf, hg, ht⟩
    | cons item rest =>
      have hrest : ∀ l, .ok l ∈ rest → l.IsPlain :=
        fun l hm => h.plain l (List.mem_cons_of_mem _ hm)
      cases item with
      | error e =>
        left
        have hs : f.file.script f.file.reads = .error e := hplays.script 0
        obtain ⟨hp, hplays⟩ := hplays.readLine_cons
        exact ⟨e, rest, _, rfl, rfl, ⟨hs, readLine_of_error hn hp, rfl, rfl⟩,
          ⟨h.name, h.ended, h.blank, h.sound, hrest, h.plain_last, fun _ => hplays, h.plays_twin⟩⟩
      | ok l =>
        right
        have hl := h.plain l List.mem_cons_self
        rw [List.filter_cons_of_pos (by rfl)] at htwin
        obtain ⟨hp, hplays⟩ := hplays.readLine_cons
        obtain ⟨hq, htwin⟩ := htwin.readLine_cons
        obtain ⟨f', g', hf, hg, ht⟩ := h.readLine_of_line hn hl hrest hp hq hplays htwin
        exact ⟨l, rest, f', g', hl, hf, hg, ht⟩

end Twins

/-- Text files with the same script are twins, if the failures are taken out for the second one. -/
theorem twins_playing (entries : List (Except Fault String)) (last : String)
    (name : Option String) :
    Twins { file := .playing entries last, name }
      { file := .playing (entries.filter (·.isOk)) last, name } (File.items entries)
      (.ofString last) where
  name := rfl
  ended := rfl
  blank := rfl
  sound := fun he => nomatch he
  plain := fun _ => File.isPlain_of_mem_items
  plain_last := trivial
  plays := fun _ => File.plays_playing entries last
  plays_twin := fun _ => by
    rw [← File.items_filter]
    exact File.plays_playing _ last

theorem light_playing (entries : List (Except Fault String)) (last : String)
    (name : Option String) (h : File.scriptSize entries last < 2 ^ 1000) :
    (Feed.file { file := .playing entries last, name }).Light := by
  have hl : (Line.ofString last).IsPlain := trivial
  refine Feed.light_of_plays _ (fun _ => File.isPlain_of_mem_items) hl rfl
    (File.plays_playing entries last) ?_
  rw [File.sum_given_items]
  exact h

end FileFeed

end LineCursor
