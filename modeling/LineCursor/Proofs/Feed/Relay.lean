import LineCursor.Proofs.Feed

/-!
An adapter hands on what its file gives, and stops for good at the first line without terminator.

Between the reads of an adapter anything may happen to its file: it may be closed, or go on with
another script.  So a run of reads is given by the changes of the file, one before each read
(`FileFeed.afterReads`), and next to it stands the file alone, read once behind each of the same
changes (`File.readings`, `File.afterReadings`).  As long as no reading was a last line
(`Line.IsUnterminated`) the adapter keeps step with the file, and after it only the changes go on:

    no last line   (f.afterReads changes).file = f.file.afterReadings changes
    later on       (f.afterReads changes).file = f.file.changed changes
-/

namespace LineCursor

/-! ## Last lines -/

namespace Line

/-- A text without line feed or carriage return at its end, or bytes without a line feed there.  An
empty line is one. -/
def IsUnterminated : Line → Prop
  | text chars => chars.back? ≠ some '\n' ∧ chars.back? ≠ some '\r'
  | bytes data => data.back? ≠ some 0x0A
  | other _ => False

/-- The empty line of the type of a plain line. -/
def blank : Line → Line
  | text _ => text #[]
  | bytes _ => bytes #[]
  | other d => other d

theorem IsUnterminated.isPlain {l : Line} (h : l.IsUnterminated) : l.IsPlain := by
  cases l with
  | text chars => trivial
  | bytes data => trivial
  | other d => exact h.elim

theorem emptied_eq_blank {l : Line} (h : l.IsPlain) : l.emptied = .ok l.blank := by
  cases l with
  | text chars => rfl
  | bytes data => rfl
  | other d => exact h.elim

theorem isUnterminated_iff (l : Line) : l.IsUnterminated ↔ l.isTerminated = .ok false := by
  cases l with
  | text chars => simp [IsUnterminated, isTerminated]
  | bytes data => simp [IsUnterminated, isTerminated]
  | other d => simp [IsUnterminated, isTerminated]

end Line

/-- Why a value cannot be a line of a file: no part of it can be taken, or it has no end to look
at. -/
def Datum.misfit : Datum → Fault
  | .list items => .noEnd (list items).typeName
  | .dict _ => .unhashable "slice"
  | d => .noParts d.typeName

/-! ## A file alone -/

namespace File

/-- What reads of a file give if something happens to it before each of them. -/
def readings : List (File → File) → File → List (Except Fault Line)
  | [], _ => []
  | change :: changes, f => (change f).readLine.1 :: readings changes (change f).readLine.2

/-- A file after these reads. -/
def afterReadings (f : File) (changes : List (File → File)) : File :=
  changes.foldl (fun f change => (change f).readLine.2) f

/-- A file that is not read, whatever happens to it. -/
def changed (f : File) (changes : List (File → File)) : File :=
  changes.foldl (fun f change => change f) f

end File

/-! ## One read -/

/-- What an adapter makes of a reading: it hands on lines and failures, any other value fails. -/
inductive Relays : Except Fault Line → Except Fault Line → Prop
  | line {l : Line} (plain : l.IsPlain) : Relays (.ok l) (.ok l)
  | failure (e : Fault) : Relays (.error e) (.error e)
  | misfit (d : Datum) : Relays (.ok (.other d)) (.error d.misfit)

/-- A reading that is the last line. -/
def Closing (reading : Except Fault Line) : Prop :=
  ∃ l, reading = .ok l ∧ l.IsUnterminated

theorem not_closing_error (e : Fault) : ¬ Closing (.error e) := by
  rintro ⟨l, hl, -⟩
  cases hl

theorem not_closing_other (d : Datum) : ¬ Closing (.ok (.other d)) := by
  rintro ⟨l, hl, hu⟩
  cases hl
  exact hu

theorem closing_ok (l : Line) : Closing (.ok l) ↔ l.IsUnterminated := by
  constructor
  · rintro ⟨l', hl, hu⟩
    cases hl
    exact hu
  · intro hu
    exact ⟨l, rfl, hu⟩

namespace FileFeed

/-- The read of a value that is no line leaves the end ahead. -/
theorem readLine_misfit {f : FileFeed} {g : File} {d : Datum} (h : f.ended = false)
    (hr : f.file.readLine = (.ok (.other d), g)) :
    ∃ blank, f.readLine =
      (.error d.misfit, { f with reads := f.reads + 1, file := g, blank }) := by
  cases d with
  | list items => exact ⟨.other (.list []), by simp [readLine, h, hr, Line.emptied, Line.part,
      Except.map, Line.isTerminated, Datum.misfit]⟩
  | _ => exact ⟨f.blank, by simp [readLine, h, hr, Line.emptied, Line.part, Except.map,
      Datum.misfit]⟩

/-- Before its end an adapter reads its file once and hands on what that gives. -/
theorem readLine_relays (f : FileFeed) (h : f.ended = false) :
    Relays f.file.readLine.1 f.readLine.1 ∧ f.readLine.2.file = f.file.readLine.2 ∧
      (f.readLine.2.ended = true ↔ Closing f.file.readLine.1) ∧
      ∀ l, f.file.readLine.1 = .ok l → l.IsPlain → f.readLine.2.blank = l.blank := by
  cases hr : f.file.readLine with
  | mk reading g =>
    cases reading with
    | error e =>
      rw [readLine_of_error h hr]
      refine ⟨.failure e, rfl, ?_, fun l hl => by cases hl⟩
      simp only [h, not_closing_error, Bool.false_eq_true]
    | ok l =>
      by_cases hl : l.IsPlain
      · obtain ⟨b, ht, -⟩ := l.isTerminated_eq hl
        rw [readLine_of_line h (Line.emptied_eq_blank hl) ht hr]
        refine ⟨.line hl, rfl, ?_, fun l' hl' _ => ?_⟩
        · rw [closing_ok, l.isUnterminated_iff, ht]
          cases b <;> simp
        · cases hl'
          rfl
      · cases l with
        | text chars => exact absurd trivial hl
        | bytes data => exact absurd trivial hl
        | other d =>
          obtain ⟨blank, he⟩ := readLine_misfit h hr
          rw [he]
          refine ⟨.misfit d, rfl, ?_, fun l hl => by cases hl; exact False.elim⟩
          simp only [h, not_closing_other, Bool.false_eq_true]

/-! ## Runs of reads -/

/-- A read of an adapter after something has happened to its file. -/
def readAfter (f : FileFeed) (change : File → File) : Except Fault Line × FileFeed :=
  ({ f with file := change f.file } : FileFeed).readLine

/-- An adapter after some reads, before each of which something happened to its file. -/
def afterReads (f : FileFeed) (changes : List (File → File)) : FileFeed :=
  changes.foldl (fun f change => (f.readAfter change).2) f

section

variable {f : FileFeed} (change : File → File)

theorem readAfter_relays (h : f.ended = false) :
    Relays (change f.file).readLine.1 (f.readAfter change).1 ∧
      (f.readAfter change).2.file = (change f.file).readLine.2 ∧
      ((f.readAfter change).2.ended = true ↔ Closing (change f.file).readLine.1) ∧
      ∀ l, (change f.file).readLine.1 = .ok l → l.IsPlain →
        (f.readAfter change).2.blank = l.blank :=
  readLine_relays { f with file := change f.file } h

theorem readAfter_of_ended (h : f.ended = true) :
    f.readAfter change = (.ok f.blank, { f with file := change f.file, reads := f.reads + 1 }) :=
  readLine_of_ended { f with file := change f.file } h

end

section

variable {f : FileFeed}

/-- While it hands on what its file gives, an adapter keeps step with the file. -/
theorem afterReads_of_open (h : f.ended = false) (changes : List (File → File))
    (hopen : ∀ r ∈ f.file.readings changes, ¬ Closing r) :
    (f.afterReads changes).ended = false ∧
      (f.afterReads changes).file = f.file.afterReadings changes := by
  induction changes generalizing f with
  | nil => exact ⟨h, rfl⟩
  | cons change changes ih =>
    obtain ⟨-, hfile, hend, -⟩ := readAfter_relays change h
    have hn : (f.readAfter change).2.ended = false := by
      rw [← Bool.not_eq_true]
      exact fun he => hopen _ List.mem_cons_self (hend.1 he)
    have hrest := ih hn (by
      rw [hfile]
      exact fun r hr => hopen r (List.mem_cons_of_mem _ hr))
    rw [hfile] at hrest
    exact hrest

/-- From its end on an adapter gives the same empty line, and its file is not read. -/
theorem afterReads_of_ended (h : f.ended = true) (changes : List (File → File)) :
    (f.afterReads changes).ended = true ∧ (f.afterReads changes).blank = f.blank ∧
      (f.afterReads changes).file = f.file.changed changes := by
  induction changes generalizing f with
  | nil => exact ⟨h, rfl, rfl⟩
  | cons change changes ih =>
    have hrest := ih (f := (f.readAfter change).2) (by rw [readAfter_of_ended change h]; exact h)
    rw [readAfter_of_ended change h] at hrest
    rw [afterReads, List.foldl_cons, readAfter_of_ended change h]
    exact hrest

/-- The last line leaves its own empty line behind. -/
theorem afterReads_of_closing (h : f.ended = false) {earlier : List (File → File)}
    {last : File → File} {l : Line} (hopen : ∀ r ∈ f.file.readings earlier, ¬ Closing r)
    (hl : (last (f.file.afterReadings earlier)).readLine.1 = .ok l) (hu : l.IsUnterminated)
    (later : List (File → File)) :
    (f.afterReads (earlier ++ last :: later)).ended = true ∧
      (f.afterReads (earlier ++ last :: later)).blank = l.blank ∧
      (f.afterReads (earlier ++ last :: later)).file =
        (f.file.afterReadings (earlier ++ [last])).changed later := by
  obtain ⟨hn, hfile⟩ := afterReads_of_open h earlier hopen
  obtain ⟨-, hread, hend, hblank⟩ := readAfter_relays last hn
  rw [hfile] at hread hend hblank
  have hrest := afterReads_of_ended (hend.2 ⟨l, hl, hu⟩) later
  rw [hblank l hl hu.isPlain, hread] at hrest
  rw [afterReads, List.foldl_append, File.afterReadings, List.foldl_append]
  exact hrest

end

/-- The adapter around any file that is accepted, after any number of reads, whatever happened to
the file before each of them, and one more read:

* As long as no reading of the file was a last line, the adapter has read the file once for each of
  its own reads, and it hands on the next reading, be it a line or a failure.  Its end is reached
  with this reading if that is a last line, and not before.
* Behind the first last line the adapter gives the empty line of that line's type, and nobody has
  read the file since.
* The end, once reached, stays, and no read that fails brings it. -/
theorem relays_until_last_line {o : Offer} {f : FileFeed} (ho : o.toFileFeed = .ok f)
    (changes : List (File → File)) (change : File → File) :
    let g := f.afterReads changes
    ((∀ r ∈ f.file.readings changes, ¬ Closing r) →
      g.ended = false ∧ g.file = f.file.afterReadings changes ∧
      Relays (change g.file).readLine.1 (g.readAfter change).1 ∧
      (g.readAfter change).2.file = (change g.file).readLine.2 ∧
      ((g.readAfter change).2.ended = true ↔ Closing (change g.file).readLine.1)) ∧
    (∀ earlier last later l, changes = earlier ++ last :: later →
      (∀ r ∈ f.file.readings earlier, ¬ Closing r) →
      (last (f.file.afterReadings earlier)).readLine.1 = .ok l → l.IsUnterminated →
      g.ended = true ∧ g.file = (f.file.afterReadings (earlier ++ [last])).changed later ∧
      (g.readAfter change).1 = .ok l.blank ∧ (g.readAfter change).2.file = change g.file) ∧
    (g.ended = true → (g.readAfter change).2.ended = true) ∧
    ∀ e, (g.readAfter change).1 = .error e → (g.readAfter change).2.ended = false := by
  obtain ⟨-, hn, -⟩ := Offer.of_toFileFeed ho
  intro g
  refine ⟨fun hopen => ?_, ?_, fun he => ?_, fun e he => ?_⟩
  · obtain ⟨hg, hfile⟩ := afterReads_of_open hn changes hopen
    obtain ⟨hrelay, hread, hend, -⟩ := readAfter_relays change hg
    exact ⟨hg, hfile, hrelay, hread, hend⟩
  · rintro earlier last later l rfl hopen hl hu
    obtain ⟨hg, hblank, hfile⟩ := afterReads_of_closing hn hopen hl hu later
    refine ⟨hg, hfile, ?_, ?_⟩
    · rw [readAfter_of_ended change hg, ← hblank]
    · rw [readAfter_of_ended change hg]
  · rw [readAfter_of_ended change he]
    exact he
  · cases hg : g.ended with
    | true =>
      rw [readAfter_of_ended change hg] at he
      cases he
    | false =>
      obtain ⟨hrelay, -, hend, -⟩ := readAfter_relays change hg
      rw [← Bool.not_eq_true, hend]
      rintro ⟨l, hl, hu⟩
      rw [hl, he] at hrelay
      cases hrelay
      exact hu

/-- A file that fails on its way, gives a number for a line once, and goes on behind its last
line. -/
def faltering : File where
  script := File.scriptOf
    #[.ok (.text #['a', '\n']), .error (.device "OSError" "busy"), .ok (.other (.int 5)),
      .ok (.bytes #[0x62])] (.ok (.text #['c', '\n']))

/-- The fourth reading is the last line; then the file is closed, and it would go on otherwise. -/
theorem relays_until_last_line_faltering :
    ∃ f, (Offer.ofFile faltering .absent).toFileFeed = .ok f ∧
      (f.afterReads [id, id, id]).ended = false ∧
      (f.afterReads [id, id, id, id, File.close]).ended = true ∧
      ((f.afterReads [id, id, id, id, File.close]).readAfter id).1 = .ok (.bytes #[]) ∧
      ((f.afterReads [id, id, id, id, File.close]).readAfter id).2.file.reads = 4 := by
  have ho : (Offer.ofFile faltering .absent).toFileFeed = .ok { file := faltering } := rfl
  have hopen : ∀ r ∈ faltering.readings [id, id, id], ¬ Closing r := by
    intro r hr
    simp only [File.readings, List.mem_cons, List.not_mem_nil, or_false] at hr
    rcases hr with rfl | rfl | rfl
    · exact fun h => ((closing_ok _).1 h).1 rfl
    · exact not_closing_error _
    · exact not_closing_other _
  have hu : (Line.bytes #[0x62]).IsUnterminated := by
    show (#[0x62] : Array UInt8).back? ≠ some 0x0A
    decide
  obtain ⟨hbefore, -⟩ := relays_until_last_line ho [id, id, id] id
  obtain ⟨-, hafter, -⟩ := relays_until_last_line ho [id, id, id, id, File.close] id
  obtain ⟨hended, -, hgiven, hfile⟩ := hafter [id, id, id] id [File.close] _ rfl hopen rfl hu
  refine ⟨_, ho, (hbefore hopen).1, hended, hgiven, ?_⟩
  rw [hfile]
  rfl

end FileFeed

end LineCursor
