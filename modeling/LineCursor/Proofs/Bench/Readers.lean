import LineCursor.Bench
import LineCursor.Proofs.Cursor.Reconstitution
import LineCursor.Proofs.Settings.Validity

/-!
The two readers of a benchmark count alike.

Both give the number of characters of a text and the number of its line feeds, and one line more if
the text has a rest behind the last line feed (`Counts.ofText`).  The plain loop counts so by its
steps (`countPlainly_eq`), the cursor because there are as many lines to walk through
(`Text.length_splitAfter`, `countByCursor_eq`).
-/

namespace LineCursor

namespace Text

variable {α : Type} (p : α → Bool)

/-- If each line ends behind an element with `p`, there is a line for each of them, and one for a
rest. -/
theorem length_splitAfter (s : List α) :
    (splitAfter (fun a _ => p a) s).length =
      s.countP p + if s.getLast?.all p then 0 else 1 := by
  induction s with
  | nil => rfl
  | cons a s ih =>
    have hs := flatten_splitAfter (fun a _ => p a) s
    rw [splitAfter, List.foldr_cons, ← splitAfter]
    generalize splitAfter (fun a _ => p a) s = lines at ih hs
    cases lines with
    | nil =>
      subst hs
      cases ha : p a <;> simp [attach, ha]
    | cons line lines =>
      -- the last element stays the same, so only the count of elements with `p` decides
      have hne : s ≠ [] := by
        rintro rfl
        simp at ih
      obtain ⟨b, hb⟩ := Option.isSome_iff_exists.1 (List.getLast?_isSome.2 hne)
      rw [List.countP_cons, List.getLast?_cons, hb, Option.getD_some]
      rw [hb] at ih
      rw [attach]
      split <;> simp only [List.length_cons] at ih ⊢ <;> omega

end Text

namespace Bench

/-- What a text has to be counted as. -/
def Counts.ofText (s : List Char) : Counts :=
  ⟨s.length, s.count '\n' + if s.getLast?.all (· == '\n') then 0 else 1⟩

/-! ## The plain loop -/

/-- The loop from some counts and some last character on. -/
theorem foldl_count (s : List Char) (counts : Counts) (last : Option Char) :
    s.foldl (fun ((counts, _) : Counts × Option Char) c =>
        (⟨counts.characters + 1, if c = '\n' then counts.lines + 1 else counts.lines⟩, some c))
      (counts, last) =
      (⟨counts.characters + s.length, counts.lines + s.count '\n'⟩, s.getLast?.or last) := by
  induction s generalizing counts last with
  | nil => rfl
  | cons c s ih =>
    rw [List.foldl_cons, ih, List.count_cons, List.getLast?_cons, List.length_cons]
    cases s.getLast? <;> by_cases hc : c = '\n' <;> simp [hc] <;> omega

theorem countPlainly_eq (s : List Char) : countPlainly s = Counts.ofText s := by
  unfold countPlainly
  rw [foldl_count]
  simp only [Counts.ofText, Nat.zero_add, Option.or_none]
  split <;> rfl

/-! ## The cursor -/

/-- A text has as many characters as its lines together. -/
theorem sum_size_lines (content : String) :
    (((Memory.text content .lineFeed).lines).map Line.size).sum = content.length := by
  have h := congrArg List.length (Memory.text content .lineFeed).flatMap_characters
  rw [List.length_flatMap] at h
  rw [← String.length_toList]
  exact h.trans (by simp [Memory.content, Line.characters, Text.Newlines.kept])

theorem length_lines (content : String) :
    (Memory.text content .lineFeed).lines.length = (Counts.ofText content.toList).lines := by
  rw [Memory.lines, List.length_map]
  exact Text.length_splitAfter (· == '\n') content.toList

/-- A cursor that counts nothing reads a text of any length to its end. -/
theorem countByCursor_eq (s : Settings) (hs : s.tallying.truthy = false) (levels : Log.Levels)
    (content : String) :
    countByCursor s levels content = .ok (Counts.ofText content.toList) ∧
      ∃ c, Cursor.start (.file { file := .ofText content }) s { levels } = (.ok (), c) ∧
        (c.walk content.length).cursor.atEnd = .ok true := by
  have hh := (Memory.text content .lineFeed).holds none
  obtain ⟨c, hc, hwalk⟩ := Cursor.walk_of_holds hh.feed s { levels } fun ht => by
    rw [hs] at ht
    cases ht
  change Cursor.start (.file { file := .ofText content }) s { levels } = (.ok (), c) at hc
  obtain ⟨hnone, hitems, -, hend⟩ := hwalk content.length
  obtain ⟨hline, -, hat⟩ := hend (Nat.le_of_eq (sum_size_lines content))
  refine ⟨?_, c, hc, hat⟩
  have hsize : (c.walk content.length).items.size = content.length := by
    rw [← Array.length_toList, hitems, List.length_take, Line.length_sightingsFrom,
      sum_size_lines, Nat.min_self]
  unfold countByCursor
  rw [hc]
  dsimp only
  rw [hnone, hat]
  dsimp only
  rw [hsize, hline, length_lines, Nat.add_sub_cancel]
  rfl

/-! ## The settings of a benchmark -/

theorem tallying_of_check {d : Draft} {s : Settings} (h : d.check = .ok s) :
    s.tallying = d.tallying := by
  rw [← Draft.draft_of_check h]
  rfl

theorem override_of_make {a : Arguments} {x : Context} {g : Gauge} {b : Bench}
    (h : make a x g = .ok b) :
    Settings.quiet.override [("correlation_id", a.correlation)] = .ok b.settings := by
  unfold make at h
  simp only [bind, Except.bind, pure, Except.pure, throw, throwThe, MonadExceptOf.throw] at h
  split at h
  · cases h
  · split at h
    · cases h
    · split at h
      · cases h
      · split at h
        · cases h
        · cases ho : Settings.quiet.override [("correlation_id", a.correlation)] with
          | error e =>
            rw [ho] at h
            cases h
          | ok s =>
            rw [ho] at h
            cases h
            rfl

/-- The cursors of a benchmark count nothing. -/
theorem tallying_of_make {a : Arguments} {x : Context} {g : Gauge} {b : Bench}
    (h : make a x g = .ok b) : b.settings.tallying = .bool false :=
  tallying_of_check (d := { Settings.quiet.draft with correlation := a.correlation })
    (override_of_make h)

/-- For every text both readers of a benchmark end and count what the text has to be counted as. -/
theorem readers_count_alike {a : Arguments} {x : Context} {g : Gauge} {b : Bench}
    (hb : make a x g = .ok b) (levels : Log.Levels) (content : String) :
    (∀ reader : Reader, reader.count b.settings levels content =
      .ok ⟨content.length,
        content.toList.count '\n' + if content.toList.getLast?.all (· == '\n') then 0 else 1⟩) ∧
    ∃ c, Cursor.start (.file { file := .ofText content }) b.settings { levels } = (.ok (), c) ∧
      (c.walk content.length).cursor.atEnd = .ok true := by
  have hs : b.settings.tallying.truthy = false := by
    rw [tallying_of_make hb]
    rfl
  obtain ⟨hcount, hend⟩ := countByCursor_eq b.settings hs levels content
  refine ⟨fun reader => ?_, hend⟩
  rw [← String.length_toList]
  cases reader with
  | cursor => exact hcount
  | baseline => exact congrArg Except.ok (countPlainly_eq content.toList)

/-- The text ends in a carriage return, which the cursor takes for a terminator and the plain loop
does not. -/
theorem readers_count_alike_carriage_return :
    ∃ b, make {} = .ok b ∧ ∀ reader : Reader,
      reader.count b.settings {} "a\r\n\nb\r" = .ok ⟨6, 3⟩ :=
  ⟨_, rfl, (readers_count_alike (a := {}) (x := {}) (g := {}) rfl {} "a\r\n\nb\r").1⟩

end Bench

end LineCursor
