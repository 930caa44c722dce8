import LineCursor.Proofs.Datum
import LineCursor.Proofs.Json.Escape
import LineCursor.Proofs.Json.Scalar

/-!
Values that are written in JSON are read back.

All values have a written form that is read back as the same value (`Datum.portable`), but for byte
strings, records and objects, which have none, binary64 numbers, integers with too many digits and
tables in which a name stands twice.  The reader is not kept from it by what follows the value, if
that continues no number, nor by the blanks between the items (`Reads`):

    d.portable → ∃ w, writeAt style level d = .ok w ∧ Reads w d           (writeAt_reads)
    d.portable → d.depth ≤ maxDepth → ∃ t, write style d = .ok t ∧ read t = .ok d   (read_write)
-/

namespace LineCursor

namespace Datum

mutual

/-- The number of lists and tables that stand within one another. -/
def depth : Datum → Nat
  | .list items => itemsDepth items + 1
  | .dict entries => entriesDepth entries + 1
  | _ => 0

def itemsDepth : List Datum → Nat
  | [] => 0
  | d :: rest => max (depth d) (itemsDepth rest)

def entriesDepth : List (String × Datum) → Nat
  | [] => 0
  | (_, v) :: rest => max (depth v) (entriesDepth rest)

end

mutual

/-- Whether JSON can hold the value: it is built from `null`, truth values, integers that do not
have too many digits, texts, lists and tables in which no name stands twice. -/
def portable : Datum → Bool
  | .null | .bool _ | .str _ => true
  | .int n => decide ((Number.natDigits n.natAbs).length ≤ Json.Excess.maxDigits)
  | .float _ | .nan | .bytes _ | .record _ _ | .object _ _ _ => false
  | .list items => portableItems items
  | .dict entries => decide (Entries.keys entries).Nodup && portableEntries entries

def portableItems : List Datum → Bool
  | [] => true
  | d :: rest => portable d && portableItems rest

def portableEntries : List (String × Datum) → Bool
  | [] => true
  | (_, v) :: rest => portable v && portableEntries rest

end

end Datum

namespace Json

/-! ## Blanks between items -/

/-- The forms of a document in which only blanks stand between its parts: on one line, or on lines
of their own behind spaces or other blanks. -/
inductive Style.Spaced : Style → Prop where
  | oneLine : Spaced .oneLine
  | width (n : Int) : Spaced (.ofWidth n)
  | unit (unit : String) : Blank unit.toList → Spaced (.lines unit)

theorem blank_pushn (n : Nat) : Blank ("".pushn ' ' n).toList := by
  rw [String.pushn_eq_repeat_push]
  induction n with
  | zero =>
    intro c hc
    cases hc
  | succ n ih =>
    intro c hc
    rw [Nat.repeat, String.toList_push] at hc
    rcases List.mem_append.1 hc with hc | hc
    · exact ih c hc
    · rw [List.mem_singleton.1 hc]
      rfl

namespace Style.Spaced

variable {style : Style}

theorem blank_unit {unit : String} (h : Spaced (.lines unit)) : Blank unit.toList := by
  generalize hs : Style.lines unit = style at h
  cases h with
  | oneLine => cases hs
  | width n =>
    cases hs
    exact blank_pushn n.toNat
  | unit u hu =>
    cases hs
    exact hu

theorem newline (h : style.Spaced) (level : Nat) : Blank (style.newline level) := by
  cases style with
  | oneLine =>
    intro c hc
    cases hc
  | lines unit =>
    intro c hc
    rcases List.mem_cons.1 hc with rfl | hc
    · rfl
    · obtain ⟨s, hs, hc⟩ := List.mem_flatten.1 hc
      rw [(List.mem_replicate.1 hs).2] at hc
      exact h.blank_unit c hc

theorem separator (h : style.Spaced) (level : Nat) :
    ∃ gap, style.separator level = ',' :: gap ∧ Blank gap := by
  cases style with
  | oneLine =>
    refine ⟨[' '], rfl, fun c hc => ?_⟩
    rw [List.mem_singleton.1 hc]
    rfl
  | lines unit => exact ⟨_, rfl, h.newline level⟩

end Style.Spaced

/-! ## What is written is read -/

/-- A text that begins neither with a blank or a byte order mark nor with a closing bracket or
brace. -/
def Visible (w : List Char) : Prop :=
  ∃ c s, w = c :: s ∧ isSpace c = false ∧ c ≠ ']' ∧ c ≠ '}' ∧ c ≠ '\ufeff'

theorem Visible.append {w : List Char} (h : Visible w) (rest : List Char) :
    Visible (w ++ rest) := by
  obtain ⟨c, s, rfl, hc⟩ := h
  exact ⟨c, s ++ rest, rfl, hc⟩

theorem Visible.skipSpace {w gap : List Char} (h : Visible w) (hg : Blank gap)
    (rest : List Char) : skipSpace (gap ++ (w ++ rest)) = w ++ rest := by
  obtain ⟨c, s, rfl, hc, -⟩ := h
  exact hg.skipSpace hc (s ++ rest)

theorem Visible.length_pos {w : List Char} (h : Visible w) : 0 < w.length := by
  obtain ⟨c, s, rfl, -⟩ := h
  exact Nat.succ_pos s.length

/-- A text is read as a value, whatever closes it, by a reader with fuel for it. -/
structure Reads (w : List Char) (d : Datum) : Prop where
  visible : Visible w
  value : ∀ (fuel depth : Nat) (rest : List Char), 2 * w.length ≤ fuel + 1 → d.depth ≤ depth →
    Closes rest → value fuel depth (w ++ rest) = .ok (d, rest)

/-- A text is read as the items of a list, up to a bracket behind blanks. -/
structure ReadsItems (w : List Char) (ds : List Datum) : Prop where
  visible : Visible w
  items : ∀ (fuel depth : Nat) (gap rest : List Char), 2 * w.length ≤ fuel →
    Datum.itemsDepth ds ≤ depth → Blank gap →
    items fuel depth (w ++ (gap ++ ']' :: rest)) = .ok (ds, rest)

/-- A text is read as the entries of a table, up to a brace behind blanks. -/
structure ReadsEntries (w : List Char) (es : List (String × Datum)) : Prop where
  visible : Visible w
  members : ∀ (fuel depth : Nat) (gap rest : List Char), 2 * w.length ≤ fuel →
    Datum.entriesDepth es ≤ depth → Blank gap →
    members fuel depth (w ++ (gap ++ '}' :: rest)) = .ok (es, rest)

/-- What begins with no bracket or quotation mark is a word or a number. -/
theorem value_of_scalar {fuel depth : Nat} {c : Char} {s rest : List Char} {d : Datum}
    (hq : c ≠ '"') (hb : c ≠ '{') (hl : c ≠ '[')
    (h : scalar? (c :: s) = some (.ok d, rest)) :
    value (fuel + 1) depth (c :: s) = .ok (d, rest) := by
  unfold value
  split
  · next he => exact absurd (List.cons_eq_cons.1 he).1 hq
  · next he => exact absurd (List.cons_eq_cons.1 he).1 hb
  · next he => exact absurd (List.cons_eq_cons.1 he).1 hb
  · next he => exact absurd (List.cons_eq_cons.1 he).1 hl
  · next he => exact absurd (List.cons_eq_cons.1 he).1 hl
  · rw [h]

theorem reads_scalar {w : List Char} {d : Datum} (hw : Visible w)
    (hopen : ∀ c ∈ w.head?, c ≠ '"' ∧ c ≠ '{' ∧ c ≠ '[')
    (h : ∀ rest, Closes rest → scalar? (w ++ rest) = some (.ok d, rest)) : Reads w d := by
  refine ⟨hw, fun fuel depth rest hfuel _ hr => ?_⟩
  have hpos := hw.length_pos
  obtain ⟨n, rfl⟩ : ∃ n, fuel = n + 1 := ⟨fuel - 1, by omega⟩
  obtain ⟨c, s, rfl, -⟩ := hw
  obtain ⟨hq, hb, hl⟩ := hopen c rfl
  exact value_of_scalar hq hb hl (h rest hr)

theorem reads_word {w : List Char} {d : Datum} (hw : (w, d) ∈ words.take 3) : Reads w d := by
  simp only [words, List.take, List.mem_cons, List.not_mem_nil, or_false, Prod.mk.injEq] at hw
  rcases hw with ⟨rfl, rfl⟩ | ⟨rfl, rfl⟩ | ⟨rfl, rfl⟩ <;>
    exact reads_scalar ⟨_, _, rfl, rfl, by decide, by decide⟩ (by simp) fun _ _ => rfl

theorem reads_integer {n : Int}
    (hn : (Number.natDigits n.natAbs).length ≤ Excess.maxDigits) :
    Reads (Number.intDigits n) (.int n) := by
  obtain ⟨d, ds, hds⟩ := List.exists_cons_of_ne_nil (Number.natDigits_ne_nil n.natAbs)
  have hd : d.isDigit = true :=
    Number.isDigit_of_mem_natDigits (n := n.natAbs) (by rw [hds]; exact List.mem_cons_self)
  have hne : ∀ c : Char, c.isDigit = false → d ≠ c := by
    rintro c hc rfl
    rw [hd] at hc
    cases hc
  have hfirst : ∃ c s, Number.intDigits n = c :: s ∧ (c = '-' ∨ c = d) := by
    unfold Number.intDigits
    split
    · exact ⟨'-', _, rfl, .inl rfl⟩
    · exact ⟨d, ds, hds, .inr rfl⟩
  obtain ⟨c, s, hcs, hc⟩ := hfirst
  refine reads_scalar ⟨c, s, hcs, ?_⟩ ?_ fun rest hr => scalar?_intDigits hn hr
  · rcases hc with rfl | rfl
    · decide
    · simp [isSpace, hne]
  · rw [hcs]
    rintro c' ⟨⟩
    rcases hc with rfl | rfl
    · decide
    · exact ⟨hne _ rfl, hne _ rfl, hne _ rfl⟩

theorem reads_string (s : String) : Reads (writeString s) (.str s) := by
  refine ⟨⟨'"', _, rfl, by decide⟩, fun fuel depth rest hfuel _ _ => ?_⟩
  have htext : writeString s ++ rest =
      '"' :: (s.toList.flatMap escapedChar ++ '"' :: rest) := by
    simp [writeString]
  obtain ⟨n, rfl⟩ : ∃ n, fuel = n + 1 := by
    rw [writeString, List.cons_append, List.length_cons] at hfuel
    exact ⟨fuel - 1, by omega⟩
  rw [htext, value, stringTail_escaped]
  exact congrArg (fun t => Except.ok (Datum.str t, rest)) String.ofList_toList

/-! ## Lists and tables -/

section

variable {style : Style} {level : Nat}

theorem reads_empty_list : Reads ['[', ']'] (.list []) := by
  refine ⟨⟨'[', _, rfl, by decide⟩, fun fuel depth rest hfuel hdepth _ => ?_⟩
  obtain ⟨n, rfl⟩ : ∃ n, fuel = n + 1 := ⟨fuel - 1, by simp at hfuel; omega⟩
  obtain ⟨m, rfl⟩ : ∃ m, depth = m + 1 := ⟨depth - 1, by rw [Datum.depth] at hdepth; omega⟩
  rfl

theorem reads_empty_table : Reads ['{', '}'] (.dict []) := by
  refine ⟨⟨'{', _, rfl, by decide⟩, fun fuel depth rest hfuel hdepth _ => ?_⟩
  obtain ⟨n, rfl⟩ : ∃ n, fuel = n + 1 := ⟨fuel - 1, by simp at hfuel; omega⟩
  obtain ⟨m, rfl⟩ : ∃ m, depth = m + 1 := ⟨depth - 1, by rw [Datum.depth] at hdepth; omega⟩
  rfl

/-- Items between brackets are read as a list. -/
theorem reads_list {w : List Char} {ds : List Datum} (hs : style.Spaced) (h : ReadsItems w ds) :
    Reads ('[' :: style.newline (level + 1) ++ w ++ style.newline level ++ [']']) (.list ds) := by
  refine ⟨⟨'[', _, rfl, by decide⟩, fun fuel depth rest hfuel hdepth _ => ?_⟩
  have htext : '[' :: style.newline (level + 1) ++ w ++ style.newline level ++ [']'] ++ rest =
      '[' :: (style.newline (level + 1) ++ (w ++ (style.newline level ++ ']' :: rest))) := by
    simp
  have hskip := h.visible.skipSpace (hs.newline (level + 1)) (style.newline level ++ ']' :: rest)
  simp only [List.length_append, List.length_cons, List.length_nil] at hfuel
  obtain ⟨n, rfl⟩ : ∃ n, fuel = n + 1 := ⟨fuel - 1, by omega⟩
  obtain ⟨m, rfl⟩ : ∃ m, depth = m + 1 := ⟨depth - 1, by rw [Datum.depth] at hdepth; omega⟩
  have hitems := h.items n m _ rest (by omega) (Nat.le_of_succ_le_succ hdepth)
    (hs.newline level)
  obtain ⟨c, t, hct, -, hc, -⟩ := h.visible.append (style.newline level ++ ']' :: rest)
  rw [htext, value, hskip]
  split
  · next he =>
    rw [hct] at he
    exact absurd (List.cons_eq_cons.1 he).1 hc
  · rw [hitems]
    rfl

/-- Entries between braces are read as a table, if no name stands twice. -/
theorem reads_table {w : List Char} {es : List (String × Datum)} (hs : style.Spaced)
    (hn : (Entries.keys es).Nodup) (h : ReadsEntries w es) :
    Reads ('{' :: style.newline (level + 1) ++ w ++ style.newline level ++ ['}']) (.dict es) := by
  refine ⟨⟨'{', _, rfl, by decide⟩, fun fuel depth rest hfuel hdepth _ => ?_⟩
  have htext : '{' :: style.newline (level + 1) ++ w ++ style.newline level ++ ['}'] ++ rest =
      '{' :: (style.newline (level + 1) ++ (w ++ (style.newline level ++ '}' :: rest))) := by
    simp
  have hskip := h.visible.skipSpace (hs.newline (level + 1)) (style.newline level ++ '}' :: rest)
  simp only [List.length_append, List.length_cons, List.length_nil] at hfuel
  obtain ⟨n, rfl⟩ : ∃ n, fuel = n + 1 := ⟨fuel - 1, by omega⟩
  obtain ⟨m, rfl⟩ : ∃ m, depth = m + 1 := ⟨depth - 1, by rw [Datum.depth] at hdepth; omega⟩
  have hmembers := h.members n m _ rest (by omega) (Nat.le_of_succ_le_succ hdepth)
    (hs.newline level)
  obtain ⟨c, t, hct, -, -, hc, -⟩ := h.visible.append (style.newline level ++ '}' :: rest)
  rw [htext, value, hskip]
  split
  · next he =>
    rw [hct] at he
    exact absurd (List.cons_eq_cons.1 he).1 hc
  · rw [hmembers]
    exact congrArg (fun es => Except.ok (Datum.dict es, rest)) (Entries.ofPairs_of_nodup hn)

theorem readsItems_singleton {w : List Char} {d : Datum} (h : Reads w d) : ReadsItems w [d] := by
  refine ⟨h.visible, fun fuel depth gap rest hfuel hdepth hg => ?_⟩
  have hpos := h.visible.length_pos
  obtain ⟨n, rfl⟩ : ∃ n, fuel = n + 1 := ⟨fuel - 1, by omega⟩
  have hclose : Closes (gap ++ ']' :: rest) :=
    hg.closes (closes_cons rfl (by decide) (by decide) (by decide) rest)
  have hvalue := h.value n depth _ (by omega) (Nat.le_trans (Nat.le_max_left _ _) hdepth) hclose
  have hskip : skipSpace (gap ++ ']' :: rest) = ']' :: rest := hg.skipSpace rfl rest
  simp only [items, bind, Except.bind, hvalue, hskip, pure, Except.pure]

theorem readsItems_cons {w v gap : List Char} {d : Datum} {ds : List Datum} (h : Reads w d)
    (hgap : Blank gap) (hs : ReadsItems v ds) : ReadsItems (w ++ ',' :: gap ++ v) (d :: ds) := by
  rw [List.append_assoc]
  refine ⟨h.visible.append _, fun fuel depth gap' rest hfuel hdepth hg => ?_⟩
  have hpos := h.visible.length_pos
  simp only [List.length_append, List.length_cons] at hfuel
  obtain ⟨n, rfl⟩ : ∃ n, fuel = n + 1 := ⟨fuel - 1, by omega⟩
  have htext : w ++ (',' :: gap ++ v) ++ (gap' ++ ']' :: rest) =
      w ++ ',' :: (gap ++ (v ++ (gap' ++ ']' :: rest))) := by simp
  have hclose : Closes (',' :: (gap ++ (v ++ (gap' ++ ']' :: rest)))) :=
    closes_cons rfl (by decide) (by decide) (by decide) _
  have hvalue := h.value n depth _ (by omega) (Nat.le_trans (Nat.le_max_left _ _) hdepth) hclose
  have hitems := hs.items n depth gap' rest (by omega)
    (Nat.le_trans (Nat.le_max_right _ _) hdepth) hg
  have hcomma := skipSpace_cons (c := ',') rfl (gap ++ (v ++ (gap' ++ ']' :: rest)))
  have hskip := hs.visible.skipSpace hgap (gap' ++ ']' :: rest)
  rw [htext]
  simp only [items, bind, Except.bind, hvalue, hcomma, hskip, hitems, pure, Except.pure]

/-- A name and its value are read as an entry, the last one of its table or one before others. -/
theorem members_entry {k : String} {w : List Char} {v : Datum} (h : Reads w v) {fuel depth : Nat}
    (hfuel : 2 * w.length ≤ fuel + 1) (hdepth : v.depth ≤ depth) {rest tail : List Char}
    {es : List (String × Datum)} (hr : Closes rest)
    (hnext : skipSpace rest = '}' :: tail ∧ es = [] ∨ ∃ more, skipSpace rest = ',' :: more ∧
      members fuel depth (skipSpace more) = .ok (es, tail)) :
    members (fuel + 1) depth (writeString k ++ ':' :: ' ' :: (w ++ rest)) =
      .ok ((k, v) :: es, tail) := by
  have htext : writeString k ++ ':' :: ' ' :: (w ++ rest) =
      '"' :: (k.toList.flatMap escapedChar ++ '"' :: ':' :: ' ' :: (w ++ rest)) := by
    simp [writeString]
  have hvalue := h.value fuel depth rest hfuel hdepth hr
  have hcolon := skipSpace_cons (c := ':') rfl (' ' :: (w ++ rest))
  have hspace : skipSpace (' ' :: (w ++ rest)) = w ++ rest :=
    h.visible.skipSpace (show Blank [' '] by simp [Blank, isSpace]) rest
  rw [htext]
  rcases hnext with ⟨hlast, rfl⟩ | ⟨more, hmore, hmembers⟩
  · simp only [members, bind, Except.bind, stringTail_escaped, hcolon, hspace, hvalue, hlast,
      String.ofList_toList, pure, Except.pure]
  · simp only [members, bind, Except.bind, stringTail_escaped, hcolon, hspace, hvalue, hmore,
      hmembers, String.ofList_toList, pure, Except.pure]

theorem visible_writeString (k : String) : Visible (writeString k) :=
  ⟨'"', _, rfl, by decide⟩

theorem readsEntries_singleton {k : String} {w : List Char} {v : Datum} (h : Reads w v) :
    ReadsEntries (writeString k ++ ':' :: ' ' :: w) [(k, v)] := by
  refine ⟨(visible_writeString k).append _, fun fuel depth gap rest hfuel hdepth hg => ?_⟩
  simp only [List.length_append, List.length_cons] at hfuel
  obtain ⟨n, rfl⟩ : ∃ n, fuel = n + 1 := ⟨fuel - 1, by omega⟩
  have htext : writeString k ++ ':' :: ' ' :: w ++ (gap ++ '}' :: rest) =
      writeString k ++ ':' :: ' ' :: (w ++ (gap ++ '}' :: rest)) := by simp
  have hclose : Closes (gap ++ '}' :: rest) :=
    hg.closes (closes_cons rfl (by decide) (by decide) (by decide) rest)
  rw [htext]
  exact members_entry h (by omega) (Nat.le_trans (Nat.le_max_left _ _) hdepth) hclose
    (.inl ⟨hg.skipSpace rfl rest, rfl⟩)

theorem readsEntries_cons {k : String} {w u gap : List Char} {v : Datum}
    {es : List (String × Datum)} (h : Reads w v) (hgap : Blank gap) (hs : ReadsEntries u es) :
    ReadsEntries (writeString k ++ ':' :: ' ' :: w ++ ',' :: gap ++ u) ((k, v) :: es) := by
  rw [List.append_assoc, List.append_assoc]
  refine ⟨(visible_writeString k).append _, fun fuel depth gap' rest hfuel hdepth hg => ?_⟩
  simp only [List.length_append, List.length_cons] at hfuel
  obtain ⟨n, rfl⟩ : ∃ n, fuel = n + 1 := ⟨fuel - 1, by omega⟩
  have htext : writeString k ++ (':' :: ' ' :: w ++ (',' :: gap ++ u)) ++ (gap' ++ '}' :: rest) =
      writeString k ++ ':' :: ' ' :: (w ++ ',' :: (gap ++ (u ++ (gap' ++ '}' :: rest)))) := by
    simp
  have hclose : Closes (',' :: (gap ++ (u ++ (gap' ++ '}' :: rest)))) :=
    closes_cons rfl (by decide) (by decide) (by decide) _
  have hmembers := hs.members n depth gap' rest (by omega)
    (Nat.le_trans (Nat.le_max_right _ _) hdepth) hg
  have hcomma := skipSpace_cons (c := ',') rfl (gap ++ (u ++ (gap' ++ '}' :: rest)))
  have hskip := hs.visible.skipSpace hgap (gap' ++ '}' :: rest)
  rw [htext]
  exact members_entry h (by omega) (Nat.le_trans (Nat.le_max_left _ _) hdepth) hclose
    (.inr ⟨_, hcomma, by rw [hskip, hmembers]⟩)

end

/-! ## Values -/

section

variable {style : Style} (hs : style.Spaced)

include hs

mutual

/-- Each value that JSON can hold has a written form that is read as this value. -/
theorem writeAt_reads (d : Datum) (level : Nat) (h : d.portable = true) :
    ∃ w, writeAt style level d = .ok w ∧ Reads w d := by
  match d with
  | .null => exact ⟨_, rfl, reads_word (by simp [words])⟩
  | .bool true => exact ⟨_, rfl, reads_word (by simp [words])⟩
  | .bool false => exact ⟨_, rfl, reads_word (by simp [words])⟩
  | .int n => exact ⟨_, rfl, reads_integer (of_decide_eq_true h)⟩
  | .str s => exact ⟨_, rfl, reads_string s⟩
  | .float _ | .nan | .bytes _ | .record _ _ | .object _ _ _ => cases h
  | .list [] => exact ⟨_, rfl, reads_empty_list⟩
  | .list (d :: ds) =>
    obtain ⟨w, hw, hread⟩ := writeItems_reads (d :: ds) (level + 1) (List.cons_ne_nil d ds) h
    exact ⟨_, by rw [writeAt, hw]; rfl, reads_list hs hread⟩
  | .dict [] => exact ⟨_, rfl, reads_empty_table⟩
  | .dict (e :: es) =>
    rw [Datum.portable, Bool.and_eq_true, decide_eq_true_iff] at h
    obtain ⟨w, hw, hread⟩ := writeEntries_reads (e :: es) (level + 1) (List.cons_ne_nil e es) h.2
    exact ⟨_, by rw [writeAt, hw]; rfl, reads_table hs h.1 hread⟩

theorem writeItems_reads (ds : List Datum) (level : Nat) (hne : ds ≠ [])
    (h : Datum.portableItems ds = true) :
    ∃ w, writeItems style level ds = .ok w ∧ ReadsItems w ds := by
  match ds with
  | [] => exact absurd rfl hne
  | [d] =>
    rw [Datum.portableItems, Bool.and_eq_true] at h
    obtain ⟨w, hw, hread⟩ := writeAt_reads d level h.1
    exact ⟨w, hw, readsItems_singleton hread⟩
  | d :: d' :: ds =>
    rw [Datum.portableItems, Bool.and_eq_true] at h
    obtain ⟨gap, hsep, hgap⟩ := hs.separator level
    obtain ⟨w, hw, hread⟩ := writeAt_reads d level h.1
    obtain ⟨v, hv, hreads⟩ := writeItems_reads (d' :: ds) level (List.cons_ne_nil d' ds) h.2
    have hwritten : writeItems style level (d :: d' :: ds) = .ok (w ++ ',' :: gap ++ v) := by
      rw [writeItems, hw, hv, hsep]
      · rfl
      · exact List.cons_ne_nil d' ds
    exact ⟨_, hwritten, readsItems_cons hread hgap hreads⟩

theorem writeEntries_reads (es : List (String × Datum)) (level : Nat) (hne : es ≠ [])
    (h : Datum.portableEntries es = true) :
    ∃ w, writeEntries style level es = .ok w ∧ ReadsEntries w es := by
  match es with
  | [] => exact absurd rfl hne
  | [(k, v)] =>
    rw [Datum.portableEntries, Bool.and_eq_true] at h
    obtain ⟨w, hw, hread⟩ := writeAt_reads v level h.1
    exact ⟨_, by rw [writeEntries, hw]; rfl, readsEntries_singleton hread⟩
  | (k, v) :: e :: es =>
    rw [Datum.portableEntries, Bool.and_eq_true] at h
    obtain ⟨gap, hsep, hgap⟩ := hs.separator level
    obtain ⟨w, hw, hread⟩ := writeAt_reads v level h.1
    obtain ⟨u, hu, hreads⟩ := writeEntries_reads (e :: es) level (List.cons_ne_nil e es) h.2
    have hwritten : writeEntries style level ((k, v) :: e :: es) =
        .ok (writeString k ++ ':' :: ' ' :: w ++ ',' :: gap ++ u) := by
      rw [writeEntries, hw, hu, hsep]
      · rfl
      · exact List.cons_ne_nil e es
    exact ⟨_, hwritten, readsEntries_cons hread hgap hreads⟩

end

end

/-- What is written for a value that JSON can hold is read as this value, unless too many of its
lists and tables stand within one another. -/
theorem read_write {style : Style} (hs : style.Spaced) {d : Datum} (h : d.portable = true)
    (hdepth : d.depth ≤ Excess.maxDepth) :
    ∃ t, write style d = .ok t ∧ read t = .ok d := by
  obtain ⟨w, hw, hread⟩ := writeAt_reads hs d 0 h
  refine ⟨String.ofList w, by rw [write, hw]; rfl, ?_⟩
  have hvalue := hread.value (2 * w.length + 1) Excess.maxDepth [] (by omega) hdepth closes_nil
  have hskip := hread.visible.skipSpace blank_nil []
  rw [List.append_nil] at hvalue
  rw [List.nil_append, List.append_nil] at hskip
  have hdocument : document w = .ok d := by
    obtain ⟨c, s, rfl, -, -, -, hmark⟩ := hread.visible
    unfold document
    split
    · next he => exact absurd (List.cons_eq_cons.1 he).1 hmark
    · rw [hskip, hvalue]
      rfl
  rw [read, String.toList_ofList, hdocument]

end Json

end LineCursor
