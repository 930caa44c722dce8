import LineCursor.Json.Reader
import LineCursor.Json.Writer

/-!
Words and integers that are written in JSON are read back.

An integer is read as far as its digits go, so what follows it matters: it has to begin with a
character that continues no number (`Closes`).  Then the digits, and with them the number, are
those that were written:

    number? (intDigits n ++ rest) = some (.ok (.int n), rest)      (number?_intDigits)
-/

namespace LineCursor

namespace Number

theorem digitsValue_natDigits (n : Nat) : digitsValue (natDigits n) = n := by
  have h := Nat.ofDigitChars_ten_toDigits (n := n)
  rw [Nat.ofDigitChars_eq_foldl] at h
  exact h

theorem isDigit_of_mem_natDigits {n : Nat} {c : Char} (h : c ∈ natDigits n) : c.isDigit = true :=
  Nat.isDigit_of_mem_toDigits (by decide) (by decide) h

theorem natDigits_ne_nil (n : Nat) : natDigits n ≠ [] :=
  Nat.toDigits_ne_nil

theorem digitChar_ne_zero_all : ∀ n, n < 10 → n ≠ 0 → Nat.digitChar n ≠ '0' := by
  decide

/-- The digits of a number other than zero do not begin with a zero. -/
theorem head?_natDigits_ne {n : Nat} (h : n ≠ 0) : (natDigits n).head? ≠ some '0' := by
  induction n using Nat.strongRecOn with
  | ind n ih =>
    unfold natDigits at ih ⊢
    rw [Nat.toDigits_eq_if (by decide)]
    split
    · next hn =>
      intro he
      exact digitChar_ne_zero_all n hn h (Option.some.inj he)
    · next hn =>
      have hq := ih (n / 10) (by omega) (by omega)
      obtain ⟨d, ds, hds⟩ := List.exists_cons_of_ne_nil (natDigits_ne_nil (n / 10))
      unfold natDigits at hds
      rw [hds] at hq ⊢
      exact hq

/-- The digits in front are all that belongs to a number if no digit follows them. -/
theorem splitDigits_append {ds rest : List Char} (hd : ∀ c ∈ ds, c.isDigit = true)
    (hr : ∀ c ∈ rest.head?, c.isDigit = false) : splitDigits (ds ++ rest) = (ds, rest) := by
  have htake : rest.takeWhile Char.isDigit = [] := by
    cases rest with
    | nil => rfl
    | cons c rest => rw [List.takeWhile_cons_of_neg (by simp [hr c rfl])]
  have hdrop : rest.dropWhile Char.isDigit = rest := by
    cases rest with
    | nil => rfl
    | cons c rest => rw [List.dropWhile_cons_of_neg (by simp [hr c rfl])]
  unfold splitDigits
  rw [List.takeWhile_append_of_pos hd, List.dropWhile_append_of_pos hd, htake, hdrop,
    List.append_nil]

end Number

namespace Json

/-! ## What may stand behind a number -/

/-- A text that does not begin with a character that could continue a number. -/
def Closes (rest : List Char) : Prop :=
  ∀ c ∈ rest.head?, c.isDigit = false ∧ c ≠ '.' ∧ c ≠ 'e' ∧ c ≠ 'E'

theorem closes_nil : Closes [] := by
  intro c hc
  cases hc

theorem closes_cons {c : Char} (hd : c.isDigit = false) (hp : c ≠ '.') (he : c ≠ 'e')
    (hE : c ≠ 'E') (rest : List Char) : Closes (c :: rest) := by
  intro c' hc
  cases hc
  exact ⟨hd, hp, he, hE⟩

/-- A blank text, such as the one between a value and a bracket. -/
def Blank (s : List Char) : Prop :=
  ∀ c ∈ s, isSpace c = true

theorem blank_nil : Blank [] := by
  intro c hc
  cases hc

theorem closes_of_isSpace {c : Char} (h : isSpace c = true) (rest : List Char) :
    Closes (c :: rest) := by
  simp only [isSpace, Bool.or_eq_true, beq_iff_eq] at h
  rcases h with ((rfl | rfl) | rfl) | rfl <;>
    exact closes_cons (by decide) (by decide) (by decide) (by decide) rest

theorem Blank.closes {s rest : List Char} (h : Blank s) (hr : Closes rest) :
    Closes (s ++ rest) := by
  cases s with
  | nil => exact hr
  | cons c s => exact closes_of_isSpace (h c List.mem_cons_self) (s ++ rest)

theorem Blank.skipSpace {s : List Char} (h : Blank s) {c : Char} (hc : isSpace c = false)
    (rest : List Char) : skipSpace (s ++ c :: rest) = c :: rest := by
  unfold Json.skipSpace
  rw [List.dropWhile_append_of_pos h, List.dropWhile_cons_of_neg (by simp [hc])]

theorem skipSpace_cons {c : Char} (hc : isSpace c = false) (rest : List Char) :
    skipSpace (c :: rest) = c :: rest :=
  blank_nil.skipSpace hc rest

/-! ## Integers -/

section

variable {rest : List Char} (hr : Closes rest)

include hr

theorem Closes.digit : ∀ c ∈ rest.head?, c.isDigit = false :=
  fun c hc => (hr c hc).1

theorem wholePart?_natDigits (n : Nat) :
    wholePart? (Number.natDigits n ++ rest) = some (Number.natDigits n, rest) := by
  have hsplit := Number.splitDigits_append (fun _ h => Number.isDigit_of_mem_natDigits (n := n) h)
    hr.digit
  by_cases hn : n = 0
  · subst hn
    rfl
  · have hhead := Number.head?_natDigits_ne hn
    obtain ⟨d, ds, hds⟩ := List.exists_cons_of_ne_nil (Number.natDigits_ne_nil n)
    rw [hds] at hsplit hhead ⊢
    unfold wholePart?
    split
    · next he =>
      rw [(List.cons_eq_cons.1 he).1] at hhead
      exact absurd rfl hhead
    · rw [hsplit]

theorem fractionPart_of_closes : fractionPart rest = ([], rest) := by
  cases rest with
  | nil => rfl
  | cons c rest =>
    unfold fractionPart
    split
    · next he =>
      rw [(List.cons_eq_cons.1 he).1] at hr
      exact absurd rfl (hr _ rfl).2.1
    · rfl

theorem exponentPart?_of_closes : exponentPart? rest = (none, rest) := by
  cases rest with
  | nil => rfl
  | cons c rest =>
    obtain ⟨-, -, he, hE⟩ := hr c rfl
    unfold exponentPart?
    exact if_neg fun h => h.elim he hE

/-- Behind the sign the digits are read, and nothing else. -/
theorem number?_of_sign {n : Nat} (hn : (Number.natDigits n).length ≤ Excess.maxDigits)
    {negative : Bool} {s : List Char}
    (hs : (match s with
      | '-' :: rest => (true, rest)
      | s => (false, s)) = (negative, Number.natDigits n ++ rest)) :
    number? s = some (.ok (.int (if negative then -(n : Int) else n)), rest) := by
  have hwhole := wholePart?_natDigits hr n
  have hfraction := fractionPart_of_closes hr
  have hexponent := exponentPart?_of_closes hr
  have hinteger : integer negative (Number.natDigits n) =
      .ok (.int (if negative then -(n : Int) else n)) := by
    rw [integer, if_pos hn, Number.digitsValue_natDigits]
  split at hs <;> obtain ⟨rfl, rfl⟩ := Prod.mk.inj hs
  · simp only [number?, bind, Option.bind, hwhole, hfraction, hexponent, hinteger, pure]
  · next hminus =>
    rw [number?]
    · simp only [bind, Option.bind, hwhole, hfraction, hexponent, hinteger, pure]
    · exact hminus

/-- An integer is read back if it does not have too many digits. -/
theorem number?_intDigits {n : Int}
    (hn : (Number.natDigits n.natAbs).length ≤ Excess.maxDigits) :
    number? (Number.intDigits n ++ rest) = some (.ok (.int n), rest) := by
  unfold Number.intDigits
  by_cases hneg : n < 0
  · have hvalue : (if true then -(n.natAbs : Int) else n.natAbs) = n := by
      rw [if_pos rfl]
      omega
    rw [if_pos hneg, number?_of_sign hr hn rfl, hvalue]
  · have hvalue : (if false then -(n.natAbs : Int) else n.natAbs) = n := by
      rw [if_neg (by decide)]
      omega
    obtain ⟨d, ds, hds⟩ := List.exists_cons_of_ne_nil (Number.natDigits_ne_nil n.natAbs)
    have hd : d.isDigit = true :=
      Number.isDigit_of_mem_natDigits (n := n.natAbs) (by rw [hds]; exact List.mem_cons_self)
    have hsign : (match Number.natDigits n.natAbs ++ rest with
        | '-' :: rest => (true, rest)
        | s => (false, s)) = (false, Number.natDigits n.natAbs ++ rest) := by
      rw [hds]
      split
      · next he =>
        rw [(List.cons_eq_cons.1 he).1] at hd
        cases hd
      · rfl
    rw [if_neg hneg, number?_of_sign hr hn hsign, hvalue]

end

/-! ## Words and integers -/

/-- No word begins with a digit. -/
theorem find?_words_of_digit {d : Char} (hd : d.isDigit = true) (s : List Char) :
    words.find? (fun w => w.1.isPrefixOf (d :: s)) = none := by
  have hne : ∀ c : Char, c.isDigit = false → (c == d) = false := by
    intro c hc
    rw [beq_eq_false_iff_ne]
    rintro rfl
    rw [hd] at hc
    cases hc
  simp [words, List.isPrefixOf, hne]

/-- The only word with a sign has no digit behind it. -/
theorem find?_words_of_sign {d : Char} (hd : d.isDigit = true) (s : List Char) :
    words.find? (fun w => w.1.isPrefixOf ('-' :: d :: s)) = none := by
  have hne : ('I' == d) = false := by
    rw [beq_eq_false_iff_ne]
    rintro rfl
    cases hd
  simp [words, List.isPrefixOf, hne]

theorem scalar?_intDigits {n : Int} (hn : (Number.natDigits n.natAbs).length ≤ Excess.maxDigits)
    {rest : List Char} (hr : Closes rest) :
    scalar? (Number.intDigits n ++ rest) = some (.ok (.int n), rest) := by
  obtain ⟨d, ds, hds⟩ := List.exists_cons_of_ne_nil (Number.natDigits_ne_nil n.natAbs)
  have hd : d.isDigit = true :=
    Number.isDigit_of_mem_natDigits (n := n.natAbs) (by rw [hds]; exact List.mem_cons_self)
  have hword : words.find? (fun w => w.1.isPrefixOf (Number.intDigits n ++ rest)) = none := by
    unfold Number.intDigits
    rw [hds]
    split
    · exact find?_words_of_sign hd (ds ++ rest)
    · exact find?_words_of_digit hd (ds ++ rest)
  unfold scalar?
  rw [hword]
  exact number?_intDigits hr hn

end Json

end LineCursor
