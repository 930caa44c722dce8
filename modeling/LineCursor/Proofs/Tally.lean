import Mathlib.Algebra.Order.Ring.Nat
import LineCursor.Tally

/-!
The rates of a tally exist.

A rate is a quotient, and a quotient of integers may lie beyond the largest binary64 number.  Below
`2^1019` it does not, and so neither do the rates of fewer than `2^1000` characters:

    n < 2^1019 · d → ofRatio? n d ≠ none         (ofRatio?_isSome)
    0 ≤ t.characters < 2^1000 → t.toDatum = .ok  (Tally.toDatum_ok)
-/

namespace LineCursor

namespace Number.Binary64

theorem roundHalfEven_le (n d : Nat) : roundHalfEven n d ≤ n / d + 1 := by
  unfold roundHalfEven
  dsimp only
  repeat' split
  all_goals omega

/-- The exponent leaves at most 54 binary digits. -/
theorem exponentOf_ge (n d : Nat) : (n.log2 : Int) - d.log2 - 53 ≤ exponentOf n d := by
  unfold exponentOf
  dsimp only
  split <;> omega

theorem exponentOf_le (n d : Nat) (hn : n.log2 ≤ 1019 + d.log2) : exponentOf n d ≤ 967 := by
  unfold exponentOf
  dsimp only
  split <;> omega

/-- Shifted by an exponent that leaves 54 binary digits, a quotient has no more of them. -/
theorem shifted_div_lt (n d : Nat) (q : Int) (hd : 0 < d)
    (hq : (n.log2 : Int) - d.log2 - 53 ≤ q) :
    (shifted n d q).1 / (shifted n d q).2 < 2 ^ 54 := by
  have hn : n < 2 ^ (n.log2 + 1) := Nat.lt_log2_self
  have hd' : 2 ^ d.log2 ≤ d := Nat.log2_self_le (by omega)
  have hb : 0 < d * 2 ^ q.toNat := Nat.mul_pos hd (Nat.two_pow_pos _)
  show n * 2 ^ (-q).toNat / (d * 2 ^ q.toNat) < 2 ^ 54
  rw [Nat.div_lt_iff_lt_mul hb]
  calc n * 2 ^ (-q).toNat
      < 2 ^ (n.log2 + 1) * 2 ^ (-q).toNat := Nat.mul_lt_mul_of_pos_right hn (Nat.two_pow_pos _)
    _ = 2 ^ (n.log2 + 1 + (-q).toNat) := (Nat.pow_add _ _ _).symm
    _ ≤ 2 ^ (54 + (d.log2 + q.toNat)) := Nat.pow_le_pow_right (by omega) (by omega)
    _ = 2 ^ 54 * (2 ^ d.log2 * 2 ^ q.toNat) := by rw [Nat.pow_add, Nat.pow_add]
    _ ≤ 2 ^ 54 * (d * 2 ^ q.toNat) :=
      Nat.mul_le_mul_left _ (Nat.mul_le_mul_right _ hd')

theorem log2_le_of_lt {n k d : Nat} (h0 : n ≠ 0) (hn : n < 2 ^ k * d) : n.log2 ≤ k + d.log2 := by
  refine Nat.le_of_lt_succ ((Nat.log2_lt h0).2 ?_)
  calc n < 2 ^ k * d := hn
    _ ≤ 2 ^ k * 2 ^ (d.log2 + 1) := Nat.mul_le_mul_left _ Nat.lt_log2_self.le
    _ = 2 ^ (k + d.log2 + 1) := (Nat.pow_add 2 k (d.log2 + 1)).symm

/-- A quotient below `2^1019` is a binary64 number when rounded. -/
theorem ofRatio?_isSome (n d : Nat) (hd : 0 < d) (hn : n < 2 ^ 1019 * d) :
    (ofRatio? n d).isSome = true := by
  unfold ofRatio?
  split
  · rfl
  · next h0 =>
    have hlog := log2_le_of_lt h0 hn
    have hq := exponentOf_le n d hlog
    have hdiv := shifted_div_lt n d (exponentOf n d) hd (exponentOf_ge n d)
    have hround := roundHalfEven_le (shifted n d (exponentOf n d)).1
      (shifted n d (exponentOf n d)).2
    dsimp only
    rw [if_pos]
    · rfl
    · show _ * 2 ^ 52 + _ < _
      omega

end Number.Binary64

namespace Number

theorem ofInt_ok (n : Int) (hn : n.natAbs < 2 ^ 1019) : ∃ x, ofInt n = .ok x := by
  obtain ⟨x, hx⟩ := Option.isSome_iff_exists.1
    (Binary64.ofRatio?_isSome _ 1 one_pos (hn.trans_eq (Nat.mul_one _).symm))
  unfold ofInt Binary64.ofInt?
  rw [hx]
  exact ⟨_, rfl⟩

theorem ofQuotient_ok (a b : Int) (hb : b ≠ 0) (ha : a.natAbs < 2 ^ 1019 * b.natAbs) :
    ∃ x, ofQuotient a b = .ok x := by
  obtain ⟨x, hx⟩ := Option.isSome_iff_exists.1
    (Binary64.ofRatio?_isSome _ b.natAbs (by omega) ha)
  unfold ofQuotient Binary64.ofIntRatio?
  rw [if_neg hb, hx]
  exact ⟨_, rfl⟩

end Number

namespace Figures

/-- An integer per a number of milliseconds is a rate, whatever that number is. -/
theorem rate_ok (n : Int) (ms : Float) (hn : n.natAbs < 2 ^ 1000) :
    ∃ x, rate (.int n) (.float ms) = .ok x := by
  obtain ⟨x, hx⟩ := Number.ofInt_ok n (hn.trans_le (pow_le_pow_right₀ one_le_two (by decide)))
  unfold rate
  simp only [Datum.isAtMost, Datum.compareNumbers, Datum.quantity?, bind, Except.bind]
  split
  · exact ⟨_, rfl⟩
  · simp only [Datum.ratio, Datum.quantity?, Quantity.times, Quantity.round, hx,
      Quantity.dividedBy, bind, Except.bind, pure, Except.pure]
    exact ⟨_, rfl⟩

end Figures

namespace Tally

theorem averageLineLength_ok (t : Tally) (h : t.characters.natAbs < 2 ^ 1000) :
    ∃ x, t.figures.averageLineLength = .ok x := by
  simp only [Figures.averageLineLength, figures, Datum.equal, Datum.quantity?, Quantity.equal,
    Quantity.compareBy, beq_iff_eq]
  split
  · exact ⟨_, rfl⟩
  · next hl =>
    refine Number.ofQuotient_ok _ _ hl ?_
    calc t.characters.natAbs < 2 ^ 1000 := h
      _ ≤ 2 ^ 1019 := pow_le_pow_right₀ one_le_two (by decide)
      _ ≤ 2 ^ 1019 * t.lines.natAbs := Nat.le_mul_of_pos_right _ (Int.natAbs_pos.2 hl)

/-- Fewer than `2^1000` characters have rates. -/
theorem toDatum_ok (t : Tally) (h : t.characters.natAbs < 2 ^ 1000) :
    ∃ d, t.toDatum = .ok d := by
  obtain ⟨x, hx⟩ := Figures.rate_ok t.characters t.milliseconds h
  obtain ⟨y, hy⟩ := t.averageLineLength_ok h
  unfold toDatum Figures.toDatum Figures.charactersPerSecond
  rw [hy]
  simp only [figures, hx, bind, Except.bind, pure, Except.pure]
  exact ⟨_, rfl⟩

theorem toDatum_empty : ∃ d, ({} : Tally).toDatum = .ok d :=
  toDatum_ok {} (pow_pos two_pos 1000)

end Tally

end LineCursor
