import Mathlib.Data.List.Forall2
import LineCursor.Bench.Statistics

/-!
Statistics cover all numbers they are made from, and their existence does not depend on the order of
these numbers: the only fault is that of the deviation, and a deviation is made from sums
(`Statistics.deviationOf_perm`).
-/

namespace LineCursor.Bench

theorem isOk_iff {α : Type} {a : Except Fault α} : a.isOk = true ↔ ∃ x, a = .ok x := by
  cases a with
  | error e => exact ⟨nofun, nofun⟩
  | ok x => exact ⟨fun _ => ⟨x, rfl⟩, fun _ => rfl⟩

theorem exists_map_eq_ok_iff {α β : Type} {a : Except Fault α} {f : α → β} :
    (∃ y, a.map f = .ok y) ↔ ∃ x, a = .ok x := by
  cases a with
  | error e => exact ⟨nofun, nofun⟩
  | ok x => exact ⟨fun _ => ⟨x, rfl⟩, fun _ => ⟨f x, rfl⟩⟩

/-- A row is mapped if each of its elements is, and then element by element. -/
theorem mapM_eq_ok_iff {α β : Type} {f : α → Except Fault β} {as : List α} {bs : List β} :
    as.mapM f = .ok bs ↔ List.Forall₂ (fun a b => f a = .ok b) as bs := by
  induction as generalizing bs with
  | nil =>
    rw [List.mapM_nil, List.forall₂_nil_left_iff]
    exact ⟨fun h => (Except.ok.inj h).symm, fun h => congrArg Except.ok h.symm⟩
  | cons a as ih =>
    rw [List.mapM_cons, List.forall₂_cons_left_iff]
    cases ha : f a with
    | error e => exact ⟨nofun, fun ⟨b, bs, hb, _⟩ => nomatch hb⟩
    | ok b =>
      cases has : as.mapM f with
      | error e =>
        refine ⟨nofun, fun ⟨b, rest, _, hrest, _⟩ => ?_⟩
        rw [ih.2 hrest] at has
        cases has
      | ok rest =>
        refine ⟨fun h => ⟨b, rest, rfl, ih.1 has, (Except.ok.inj h).symm⟩, ?_⟩
        rintro ⟨b', rest', hb, hrest, rfl⟩
        cases hb
        cases has.symm.trans (ih.2 hrest)
        rfl

/-- A row is mapped if each of its elements is, here to something that has it for a key. -/
theorem exists_mapM_eq_ok {α β : Type} {f : α → Except Fault β} {key : β → α} {p : β → Prop}
    {as : List α} (h : ∀ a ∈ as, ∃ b, f a = .ok b ∧ key b = a ∧ p b) :
    ∃ bs, as.mapM f = .ok bs ∧ bs.map key = as ∧ ∀ b ∈ bs, p b := by
  induction as with
  | nil => exact ⟨[], rfl, rfl, fun _ hb => absurd hb List.not_mem_nil⟩
  | cons a as ih =>
    obtain ⟨b, hb, hkey, hp⟩ := h a List.mem_cons_self
    obtain ⟨bs, hbs, hkeys, hps⟩ := ih fun a ha => h a (List.mem_cons_of_mem _ ha)
    refine ⟨b :: bs, ?_, ?_, List.forall_mem_cons.2 ⟨hp, hps⟩⟩
    · rw [List.mapM_cons, hb, hbs]
      rfl
    · rw [List.map_cons, hkey, hkeys]

namespace Statistics

variable {xs ys : List Float}

theorem total_perm (f : Float → Int) (h : xs.Perm ys) : total f xs = total f ys :=
  h.foldl_eq' (fun x _ y _ n => Int.add_right_comm n (f x) (f y)) 0

/-- A deviation does not depend on the order of the numbers. -/
theorem deviationOf_perm (h : xs.Perm ys) : deviationOf xs = deviationOf ys := by
  unfold deviationOf
  simp only [h.all_eq, h.length_eq, total_perm _ h]

/-- All but the deviation of some numbers is always there. -/
theorem of?_cons (x : Float) (xs : List Float) :
    of? (x :: xs) =
      (if xs.isEmpty then .ok 0.0 else deviationOf (x :: xs)).map fun deviation => some
        { least := extreme (· < ·) x xs
          greatest := extreme (· > ·) x xs
          mean := meanOf (x :: xs)
          median := medianOf (x :: xs)
          deviation
          count := xs.length + 1 } := by
  cases xs with
  | nil => rfl
  | cons y xs =>
    unfold of?
    dsimp only
    cases deviationOf (x :: y :: xs) <;> rfl

/-- Two numbers or more have statistics if they have a deviation. -/
theorem of?_ok_iff :
    (∃ x, of? xs = .ok x) ↔ xs.length ≤ 1 ∨ ∃ d, deviationOf xs = .ok d := by
  cases xs with
  | nil => exact ⟨fun _ => .inl (Nat.zero_le 1), fun _ => ⟨none, rfl⟩⟩
  | cons x xs =>
    rw [of?_cons, exists_map_eq_ok_iff]
    cases xs with
    | nil => exact ⟨fun _ => .inl (Nat.le_refl 1), fun _ => ⟨0.0, rfl⟩⟩
    | cons y xs => exact ⟨.inr, fun h => h.resolve_left (by simp)⟩

theorem of?_ok_of_perm (h : xs.Perm ys) (hx : ∃ x, of? xs = .ok x) : ∃ y, of? ys = .ok y := by
  rw [of?_ok_iff, h.length_eq, deviationOf_perm h, ← of?_ok_iff] at hx
  exact hx

/-- The table for a number of numbers: of none it is empty, else it has their number. -/
def Covers (n : Nat) (table : Datum) : Prop :=
  if n = 0 then table = .dict [] else table.at? ["count"] = some (.int n)

theorem covers_of_of? {x : Option Statistics} (h : of? xs = .ok x) :
    Covers xs.length (toDatum x) := by
  cases xs with
  | nil =>
    cases h
    rfl
  | cons y xs =>
    rw [of?_cons] at h
    obtain ⟨d, hd⟩ := exists_map_eq_ok_iff.1 ⟨x, h⟩
    rw [hd] at h
    cases h
    exact (if_neg (Nat.succ_ne_zero xs.length)).mpr rfl

end Statistics

end LineCursor.Bench
