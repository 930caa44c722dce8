import Mathlib.Data.List.Sort
import LineCursor.Datum.Order

/-!
Texts among values, and their ascending order.

A value equals a text only if it is that text (`Datum.equal_str`).  Texts always have an order in
common, so some of them have an ascending list (`Datum.ascending_texts`), and this list depends on
nothing but which texts there are (`Datum.Lists.unique`).
-/

namespace LineCursor

/-- Different names come in strictly ascending order by sorting. -/
theorem Text.pairwise_lt_mergeSort {names : List String} (h : names.Nodup) :
    (names.mergeSort (· ≤ ·)).Pairwise (· < ·) := by
  have hle : (names.mergeSort (· ≤ ·)).Pairwise (· ≤ ·) := by
    refine (List.pairwise_mergeSort (fun a b c hab hbc => ?_) (fun a b => ?_) names).imp
      of_decide_eq_true
    · exact decide_eq_true (String.le_trans (of_decide_eq_true hab) (of_decide_eq_true hbc))
    · simpa using String.le_total a b
  have hnodup : (names.mergeSort (· ≤ ·)).Nodup := (List.mergeSort_perm _ _).nodup_iff.2 h
  exact (hle.and hnodup).imp fun ⟨hle, hne⟩ => Std.lt_of_le_of_ne hle hne

namespace Datum

/-- The text that a value is. -/
def text? : Datum → Option String
  | .str s => some s
  | _ => none

theorem text?_eq_some_iff {d : Datum} {s : String} : d.text? = some s ↔ d = .str s := by
  cases d <;> simp [text?]

theorem same_str (d : Datum) (s : String) : d.same (.str s) = decide (d.text? = some s) := by
  rw [Bool.eq_iff_iff]
  cases d <;> simp [same, text?, quantity?]

theorem equal_str (d : Datum) (s : String) : d.equal (.str s) = decide (d.text? = some s) := by
  rw [← same_str]
  cases d <;> rfl

/-! ## Texts in ascending order -/

/-- Texts in strictly ascending order, those that there are among some values. -/
structure Lists (names : List String) (values : List Datum) : Prop where
  ascending : names.Pairwise (· < ·)
  mem_iff : ∀ name, name ∈ names ↔ .str name ∈ values

theorem Lists.nodup {names : List String} {values : List Datum} (h : Lists names values) :
    names.Nodup :=
  h.ascending.nodup

/-- Two ascending lists of the same texts are one. -/
theorem Lists.unique {names names' : List String} {ds es : List Datum} (h : Lists names ds)
    (h' : Lists names' es) (hmem : ∀ d, d ∈ ds ↔ d ∈ es) : names = names' :=
  h.ascending.eq_of_mem_iff h'.ascending fun name => by rw [h.mem_iff, h'.mem_iff, hmem]

theorem exists_map_str {ds : List Datum} (h : ∀ d ∈ ds, ∃ s, d = .str s) :
    ∃ names : List String, ds = names.map .str := by
  induction ds with
  | nil => exact ⟨[], rfl⟩
  | cons d ds ih =>
    obtain ⟨s, rfl⟩ := h d List.mem_cons_self
    obtain ⟨names, rfl⟩ := ih fun d hd => h d (List.mem_cons_of_mem _ hd)
    exact ⟨s :: names, rfl⟩

theorem str_mem_map_str {name : String} {names : List String} :
    Datum.str name ∈ names.map .str ↔ name ∈ names :=
  List.mem_map_of_injective fun _ _ => Datum.str.inj

theorem forM_hashable (names : List String) :
    (names.map Datum.str).forM hashable = .ok () := by
  induction names with
  | nil => rfl
  | cons s names ih => exact ih

theorem unordered?_texts (names : List String) : unordered? (names.map .str) = none := by
  induction names with
  | nil => rfl
  | cons s names ih =>
    cases names with
    | nil => rfl
    | cons t names => exact ih

/-- Of some texts each one once, in the order in which they come first. -/
theorem eraseDupsBy_same (names : List String) :
    ∃ distinct : List String, (names.map Datum.str).eraseDupsBy same = distinct.map .str ∧
      distinct.Nodup ∧ ∀ s, s ∈ distinct ↔ s ∈ names := by
  match names with
  | [] => exact ⟨[], rfl, List.nodup_nil, fun _ => Iff.rfl⟩
  | s :: names =>
    have hfilter : (names.map Datum.str).filter (fun d => d.same (.str s) = false) =
        (names.filter (· ≠ s)).map .str := by
      rw [List.filter_map]
      congr 2
      funext t
      simp [same_str, text?]
    obtain ⟨distinct, heq, hnodup, hmem⟩ := eraseDupsBy_same (names.filter (· ≠ s))
    refine ⟨s :: distinct, ?_, ?_, fun t => ?_⟩
    · rw [List.map_cons, List.eraseDupsBy_cons, hfilter, heq, List.map_cons]
    · refine List.nodup_cons.2 ⟨fun h => ?_, hnodup⟩
      have hs := (hmem s).1 h
      simp at hs
    · rw [List.mem_cons, List.mem_cons, hmem, List.mem_filter]
      by_cases ht : t = s <;> simp [ht]
termination_by names.length
decreasing_by exact Nat.lt_succ_of_le (List.length_filter_le _ _)

/-- Texts have an ascending list. -/
theorem ascending_texts {ds : List Datum} (h : ∀ d ∈ ds, ∃ s, d = .str s) :
    ∃ names : List String, ascending ds = .ok (names.map .str) ∧ Lists names ds := by
  obtain ⟨names, rfl⟩ := exists_map_str h
  obtain ⟨distinct, heq, hnodup, hmem⟩ := eraseDupsBy_same names
  have hsort : (distinct.map Datum.str).mergeSort (fun a b => !b.comesBefore a) =
      (distinct.mergeSort (· ≤ ·)).map .str := by
    refine (List.map_mergeSort fun a _ b _ => ?_).symm
    rw [comesBefore, ← decide_not]
    exact decide_eq_decide.2 String.not_lt.symm
  refine ⟨distinct.mergeSort (· ≤ ·), ?_, Text.pairwise_lt_mergeSort hnodup, fun name => ?_⟩
  · rw [ascending, forM_hashable, heq, ← hsort]
    simp only [bind, Except.bind, unordered?_texts]
    rfl
  · rw [List.mem_mergeSort, hmem, str_mem_map_str]

end Datum

end LineCursor
