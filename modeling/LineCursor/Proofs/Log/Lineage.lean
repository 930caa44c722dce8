import Mathlib.Data.List.Infix
import LineCursor.Log.Levels

/-!
Where a logger has its level from.

A logger looks for its parent under names that end before a dot of its own, from the last dot on,
and the first logger that there is becomes it (`Levels.parent?`).  The level that counts is the
first other than zero on the way from the logger over its parents to the root
(`Levels.effective_eq_lineage`):

    levels.effective name = levels.firstLevel (levels.lineage name)

Not all that stands before a dot is looked for: of two dots in a row the first one is left out,
unless there is a logger whose name ends between them.  And the loggers `r`, `ro` and `roo` are
passed over by older ones.  Where neither matters the level is that of the nearest of all dotted
ancestors that has one, whichever loggers there are (`Levels.effective_eq_ancestors`):

    levels.effective name = levels.firstLevel (name :: ancestors name ++ [""])
-/

namespace LineCursor.Log

/-! ## Names above a name -/

/-- What stands before each dot of a name, which is given from the last character to the first. -/
def beforeDots : List Char → List String
  | [] => []
  | c :: rest => if c = '.' then String.ofList rest.reverse :: beforeDots rest else beforeDots rest

/-- What stands before the dots that are looked at: not one right before another that is. -/
def candidates : List Char → List String
  | '.' :: c :: rest => String.ofList (c :: rest).reverse :: candidates rest
  | _ :: rest => candidates rest
  | [] => []

/-- The dotted ancestors of a name, the longest first. -/
def ancestors (name : String) : List String :=
  beforeDots name.toList.reverse

@[simp]
theorem beforeDots_dot (rest : List Char) :
    beforeDots ('.' :: rest) = String.ofList rest.reverse :: beforeDots rest := rfl

theorem beforeDots_of_ne {c : Char} (h : c ≠ '.') (rest : List Char) :
    beforeDots (c :: rest) = beforeDots rest :=
  if_neg h

theorem length_lt_of_mem_candidates {name : List Char} {p : String} (h : p ∈ candidates name) :
    p.toList.length < name.length := by
  fun_induction candidates name with
  | case1 c rest ih =>
    rcases List.mem_cons.1 h with rfl | h
    · simp
    · have := ih h
      simp only [List.length_cons]
      omega
  | case2 c rest hne ih => exact Nat.lt_succ_of_lt (ih h)
  | case3 => cases h

theorem isRoot_iff {name : String} : isRoot name = true ↔ name = "" ∨ name = "root" := by
  simp [isRoot]

/-- The root has no ancestors. -/
theorem beforeDots_of_isRoot {name : List Char} (h : isRoot (String.ofList name.reverse) = true) :
    beforeDots name = [] := by
  have hname : name = "".toList.reverse ∨ name = "root".toList.reverse := by
    rcases isRoot_iff.1 h with h | h
    · exact .inl (by rw [← h]; simp)
    · exact .inr (by rw [← h]; simp)
  rcases hname with rfl | rfl <;> decide

namespace Levels

variable {levels : Levels}

/-! ## Parents -/

/-- The parent of a logger, the root apart. -/
def parent? (levels : Levels) (name : String) : Option String :=
  ((candidates name.toList.reverse).find? fun p => (levels.own? p).isSome).filter
    fun p => !levels.passesOver name p

theorem length_lt_of_parent? {name p : String} (h : levels.parent? name = some p) :
    p.toList.length < name.toList.length := by
  have hmem := List.mem_of_find?_eq_some (Option.filter_eq_some_iff.1 h).1
  have hlt := length_lt_of_mem_candidates hmem
  rwa [List.length_reverse] at hlt

/-- The root has no parent. -/
theorem isRoot_of_parent? {name p : String} (h : levels.parent? name = some p) :
    isRoot name = false := by
  refine eq_false_of_ne_true fun hroot => ?_
  have hnone : candidates name.toList.reverse = [] := by
    rcases isRoot_iff.1 hroot with rfl | rfl <;> decide
  rw [parent?, hnone] at h
  cases h

/-- A logger, its parent, the parent of that and so on, at last the root. -/
def lineage (levels : Levels) (name : String) : List String :=
  match _h : levels.parent? name with
  | none => [name, ""]
  | some p => name :: levels.lineage p
termination_by name.toList.length
decreasing_by exact length_lt_of_parent? _h

/-- The level that has been set for a logger, or zero. -/
def level (levels : Levels) (name : String) : Int :=
  if isRoot name then levels.root else (levels.own? name).getD 0

/-- The first level other than zero that has been set for one of some loggers, or zero. -/
def firstLevel (levels : Levels) (names : List String) : Int :=
  ((names.map levels.level).find? (· != 0)).getD 0

theorem firstLevel_cons (levels : Levels) (name : String) (names : List String) :
    levels.firstLevel (name :: names) =
      if levels.level name = 0 then levels.firstLevel names else levels.level name := by
  unfold firstLevel
  rw [List.map_cons, List.find?_cons]
  split
  · next h => rw [if_neg (bne_iff_ne.1 h), Option.getD_some]
  · next h => rw [if_pos (by simpa using h)]

theorem level_of_isRoot {name : String} (h : isRoot name = true) :
    levels.level name = levels.root :=
  if_pos h

theorem firstLevel_root (levels : Levels) : levels.firstLevel [""] = levels.root := by
  rw [firstLevel_cons, level_of_isRoot rfl]
  split
  · next h => exact h.symm
  · rfl

theorem level_of_own? (hp : levels.Proper) {name : String} {n : Int}
    (h : levels.own? name = some n) : isRoot name = false ∧ levels.level name = n := by
  have hmem : (name, n) ∈ levels.named := by
    obtain ⟨before, rest, he, -⟩ := List.lookup_eq_some_iff.1 h
    rw [he]
    exact List.mem_append_right _ List.mem_cons_self
  have hroot : isRoot name = false := hp _ hmem
  exact ⟨hroot, by rw [level, hroot, h]; rfl⟩

/-! ## The level that counts -/

theorem effective_of_isRoot {name : String} (h : isRoot name = true) :
    levels.effective name = levels.root := by
  rw [effective, if_pos h]

/-- A level of a logger's own counts. -/
theorem effective_of_level_ne {name : String} (h : levels.level name ≠ 0) :
    levels.effective name = levels.level name := by
  unfold level at h ⊢
  unfold effective
  split
  · rfl
  · next hroot =>
    rw [if_neg hroot] at h
    split
    · next hown =>
      rw [hown] at h
      exact absurd rfl h
    · next hown =>
      rw [hown] at h
      exact absurd rfl h
    · next n hown =>
      rw [hown]
      rfl

theorem effective_of_level_eq_zero {name : String} (hroot : isRoot name = false)
    (h : levels.level name = 0) :
    levels.effective name = (levels.inherited? name name.toList.reverse).getD levels.root := by
  have hzero : (levels.own? name).getD 0 = 0 := by simpa [level, hroot] using h
  unfold effective
  rw [if_neg (by simp [hroot])]
  split
  · rfl
  · rfl
  · next n hne hown =>
    rw [hown] at hzero
    exact (hne hzero).elim

/-- What a logger takes from its parents is what counts for its parent. -/
theorem inherited?_eq (hp : levels.Proper) (name : String) (rest : List Char) :
    (levels.inherited? name rest).getD levels.root =
      match ((candidates rest).find? fun p => (levels.own? p).isSome).filter
          fun p => !levels.passesOver name p with
      | none => levels.root
      | some p => levels.effective p := by
  fun_induction inherited? levels name rest with
  | case1 name c rest p hown ih =>
    rw [ih, candidates, List.find?_cons_of_neg (by rw [hown]; simp)]
  | case2 name c rest p own hown hpassed =>
    rw [candidates, List.find?_cons_of_pos (by rw [hown]; rfl), Option.filter_some, hpassed]
    rfl
  | case3 name c rest p hpassed hown ih =>
    obtain ⟨hroot, hlevel⟩ := level_of_own? hp hown
    have heffective := effective_of_level_eq_zero hroot hlevel
    rw [String.toList_ofList, List.reverse_reverse] at heffective
    rw [candidates, List.find?_cons_of_pos (by rw [hown]; rfl), Option.filter_some,
      eq_false_of_ne_true hpassed, ← heffective]
    rfl
  | case4 name c rest p own hown hpassed hne =>
    obtain ⟨-, hlevel⟩ := level_of_own? hp hown
    rw [candidates, List.find?_cons_of_pos (by rw [hown]; rfl), Option.filter_some,
      eq_false_of_ne_true hpassed]
    show own = levels.effective p
    rw [effective_of_level_ne (by rw [hlevel]; exact hne), hlevel]
  | case5 name c rest hne ih => rw [ih, candidates.eq_2 _ _ hne]
  | case6 => rfl

/-- The level that counts is the first one that is met on the way to the root. -/
theorem effective_eq_lineage (hp : levels.Proper) (name : String) :
    levels.effective name = levels.firstLevel (levels.lineage name) := by
  fun_induction lineage levels name with
  | case1 name h =>
    rw [firstLevel_cons, firstLevel_root]
    split
    · next hlevel =>
      cases hroot : isRoot name with
      | true => exact effective_of_isRoot hroot
      | false =>
        rw [effective_of_level_eq_zero hroot hlevel, inherited?_eq hp]
        show (match levels.parent? name with | none => _ | some p => _) = _
        rw [h]
    · next hlevel => exact effective_of_level_ne hlevel
  | case2 name p h ih =>
    rw [firstLevel_cons, ← ih]
    split
    · next hlevel =>
      rw [effective_of_level_eq_zero (isRoot_of_parent? h) hlevel, inherited?_eq hp]
      show (match levels.parent? name with | none => _ | some p => _) = _
      rw [h]
    · next hlevel => exact effective_of_level_ne hlevel

/-! ## Names that are all looked for -/

theorem ne_dot_of_plain {c : Char} {rest : List Char} (h : ¬ ['.', '.'] <:+: '.' :: c :: rest) :
    c ≠ '.' := by
  rintro rfl
  exact h ⟨[], rest, rfl⟩

theorem plain_tail {c : Char} {rest : List Char} (h : ¬ ['.', '.'] <:+: c :: rest) :
    ¬ ['.', '.'] <:+: rest :=
  fun hrest => h (hrest.trans (List.suffix_cons c rest).isInfix)

/-- In a name without two dots in a row no ancestor is left out, and one that is no logger has no
level. -/
theorem inherited?_eq_of_plain (hp : levels.Proper) {name : String} {rest : List Char}
    (hdots : ¬ ['.', '.'] <:+: rest)
    (hroot : ∀ p ∈ beforeDots rest, p ∉ ["r", "ro", "roo"]) :
    (levels.inherited? name rest).getD levels.root =
      levels.firstLevel (beforeDots rest ++ [""]) := by
  fun_induction inherited? levels name rest with
  | case1 name c rest p hown ih =>
    have hc : beforeDots (c :: rest) = beforeDots rest :=
      beforeDots_of_ne (ne_dot_of_plain hdots) rest
    have hmem (q : String) (hq : q ∈ beforeDots rest) : q ∉ ["r", "ro", "roo"] := by
      refine hroot q ?_
      rw [beforeDots_dot, hc]
      exact List.mem_cons_of_mem _ hq
    rw [ih (plain_tail (plain_tail hdots)) hmem, beforeDots_dot, hc, List.cons_append,
      firstLevel_cons]
    split
    · rfl
    · next hlevel =>
      -- Only the root has a level without being listed.
      cases hr : isRoot p with
      | true =>
        rw [← hc, beforeDots_of_isRoot hr, List.nil_append, firstLevel_root]
        exact (level_of_isRoot hr).symm
      | false => exact absurd (by rw [level, hr, hown]; rfl) hlevel
  | case2 name c rest p own hown hpassed =>
    refine absurd ?_ (hroot p List.mem_cons_self)
    exact List.contains_iff_mem.1 (Bool.and_eq_true_iff.1 hpassed).1
  | case3 name c rest p hpassed hown ih =>
    rw [ih (plain_tail hdots) fun q hq => hroot q (List.mem_cons_of_mem _ hq), beforeDots_dot,
      List.cons_append, firstLevel_cons, if_pos (level_of_own? hp hown).2]
  | case4 name c rest p own hown hpassed hne =>
    have hlevel := (level_of_own? hp hown).2
    rw [beforeDots_dot, List.cons_append, firstLevel_cons, if_neg (by rw [hlevel]; exact hne)]
    exact hlevel.symm
  | case5 name c rest hne ih =>
    by_cases hc : c = '.'
    · subst hc
      cases rest with
      | nil =>
        show levels.root = levels.firstLevel ["", ""]
        rw [firstLevel_cons, firstLevel_root, level_of_isRoot rfl, ite_self]
      | cons c rest => exact (hne c rest rfl rfl).elim
    · rw [beforeDots_of_ne hc] at hroot ⊢
      exact ih (plain_tail hdots) hroot
  | case6 => exact (firstLevel_root levels).symm

/-- The level that counts for a name whose dots stand apart is that of the nearest ancestor that has
one. -/
theorem effective_eq_ancestors (hp : levels.Proper) {name : String}
    (hdots : ¬ ['.', '.'] <:+: name.toList)
    (hroot : ∀ p ∈ ancestors name, p ∉ ["r", "ro", "roo"]) :
    levels.effective name = levels.firstLevel (name :: ancestors name ++ [""]) := by
  rw [List.cons_append, firstLevel_cons]
  split
  · next hlevel =>
    cases hr : isRoot name with
    | true =>
      have hnone : ancestors name = [] :=
        beforeDots_of_isRoot (by rw [List.reverse_reverse, String.ofList_toList]; exact hr)
      rw [effective_of_isRoot hr, hnone]
      exact (firstLevel_root levels).symm
    | false =>
      have hreverse : ¬ ['.', '.'] <:+: name.toList.reverse :=
        fun h => hdots (List.reverse_infix.1 (h : ['.', '.'].reverse <:+: name.toList.reverse))
      rw [effective_of_level_eq_zero hr hlevel, inherited?_eq_of_plain hp hreverse hroot]
      rfl
  · next hlevel => exact effective_of_level_ne hlevel

/-- The dot before another one is not looked at, and `r.x` was there before `r`. -/
example :
    ({ named := [("a", 10)] } : Levels).effective "a..b" = 30 ∧
      ({ named := [("a.", 0), ("a", 10)] } : Levels).effective "a..b" = 10 ∧
      ({ named := [("r", 10), ("r.x", 0)] } : Levels).effective "r.x" = 30 ∧
      ({ named := [("r.x", 0), ("r", 10)] } : Levels).effective "r.x" = 10 := by
  decide

end Levels

end LineCursor.Log
