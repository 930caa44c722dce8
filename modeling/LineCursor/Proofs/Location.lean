import LineCursor.Location.Made
import LineCursor.Proofs.Json.Scalar

/-!
What a location reads like tells where it is.

The name stands in front as it is, with colons and digits of its own perhaps, so the text has to be
taken apart from behind: the column is what follows the last colon, as digits have none, and the
line is what stands between that and the colon before it (`append_separator_inj`).

    p.text = q.text ↔ line, column and label of `p` are those of `q`           (text_eq_iff)
-/

namespace LineCursor

namespace Number

theorem ne_colon_of_isDigit {c : Char} (h : c.isDigit = true) : c ≠ ':' := by
  rintro rfl
  exact absurd h (by decide)

theorem colon_not_mem_intDigits (n : Int) : ':' ∉ intDigits n := by
  have hdigits : ':' ∉ natDigits n.natAbs := fun h =>
    ne_colon_of_isDigit (isDigit_of_mem_natDigits h) rfl
  unfold intDigits
  split
  · rw [List.mem_cons, not_or]
    exact ⟨by decide, hdigits⟩
  · exact hdigits

theorem natDigits_inj {m n : Nat} (h : natDigits m = natDigits n) : m = n := by
  rw [← digitsValue_natDigits m, h, digitsValue_natDigits]

theorem sign_not_mem_natDigits (n : Nat) : '-' ∉ natDigits n := fun h =>
  absurd (isDigit_of_mem_natDigits h) (by decide)

theorem intDigits_inj {m n : Int} (h : intDigits m = intDigits n) : m = n := by
  unfold intDigits at h
  split at h <;> split at h
  · have := natDigits_inj (List.cons.inj h).2
    omega
  · exact absurd (h ▸ List.mem_cons_self) (sign_not_mem_natDigits n.natAbs)
  · exact absurd (h ▸ List.mem_cons_self) (sign_not_mem_natDigits m.natAbs)
  · have := natDigits_inj h
    omega

end Number

theorem eq_nil_of_cons_eq_append {α : Type} {separator : α} {between ds es : List α}
    (hd : separator ∉ ds) (h : separator :: ds = between ++ separator :: es) : between = [] := by
  cases between with
  | nil => rfl
  | cons c between =>
    refine absurd ?_ hd
    rw [(List.cons.inj h).2]
    exact List.mem_append_right _ List.mem_cons_self

/-- Two rows that are the same have the same parts before and behind the last separator. -/
theorem append_separator_inj {α : Type} {separator : α} {s t ds es : List α}
    (hd : separator ∉ ds) (he : separator ∉ es)
    (h : s ++ separator :: ds = t ++ separator :: es) : s = t ∧ ds = es := by
  rcases List.append_eq_append_iff.1 h with ⟨between, rfl, hrest⟩ | ⟨between, rfl, hrest⟩
  · obtain rfl := eq_nil_of_cons_eq_append hd hrest
    exact ⟨(List.append_nil s).symm, (List.cons.inj hrest).2⟩
  · obtain rfl := eq_nil_of_cons_eq_append he hrest
    exact ⟨List.append_nil t, (List.cons.inj hrest).2.symm⟩

namespace Location

/-- A location whose line and column are integers. -/
theorem toList_text (m n : Int) (name : Datum) :
    (⟨.int m, .int n, name⟩ : Location).text.toList =
      ((⟨.int m, .int n, name⟩ : Location).label.toList ++ ':' :: Number.intDigits m) ++
        ':' :: Number.intDigits n := by
  generalize hl : (⟨.int m, .int n, name⟩ : Location) = l
  have htext : l.text = l.label ++ ":" ++ String.ofList (Number.intDigits m) ++ ":" ++
      String.ofList (Number.intDigits n) := by
    rw [← hl]
    rfl
  simp [htext]

/-- The text of a location tells its line, its column and its label. -/
theorem text_eq_iff {m n m' n' : Int} {name name' : Datum} {p q : Location}
    (hp : p = ⟨.int m, .int n, name⟩) (hq : q = ⟨.int m', .int n', name'⟩) :
    p.text = q.text ↔ m = m' ∧ n = n' ∧ p.label = q.label := by
  subst hp hq
  rw [← String.toList_inj, toList_text, toList_text]
  constructor
  · intro h
    obtain ⟨hfront, hcolumn⟩ := append_separator_inj (Number.colon_not_mem_intDigits n)
      (Number.colon_not_mem_intDigits n') h
    obtain ⟨hlabel, hline⟩ := append_separator_inj (Number.colon_not_mem_intDigits m)
      (Number.colon_not_mem_intDigits m') hfront
    exact ⟨Number.intDigits_inj hline, Number.intDigits_inj hcolumn, String.toList_inj.1 hlabel⟩
  · rintro ⟨rfl, rfl, hlabel⟩
    rw [hlabel]

theorem message_exhausted (l : Location) :
    (Fault.exhausted l).message =
      "no character available at " ++ l.text ++ ": stream is exhausted" := rfl

/-- The message that no character is left tells what the text of its location tells. -/
theorem message_exhausted_inj {p q : Location} :
    (Fault.exhausted p).message = (Fault.exhausted q).message ↔ p.text = q.text := by
  rw [message_exhausted, message_exhausted]
  refine ⟨fun h => ?_, fun h => by rw [h]⟩
  have hlists := congrArg String.toList h
  simp only [String.toList_append] at hlists
  exact String.toList_inj.1 (List.append_cancel_left (List.append_cancel_right hlists))

/-- What a name is shown as: itself, unless it is missing or empty. -/
def shown (name : Option String) : String :=
  (name.filter (· ≠ "")).getD "<anonymous>"

theorem label_ofString? (line column : Datum) (name : Option String) :
    (⟨line, column, .ofString? name⟩ : Location).label = shown name := by
  cases name with
  | none => rfl
  | some s =>
    by_cases hs : s = ""
    · subst hs
      rfl
    · have htruthy : (Datum.ofString? (some s)).truthy = true := by
        simpa [Datum.ofString?, Datum.truthy] using hs
      rw [label, if_pos htruthy, shown, Option.filter_some, if_pos (by simpa using hs)]
      rfl

/-- What follows a check is done if the check passes. -/
theorem of_checked_eq_ok {α : Type} {check : Except Fault Bool} {e : Fault}
    {rest : Except Fault α} {a : α}
    (h : (do
      if ← check then throw e
      rest) = .ok a) : rest = .ok a := by
  cases check with
  | error e => cases h
  | ok failed =>
    cases failed with
    | true => cases h
    | false => exact h

/-- A location is made of what it is given. -/
theorem eq_of_make {line column name : Datum} {p : Location}
    (h : make line column name = .ok p) : p = ⟨line, column, name⟩ :=
  (Except.ok.inj (of_checked_eq_ok (of_checked_eq_ok h))).symm

end Location

end LineCursor
