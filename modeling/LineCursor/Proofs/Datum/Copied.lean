import LineCursor.Datum.Copied
import LineCursor.Proofs.Datum

/-!
What a copy has in common with the value.

A value in which there are no records, and no objects but those whose copies are equal to them, is
its own copy (`Datum.copy_of_plain`).  Copying fails only at an object that cannot be copied
(`Datum.copy_error`).
-/

namespace LineCursor.Datum

mutual

/-- Whether copying gives back the value as it is. -/
def plain : Datum → Bool
  | .list items => plainItems items
  | .dict entries => plainEntries entries
  | .record _ _ => false
  | .object _ _ copying => copying = .equal
  | _ => true

def plainItems : List Datum → Bool
  | [] => true
  | d :: rest => plain d && plainItems rest

def plainEntries : List (String × Datum) → Bool
  | [] => true
  | (_, v) :: rest => plain v && plainEntries rest

end

variable (next : Nat)

/-! ## Values that are their own copies -/

mutual

theorem copy_of_plain (d : Datum) (h : d.plain = true) : copy next d = .ok (d, next) := by
  match d with
  | .list items => rw [copy, copyItems_of_plain items h]; rfl
  | .dict entries => rw [copy, copyEntries_of_plain entries h]; rfl
  | .record _ _ => cases h
  | .object _ _ .equal => rfl
  | .object _ _ .unequal | .object _ _ .refused => cases h
  | .null | .bool _ | .int _ | .float _ | .nan | .str _ | .bytes _ => rfl

theorem copyItems_of_plain (ds : List Datum) (h : plainItems ds = true) :
    copyItems next ds = .ok (ds, next) := by
  match ds with
  | [] => rfl
  | d :: rest =>
    rw [plainItems, Bool.and_eq_true] at h
    rw [copyItems, copy_of_plain d h.1]
    show (do let (rest, next) ← copyItems next rest; return (d :: rest, next)) = _
    rw [copyItems_of_plain rest h.2]
    rfl

theorem copyEntries_of_plain (es : List (String × Datum)) (h : plainEntries es = true) :
    copyEntries next es = .ok (es, next) := by
  match es with
  | [] => rfl
  | (k, v) :: rest =>
    rw [plainEntries, Bool.and_eq_true] at h
    rw [copyEntries, copy_of_plain v h.1]
    show (do let (rest, next) ← copyEntries next rest; return ((k, v) :: rest, next)) = _
    rw [copyEntries_of_plain rest h.2]
    rfl

end

/-! ## Copies that cannot be made -/

theorem bind_eq_error {α β : Type} {x : Except Fault α} {f : α → Except Fault β} {e : Fault}
    (h : x >>= f = .error e) : x = .error e ∨ ∃ a, f a = .error e := by
  cases x with
  | error e' =>
    cases h
    exact .inl rfl
  | ok a => exact .inr ⟨a, h⟩

mutual

/-- Only an object can keep a value from being copied. -/
theorem copy_error (d : Datum) {next : Nat} {e : Fault} (h : copy next d = .error e) :
    ∃ type, e = .uncopyable type := by
  match d with
  | .list items =>
    rcases bind_eq_error h with hitems | ⟨_, ⟨⟩⟩
    exact copyItems_error items hitems
  | .dict entries | .record _ entries =>
    rcases bind_eq_error h with hentries | ⟨_, ⟨⟩⟩
    exact copyEntries_error entries hentries
  | .object type _ .refused =>
    cases h
    exact ⟨type, rfl⟩
  | .object _ _ .equal | .object _ _ .unequal => cases h
  | .null | .bool _ | .int _ | .float _ | .nan | .str _ | .bytes _ => cases h

theorem copyItems_error (ds : List Datum) {next : Nat} {e : Fault}
    (h : copyItems next ds = .error e) : ∃ type, e = .uncopyable type := by
  match ds with
  | [] => cases h
  | d :: rest =>
    rcases bind_eq_error h with hd | ⟨_, h⟩
    · exact copy_error d hd
    · rcases bind_eq_error h with hrest | ⟨_, ⟨⟩⟩
      exact copyItems_error rest hrest

theorem copyEntries_error (es : List (String × Datum)) {next : Nat} {e : Fault}
    (h : copyEntries next es = .error e) : ∃ type, e = .uncopyable type := by
  match es with
  | [] => cases h
  | (_, v) :: rest =>
    rcases bind_eq_error h with hv | ⟨_, h⟩
    · exact copy_error v hv
    · rcases bind_eq_error h with hrest | ⟨_, ⟨⟩⟩
      exact copyEntries_error rest hrest

end

end LineCursor.Datum
