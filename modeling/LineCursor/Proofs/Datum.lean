import LineCursor.Datum

/-!
Tables of named values.

Writing an entry adds its name to the table and no other, at the end if it is a new one
(`Entries.keys_put`), and what stands under all other names stays (`Entries.lookup_put`).  So after
some changes each name stands where it was written first (`Entries.keys_update`), and of changes
with one name the last one counts (`Entries.lookup_update_reverse`).  If no two have the same name
each one counts (`Entries.lookup_update`), what they name is changed where it stands and the rest
follows (`Entries.update_eq_of_nodup`), and pairs with different names are a table as they stand:

    (es.update changes).lookup k = (changes.reverse.lookup k).or (es.lookup k)
    changes.keys.Nodup → (es.update changes).lookup k = (changes.lookup k).or (es.lookup k)
    es.keys.Nodup      → Entries.ofPairs es = es                       (Entries.ofPairs_of_nodup)

What stands in a value under a path is found part of the path by part (`Datum.at?_append`).
-/

namespace LineCursor

namespace Entries

/-! ## Names -/

theorem keys_put (key : String) (value : Datum) (es : Entries) :
    (es.put key value).keys = if key ∈ es.keys then es.keys else es.keys ++ [key] := by
  induction es with
  | nil => rfl
  | cons e es ih =>
    obtain ⟨k, v⟩ := e
    have hkeys (k : String) (v : Datum) (rest : Entries) :
        keys ((k, v) :: rest) = k :: keys rest := rfl
    unfold put
    by_cases hk : k = key
    · rw [if_pos hk, hkeys, hkeys, hk, if_pos List.mem_cons_self]
    · rw [if_neg hk, hkeys, hkeys, ih]
      by_cases hes : key ∈ keys es
      · rw [if_pos hes, if_pos (List.mem_cons_of_mem _ hes)]
      · have hcons : key ∉ k :: keys es := by
          rw [List.mem_cons, not_or]
          exact ⟨fun h => hk h.symm, hes⟩
        rw [if_neg hes, if_neg hcons, List.cons_append]

theorem mem_keys_put {key k : String} {value : Datum} {es : Entries} :
    k ∈ (es.put key value).keys ↔ k = key ∨ k ∈ es.keys := by
  rw [keys_put]
  split
  · next h =>
    refine ⟨.inr, ?_⟩
    rintro (rfl | hk)
    · exact h
    · exact hk
  · rw [List.mem_append, List.mem_singleton, or_comm]

theorem nodup_keys_put {es : Entries} (h : es.keys.Nodup) (key : String) (value : Datum) :
    (es.put key value).keys.Nodup := by
  rw [keys_put]
  split
  · exact h
  · next hk =>
    refine List.nodup_append.2 ⟨h, List.pairwise_singleton _ key, fun k hmem k' hmem' he => hk ?_⟩
    rw [List.mem_singleton.1 hmem'] at he
    exact he ▸ hmem

theorem mem_keys_update {k : String} {es changes : Entries} :
    k ∈ (es.update changes).keys ↔ k ∈ es.keys ∨ k ∈ changes.keys := by
  induction changes generalizing es with
  | nil => exact ⟨.inl, fun h => h.resolve_right List.not_mem_nil⟩
  | cons change changes ih =>
    obtain ⟨key, value⟩ := change
    calc k ∈ ((es.put key value).update changes).keys
        ↔ (k = key ∨ k ∈ es.keys) ∨ k ∈ keys changes := by rw [ih, mem_keys_put]
      _ ↔ k ∈ es.keys ∨ (k = key ∨ k ∈ keys changes) := by rw [or_comm (a := k = key), or_assoc]
      _ ↔ k ∈ es.keys ∨ k ∈ keys ((key, value) :: changes) := by rw [← List.mem_cons]; rfl

theorem nodup_keys_update {es : Entries} (h : es.keys.Nodup) (changes : Entries) :
    (es.update changes).keys.Nodup := by
  induction changes generalizing es with
  | nil => exact h
  | cons change changes ih => exact ih (nodup_keys_put h change.1 change.2)

theorem eraseDups_of_nodup {names : List String} (h : names.Nodup) : names.eraseDups = names := by
  induction names with
  | nil => rfl
  | cons name names ih =>
    obtain ⟨hname, hnames⟩ := List.nodup_cons.1 h
    have hfilter : names.filter (fun k => !k == name) = names :=
      List.filter_eq_self.2 fun k hk => bne_iff_ne.2 fun he => hname (he ▸ hk)
    rw [List.eraseDups_cons, hfilter, ih hnames]

/-- Each name stands where it was written first. -/
theorem keys_update {es : Entries} (h : es.keys.Nodup) (changes : Entries) :
    (es.update changes).keys = (es.keys ++ changes.keys).eraseDups := by
  induction changes generalizing es with
  | nil =>
    show keys es = (keys es ++ []).eraseDups
    rw [List.append_nil, eraseDups_of_nodup h]
  | cons change changes ih =>
    obtain ⟨key, value⟩ := change
    show ((es.put key value).update changes).keys = (es.keys ++ key :: keys changes).eraseDups
    rw [ih (nodup_keys_put h key value), keys_put]
    split
    · next hkey =>
      rw [List.eraseDups_append, List.eraseDups_append, List.cons_removeAll,
        if_neg ((Bool.not_eq_false _).mpr (List.contains_iff_mem.2 hkey))]
    · rw [List.append_assoc, List.singleton_append]

/-! ## What stands under a name -/

theorem lookup_cons (k key : String) (value : Datum) (es : Entries) :
    List.lookup k ((key, value) :: es) = if k = key then some value else es.lookup k := by
  rw [List.lookup_cons]
  by_cases h : k = key
  · rw [if_pos h, beq_iff_eq.2 h]
  · rw [if_neg h, beq_eq_false_iff_ne.2 h]

theorem lookup_eq_none_iff {k : String} {es : Entries} : es.lookup k = none ↔ k ∉ es.keys := by
  induction es with
  | nil => exact ⟨fun _ => List.not_mem_nil, fun _ => rfl⟩
  | cons e es ih =>
    obtain ⟨key, value⟩ := e
    show _ ↔ k ∉ key :: keys es
    rw [lookup_cons, List.mem_cons, not_or, ← ih]
    split
    · next h => exact ⟨nofun, fun hk => absurd h hk.1⟩
    · next h => exact ⟨fun hk => ⟨h, hk⟩, fun hk => hk.2⟩

theorem lookup_put (key k : String) (value : Datum) (es : Entries) :
    (es.put key value).lookup k = if k = key then some value else es.lookup k := by
  induction es with
  | nil => exact lookup_cons k key value []
  | cons e es ih =>
    obtain ⟨key', value'⟩ := e
    unfold put
    by_cases h : key' = key
    · subst h
      rw [if_pos rfl, lookup_cons, lookup_cons]
      split <;> rfl
    · rw [if_neg h, lookup_cons, lookup_cons, ih]
      by_cases hk : k = key'
      · rw [if_pos hk, if_pos hk, if_neg (hk ▸ h)]
      · rw [if_neg hk, if_neg hk]

/-- Of changes with different names each one counts, and all else is as it was. -/
theorem lookup_update {es changes : Entries} (h : changes.keys.Nodup) (k : String) :
    (es.update changes).lookup k = (changes.lookup k).or (es.lookup k) := by
  induction changes generalizing es with
  | nil => rfl
  | cons change changes ih =>
    obtain ⟨key, value⟩ := change
    obtain ⟨hkey, hrest⟩ := List.nodup_cons.1 h
    show ((es.put key value).update changes).lookup k = _
    rw [ih hrest, lookup_put, lookup_cons]
    by_cases hk : k = key
    · rw [if_pos hk, if_pos hk, lookup_eq_none_iff.2 (hk ▸ hkey)]
      rfl
    · rw [if_neg hk, if_neg hk]

/-- Of changes with one name the last one counts. -/
theorem lookup_update_reverse (es changes : Entries) (k : String) :
    (es.update changes).lookup k = (changes.reverse.lookup k).or (es.lookup k) := by
  induction changes generalizing es with
  | nil => rfl
  | cons change changes ih =>
    obtain ⟨key, value⟩ := change
    show ((es.put key value).update changes).lookup k = _
    rw [ih, lookup_put, List.reverse_cons, List.lookup_append, Option.or_assoc, lookup_cons,
      List.lookup_nil]
    split <;> rfl

theorem mem_put {key : String} {value : Datum} {es : Entries} {e : String × Datum}
    (h : e ∈ es.put key value) : e = (key, value) ∨ e ∈ es := by
  induction es with
  | nil => exact .inl (List.mem_singleton.1 h)
  | cons e' es ih =>
    unfold put at h
    split at h
    · exact (List.mem_cons.1 h).imp_right (List.mem_cons_of_mem _)
    · rcases List.mem_cons.1 h with rfl | h
      · exact .inr List.mem_cons_self
      · exact (ih h).imp_right (List.mem_cons_of_mem _)

/-- An entry is one of those that were there or one of the changes. -/
theorem mem_update {es changes : Entries} {e : String × Datum} (h : e ∈ es.update changes) :
    e ∈ es ∨ e ∈ changes := by
  induction changes generalizing es with
  | nil => exact .inl h
  | cons change changes ih =>
    rcases ih h with h | h
    · exact (mem_put h).symm.imp_right fun he => List.mem_cons.2 (.inl he)
    · exact .inr (List.mem_cons_of_mem _ h)

theorem lookup_of_mem {es : Entries} (h : es.keys.Nodup) {k : String} {value : Datum}
    (hmem : (k, value) ∈ es) : es.lookup k = some value := by
  induction es with
  | nil => cases hmem
  | cons e es ih =>
    obtain ⟨key, value'⟩ := e
    obtain ⟨hkey, hes⟩ := List.nodup_cons.1 h
    rw [lookup_cons]
    rcases List.mem_cons.1 hmem with he | hrest
    · cases he
      exact if_pos rfl
    · have hk : k ≠ key := by
        rintro rfl
        exact hkey (List.mem_map.2 ⟨(k, value), hrest, rfl⟩)
      rw [if_neg hk, ih hes hrest]

/-! ## Pairs with different names -/

theorem put_of_not_mem {key : String} {es : Entries} (h : key ∉ es.keys) (value : Datum) :
    es.put key value = es ++ [(key, value)] := by
  induction es with
  | nil => rfl
  | cons e es ih =>
    obtain ⟨k, v⟩ := e
    have hk : k ≠ key := by
      rintro rfl
      exact h List.mem_cons_self
    have hes : key ∉ keys es := fun hm => h (List.mem_cons_of_mem _ hm)
    rw [put, if_neg hk, ih hes]
    rfl

theorem update_of_nodup {es changes : Entries} (h : (es ++ changes).keys.Nodup) :
    es.update changes = es ++ changes := by
  induction changes generalizing es with
  | nil => exact (List.append_nil es).symm
  | cons change changes ih =>
    obtain ⟨k, v⟩ := change
    have hk : k ∉ es.keys := by
      intro hm
      rw [keys, List.map_append] at h
      exact (List.nodup_append.1 h).2.2 k hm k List.mem_cons_self rfl
    have hput : es.put k v = es ++ [(k, v)] := put_of_not_mem hk v
    have hassoc : es ++ (k, v) :: changes = es ++ [(k, v)] ++ changes := by simp
    rw [hassoc] at h ⊢
    show (es.put k v).update changes = _
    rw [hput]
    exact ih h

/-- Pairs of which no two have the same name are a table as they are. -/
theorem ofPairs_of_nodup {es : Entries} (h : es.keys.Nodup) : ofPairs es = es :=
  @update_of_nodup [] es h

/-! ## Changes with different names -/

theorem put_of_mem {key : String} {es : Entries} (hes : es.keys.Nodup) (h : key ∈ es.keys)
    (value : Datum) :
    es.put key value = es.map fun e => (e.1, if e.1 = key then value else e.2) := by
  induction es with
  | nil => cases h
  | cons e es ih =>
    obtain ⟨k, v⟩ := e
    obtain ⟨hk, hrest⟩ := List.nodup_cons.1 hes
    rw [put, List.map_cons]
    by_cases he : k = key
    · rw [if_pos he, if_pos he, he]
      refine congrArg _ ((List.map_id' es).symm.trans (List.map_congr_left fun e hmem => ?_))
      have hne : e.1 ≠ key := fun h => hk (List.mem_map.2 ⟨e, hmem, h.trans he.symm⟩)
      rw [if_neg hne]
    · rw [if_neg he, if_neg he, ih hrest ((List.mem_cons.1 h).resolve_left (Ne.symm he))]

/-- What the changes name is changed where it stands, and what they add stands behind it in their
order. -/
theorem update_eq_of_nodup {es changes : Entries} (hes : es.keys.Nodup)
    (h : changes.keys.Nodup) :
    es.update changes = es.map (fun e => (e.1, (changes.lookup e.1).getD e.2)) ++
      changes.filter fun e => e.1 ∉ es.keys := by
  induction changes generalizing es with
  | nil => exact ((List.append_nil _).trans (List.map_id' es)).symm
  | cons change changes ih =>
    obtain ⟨k, v⟩ := change
    obtain ⟨hk, hrest⟩ := List.nodup_cons.1 h
    show (es.put k v).update changes = _
    rw [ih (nodup_keys_put hes k v) hrest]
    by_cases hmem : k ∈ es.keys
    · rw [keys_put, if_pos hmem, put_of_mem hes hmem, List.map_map,
        List.filter_cons_of_neg (by simpa using hmem)]
      refine congrArg (· ++ _) (List.map_congr_left fun e _ => Prod.ext rfl ?_)
      show (List.lookup e.1 changes).getD (if e.1 = k then v else e.2) = _
      rw [lookup_cons]
      by_cases he : e.1 = k
      · rw [if_pos he, if_pos he, he, lookup_eq_none_iff.2 hk]
        rfl
      · rw [if_neg he, if_neg he]
    · have hold : es.map (fun e => (e.1, (List.lookup e.1 ((k, v) :: changes)).getD e.2)) =
          es.map fun e => (e.1, (changes.lookup e.1).getD e.2) := by
        refine List.map_congr_left fun e he => ?_
        have hne : e.1 ≠ k := fun h => hmem (List.mem_map.2 ⟨e, he, h⟩)
        rw [lookup_cons, if_neg hne]
      have hnew : changes.filter (fun e => e.1 ∉ es.keys ++ [k]) =
          changes.filter fun e => e.1 ∉ es.keys := by
        refine List.filter_congr fun e he => ?_
        have hne : e.1 ≠ k := fun h => hk (List.mem_map.2 ⟨e, he, h⟩)
        simp [hne]
      rw [keys_put, if_neg hmem, put_of_not_mem hmem, List.map_append, hold, hnew,
        List.filter_cons_of_pos (by simpa using hmem), List.append_assoc, List.map_singleton,
        lookup_eq_none_iff.2 hk]
      rfl

end Entries

namespace Datum

/-! ## Paths -/

theorem at?_append (d : Datum) (p q : List String) :
    d.at? (p ++ q) = (d.at? p).bind (·.at? q) := by
  induction p generalizing d with
  | nil => rfl
  | cons name p ih =>
    match d with
    | .dict es =>
      show (es.lookup name).bind (fun d => d.at? (p ++ q)) =
        ((es.lookup name).bind fun d => d.at? p).bind (·.at? q)
      rw [Option.bind_assoc]
      exact congrArg _ (funext fun d => ih d)
    | .null | .bool _ | .int _ | .float _ | .nan | .str _ | .bytes _ | .list _ | .record _ _
    | .object _ _ _ => rfl

theorem at?_under {d e : Datum} {p : List String} (h : d.at? p = some e) (q : List String) :
    d.at? (p ++ q) = e.at? q := by
  rw [at?_append, h]
  rfl

/-- Nothing stands under a name that is not in the table. -/
theorem at?_eq_none {d : Datum} {p names : List String} (h : (d.at? p).bind names? = some names)
    {name : String} (hname : name ∉ names) (q : List String) : d.at? (p ++ name :: q) = none := by
  obtain ⟨table, hat, hnames⟩ := Option.bind_eq_some_iff.1 h
  rw [at?_under hat]
  match table with
  | .dict es =>
    cases hnames
    show (es.lookup name).bind (fun d => d.at? q) = none
    rw [Entries.lookup_eq_none_iff.2 hname]
    rfl

/-- Tables with the same names have the same under a path if what is under each name has. -/
theorem at?_congr {d d' : Datum} {p names : List String}
    (h : (d.at? p).bind names? = some names) (h' : (d'.at? p).bind names? = some names)
    (name : String) (q : List String)
    (hq : name ∈ names →
      (d'.at? (p ++ [name])).bind (·.at? q) = (d.at? (p ++ [name])).bind (·.at? q)) :
    d'.at? (p ++ name :: q) = d.at? (p ++ name :: q) := by
  by_cases hname : name ∈ names
  · rw [List.append_cons, at?_append d' (p ++ [name]), at?_append d (p ++ [name])]
    exact hq hname
  · rw [at?_eq_none h hname, at?_eq_none h' hname]

end Datum

end LineCursor
