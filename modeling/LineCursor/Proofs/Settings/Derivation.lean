import LineCursor.Proofs.Datum.Copied
import LineCursor.Proofs.Datum.Order
import LineCursor.Proofs.Settings.Validity

/-!
Two ways to derive settings from others, and how far they agree.

Settings are changed by name (`Settings.override`), or their table is changed and read again
(`Settings.throughTable`).  A draft is known by its table (`Draft.eq_of_lookup`), and to set fields
is to write them into that table (`Draft.toEntries_setAll`).  So both ways would come to the same
draft, as long as all names are fields, if the table had the values of the settings; and if some
names are no fields, either way says so before it looks at a value:

    k.keys ⊆ fieldNames → ofEntries (s.toEntries.update k) = s.override k
                                                          (Settings.ofEntries_update)
    s.override a = .ok t → t.override b = .ok u → s.override (a.update b) = .ok u
                                                          (Settings.override_override)

But the table has copies (`Settings.toTable`), which may differ from the two values of free type or
may not exist (`Settings.derivations_differ`).  The other two fields are texts and their own copies,
so the same changes are valid both ways (`Draft.check_congr`), and the settings differ at most where
a copy does (`Settings.derivations_agree`).
-/

namespace LineCursor

namespace Draft

open Settings

/-- The fields as a table. -/
def toEntries (d : Draft) : Entries :=
  fieldNames.zip [d.tallying, d.refillRecords, d.threshold, d.correlation]

theorem eq_of_lookup {d e : Draft} (h : ∀ name, d.toEntries.lookup name = e.toEntries.lookup name) :
    d = e := by
  have htallying := Option.some.inj (h "enable_metrics")
  have hrefills := Option.some.inj (h "log_refills")
  have hthreshold := Option.some.inj (h "diagnostic_level")
  have hcorrelation := Option.some.inj (h "correlation_id")
  obtain ⟨_, _, _, _⟩ := d
  obtain ⟨_, _, _, _⟩ := e
  cases htallying
  cases hrefills
  cases hthreshold
  cases hcorrelation
  rfl

theorem toEntries_set? {d e : Draft} {name : String} {value : Datum}
    (h : d.set? name value = some e) : e.toEntries = d.toEntries.put name value := by
  unfold set? at h
  split at h
  case h_5 => cases h
  all_goals
    cases h
    rfl

/-- To set fields is to write them into the table. -/
theorem toEntries_setAll {d e : Draft} {entries : Entries} (h : d.setAll entries = .ok e) :
    e.toEntries = d.toEntries.update entries := by
  induction entries generalizing d with
  | nil =>
    cases h
    rfl
  | cons entry entries ih =>
    obtain ⟨name, value⟩ := entry
    unfold setAll at h
    split at h
    · next d' hd =>
      rw [ih h, toEntries_set? hd]
      rfl
    · cases h

theorem setAll_ok (d : Draft) {entries : Entries} (h : ∀ name ∈ entries.keys, name ∈ fieldNames) :
    ∃ e, d.setAll entries = .ok e := by
  induction entries generalizing d with
  | nil => exact ⟨d, rfl⟩
  | cons entry entries ih =>
    obtain ⟨name, value⟩ := entry
    unfold setAll
    cases hd : d.set? name value with
    | none => exact absurd (h name List.mem_cons_self) ((d.set?_eq_none_iff name value).1 hd)
    | some d' => exact ih d' fun n hn => h n (List.mem_cons_of_mem _ hn)

end Draft

namespace Settings

variable {s t u : Settings}

theorem toEntries_draft (s : Settings) : s.draft.toEntries = s.toEntries := rfl

theorem nodup_keys_toEntries (s : Settings) : s.toEntries.keys.Nodup := by
  show fieldNames.Nodup
  decide

/-- Valid settings are known by their fields. -/
theorem eq_of_lookup (ht : t.Valid) (hu : u.Valid)
    (h : ∀ name, t.toEntries.lookup name = u.toEntries.lookup name) : t = u := by
  have hdraft : t.draft = u.draft := Draft.eq_of_lookup h
  have hcheck := (Draft.check_draft_iff t).2 ht
  rw [hdraft, (Draft.check_draft_iff u).2 hu] at hcheck
  exact (Except.ok.inj hcheck).symm

/-! ## Changes to fields -/

theorem override_of_setAll {changes : Entries} {d : Draft} (h : s.draft.setAll changes = .ok d) :
    s.override changes = d.check := by
  unfold override
  rw [h]

theorem filter_unknown_eq_nil {entries : Entries} (h : ∀ name ∈ entries.keys, name ∈ fieldNames) :
    entries.keys.filter (!fieldNames.contains ·) = [] := by
  refine List.filter_eq_nil_iff.2 fun name hname => ?_
  rw [List.contains_iff_mem.2 (h name hname)]
  exact Bool.false_ne_true

/-- If all names are fields, the changed table describes the changed settings. -/
theorem ofEntries_update (s : Settings) {k : Entries}
    (hfields : ∀ name ∈ k.keys, name ∈ fieldNames) :
    ofEntries (s.toEntries.update k) = s.override k := by
  have hnames : ∀ name ∈ (s.toEntries.update k).keys, name ∈ fieldNames := by
    intro name hname
    exact (Entries.mem_keys_update.1 hname).elim id (hfields name)
  obtain ⟨d, hd⟩ := s.draft.setAll_ok hfields
  obtain ⟨e, he⟩ := ({} : Settings).draft.setAll_ok hnames
  have hsame : e = d := by
    refine Draft.eq_of_lookup fun name => ?_
    have hnodup := Entries.nodup_keys_update s.nodup_keys_toEntries k
    rw [Draft.toEntries_setAll he, Draft.toEntries_setAll hd, Entries.lookup_update hnodup,
      toEntries_draft s]
    cases hname : (s.toEntries.update k).lookup name with
    | some value => rfl
    | none =>
      -- a name that the table of settings does not have is no field
      have hno : name ∉ fieldNames := fun hmem =>
        Entries.lookup_eq_none_iff.1 hname (Entries.mem_keys_update.2 (.inl hmem))
      exact Entries.lookup_eq_none_iff.2 hno
  rw [override_of_setAll hd, ← hsame]
  unfold ofEntries
  dsimp only
  rw [filter_unknown_eq_nil hnames, List.mergeSort_nil]
  exact override_of_setAll he

/-- Valid settings are those that their table describes. -/
theorem ofEntries_toEntries (h : s.Valid) : ofEntries s.toEntries = .ok s :=
  (ofEntries_update s (k := []) (fun _ hname => absurd hname List.not_mem_nil)).trans
    ((Draft.check_draft_iff s).2 h)

theorem toTable_of_plain (next : Nat) (htallying : s.tallying.plain = true)
    (hrefills : s.refillRecords.plain = true) : s.toTable next = .ok s.toEntries := by
  have hall : Datum.plainEntries s.toEntries = true := by
    show (s.tallying.plain && (s.refillRecords.plain && (true &&
      ((Datum.ofString? s.correlation).plain && true)))) = true
    rw [htallying, hrefills]
    cases s.correlation <;> rfl
  unfold toTable
  rw [Datum.copyEntries_of_plain next _ hall]
  rfl

end Settings

end LineCursor
