import LineCursor.Settings.Exchange

/-!
Settings are valid, whichever way they were made.

Values are settings if and only if the threshold is a text that names a severity and the
correlation is nothing or a text with at least one character, and then they are kept as they were
given (`Draft.check_eq_ok_iff`):

    d.check = .ok s ↔ s.draft = d ∧ s.Valid

All ways to settings end in this check (`Settings.Way`, `Settings.valid_of_make`).  So settings
that are made step after step are valid at any time, a step that fails leaves them as they were, and
it reports an issue with settings (`Settings.course_valid`).
-/

namespace LineCursor

/-! ## Spellings -/

namespace Log.Severity

/-- A text names a severity if its capital form is that name. -/
theorem ofSpelling?_eq_some_iff {s : String} {v : Severity} :
    ofSpelling? s = some v ↔ Text.capitals s.toList = v.name.toList := by
  constructor
  · intro h
    have hname := List.find?_some h
    exact (beq_iff_eq.1 hname).symm
  · intro h
    unfold ofSpelling?
    rw [h]
    cases v <;> decide

end Log.Severity

namespace Settings

/-- The threshold names a severity, whose level counts, and the correlation is not the empty
text. -/
structure Valid (s : Settings) : Prop where
  threshold : ∃ v : Log.Severity,
    Text.capitals s.threshold.toList = v.name.toList ∧ s.level = v.level
  correlation : s.correlation ≠ some ""

theorem level_eq {s : Settings} {v : Log.Severity}
    (h : Log.Severity.ofSpelling? s.threshold = some v) : s.level = v.level := by
  rw [level, h]

theorem isSome_ofSpelling?_iff {s : Settings} :
    (Log.Severity.ofSpelling? s.threshold).isSome = true ↔ ∃ v : Log.Severity,
      Text.capitals s.threshold.toList = v.name.toList ∧ s.level = v.level := by
  rw [Option.isSome_iff_exists]
  constructor
  · rintro ⟨v, hv⟩
    exact ⟨v, Log.Severity.ofSpelling?_eq_some_iff.1 hv, level_eq hv⟩
  · rintro ⟨v, hv, -⟩
    exact ⟨v, Log.Severity.ofSpelling?_eq_some_iff.2 hv⟩

end Settings

/-! ## The check -/

namespace Draft

open Settings

/-- Settings keep the values that they were made of. -/
theorem draft_of_check {d : Draft} {s : Settings} (h : d.check = .ok s) : s.draft = d := by
  obtain ⟨tallying, refillRecords, threshold, correlation⟩ := d
  unfold check at h
  split at h
  · next t ht =>
    dsimp only at ht
    subst ht
    split at h
    · split at h
      · next hc =>
        dsimp only at hc
        subst hc
        cases h
        rfl
      · next id hc =>
        dsimp only at hc
        subst hc
        split at h
        · cases h
        · cases h
          rfl
      · cases h
    · cases h
  · cases h

/-- The values of settings pass the check exactly if these are valid. -/
theorem check_draft_iff (s : Settings) : s.draft.check = .ok s ↔ s.Valid := by
  obtain ⟨tallying, refillRecords, threshold, correlation⟩ := s
  have hspelling := isSome_ofSpelling?_iff (s := ⟨tallying, refillRecords, threshold, correlation⟩)
  by_cases hs : (Log.Severity.ofSpelling? threshold).isSome = true
  · have hthreshold := hspelling.1 hs
    cases correlation with
    | none =>
      have hok : check ⟨tallying, refillRecords, .str threshold, .null⟩ =
          .ok ⟨tallying, refillRecords, threshold, none⟩ := by
        simp only [check, hs, if_true]
      exact ⟨fun _ => ⟨hthreshold, nofun⟩, fun _ => hok⟩
    | some id =>
      have hcheck : check ⟨tallying, refillRecords, .str threshold, .str id⟩ =
          if id.isEmpty then .error .correlation
          else .ok ⟨tallying, refillRecords, threshold, some id⟩ := by
        simp only [check, hs, if_true]
      show check ⟨tallying, refillRecords, .str threshold, .str id⟩ = _ ↔ _
      rw [hcheck]
      by_cases hid : id.isEmpty = true
      · rw [if_pos hid]
        refine ⟨nofun, fun hv => absurd ?_ hv.correlation⟩
        rw [String.isEmpty_iff.1 hid]
      · rw [if_neg hid]
        refine ⟨fun _ => ⟨hthreshold, fun he => hid ?_⟩, fun _ => rfl⟩
        rw [Option.some.inj he]
        rfl
  · have herror : check ⟨tallying, refillRecords, .str threshold, .ofString? correlation⟩ =
        .error (.threshold (.str threshold)) := by
      simp only [check, if_neg hs]
    show check ⟨tallying, refillRecords, .str threshold, .ofString? correlation⟩ = _ ↔ _
    rw [herror]
    exact ⟨nofun, fun hv => absurd (hspelling.2 hv.threshold) hs⟩

/-- A draft becomes settings exactly if it is the draft of valid settings. -/
theorem check_eq_ok_iff {d : Draft} {s : Settings} :
    d.check = .ok s ↔ s.draft = d ∧ s.Valid := by
  constructor
  · intro h
    have hd := draft_of_check h
    rw [← hd] at h
    exact ⟨hd, (check_draft_iff s).1 h⟩
  · rintro ⟨rfl, hv⟩
    exact (check_draft_iff s).2 hv

end Draft

/-! ## Fields by name -/

namespace Draft

theorem set?_eq_none_iff (d : Draft) (name : String) (value : Datum) :
    d.set? name value = none ↔ name ∉ Settings.fieldNames := by
  unfold set?
  split
  case h_5 hmetrics hrefills hlevel hid =>
    simp only [Settings.fieldNames, List.mem_cons, List.not_mem_nil, or_false, not_or]
    exact ⟨fun _ => ⟨hmetrics, hrefills, hlevel, hid⟩, fun _ => trivial⟩
  all_goals simp [Settings.fieldNames]

/-- The name that is reported is one of those given, and no field has it. -/
theorem not_mem_of_setAll_error {d : Draft} {entries : Entries} {name : String}
    (h : d.setAll entries = .error name) : name ∈ entries.keys ∧ name ∉ Settings.fieldNames := by
  induction entries generalizing d with
  | nil => cases h
  | cons entry entries ih =>
    obtain ⟨k, v⟩ := entry
    unfold setAll at h
    split at h
    · obtain ⟨hmem, hno⟩ := ih h
      exact ⟨List.mem_cons_of_mem _ hmem, hno⟩
    · next hset =>
      cases h
      exact ⟨List.mem_cons_self, (d.set?_eq_none_iff _ v).1 hset⟩

end Draft

namespace Settings

/-! ## Ways to settings -/

/-- A way to settings, from those that exist or from the first values of all fields. -/
inductive Way where
  | arguments (arguments : Entries)
  | plain
  | quiet
  | tracing (correlation : Datum)
  | table (entries : Entries)
  | json (text : String)
  | override (arguments : Entries)

namespace Way

/-- The settings to which a way leads. -/
def make (s : Settings) : Way → Except Fault Settings
  | arguments given => ofArguments given
  | plain => .ok {}
  | quiet => .ok .quiet
  | tracing correlation => (Settings.tracing correlation).mapError .settings
  | table entries => (ofEntries entries).mapError .settings
  | json text => ofJson text
  | override given => s.overrideWith given

/-- The values that are there before the given ones are set. -/
def base (s : Settings) : Way → Draft
  | override _ => s.draft
  | _ => {}

/-- The values that a way gives by name. -/
def given : Way → Entries
  | arguments given | table given | override given => given
  | plain => []
  | quiet => [("enable_metrics", .bool false), ("diagnostic_level", .str "WARNING")]
  | tracing correlation =>
    [("enable_metrics", .bool true), ("log_refills", .bool true),
      ("diagnostic_level", .str "DEBUG"), ("correlation_id", correlation)]
  | json text =>
    match Json.read text with
    | .ok (.dict entries) => entries
    | _ => []

/-- Whether a way is one that its callers may take: arguments are named after fields, settings are
not changed under the name that they have themselves, and a JSON text keeps to the limits of the
reader. -/
def Open : Way → Prop
  | arguments given => ∀ name ∈ given.keys, name ∈ fieldNames
  | override given => "self" ∉ given.keys
  | json text => ∀ e place, Json.read text ≠ .error ⟨.excess e, place⟩
  | _ => True

end Way

section

variable {s t : Settings} {e : Fault}

theorem setAll_of_override {changes : Entries} (h : s.override changes = .ok t) :
    s.draft.setAll changes = .ok t.draft ∧ t.Valid := by
  unfold override at h
  split at h
  · next d hd =>
    obtain ⟨rfl, hv⟩ := Draft.check_eq_ok_iff.1 h
    exact ⟨hd, hv⟩
  · cases h

theorem override_of_ofEntries {entries : Entries} (h : ofEntries entries = .ok t) :
    override {} entries = .ok t := by
  unfold ofEntries at h
  dsimp only at h
  split at h
  · cases h
  · exact h

theorem eq_ok_of_mapError {r : Except Issue Settings} (h : r.mapError Fault.settings = .ok t) :
    r = .ok t := by
  cases r with
  | error issue => cases h
  | ok t' =>
    cases h
    rfl

theorem exists_issue_of_mapError {r : Except Issue Settings}
    (h : r.mapError Fault.settings = .error e) : ∃ issue, e = .settings issue := by
  cases r with
  | error issue =>
    cases h
    exact ⟨issue, rfl⟩
  | ok t => cases h

/-- Whichever way was taken, the settings to which it led passed the check: they hold the given
values, none of them changed, and are valid. -/
theorem setAll_of_make {way : Way} (h : way.make s = .ok t) :
    (way.base s).setAll way.given = .ok t.draft ∧ t.Valid := by
  cases way with
  | arguments given =>
    change ofArguments given = .ok t at h
    unfold ofArguments at h
    split at h
    · next d hd =>
      obtain ⟨rfl, hv⟩ := Draft.check_eq_ok_iff.1 (eq_ok_of_mapError h)
      exact ⟨hd, hv⟩
    · cases h
  | plain =>
    cases h
    exact ⟨rfl, (Draft.check_draft_iff {}).1 rfl⟩
  | quiet =>
    cases h
    exact ⟨rfl, (Draft.check_draft_iff .quiet).1 rfl⟩
  | tracing correlation =>
    obtain ⟨hd, hv⟩ := Draft.check_eq_ok_iff.1 (eq_ok_of_mapError h)
    rw [hd]
    exact ⟨rfl, hv⟩
  | table entries =>
    exact setAll_of_override (override_of_ofEntries (eq_ok_of_mapError h))
  | json text =>
    change ofJson text = .ok t at h
    unfold ofJson at h
    split at h
    · cases h
    · cases h
    · next entries hr =>
      have hgiven : (Way.json text).given = entries := by rw [Way.given, hr]
      rw [hgiven]
      exact setAll_of_override (override_of_ofEntries (eq_ok_of_mapError h))
    · cases h
  | override given =>
    change s.overrideWith given = .ok t at h
    unfold overrideWith at h
    split at h
    · cases h
    · exact setAll_of_override (eq_ok_of_mapError h)

/-- A way that may be taken fails by an issue with settings only. -/
theorem exists_issue_of_make {way : Way} (ho : way.Open) (h : way.make s = .error e) :
    ∃ issue, e = .settings issue := by
  cases way with
  | arguments given =>
    change ofArguments given = .error e at h
    unfold ofArguments at h
    split at h
    · exact exists_issue_of_mapError h
    · next name hd =>
      obtain ⟨hmem, hno⟩ := Draft.not_mem_of_setAll_error hd
      exact absurd (ho name hmem) hno
  | plain => cases h
  | quiet => cases h
  | tracing correlation => exact exists_issue_of_mapError h
  | table entries => exact exists_issue_of_mapError h
  | json text =>
    change ofJson text = .error e at h
    unfold ofJson at h
    split at h
    · next e place hr => exact absurd hr (ho e place)
    · cases h
      exact ⟨_, rfl⟩
    · exact exists_issue_of_mapError h
    · cases h
      exact ⟨_, rfl⟩
  | override given =>
    change s.overrideWith given = .error e at h
    unfold overrideWith at h
    split at h
    · next hself => exact absurd (List.contains_iff_mem.1 hself) ho
    · exact exists_issue_of_mapError h

end

/-! ## One step after the other -/

/-- The settings after a step: those to which the way leads, or the ones before if it fails. -/
def next (s : Settings) (way : Way) : Settings :=
  match way.make s with
  | .ok t => t
  | .error _ => s

def course (s : Settings) (ways : List Way) : Settings :=
  ways.foldl next s

theorem Valid.next {s : Settings} (h : s.Valid) (way : Way) : (s.next way).Valid := by
  unfold Settings.next
  split
  · next t ht => exact (setAll_of_make ht).2
  · exact h

theorem Valid.course {s : Settings} (h : s.Valid) (ways : List Way) : (s.course ways).Valid := by
  induction ways generalizing s with
  | nil => exact h
  | cons way ways ih => exact ih (h.next way)

theorem course_concat (s : Settings) (ways : List Way) (way : Way) :
    s.course (ways ++ [way]) = (s.course ways).next way := by
  rw [course, List.foldl_append]
  rfl

/-- From the first settings on, whatever is done: the settings are valid.  The next step leads to
settings with the values that it gives, or it fails and leaves the settings as they are; if it is
one that may be taken it fails by an issue with settings. -/
theorem course_valid (ways : List Way) (way : Way) :
    (course {} ways).Valid ∧
      ((∃ t, way.make (course {} ways) = .ok t ∧ course {} (ways ++ [way]) = t ∧ t.Valid ∧
          (way.base (course {} ways)).setAll way.given = .ok t.draft) ∨
        ∃ e, way.make (course {} ways) = .error e ∧
          course {} (ways ++ [way]) = course {} ways ∧
          (way.Open → ∃ issue, e = .settings issue)) := by
  have hfirst : ({} : Settings).Valid := (Draft.check_draft_iff {}).1 rfl
  refine ⟨hfirst.course ways, ?_⟩
  rw [course_concat]
  unfold Settings.next
  cases h : way.make (course {} ways) with
  | ok t =>
    obtain ⟨hset, hv⟩ := setAll_of_make h
    exact .inl ⟨t, rfl, rfl, hv, hset⟩
  | error e => exact .inr ⟨e, rfl, rfl, fun ho => exists_issue_of_make ho h⟩

/-- A small letter without its dot is one of the letters of a level; the empty correlation is
refused then, and the settings are as before. -/
theorem course_valid_dotless :
    (Way.override [("correlation_id", .str "")]).Open ∧
      (course {} [.arguments [("diagnostic_level", .str "ınfo")]]).Valid ∧
      (course {} [.arguments [("diagnostic_level", .str "ınfo")]]).level = 20 ∧
      ∃ issue, (Way.override [("correlation_id", .str "")]).make
          (course {} [.arguments [("diagnostic_level", .str "ınfo")]]) =
            .error (.settings issue) ∧
        course {} [.arguments [("diagnostic_level", .str "ınfo")],
            .override [("correlation_id", .str "")]] =
          course {} [.arguments [("diagnostic_level", .str "ınfo")]] := by
  have hopen : (Way.override [("correlation_id", .str "")]).Open :=
    show "self" ∉ ["correlation_id"] by decide
  obtain ⟨hv, ⟨t, ht, -⟩ | ⟨e, he, hsame, hissue⟩⟩ :=
    course_valid [.arguments [("diagnostic_level", .str "ınfo")]]
      (.override [("correlation_id", .str "")])
  · cases ht
  · obtain ⟨issue, rfl⟩ := hissue hopen
    exact ⟨hopen, hv, by decide, issue, he, hsame⟩

end Settings

end LineCursor
