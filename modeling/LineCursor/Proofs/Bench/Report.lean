import Mathlib.Algebra.BigOperators.Group.List.Lemmas
import Mathlib.Data.List.Perm.Basic
import LineCursor.Bench.Suite
import LineCursor.Proofs.Bench.Statistics
import LineCursor.Proofs.Datum
import LineCursor.Proofs.Datum.Order
import LineCursor.Proofs.Tally

/-!
A report accounts for every measurement of its suite.

Summaries and details each go through all measurements anew, so it has to be shown that nothing is
lost on the way and nothing counted twice.  For a suite whose names are texts and whose rates and
statistics can be computed (`Suite.Regular`) there is a report, and its table accounts for the suite
(`Suite.Accounts`):

* each measurement is a run of exactly one summary, so the runs add up to all measurements
  (`Suite.sum_runs`);
* each pair of test case and reader that was measured has exactly one detail, which is the last
  measurement of the pair (`Suite.details_ok`).

The names, runs and rates of a report do not depend on the order of the measurements, and neither do
the details if no pair was measured twice (`Suite.Accounts.standing_of_perm`,
`Suite.Accounts.detail_of_perm`).
-/

namespace LineCursor.Bench

open Datum

/-! ## Tables by name -/

section

variable {α : Type}

/-- Rows under texts. -/
def named (rows : List (String × α)) : List (Datum × α) :=
  rows.map fun (name, row) => (.str name, row)

theorem namedTable_named (f : α → Datum) (rows : List (String × α)) :
    namedTable f (named rows) = .dict (rows.map fun (name, row) => (name, f row)) := by
  unfold namedTable named
  rw [List.map_map]
  rfl

theorem names?_namedTable (f : α → Datum) (rows : List (String × α)) :
    (namedTable f (named rows)).names? = some (rows.map (·.1)) := by
  rw [namedTable_named]
  exact congrArg some List.map_map

theorem at?_namedTable (f : α → Datum) {rows : List (String × α)} (h : (rows.map (·.1)).Nodup)
    {name : String} {row : α} (hrow : (name, row) ∈ rows) (path : List String) :
    (namedTable f (named rows)).at? (name :: path) = (f row).at? path := by
  have hkeys : (Entries.keys (rows.map fun (name, row) => (name, f row))).Nodup := by
    rw [Entries.keys, List.map_map]
    exact h
  rw [namedTable_named, Datum.at?, Entries.lookup_of_mem hkeys (List.mem_map.2 ⟨_, hrow, rfl⟩)]
  rfl

/-- Rows for names exist if each name has its row. -/
theorem exists_rows {f : Datum → Except Fault α} {p : String → α → Prop} {names : List String}
    (h : ∀ name ∈ names, ∃ row, f (.str name) = .ok row ∧ p name row) :
    ∃ rows : List (String × α),
      ((names.map Datum.str).mapM fun name => return (name, ← f name)) = Except.ok (named rows) ∧
      rows.map (·.1) = names ∧ ∀ name row, (name, row) ∈ rows → p name row := by
  obtain ⟨rows, hrows, hnames, hall⟩ : ∃ rows : List (String × α),
      (names.mapM fun name => return (name, ← f (.str name))) = Except.ok rows ∧
      rows.map (·.1) = names ∧ ∀ row ∈ rows, p row.1 row.2 := by
    refine exists_mapM_eq_ok fun name hname => ?_
    obtain ⟨row, hf, hp⟩ := h name hname
    refine ⟨(name, row), ?_, rfl, hp⟩
    rw [hf]
    rfl
  refine ⟨rows, mapM_eq_ok_iff.2 ?_, hnames, fun name row hrow => hall _ hrow⟩
  rw [named, List.forall₂_map_left_iff, List.forall₂_map_right_iff]
  refine (mapM_eq_ok_iff.1 hrows).imp fun name (name', row) hrow => ?_
  cases hf : f (.str name) with
  | error e =>
    rw [hf] at hrow
    cases hrow
  | ok row' =>
    rw [hf] at hrow
    cases hrow
    rfl

end

/-! ## What a report has to say -/

/-- The test case and the reader of a measurement. -/
def Measurement.pair (m : Measurement) : Option String × Option String :=
  (m.case.text?, m.reader.text?)

namespace Suite

/-- The names of a suite are texts, and its rates and statistics can be computed. -/
structure Regular (s : Suite) : Prop where
  readers : ∀ m ∈ s.results, ∃ reader, m.reader = .str reader
  cases : ∀ m ∈ s.results, ∃ case, m.case = .str case
  rates : ∀ m ∈ s.results, ∃ x, m.charactersPerSecond = .ok x
  performance : ∀ m ∈ s.results, ∃ x, s.statistics m.reader .charactersPerSecond = .ok x
  memory : ∀ m ∈ s.results, ∃ x, s.statistics m.reader .megabytes = .ok x

/-- The number of measurements of a reader. -/
def runsOf (s : Suite) (reader : String) : Nat :=
  s.results.countP (·.reader.text? = some reader)

/-- The number of successes of a reader. -/
def successesOf (s : Suite) (reader : String) : Nat :=
  s.results.countP fun m => m.reader.text? = some reader && m.succeeded

/-- The measurements of a pair. -/
def ofPair (s : Suite) (case reader : String) : List Measurement :=
  s.results.filter (·.pair = (some case, some reader))

/-- What the table on a reader has to say. -/
structure Summarizes (s : Suite) (reader : String) (table : Datum) : Prop where
  runs : table.at? ["total_runs"] = some (.int (s.runsOf reader))
  successes : table.at? ["successful_runs"] = some (.int (s.successesOf reader))
  successRate : ∃ x, Number.ofQuotient (s.successesOf reader) (s.runsOf reader) = .ok x ∧
    table.at? ["success_rate"] = some (.float x)
  statistics : ∀ name ∈ ["performance", "memory"], ∃ statistics,
    table.at? [name] = some statistics ∧ Statistics.Covers (s.successesOf reader) statistics

/-- What the table on a test case has to say.  It has the names of the readers that were measured,
and of each one the last measurement. -/
structure Details (s : Suite) (case : String) (table : Datum) : Prop where
  readers : ∃ names, table.names? = some names ∧ names.Nodup ∧
    ∀ reader, reader ∈ names ↔ ∃ m ∈ s.results, m.pair = (some case, some reader)
  last : ∀ reader m, (s.ofPair case reader).getLast? = some m →
    ∃ rate, m.charactersPerSecond = .ok rate ∧ table.at? [reader] = some (.dict
      [("processing_time_ms", m.milliseconds), ("memory_used_mb", m.megabytes),
       ("characters_per_second", .float rate), ("lines_processed", m.lines),
       ("success", m.success), ("error", m.error)])

/-- What the table of a report has to say, with these readers and test cases. -/
structure Accounts (s : Suite) (readerNames caseNames : List String) (report : Datum) : Prop where
  name : report.at? ["suite_name"] = some s.name
  timestamp : report.at? ["timestamp"] = some s.timestamp
  total : report.at? ["total_results"] = some (.int s.results.length)
  readers : report.at? ["readers"] = some (.list (readerNames.map .str))
  cases : report.at? ["test_cases"] = some (.list (caseNames.map .str))
  readers_listed : Lists readerNames (s.results.map (·.reader))
  cases_listed : Lists caseNames (s.results.map (·.case))
  summarized : (report.at? ["summary"]).bind names? = some readerNames
  summaries : ∀ reader ∈ readerNames, ∃ table, report.at? ["summary", reader] = some table ∧
    s.Summarizes reader table
  runs : (readerNames.map s.runsOf).sum = s.results.length
  detailed : (report.at? ["detailed_results"]).bind names? = some caseNames
  details : ∀ case ∈ caseNames, ∃ table, report.at? ["detailed_results", case] = some table ∧
    s.Details case table

variable {s t : Suite}

/-- It can be checked whether a suite is regular. -/
instance (s : Suite) : Decidable s.Regular :=
  decidable_of_iff
    (s.results.all fun m =>
      m.reader.text?.isSome && m.case.text?.isSome && m.charactersPerSecond.isOk &&
        (s.statistics m.reader .charactersPerSecond).isOk &&
        (s.statistics m.reader .megabytes).isOk) (by
    simp only [List.all_eq_true, Bool.and_eq_true, Option.isSome_iff_exists, text?_eq_some_iff,
      isOk_iff]
    refine ⟨fun h => ?_, fun h m hm => ?_⟩
    · exact ⟨fun m hm => (h m hm).1.1.1.1, fun m hm => (h m hm).1.1.1.2,
        fun m hm => (h m hm).1.1.2, fun m hm => (h m hm).1.2, fun m hm => (h m hm).2⟩
    · exact ⟨⟨⟨⟨h.readers m hm, h.cases m hm⟩, h.rates m hm⟩, h.performance m hm⟩, h.memory m hm⟩)

theorem ofReader_str (s : Suite) (reader : String) :
    s.ofReader (.str reader) = s.results.filter (·.reader.text? = some reader) := by
  unfold ofReader
  congr 1
  funext m
  exact equal_str _ _

theorem ofCase_str (s : Suite) (case : String) :
    s.ofCase (.str case) = s.results.filter (·.case.text? = some case) := by
  unfold ofCase
  congr 1
  funext m
  exact equal_str _ _

theorem length_runs (s : Suite) (reader : String) :
    (s.ofReader (.str reader)).length = s.runsOf reader := by
  rw [ofReader_str, runsOf, List.countP_eq_length_filter]

theorem length_successes (s : Suite) (reader : String) :
    ((s.ofReader (.str reader)).filter (·.succeeded)).length = s.successesOf reader := by
  rw [ofReader_str, List.filter_filter, successesOf, List.countP_eq_length_filter]
  congr 2
  funext m
  exact Bool.and_comm _ _

/-! ## Statistics -/

theorem statistics_eq_ok_iff {reader : Datum} {metric : Metric} {x : Option Statistics} :
    s.statistics reader metric = .ok x ↔
      ∃ xs, List.Forall₂ (fun m y => metric.number m = .ok y)
        ((s.ofReader reader).filter (·.succeeded)) xs ∧ Statistics.of? xs = .ok x := by
  unfold statistics
  constructor
  · intro h
    cases hxs : ((s.ofReader reader).filter (·.succeeded)).mapM metric.number with
    | error e =>
      rw [hxs] at h
      cases h
    | ok xs =>
      rw [hxs] at h
      exact ⟨xs, mapM_eq_ok_iff.1 hxs, h⟩
  · rintro ⟨xs, hxs, h⟩
    rw [mapM_eq_ok_iff.2 hxs]
    exact h

theorem covers_of_statistics {reader : Datum} {metric : Metric} {x : Option Statistics}
    (h : s.statistics reader metric = .ok x) :
    Statistics.Covers ((s.ofReader reader).filter (·.succeeded)).length (Statistics.toDatum x) := by
  obtain ⟨xs, hxs, hx⟩ := statistics_eq_ok_iff.1 h
  rw [hxs.length_eq]
  exact Statistics.covers_of_of? hx

theorem statistics_ok_of_perm (hp : t.results.Perm s.results) {reader : Datum} {metric : Metric}
    (h : ∃ x, s.statistics reader metric = .ok x) : ∃ x, t.statistics reader metric = .ok x := by
  obtain ⟨x, hx⟩ := h
  obtain ⟨xs, hxs, hof⟩ := statistics_eq_ok_iff.1 hx
  have hsuccesses : ((t.ofReader reader).filter (·.succeeded)).Perm
      ((s.ofReader reader).filter (·.succeeded)) := (hp.filter _).filter _
  obtain ⟨ys, hys, hperm⟩ := List.perm_comp_forall₂ hsuccesses hxs
  obtain ⟨y, hy⟩ := Statistics.of?_ok_of_perm hperm.symm ⟨x, hof⟩
  exact ⟨y, statistics_eq_ok_iff.2 ⟨ys, hys, hy⟩⟩

theorem Regular.of_perm (h : s.Regular) (hp : t.results.Perm s.results) : t.Regular where
  readers m hm := h.readers m (hp.mem_iff.1 hm)
  cases m hm := h.cases m (hp.mem_iff.1 hm)
  rates m hm := h.rates m (hp.mem_iff.1 hm)
  performance m hm := statistics_ok_of_perm hp (h.performance m (hp.mem_iff.1 hm))
  memory m hm := statistics_ok_of_perm hp (h.memory m (hp.mem_iff.1 hm))

/-! ## Summaries -/

/-- A part of a number of things, if there are any, is a binary64 number. -/
theorem ofQuotient_part_ok {part whole : Nat} (h : part ≤ whole) (hpos : 0 < whole) :
    ∃ x, Number.ofQuotient part whole = .ok x := by
  refine Number.ofQuotient_ok _ _ (Int.natCast_ne_zero.2 hpos.ne') ?_
  calc part ≤ whole := h
    _ < 2 ^ 1019 * whole := lt_mul_of_one_lt_left hpos (one_lt_pow₀ one_lt_two (by decide))

/-- A reader that was measured has a summary: it was measured once at least, so there is no division
by zero. -/
theorem summary_ok (h : s.Regular) {reader : String}
    (hr : .str reader ∈ s.results.map (·.reader)) :
    ∃ x, s.summary (.str reader) = .ok x ∧ s.Summarizes reader x.toDatum := by
  obtain ⟨m, hm, hreader⟩ := List.mem_map.1 hr
  obtain ⟨p, hp⟩ := h.performance m hm
  obtain ⟨q, hq⟩ := h.memory m hm
  rw [hreader] at hp hq
  have hpos : 0 < s.runsOf reader := by
    refine List.countP_pos_iff.2 ⟨m, hm, ?_⟩
    rw [hreader]
    exact decide_eq_true rfl
  have hle : s.successesOf reader ≤ s.runsOf reader := by
    rw [← length_successes, ← length_runs]
    exact List.length_filter_le _ _
  obtain ⟨rate, hrate⟩ := ofQuotient_part_ok hle hpos
  have hperformance := covers_of_statistics hp
  have hmemory := covers_of_statistics hq
  rw [length_successes] at hperformance hmemory
  unfold summary
  simp only [hp, hq, length_successes, length_runs, hrate, bind, Except.bind, pure, Except.pure]
  refine ⟨_, rfl, rfl, rfl, ⟨rate, hrate, rfl⟩, fun name hname => ?_⟩
  obtain rfl | rfl := List.mem_pair.1 hname
  · exact ⟨_, rfl, hperformance⟩
  · exact ⟨_, rfl, hmemory⟩

/-- Each measurement is a run of exactly one summary. -/
theorem sum_runs (h : s.Regular) {names : List String}
    (hl : Lists names (s.results.map (·.reader))) :
    (names.map s.runsOf).sum = s.results.length := by
  -- the readers of all measurements: a summary counts how often its own is among them
  let readers := s.results.map (·.reader.text?)
  have hruns : names.map s.runsOf = (names.map some).map fun name => readers.countP (· = name) := by
    rw [List.map_map]
    refine List.map_congr_left fun name _ => ?_
    show _ = (s.results.map (·.reader.text?)).countP (· = some name)
    rw [List.countP_map]
    rfl
  have hperm : (names.map some).Perm readers.dedup := by
    rw [List.perm_ext_iff_of_nodup (hl.nodup.map fun _ _ => Option.some.inj) readers.nodup_dedup]
    intro name?
    rw [List.mem_dedup, List.mem_map, List.mem_map]
    constructor
    · rintro ⟨name, hname, rfl⟩
      obtain ⟨m, hm, hreader⟩ := List.mem_map.1 ((hl.mem_iff name).1 hname)
      exact ⟨m, hm, text?_eq_some_iff.2 hreader⟩
    · rintro ⟨m, hm, rfl⟩
      obtain ⟨name, hreader⟩ := h.readers m hm
      exact ⟨name, (hl.mem_iff name).2 (List.mem_map.2 ⟨m, hm, hreader⟩),
        (text?_eq_some_iff.2 hreader).symm⟩
  calc (names.map s.runsOf).sum
      = ((names.map some).map fun name => readers.countP (· = name)).sum := by rw [hruns]
    _ = (readers.dedup.map fun name => readers.countP (· = name)).sum := (hperm.map _).sum_eq
    _ = readers.length := List.sum_map_count_dedup_eq_length readers
    _ = s.results.length := List.length_map _

/-! ## Details -/

theorem map_fst_filterMap {α β : Type} {f : α → Option β} {as : List α}
    (h : ∀ a ∈ as, (f a).isSome) : (as.filterMap fun a => (f a).map (a, ·)).map (·.1) = as := by
  induction as with
  | nil => rfl
  | cons a as ih =>
    obtain ⟨b, hb⟩ := Option.isSome_iff_exists.1 (h a List.mem_cons_self)
    rw [List.filterMap_cons, hb]
    exact congrArg (a :: ·) (ih fun a ha => h a (List.mem_cons_of_mem _ ha))

theorem mem_filterMap_pair {α β : Type} {f : α → Option β} {as : List α} {a : α} {b : β} :
    (a, b) ∈ as.filterMap (fun a => (f a).map (a, ·)) ↔ a ∈ as ∧ f a = some b := by
  simp only [List.mem_filterMap, Option.map_eq_some_iff, Prod.mk.injEq]
  constructor
  · rintro ⟨a, ha, b, hb, rfl, rfl⟩
    exact ⟨ha, hb⟩
  · rintro ⟨ha, hb⟩
    exact ⟨a, ha, b, hb, rfl, rfl⟩

theorem ofPair_eq (s : Suite) (case reader : String) :
    s.ofPair case reader = (s.ofCase (.str case)).filter (·.reader.text? = some reader) := by
  rw [ofPair, ofCase_str, List.filter_filter]
  congr 1
  funext m
  simp only [Measurement.pair, Prod.mk.injEq, Bool.decide_and, Bool.and_comm]

theorem mem_ofPair {case reader : String} {m : Measurement} :
    m ∈ s.ofPair case reader ↔ m ∈ s.results ∧ m.pair = (some case, some reader) := by
  rw [ofPair, List.mem_filter, decide_eq_true_iff]

/-- What is found from behind among some details is the last one. -/
theorem find?_reverse_details (ds : List Detail) (reader : String) :
    ds.reverse.find? (·.result.reader.same (.str reader)) =
      (ds.filter (·.result.reader.text? = some reader)).getLast? := by
  rw [List.getLast?_filter]
  congr 1
  funext d
  exact same_str _ _

/-- Each reader has one of the details, the last one of its own. -/
theorem lastOfEach_named {ds : List Detail}
    (h : ∀ d ∈ ds, ∃ reader, d.result.reader = .str reader) :
    ∃ rows, lastOfEach ds = named rows ∧ (rows.map (·.1)).Nodup ∧
      ∀ reader d, (reader, d) ∈ rows ↔
        (ds.filter (·.result.reader.text? = some reader)).getLast? = some d := by
  obtain ⟨names, hnames⟩ := exists_map_str (List.forall_mem_map.2 h)
  obtain ⟨distinct, heq, hnodup, hmem⟩ := eraseDupsBy_same names
  generalize hfind : (fun reader =>
    (ds.filter (·.result.reader.text? = some reader)).getLast?) = find
  have hdistinct (reader : String) : reader ∈ distinct ↔ (find reader).isSome := by
    rw [← hfind, List.getLast?_isSome, ne_eq, List.filter_eq_nil_iff, hmem, ← str_mem_map_str,
      ← hnames, List.mem_map]
    simp only [decide_eq_true_iff, text?_eq_some_iff, not_forall, not_not, exists_prop]
  let rows := distinct.filterMap fun reader => (find reader).map (reader, ·)
  have hkeys : rows.map (·.1) = distinct := map_fst_filterMap fun reader => (hdistinct reader).1
  refine ⟨rows, ?_, hkeys ▸ hnodup, fun reader d => ?_⟩
  · unfold lastOfEach
    rw [hnames, heq, named, List.filterMap_map, List.map_filterMap]
    congr 1
    funext reader
    rw [Function.comp_apply, find?_reverse_details, ← hfind, Option.map_map]
    rfl
  · rw [mem_filterMap_pair, hdistinct, and_iff_right_of_imp fun hd => Option.isSome_of_eq_some hd,
      ← hfind]

/-- Each pair of a test case and a reader that was measured has one detail, the last one. -/
theorem details_ok (h : s.Regular) (case : String) :
    ∃ rows, s.details (.str case) = .ok rows ∧
      s.Details case (namedTable Detail.toDatum rows) := by
  have hsub : ∀ m ∈ s.ofCase (.str case), m ∈ s.results := fun m hm => (List.mem_filter.1 hm).1
  obtain ⟨ds, hds, hresults, hrates⟩ : ∃ ds, (s.ofCase (.str case)).mapM detail = .ok ds ∧
      ds.map (·.result) = s.ofCase (.str case) ∧
      ∀ d ∈ ds, d.result.charactersPerSecond = .ok d.charactersPerSecond := by
    refine exists_mapM_eq_ok fun m hm => ?_
    obtain ⟨x, hx⟩ := h.rates m (hsub m hm)
    refine ⟨⟨m, x⟩, ?_, rfl, hx⟩
    rw [detail, hx]
    rfl
  obtain ⟨rows, hrows, hnodup, hmem⟩ := @lastOfEach_named ds fun d hd =>
    h.readers _ (hsub _ (hresults ▸ List.mem_map_of_mem hd))
  have hlast (reader : String) : (s.ofPair case reader).getLast? =
      (ds.filter (·.result.reader.text? = some reader)).getLast?.map (·.result) := by
    rw [ofPair_eq, ← hresults, List.filter_map, List.getLast?_map]
    rfl
  have hdetail (reader : String) (m : Measurement) : (s.ofPair case reader).getLast? = some m ↔
      ∃ d, (reader, d) ∈ rows ∧ d.result = m := by
    rw [hlast, Option.map_eq_some_iff]
    simp only [hmem]
  have hmeasured (reader : String) :
      reader ∈ rows.map (·.1) ↔ ∃ m, m ∈ s.ofPair case reader := by
    rw [List.mem_map]
    constructor
    · rintro ⟨⟨reader, d⟩, hd, rfl⟩
      exact ⟨d.result, List.mem_of_getLast? ((hdetail reader _).2 ⟨d, hd, rfl⟩)⟩
    · rintro ⟨m, hm⟩
      have hsome := List.getLast?_eq_some_getLast (List.ne_nil_of_mem hm)
      obtain ⟨d, hd, -⟩ := (hdetail reader _).1 hsome
      exact ⟨_, hd, rfl⟩
  refine ⟨named rows, ?_, ⟨_, names?_namedTable _ _, hnodup, fun reader => ?_⟩,
    fun reader m hm => ?_⟩
  · rw [details, hds, ← hrows]
    rfl
  · simp only [hmeasured, mem_ofPair]
  · obtain ⟨d, hd, rfl⟩ := (hdetail reader m).1 hm
    have hds := List.mem_of_mem_filter (List.mem_of_getLast? ((hmem reader d).1 hd))
    refine ⟨d.charactersPerSecond, hrates d hds, ?_⟩
    rw [at?_namedTable _ hnodup hd]
    rfl

/-! ## Reports -/

theorem report_ok (h : s.Regular) :
    ∃ r readerNames caseNames, s.report = .ok r ∧ s.Accounts readerNames caseNames r.toDatum := by
  obtain ⟨readerNames, hreaders, hlr⟩ := ascending_texts (List.forall_mem_map.2 h.readers)
  obtain ⟨caseNames, hcases, hlc⟩ := ascending_texts (List.forall_mem_map.2 h.cases)
  obtain ⟨summaries, hsummaries, hsummarized, hsummarizes⟩ :=
    exists_rows fun reader hreader => summary_ok h ((hlr.mem_iff reader).1 hreader)
  obtain ⟨details, hdetails, hdetailed, hrows⟩ :=
    exists_rows fun case (_ : case ∈ caseNames) => details_ok h case
  have hok {α β : Type} (a : α) (f : α → Except Fault β) : (.ok a >>= f) = f a := rfl
  unfold report Suite.readers Suite.cases
  simp only [hreaders, hcases, hok, hsummaries, hdetails]
  refine ⟨_, readerNames, caseNames, rfl,
    { name := rfl
      timestamp := rfl
      total := rfl
      readers := rfl
      cases := rfl
      readers_listed := hlr
      cases_listed := hlc
      summarized := ?_
      summaries := fun reader hreader => ?_
      runs := sum_runs h hlr
      detailed := ?_
      details := fun case hcase => ?_ }⟩
  · rw [← hsummarized]
    exact names?_namedTable _ summaries
  · obtain ⟨⟨_, x⟩, hx, rfl⟩ := List.mem_map.1 (hsummarized ▸ hreader)
    exact ⟨_, at?_namedTable _ (hsummarized ▸ hlr.nodup) hx [], hsummarizes _ _ hx⟩
  · rw [← hdetailed]
    exact names?_namedTable _ details
  · obtain ⟨⟨_, rows⟩, hx, rfl⟩ := List.mem_map.1 (hdetailed ▸ hcase)
    exact ⟨_, at?_namedTable _ (hdetailed ▸ hlc.nodup) hx [], hrows _ _ hx⟩

/-! ## Measurements in another order -/

/-- If no pair was measured twice, the order of the measurements does not matter to any pair. -/
theorem ofPair_of_perm (hn : (s.results.map (·.pair)).Nodup) (hp : t.results.Perm s.results)
    (case reader : String) : t.ofPair case reader = s.ofPair case reader := by
  have hperm : (t.ofPair case reader).Perm (s.ofPair case reader) := hp.filter _
  have hnodup : ((s.ofPair case reader).map (·.pair)).Nodup := hn.sublist (List.filter_sublist.map _)
  have hpair : ∀ m ∈ s.ofPair case reader, m.pair = (some case, some reader) :=
    fun m hm => (mem_ofPair.1 hm).2
  -- all measurements of the pair have one key, and no key stands twice: there is one at most
  generalize s.ofPair case reader = ms at hperm hnodup hpair ⊢
  match ms with
  | [] => exact hperm.eq_nil
  | [m] => exact List.perm_singleton.1 hperm
  | m :: m' :: ms =>
    have hsame : m'.pair = m.pair := by rw [hpair m' (by simp), hpair m (by simp)]
    exact absurd (List.mem_map.2 ⟨m', List.mem_cons_self, hsame⟩) (List.nodup_cons.1 hnodup).1

theorem runsOf_of_perm (hp : t.results.Perm s.results) (reader : String) :
    t.runsOf reader = s.runsOf reader :=
  hp.countP_eq _

theorem successesOf_of_perm (hp : t.results.Perm s.results) (reader : String) :
    t.successesOf reader = s.successesOf reader :=
  hp.countP_eq _

/-- The counts and the rate of a reader do not depend on the order of the measurements. -/
theorem Summarizes.at?_of_perm {reader : String} {table table' : Datum}
    (hp : t.results.Perm s.results) (h : s.Summarizes reader table)
    (h' : t.Summarizes reader table') {key : String}
    (hkey : key ∈ ["total_runs", "successful_runs", "success_rate"]) :
    table'.at? [key] = table.at? [key] := by
  obtain ⟨x, hx, hrate⟩ := h.successRate
  obtain ⟨x', hx', hrate'⟩ := h'.successRate
  rw [runsOf_of_perm hp, successesOf_of_perm hp] at hx'
  simp only [List.mem_cons, List.not_mem_nil, or_false] at hkey
  obtain rfl | rfl | rfl := hkey
  · rw [h.runs, h'.runs, runsOf_of_perm hp]
  · rw [h.successes, h'.successes, successesOf_of_perm hp]
  · rw [hrate, hrate', Except.ok.inj (hx.symm.trans hx')]

/-- If no pair was measured twice, the details on a test case do not depend on the order of the
measurements. -/
theorem Details.at?_of_perm {case : String} {table table' : Datum}
    (hn : (s.results.map (·.pair)).Nodup) (hp : t.results.Perm s.results)
    (h : s.Details case table) (h' : t.Details case table') (reader : String) :
    table'.at? [reader] = table.at? [reader] := by
  cases hlast : (s.ofPair case reader).getLast? with
  | some m =>
    obtain ⟨rate, hrate, hat⟩ := h.last reader m hlast
    rw [← ofPair_of_perm hn hp] at hlast
    obtain ⟨rate', hrate', hat'⟩ := h'.last reader m hlast
    cases hrate.symm.trans hrate'
    rw [hat, hat']
  | none =>
    have hnone : ∀ m, ¬ (m ∈ s.results ∧ m.pair = (some case, some reader)) := by
      intro m hm
      rw [List.getLast?_eq_none_iff] at hlast
      have hmem := mem_ofPair.2 hm
      rw [hlast] at hmem
      cases hmem
    obtain ⟨names, hnames, -, hmem⟩ := h.readers
    obtain ⟨names', hnames', -, hmem'⟩ := h'.readers
    have hno : reader ∉ names := fun hr =>
      let ⟨m, hm⟩ := (hmem reader).1 hr
      hnone m hm
    have hno' : reader ∉ names' := fun hr =>
      let ⟨m, hm, hpair⟩ := (hmem' reader).1 hr
      hnone m ⟨hp.mem_iff.1 hm, hpair⟩
    have hat := @at?_eq_none table [] names hnames reader hno []
    have hat' := @at?_eq_none table' [] names' hnames' reader hno' []
    exact hat'.trans hat.symm

namespace Accounts

variable {readerNames caseNames : List String} {report report' : Datum}

theorem readerNames_of_perm {readerNames' caseNames' : List String}
    (hp : t.results.Perm s.results) (h : s.Accounts readerNames caseNames report)
    (h' : t.Accounts readerNames' caseNames' report') : readerNames' = readerNames :=
  h'.readers_listed.unique h.readers_listed fun _ => (hp.map _).mem_iff

theorem caseNames_of_perm {readerNames' caseNames' : List String}
    (hp : t.results.Perm s.results) (h : s.Accounts readerNames caseNames report)
    (h' : t.Accounts readerNames' caseNames' report') : caseNames' = caseNames :=
  h'.cases_listed.unique h.cases_listed fun _ => (hp.map _).mem_iff

theorem standing_of_perm (hp : t.results.Perm s.results)
    (h : s.Accounts readerNames caseNames report) (h' : t.Accounts readerNames caseNames report')
    (reader : String) {key : String}
    (hkey : key ∈ ["total_runs", "successful_runs", "success_rate"]) :
    report'.at? ["summary", reader, key] = report.at? ["summary", reader, key] := by
  refine at?_congr (p := ["summary"]) h.summarized h'.summarized reader [key] fun hreader => ?_
  obtain ⟨table, hat, hs⟩ := h.summaries reader hreader
  obtain ⟨table', hat', hs'⟩ := h'.summaries reader hreader
  show (report'.at? ["summary", reader]).bind _ = (report.at? ["summary", reader]).bind _
  rw [hat, hat']
  exact hs.at?_of_perm hp hs' hkey

theorem detail_of_perm (hn : (s.results.map (·.pair)).Nodup) (hp : t.results.Perm s.results)
    (h : s.Accounts readerNames caseNames report) (h' : t.Accounts readerNames caseNames report')
    (case reader : String) :
    report'.at? ["detailed_results", case, reader] =
      report.at? ["detailed_results", case, reader] := by
  refine at?_congr (p := ["detailed_results"]) h.detailed h'.detailed case [reader] fun hcase => ?_
  obtain ⟨table, hat, hd⟩ := h.details case hcase
  obtain ⟨table', hat', hd'⟩ := h'.details case hcase
  show (report'.at? ["detailed_results", case]).bind _ =
    (report.at? ["detailed_results", case]).bind _
  rw [hat, hat']
  exact hd.at?_of_perm hn hp hd' reader

end Accounts

/-- A regular suite has a report, whose table accounts for all of its measurements.  In another
order they give a report whose table accounts for them with the same names, runs and rates of
successes, and with the same details if no pair was measured twice. -/
theorem report_accounts (s : Suite) (h : s.Regular) :
    ∃ r readerNames caseNames, s.report = .ok r ∧ s.Accounts readerNames caseNames r.toDatum ∧
      ∀ results, results.Perm s.results → ∃ r', { s with results }.report = .ok r' ∧
        { s with results }.Accounts readerNames caseNames r'.toDatum ∧
        (∀ key ∈ ["total_results", "readers", "test_cases"],
          r'.toDatum.at? [key] = r.toDatum.at? [key]) ∧
        (∀ reader, ∀ key ∈ ["total_runs", "successful_runs", "success_rate"],
          r'.toDatum.at? ["summary", reader, key] = r.toDatum.at? ["summary", reader, key]) ∧
        ((s.results.map (·.pair)).Nodup → ∀ case reader,
          r'.toDatum.at? ["detailed_results", case, reader] =
            r.toDatum.at? ["detailed_results", case, reader]) := by
  obtain ⟨r, readerNames, caseNames, hr, ha⟩ := report_ok h
  refine ⟨r, readerNames, caseNames, hr, ha, fun results hp => ?_⟩
  obtain ⟨r', readerNames', caseNames', hr', ha'⟩ :=
    report_ok (h.of_perm (t := { s with results }) hp)
  obtain rfl := ha.readerNames_of_perm hp ha'
  obtain rfl := ha.caseNames_of_perm hp ha'
  refine ⟨r', hr', ha', fun key hkey => ?_,
    fun reader key hkey => ha.standing_of_perm hp ha' reader hkey,
    fun hn case reader => ha.detail_of_perm hn hp ha' case reader⟩
  simp only [List.mem_cons, List.not_mem_nil, or_false] at hkey
  obtain rfl | rfl | rfl := hkey
  · rw [ha.total, ha'.total, hp.length_eq]
  · rw [ha.readers, ha'.readers]
  · rw [ha.cases, ha'.cases]

/-- Two readers on two test cases: one reader fails, and the other one fails on a test case on which
it succeeded before. -/
def mixed : Suite where
  results :=
    [⟨.str "b", .str "x", .float 2.0, .float 1.5, .int 6, .int 2, .bool true, .null⟩,
     ⟨.str "a", .str "x", .float 0.5, .float 0.0, .int 0, .int 0, .bool false, .str "gone"⟩,
     ⟨.str "b", .str "w", .float 0.25, .float 0.0, .int 1, .int 1, .bool true, .null⟩,
     ⟨.str "b", .str "x", .float 0.5, .float 0.0, .int 0, .int 0, .bool false, .str "gone"⟩]

/-- The readers are in order, and the failure of the second one stands where its success stood; and
without that failure no pair is measured twice, so the details stay in reverse order. -/
theorem report_accounts_mixed :
    mixed.Regular ∧
    (∃ r, mixed.report = .ok r ∧ mixed.Accounts ["a", "b"] ["w", "x"] r.toDatum ∧
      r.toDatum.at? ["summary", "b", "total_runs"] = some (.int 3) ∧
      r.toDatum.at? ["summary", "b", "memory", "count"] = some (.int 2) ∧
      r.toDatum.at? ["summary", "a", "performance"] = some (.dict []) ∧
      r.toDatum.at? ["detailed_results", "x", "b", "error"] = some (.str "gone")) ∧
    ∃ r r', Suite.report { results := mixed.results.take 3 } = .ok r ∧
      Suite.report { results := (mixed.results.take 3).reverse } = .ok r' ∧
      ∀ case reader, r'.toDatum.at? ["detailed_results", case, reader] =
        r.toDatum.at? ["detailed_results", case, reader] := by
  have hregular : mixed.Regular := by decide +kernel
  obtain ⟨r, readerNames, caseNames, hr, ha, -⟩ := report_accounts mixed hregular
  obtain ⟨q, _, _, hq, -, hpermuted⟩ := report_accounts { results := mixed.results.take 3 }
    (by decide +kernel)
  obtain ⟨q', hq', -, -, -, hdetails⟩ := hpermuted _ (List.reverse_perm _)
  have hreaders : Lists ["a", "b"] (mixed.results.map (·.reader)) := by
    refine ⟨by decide +kernel, fun name => ?_⟩
    show _ ↔ Datum.str name ∈ [.str "b", .str "a", .str "b", .str "b"]
    grind
  have hcases : Lists ["w", "x"] (mixed.results.map (·.case)) := by
    refine ⟨by decide +kernel, fun name => ?_⟩
    show _ ↔ Datum.str name ∈ [.str "x", .str "x", .str "w", .str "x"]
    grind
  obtain rfl := ha.readers_listed.unique hreaders fun _ => Iff.rfl
  obtain rfl := ha.cases_listed.unique hcases fun _ => Iff.rfl
  obtain ⟨a, hata, hsa⟩ := ha.summaries "a" (by decide)
  obtain ⟨b, hatb, hsb⟩ := ha.summaries "b" (by decide)
  obtain ⟨x, hatx, hdx⟩ := ha.details "x" (by decide)
  have hruns : mixed.runsOf "b" = 3 := by decide +kernel
  have hsuccesses : mixed.successesOf "b" = 2 := by decide +kernel
  have hfailures : mixed.successesOf "a" = 0 := by decide +kernel
  obtain ⟨performance, hperformance, hnone⟩ := hsa.statistics "performance" (by decide)
  obtain ⟨memory, hmemory, hcount⟩ := hsb.statistics "memory" (by decide)
  obtain ⟨rate, -, hlast⟩ := hdx.last "b"
    ⟨.str "b", .str "x", .float 0.5, .float 0.0, .int 0, .int 0, .bool false, .str "gone"⟩ rfl
  rw [hfailures] at hnone
  rw [hsuccesses] at hcount
  refine ⟨hregular, ⟨r, hr, ha, ?_, ?_, ?_, ?_⟩, q, q', hq, hq', hdetails (by decide +kernel)⟩
  · have hb := hsb.runs
    rw [hruns] at hb
    exact (at?_under hatb ["total_runs"]).trans hb
  · exact (at?_under hatb ["memory", "count"]).trans ((at?_under hmemory ["count"]).trans hcount)
  · exact (at?_under hata ["performance"]).trans (hperformance.trans (congrArg some hnone))
  · exact (at?_under hatx ["b", "error"]).trans (at?_under hlast ["error"])

end Suite

end LineCursor.Bench
