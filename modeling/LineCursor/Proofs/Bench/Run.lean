import Mathlib.Data.List.Nodup
import LineCursor.Proofs.Bench.Readers
import LineCursor.Proofs.Datum
import LineCursor.Proofs.Tally

/-!
A benchmark measures each reader on each test case, once, and counts right.

A benchmark as it is made is ready (`Bench.Ready`): no reader fails, and the gauge shows numbers.
Everything that it does leaves it so, and the gauge tells how far it got, since it is read twice in
a run and nowhere else:

    ready after n readings → runOnce is a run without error, ready after n + 2 readings
    ready after n readings → measure is a measurement, ready after n + 2 · (w + r) readings

with `w` runs to warm up and `r` runs to measure.  So all pairs of test case and reader get their
measurement (`Ready.measureAll`), which shows what the text has to be counted as
(`Measurement.Shows`), and what is there for runs that fail is never used (`run_covers`).
-/

namespace LineCursor

open Bench

namespace Bench

/-- A run that read a text to its end. -/
structure Run.Fits (run : Run) (content : String) : Prop where
  error : run.error = none
  counts : run.counts = Counts.ofText content.toList

/-- The measurement of a reader that counted a text as it has to be counted. -/
structure Measurement.Shows (m : Measurement) (reader : Reader) (case content : String) : Prop where
  reader : m.reader = .str reader.name
  case : m.case = .str case
  success : m.success = .bool true
  error : m.error = .null
  characters : m.characters = .int content.length
  lines : m.lines = .int (content.toList.count '\n' +
    if content.toList.getLast?.all (· == '\n') then 0 else 1 : Nat)

/-- A benchmark that has `w` runs to warm up and `r` runs to measure, and whose gauge was read `n`
times.  Its readers do not fail, and all that its gauge shows can be told in megabytes. -/
structure Ready (w r n : Nat) (b : Bench) : Prop where
  warmups : b.warmups = .int w
  runs : b.runs = .int r
  untallied : b.settings.tallying.truthy = false
  unfailing : ∀ reader k, (b.plan reader).failing k = none
  level : ∀ k, (b.gauge.level k).natAbs < 2 ^ 1024
  readings : b.gauge.readings = n

variable {w r n : Nat} {b : Bench}

theorem ofQuotient_megabytes_ok {bytes : Int} (h : bytes.natAbs < 2 ^ 1024) :
    ∃ x, Number.ofQuotient bytes 1024 = .ok x := by
  have h1024 : (1024 : Int).natAbs = 2 ^ 10 := rfl
  refine Number.ofQuotient_ok bytes 1024 (by decide) ?_
  rw [h1024, ← pow_add]
  exact h.trans_le (pow_le_pow_right₀ one_le_two (by decide))

theorem Reader.count_eq (reader : Reader) {s : Settings} (hs : s.tallying.truthy = false)
    (levels : Log.Levels) (content : String) :
    reader.count s levels content = .ok (Counts.ofText content.toList) := by
  cases reader with
  | cursor => exact (countByCursor_eq s hs levels content).1
  | baseline => exact congrArg Except.ok (countPlainly_eq content.toList)

theorem plan_setPlan (b : Bench) (reader other : Reader) (plan : Plan) :
    (b.setPlan reader plan).plan other = if other = reader then plan else b.plan other := by
  cases reader <;> cases other <;> rfl

namespace Ready

/-! ## Readings -/

theorem memory (h : b.Ready w r n) : ∃ x c, b.memory = (.ok x, c) ∧ c.Ready w r (n + 1) := by
  obtain ⟨x, hx⟩ := ofQuotient_megabytes_ok (h.level b.gauge.readings)
  refine ⟨x / 1024.0, { b with gauge := b.gauge.read.2 }, ?_,
    { h with readings := congrArg (· + 1) h.readings }⟩
  unfold Bench.memory Gauge.read
  dsimp only
  rw [hx]
  rfl

theorem time (h : b.Ready w r n) : ∃ x c, b.time = (x, c) ∧ c.Ready w r n :=
  ⟨_, _, rfl, { h with }⟩

theorem note (h : b.Ready w r n) (severity : Log.Severity) (message : String) (extra : Entries) :
    (b.note severity message extra).Ready w r n :=
  { h with }

/-! ## Runs -/

theorem setPlan (h : b.Ready w r n) (reader : Reader) {plan : Plan}
    (hp : ∀ k, plan.failing k = none) : (b.setPlan reader plan).Ready w r n := by
  have hunfailing other k : ((b.setPlan reader plan).plan other).failing k = none := by
    rw [plan_setPlan]
    split
    · exact hp k
    · exact h.unfailing other k
  cases reader <;> exact { h with unfailing := hunfailing }

theorem count (h : b.Ready w r n) (reader : Reader) (content : String) :
    ∃ c, b.count reader (.str content) = (.ok (Counts.ofText content.toList), c) ∧
      c.Ready w r n := by
  let plan := { b.plan reader with uses := (b.plan reader).uses + 1 }
  have hused : (b.setPlan reader plan).Ready w r n := h.setPlan reader (h.unfailing reader)
  refine ⟨b.setPlan reader plan, ?_, hused⟩
  unfold Bench.count contentText
  dsimp only
  rw [h.unfailing]
  exact congrArg (·, b.setPlan reader plan) (reader.count_eq hused.untallied _ content)

theorem runOnce (h : b.Ready w r n) (reader : Reader) (case content : String) :
    ∃ run c, b.runOnce reader case (.str content) = (.ok run, c) ∧ run.Fits content ∧
      c.Ready w r (n + 2) := by
  obtain ⟨before, b₁, hbefore, h₁⟩ := h.memory
  obtain ⟨start, b₂, hstart, h₂⟩ := h₁.time
  obtain ⟨b₃, hcount, h₃⟩ := h₂.count reader content
  obtain ⟨finish, b₄, hfinish, h₄⟩ := h₃.time
  obtain ⟨after, b₅, hafter, h₅⟩ := h₄.memory
  unfold Bench.runOnce
  simp only [hbefore, hstart, hcount, settle, hfinish, hafter]
  exact ⟨_, _, rfl, ⟨rfl, rfl⟩, h₅⟩

/-- Runs are repeated as often as they should be. -/
theorem repeatRuns (h : b.Ready w r n) (reader : Reader) (case content : String) (k : Nat) :
    ∃ runs c, Bench.repeatRuns reader case (.str content) k b = (.ok runs, c) ∧
      (∀ run ∈ runs, run.Fits content) ∧ c.Ready w r (n + 2 * k) := by
  induction k generalizing b n with
  | zero => exact ⟨[], b, rfl, fun _ hrun => absurd hrun List.not_mem_nil, h⟩
  | succ k ih =>
    obtain ⟨run, b₁, hrun, hfits, h₁⟩ := h.runOnce reader case content
    obtain ⟨runs, b₂, hruns, hall, h₂⟩ := ih h₁
    have hreadings : n + 2 * (k + 1) = n + 2 + 2 * k := by omega
    unfold Bench.repeatRuns
    simp only [hrun, hruns, hreadings]
    exact ⟨_, _, rfl, List.forall_mem_cons.2 ⟨hfits, hall⟩, h₂⟩

theorem warmUp (h : b.Ready w r n) (reader : Reader) (case content : String) :
    ∃ c, b.warmUp reader case (.str content) = (.ok (), c) ∧ c.Ready w r (n + 2 * w) := by
  obtain ⟨runs, c, hruns, -, hc⟩ := h.repeatRuns reader case content w
  unfold Bench.warmUp
  simp only [h.warmups, Datum.repetitions, Int.toNat_natCast, hruns]
  exact ⟨_, rfl, hc⟩

end Ready

/-! ## Measurements -/

/-- The average of runs without error takes the counts from the first one. -/
theorem average_fits {first : Run} {others : List Run} {content : String}
    (h : first.Fits content) : (average first others).Fits content := by
  unfold average
  rw [List.filter_cons_of_pos (by rw [h.error]; rfl)]
  exact ⟨h.error, h.counts⟩

theorem Run.Fits.shows {run : Run} {content : String} (h : run.Fits content) (reader : Reader)
    (case : String) : (run.measurement reader case).Shows reader case content where
  reader := rfl
  case := rfl
  success := by
    unfold Run.measurement
    rw [h.error]
    rfl
  error := by
    unfold Run.measurement
    rw [h.error]
    rfl
  characters := by
    unfold Run.measurement
    rw [h.counts, Counts.ofText, String.length_toList]
  lines := by
    unfold Run.measurement
    rw [h.counts, Counts.ofText]

namespace Ready

/-- A reader has its measurement on a test case after all of its runs. -/
theorem measure (h : b.Ready w r n) (hr : 0 < r) (reader : Reader) (case content : String) :
    ∃ m c, b.measure reader case (.str content) = (.ok m, c) ∧ m.Shows reader case content ∧
      c.Ready w r (n + 2 * (w + r)) := by
  obtain ⟨b₁, hwarm, h₁⟩ := h.warmUp reader case content
  obtain ⟨first, b₂, hfirst, hfits, h₂⟩ := h₁.runOnce reader case content
  obtain ⟨others, b₃, hothers, -, h₃⟩ := h₂.repeatRuns reader case content (r - 1)
  have hreadings : n + 2 * (w + r) = n + 2 * w + 2 + 2 * (r - 1) := by omega
  unfold Bench.measure
  simp only [hwarm, h₁.runs, Datum.repetitions, Int.toNat_natCast, hfirst, hothers, hreadings]
  exact ⟨_, _, rfl, (average_fits hfits).shows reader case, h₃⟩

/-- All pairs have their measurement, in order. -/
theorem measureAll (h : b.Ready w r n) (hr : 0 < r) (pairs : List (Reader × String × String))
    (suite : Suite) :
    ∃ ms c, Bench.measureAll (pairs.map fun (reader, case, content) =>
        (reader, case, .str content)) suite b =
          (.ok { suite with results := suite.results ++ ms }, c) ∧
      List.Forall₂ (fun m (reader, case, content) => m.Shows reader case content) ms pairs ∧
      c.Ready w r (n + 2 * (w + r) * pairs.length) := by
  induction pairs generalizing b n suite with
  | nil =>
    refine ⟨[], b, ?_, .nil, h⟩
    rw [List.append_nil]
    rfl
  | cons pair pairs ih =>
    obtain ⟨reader, case, content⟩ := pair
    obtain ⟨m, b₁, hm, hshows, h₁⟩ := h.measure hr reader case content
    obtain ⟨ms, b₂, hms, hall, h₂⟩ := ih h₁ (suite.add m)
    have hreadings : n + 2 * (w + r) * (pairs.length + 1) =
        n + 2 * (w + r) + 2 * (w + r) * pairs.length := by
      rw [Nat.mul_succ, Nat.add_assoc, Nat.add_comm (2 * (w + r))]
    refine ⟨m :: ms, b₂, ?_, .cons hshows hall, ?_⟩
    · rw [List.map_cons, Bench.measureAll, hm]
      dsimp only
      rw [hms, Suite.add, List.append_assoc, List.singleton_append]
    · rw [List.length_cons, hreadings]
      exact h₂

end Ready

/-! ## Benchmarks as they are made -/

theorem override_correlation {id : Option String} (hid : id ≠ some "") :
    Settings.quiet.override [("correlation_id", .ofString? id)] =
      .ok { Settings.quiet with correlation := id } := by
  cases id with
  | none => rfl
  | some id =>
    have hne : id.isEmpty = false := by
      rw [String.isEmpty_eq_false_iff]
      exact fun he => hid (congrArg some he)
    show (if id.isEmpty then .error .correlation else _ : Except Settings.Issue Settings) = _
    rw [hne]
    rfl

theorem make_ok (w : Nat) {r : Nat} (hr : 0 < r) {id : Option String} (hid : id ≠ some "")
    (x : Context) {g : Gauge} (hg : ∀ k, (g.level k).natAbs < 2 ^ 1024) :
    ∃ b, make { correlation := .ofString? id, warmups := .int w, runs := .int r } x g = .ok b ∧
      b.cases = standardCases ∧ b.Ready w r g.readings := by
  have hwarmups : (Datum.int w).isBelow 0 = .ok false := by
    simp [Datum.isBelow, Datum.compareNumbers, Datum.quantity?, Quantity.less, Quantity.compareBy]
  have hruns : (Datum.int r).isAtMost 0 = .ok false := by
    simp [Datum.isAtMost, Datum.compareNumbers, Datum.quantity?, Quantity.atMost,
      Quantity.compareBy]
    omega
  unfold make
  simp only [hwarmups, hruns, override_correlation hid]
  refine ⟨_, rfl, rfl, rfl, rfl, rfl, ?_, hg, rfl⟩
  intro reader k
  cases reader <;> rfl

/-- Registers some test cases one after the other. -/
def addCases (b : Bench) (cases : List (String × String)) : Except Fault Bench :=
  cases.foldlM (fun b case => b.addCase case.1 (.str case.2)) b

/-- Texts by name as a table. -/
def texts (cases : List (String × String)) : Entries :=
  cases.map fun (name, content) => (name, .str content)

theorem addCases_ok (b : Bench) {cases : List (String × String)} (h : ∀ case ∈ cases, case.1 ≠ "") :
    b.addCases cases = .ok { b with cases := b.cases.update (texts cases) } := by
  induction cases generalizing b with
  | nil => rfl
  | cons case cases ih =>
    obtain ⟨name, content⟩ := case
    have hname : b.addCase name (.str content) =
        .ok { b with cases := b.cases.put name (.str content) } := by
      rw [addCase, if_neg]
      rw [String.isEmpty_iff]
      exact h _ List.mem_cons_self
    rw [addCases, List.foldlM_cons, hname]
    exact ih _ fun case hcase => h case (List.mem_cons_of_mem _ hcase)

theorem lookup_texts (cases : List (String × String)) (name : String) :
    (texts cases).lookup name = (cases.lookup name).map .str := by
  induction cases with
  | nil => rfl
  | cons case cases ih =>
    obtain ⟨key, content⟩ := case
    show List.lookup name ((key, .str content) :: texts cases) = _
    rw [List.lookup_cons, List.lookup_cons, ih]
    cases name == key <;> rfl

theorem exists_texts {es : Entries} (h : ∀ e ∈ es, ∃ content, e.2 = .str content) :
    ∃ cases, es = texts cases := by
  induction es with
  | nil => exact ⟨[], rfl⟩
  | cons e es ih =>
    obtain ⟨name, value⟩ := e
    obtain ⟨content, hcontent⟩ := h _ List.mem_cons_self
    obtain ⟨cases, hcases⟩ := ih fun e he => h e (List.mem_cons_of_mem _ he)
    cases hcontent
    exact ⟨(name, content) :: cases, by rw [hcases]; rfl⟩

theorem nodup_keys_standardCases : standardCases.keys.Nodup := by
  show ["empty", "short_lines", "long_lines", "crlf_lines"].Nodup
  decide

theorem text_of_mem_standardCases {e : String × Datum} (h : e ∈ standardCases) :
    ∃ content, e.2 = .str content := by
  unfold standardCases at h
  simp only [List.mem_cons, List.not_mem_nil, or_false] at h
  obtain rfl | rfl | rfl | rfl := h <;> exact ⟨_, rfl⟩

theorem text_of_mem_texts {cases : List (String × String)} {e : String × Datum}
    (h : e ∈ texts cases) : ∃ content, e.2 = .str content := by
  obtain ⟨case, -, rfl⟩ := List.mem_map.1 h
  exact ⟨case.2, rfl⟩

/-! ## All pairs -/

/-- The readers of a run. -/
def Reader.compared (withBaseline : Bool) : List Reader :=
  if withBaseline then [.cursor, .baseline] else [.cursor]

/-- The pairs of reader and test case of a run. -/
def pairs (b : Bench) (withBaseline : Bool) : List (Reader × String × Datum) :=
  b.cases.flatMap fun (case, content) =>
    (Reader.compared withBaseline).map fun reader => (reader, case, content)

theorem exists_pairs {cases : List (String × String)} (h : b.cases = texts cases)
    (withBaseline : Bool) : ∃ ps : List (Reader × String × String),
      b.pairs withBaseline = ps.map (fun (reader, case, content) => (reader, case, .str content)) ∧
      ps.map (fun (reader, case, _) => (Datum.str case, Datum.str reader.name)) =
        b.cases.keys.flatMap (fun case =>
          (Reader.compared withBaseline).map fun reader => (.str case, .str reader.name)) ∧
      ∀ p ∈ ps, (p.2.1, .str p.2.2) ∈ b.cases := by
  refine ⟨cases.flatMap fun (case, content) =>
    (Reader.compared withBaseline).map fun reader => (reader, case, content), ?_, ?_, ?_⟩
  · rw [pairs, h, texts, List.flatMap_map, List.map_flatMap]
    simp only [List.map_map]
    rfl
  · rw [h, texts, Entries.keys, List.map_map, List.flatMap_map, List.map_flatMap]
    simp only [List.map_map]
    rfl
  · intro p hp
    obtain ⟨case, hcase, hp⟩ := List.mem_flatMap.1 hp
    obtain ⟨reader, -, rfl⟩ := List.mem_map.1 hp
    rw [h]
    exact List.mem_map.2 ⟨case, hcase, rfl⟩

theorem nodup_pairs {names : List String} (h : names.Nodup) (withBaseline : Bool) :
    (names.flatMap fun case => (Reader.compared withBaseline).map fun reader =>
      (Datum.str case, Datum.str reader.name)).Nodup := by
  refine List.nodup_flatMap.2 ⟨fun case _ => ?_, h.imp fun hne => ?_⟩
  · cases withBaseline <;> simp [Reader.compared, Reader.name]
  · intro p hp hq
    obtain ⟨_, -, rfl⟩ := List.mem_map.1 hp
    obtain ⟨_, -, he⟩ := List.mem_map.1 hq
    exact hne (Datum.str.inj (congrArg Prod.fst he)).symm

theorem exists_of_forall₂ {α β : Type} {p : α → β → Prop} {as : List α} {bs : List β}
    (h : List.Forall₂ p as bs) {a : α} (ha : a ∈ as) : ∃ b ∈ bs, p a b := by
  induction h with
  | nil => cases ha
  | cons hp _ ih =>
    rcases List.mem_cons.1 ha with rfl | ha
    · exact ⟨_, List.mem_cons_self, hp⟩
    · obtain ⟨b, hb, hab⟩ := ih ha
      exact ⟨b, List.mem_cons_of_mem _ hb, hab⟩

/-- The measurements for some pairs are named after them. -/
theorem names_of_shows {ms : List Measurement} {ps : List (Reader × String × String)}
    (h : List.Forall₂ (fun m (reader, case, content) => m.Shows reader case content) ms ps) :
    ms.map (fun m => (m.case, m.reader)) =
      ps.map fun (reader, case, _) => (.str case, .str reader.name) := by
  rw [← List.forall₂_eq_eq_eq, List.forall₂_map_left_iff, List.forall₂_map_right_iff]
  refine h.imp fun m p hshows => ?_
  rw [hshows.case, hshows.reader]

/-- A benchmark that is ready measures all of its pairs. -/
theorem Ready.run (h : b.Ready w r n) (hr : 0 < r) {ps : List (Reader × String × String)}
    {withBaseline : Bool} (hps : b.pairs withBaseline =
      ps.map fun (reader, case, content) => (reader, case, .str content)) :
    ∃ suite c, b.run withBaseline = (.ok suite, c) ∧
      List.Forall₂ (fun m (reader, case, content) => m.Shows reader case content)
        suite.results ps ∧
      c.Ready w r (n + 2 * (w + r) * ps.length) := by
  have hstart := h.note .info "Starting benchmark suite"
    [("test_cases", .int b.cases.length),
     ("readers", .list ((Reader.compared withBaseline).map fun reader => .str reader.name)),
     ("warmup_runs", b.warmups), ("benchmark_runs", b.runs)]
  obtain ⟨ms, c, hms, hshows, hc⟩ := hstart.measureAll hr ps {}
  rw [← hps] at hms
  refine ⟨{ results := ms }, _, ?_, hshows, hc.note .info "Benchmark suite completed"
    [("total_results", .int ms.length)]⟩
  unfold Bench.run
  dsimp only
  split
  · next he => cases hms.symm.trans he
  · next he =>
    cases hms.symm.trans he
    rfl

/-- A benchmark that is built with `w` runs to warm up, `r` runs to measure and a valid correlation
takes any test cases that have a name; a name that is taken keeps its place and gets the new
content.  Its run has a measurement for each test case and each reader, the test cases in order of
registration and the cursor before the baseline.  Each one is a success and shows what the content
has to be counted as.  The gauge is read `2 · (w + r)` times for each pair, also if only the first
pairs are looked at. -/
theorem run_covers (w r : Nat) (hr : 0 < r) (id : Option String) (hid : id ≠ some "")
    (additions : List (String × String)) (hadditions : ∀ case ∈ additions, case.1 ≠ "")
    (x : Context) (g : Gauge) (hg : ∀ k, (g.level k).natAbs < 2 ^ 1024) (withBaseline : Bool) :
    ∃ b, (make { correlation := .ofString? id, warmups := .int w, runs := .int r } x g).bind
        (·.addCases additions) = .ok b ∧
      b.cases.keys = (standardCases.keys ++ additions.map (·.1)).eraseDups ∧
      (∀ name, b.cases.lookup name =
        ((additions.reverse.lookup name).map .str).or (standardCases.lookup name)) ∧
      ∃ suite c, b.run withBaseline = (.ok suite, c) ∧
        suite.results.map (fun m => (m.case, m.reader)) =
          b.cases.keys.flatMap (fun case =>
            (Reader.compared withBaseline).map fun reader => (.str case, .str reader.name)) ∧
        (suite.results.map fun m => (m.case, m.reader)).Nodup ∧
        (∀ m ∈ suite.results, ∃ reader case content,
          b.cases.lookup case = some (.str content) ∧ m.Shows reader case content) ∧
        c.gauge.readings = g.readings + 2 * (w + r) * suite.results.length ∧
        ∀ context k, k ≤ suite.results.length → ∃ part d,
          measureAll ((b.pairs withBaseline).take k) {} { b with context } = (.ok part, d) ∧
            d.gauge.readings = g.readings + 2 * (w + r) * k := by
  obtain ⟨b₀, hmake, hstandard, h₀⟩ := make_ok w hr hid x hg
  have hadd := b₀.addCases_ok hadditions
  rw [hstandard] at hadd
  generalize hb : { b₀ with cases := standardCases.update (texts additions) } = b at hadd
  have h : b.Ready w r g.readings := hb ▸ { h₀ with }
  have hcases : b.cases = standardCases.update (texts additions) := hb ▸ rfl
  have hnodup : b.cases.keys.Nodup := by
    rw [hcases]
    exact Entries.nodup_keys_update nodup_keys_standardCases _
  obtain ⟨cases, htexts⟩ : ∃ cases, b.cases = texts cases := by
    refine exists_texts fun e he => ?_
    rw [hcases] at he
    exact (Entries.mem_update he).elim text_of_mem_standardCases text_of_mem_texts
  obtain ⟨ps, hps, hnames, hmem⟩ := exists_pairs htexts withBaseline
  obtain ⟨suite, c, hrun, hshows, hc⟩ := h.run hr hps
  have hresults : suite.results.map (fun m => (m.case, m.reader)) =
      b.cases.keys.flatMap (fun case =>
        (Reader.compared withBaseline).map fun reader => (.str case, .str reader.name)) :=
    (names_of_shows hshows).trans hnames
  refine ⟨b, ?_, ?_, fun name => ?_, suite, c, hrun, hresults, ?_, fun m hm => ?_, ?_,
    fun context k hk => ?_⟩
  · rw [hmake]
    exact hadd
  · rw [hcases, Entries.keys_update nodup_keys_standardCases]
    congr 2
    exact List.map_map
  · rw [hcases, Entries.lookup_update_reverse, ← lookup_texts, texts, texts, List.map_reverse]
  · rw [hresults]
    exact nodup_pairs hnodup withBaseline
  · obtain ⟨⟨reader, case, content⟩, hp, hm⟩ := exists_of_forall₂ hshows hm
    exact ⟨reader, case, content, Entries.lookup_of_mem hnodup (hmem _ hp), hm⟩
  · rw [hc.readings, hshows.length_eq]
  · obtain ⟨ms, d, hms, -, hd⟩ :=
      Ready.measureAll (b := { b with context }) { h with } hr (ps.take k) {}
    rw [hps, ← List.map_take]
    refine ⟨_, d, hms, ?_⟩
    rw [hd.readings, List.length_take, Nat.min_eq_left (hshows.length_eq ▸ hk)]

/-- The test case without text gets one, and one of two that are new is given twice: that makes five
test cases and ten measurements of four runs each. -/
theorem run_covers_replaced :
    ∃ b suite c, (make { correlation := .ofString? (some "id"), warmups := .int 1, runs := .int 3 }
        {} {}).bind
        (·.addCases [("empty", "a\n\nb"), ("rest", "c\n"), ("rest", "d")]) = .ok b ∧
      b.cases.keys = ["empty", "short_lines", "long_lines", "crlf_lines", "rest"] ∧
      b.run true = (.ok suite, c) ∧ suite.results.length = 10 ∧ c.gauge.readings = 80 ∧
      ∀ m ∈ suite.results, m.case = .str "empty" →
        m.success = .bool true ∧ m.characters = .int 4 ∧ m.lines = .int 3 := by
  obtain ⟨b, hb, hkeys, hlookup, suite, c, hrun, hresults, -, hshows, hreadings, -⟩ :=
    run_covers 1 3 (by decide) (some "id") (by decide)
      [("empty", "a\n\nb"), ("rest", "c\n"), ("rest", "d")] (by decide) {} {}
      (fun _ => pow_pos two_pos 1024) true
  have hnames : b.cases.keys = ["empty", "short_lines", "long_lines", "crlf_lines", "rest"] :=
    hkeys.trans (by decide)
  have hlength : suite.results.length = 10 := by
    have hlengths := congrArg List.length hresults
    rw [hnames, List.length_map] at hlengths
    exact hlengths
  refine ⟨b, suite, c, hb, hnames, hrun, hlength, ?_, fun m hm hcase => ?_⟩
  · rw [hreadings, hlength]
  · obtain ⟨reader, case, content, hcontent, hm⟩ := hshows m hm
    cases hm.case.symm.trans hcase
    rw [hlookup] at hcontent
    cases hcontent
    exact ⟨hm.success, hm.characters.trans (congrArg Datum.int (by decide)),
      hm.lines.trans (congrArg Datum.int (by decide))⟩

end Bench

end LineCursor
