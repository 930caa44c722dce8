import LineCursor.Log.Registry
import LineCursor.Proofs.Datum
import LineCursor.Proofs.Log.Lineage

/-!
Reporters that share loggers do not get into each other's way.

Each call has an answer of its own (`Registry.answer`), whichever calls were made before: nothing
unless it is heard (`Registry.Hears`), a fault if its caller adds a reserved key, and otherwise one
record.  A run gives the answers of its calls, and leaves their records in the order of the calls:

    (g.run journal calls).1 = calls.map g.outcome
    (g.run journal calls).2.toList = journal.toList ++ calls.filterMap g.left?              (run_eq)

A call is heard or not by the least level of its own reporter and by the levels of loggers, whatever
the other reporters are (`Registry.run_accounts`).
-/

namespace LineCursor.Log

theorem Severity.level_pos (severity : Severity) : 0 < severity.level := by
  cases severity <;> decide

/-- The fields of a record: component and correlation, which the caller's own replace where they
stand, and then what else the caller adds. -/
theorem Reporter.fields_eq (r : Reporter) {extra : Entries} (h : extra.keys.Nodup) :
    r.fields extra =
      ("component", (extra.lookup "component").getD r.component) ::
      ("correlation_id", (extra.lookup "correlation_id").getD r.correlation) ::
      extra.filter fun e => e.1 ∉ ["component", "correlation_id"] :=
  @Entries.update_eq_of_nodup [("component", r.component), ("correlation_id", r.correlation)] extra
    (show ["component", "correlation_id"].Nodup by decide) h

/-- The first reserved key of a record is the first one of its caller. -/
theorem Reporter.find?_reserved_fields (r : Reporter) {extra : Entries} (h : extra.keys.Nodup) :
    (r.fields extra).keys.find? reservedKeys.contains =
      extra.keys.find? reservedKeys.contains := by
  have hkeys : (r.fields extra).keys =
      "component" :: "correlation_id" ::
        extra.keys.filter fun k => k ∉ ["component", "correlation_id"] := by
    rw [r.fields_eq h, Entries.keys, Entries.keys, List.filter_map]
    rfl
  rw [hkeys, List.find?_cons_of_neg (by decide), List.find?_cons_of_neg (by decide),
    List.find?_filter]
  have hnone : ∀ k ∈ ["component", "correlation_id"], reservedKeys.contains k = false := by decide
  congr 1
  funext k
  by_cases hk : k ∈ ["component", "correlation_id"]
  · simp only [hnone k hk, Bool.false_eq_true, and_false, decide_false]
  · simp only [decide_eq_true hk, true_and, Bool.decide_eq_true]

/-- The first reserved key that a caller adds. -/
def Call.reserved? {n : Nat} (c : Call n) : Option String :=
  c.extra.keys.find? reservedKeys.contains

namespace Registry

variable {n : Nat}

/-- Whether a call reaches the least level of its reporter, and the first level other than zero from
its logger up to the root. -/
def Hears (g : Registry n) (c : Call n) : Prop :=
  (g.reporterOf c).least ≤ c.severity.level ∧
    g.levels.firstLevel (g.levels.lineage (g.reporterOf c).name) ≤ c.severity.level

/-- The same reporters, but for the least level of one of them. -/
def withLeast (g : Registry n) (i : Fin n) (least : Int) : Registry n where
  levels := g.levels
  reporters := g.reporters.set i { g.reporters.get i with least } i.isLt
  proper := g.proper

theorem passes_iff (g : Registry n) (c : Call n) :
    (g.reporterOf c).passes g.levels c.severity.level = true ↔ g.Hears c := by
  unfold Reporter.passes Levels.passes Hears
  rw [Levels.effective_eq_lineage g.proper, decide_eq_true c.severity.level_pos, Bool.true_and,
    Bool.and_eq_true, decide_eq_true_iff, decide_eq_true_iff]

theorem answer_of_not_hears {g : Registry n} {c : Call n} (h : ¬ g.Hears c) :
    g.answer c = .ok none := by
  unfold answer Reporter.emit Reporter.record?
  rw [if_neg (mt (g.passes_iff c).1 h)]

/-- The record of a call that is heard and has no reserved key. -/
def record (g : Registry n) (c : Call n) : Record :=
  let r := g.reporterOf c
  { logger := if isRoot r.name then "root" else r.name
    level := c.severity.level
    message := c.message
    extra :=
      ("component", (c.extra.lookup "component").getD r.component) ::
      ("correlation_id", (c.extra.lookup "correlation_id").getD r.correlation) ::
      c.extra.filter fun e => e.1 ∉ ["component", "correlation_id"]
    cause := c.cause }

theorem answer_of_hears {g : Registry n} {c : Call n} (h : g.Hears c) :
    g.answer c =
      match c.reserved? with
      | some key => .error (.reservedKey key)
      | none => .ok (some (g.record c)) := by
  unfold answer Reporter.emit Reporter.record?
  rw [if_pos ((g.passes_iff c).2 h)]
  dsimp only
  rw [Reporter.find?_reserved_fields _ c.distinct, Reporter.fields_eq _ c.distinct]
  rfl

/-- What a call tells its caller. -/
def outcome (g : Registry n) (c : Call n) : Except Fault Unit :=
  (g.answer c).map fun _ => ()

/-- The record that a call leaves, if it leaves one. -/
def left? (g : Registry n) (c : Call n) : Option Record :=
  (g.answer c).toOption.join

theorem call_eq (g : Registry n) (journal : Journal) (c : Call n) :
    (g.call journal c).1 = g.outcome c ∧
      (g.call journal c).2.toList = journal.toList ++ (g.left? c).toList := by
  unfold call outcome left?
  cases g.answer c with
  | error e => exact ⟨rfl, (List.append_nil _).symm⟩
  | ok record? =>
    cases record? with
    | none => exact ⟨rfl, (List.append_nil _).symm⟩
    | some record => exact ⟨rfl, Array.toList_push⟩

/-- Each call of a run has its own answer, and the records are in the order of the calls. -/
theorem run_eq (g : Registry n) (journal : Journal) (calls : List (Call n)) :
    (g.run journal calls).1 = calls.map g.outcome ∧
      (g.run journal calls).2.toList = journal.toList ++ calls.filterMap g.left? := by
  induction calls generalizing journal with
  | nil => exact ⟨rfl, (List.append_nil _).symm⟩
  | cons c calls ih =>
    obtain ⟨houtcome, hjournal⟩ := g.call_eq journal c
    obtain ⟨houtcomes, hrest⟩ := ih (g.call journal c).2
    constructor
    · show (g.call journal c).1 :: (g.run (g.call journal c).2 calls).1 = _
      rw [houtcome, houtcomes, List.map_cons]
    · show (g.run (g.call journal c).2 calls).2.toList = _
      rw [hrest, hjournal, List.append_assoc, List.filterMap_cons]
      cases g.left? c <;> rfl

/-- The least level of another reporter does not matter. -/
theorem answer_withLeast (g : Registry n) {i : Fin n} {c : Call n} (h : i ≠ c.reporter)
    (least : Int) : (g.withLeast i least).answer c = g.answer c := by
  have hr : (g.withLeast i least).reporterOf c = g.reporterOf c :=
    Vector.getElem_set_ne i.isLt c.reporter.isLt fun he => h (Fin.ext he)
  unfold answer
  rw [hr]
  rfl

/-- Whichever reporters share whichever loggers, and whichever calls are made of them: the records
stand in the journal in the order of the calls.  A call that is not heard leaves nothing and does
not fail.  Of one that is heard the first reserved key of its caller is reported, or else it leaves
one record, with the component and correlation of its reporter or those that the caller puts in
their place and then the caller's other fields in order.  Whether it is heard depends on the least
level of no other reporter; and where no two dots stand in a row and no ancestor is `r`, `ro` or
`roo`, the levels of all dotted ancestors count. -/
theorem run_accounts (g : Registry n) (journal : Journal) (calls : List (Call n)) :
    (g.run journal calls).1 = calls.map g.outcome ∧
      (g.run journal calls).2.toList = journal.toList ++ calls.filterMap g.left? ∧
      (∀ c : Call n, ¬ g.Hears c → g.outcome c = .ok () ∧ g.left? c = none) ∧
      (∀ (c : Call n) key, g.Hears c → c.reserved? = some key →
        g.outcome c = .error (.reservedKey key) ∧ g.left? c = none) ∧
      (∀ c : Call n, g.Hears c → c.reserved? = none →
        g.outcome c = .ok () ∧ g.left? c = some (g.record c)) ∧
      (∀ (c : Call n) i least, i ≠ c.reporter →
        (g.withLeast i least).outcome c = g.outcome c ∧
          (g.withLeast i least).left? c = g.left? c) ∧
      (∀ name : String, ¬ ['.', '.'] <:+: name.toList →
        (∀ p ∈ ancestors name, p ∉ ["r", "ro", "roo"]) →
        g.levels.firstLevel (g.levels.lineage name) =
          g.levels.firstLevel (name :: ancestors name ++ [""])) := by
  obtain ⟨houtcomes, hjournal⟩ := g.run_eq journal calls
  refine ⟨houtcomes, hjournal, fun c h => ?_, fun c key h hkey => ?_, fun c h hkey => ?_,
    fun c i least h => ?_, fun name hdots hroot => ?_⟩
  · rw [outcome, left?, answer_of_not_hears h]
    exact ⟨rfl, rfl⟩
  · rw [outcome, left?, answer_of_hears h, hkey]
    exact ⟨rfl, rfl⟩
  · rw [outcome, left?, answer_of_hears h, hkey]
    exact ⟨rfl, rfl⟩
  · rw [outcome, left?, g.answer_withLeast h least]
    exact ⟨rfl, rfl⟩
  · rw [← Levels.effective_eq_lineage g.proper, Levels.effective_eq_ancestors g.proper hdots hroot]

/-- Two reporters share a logger.  What the first one emits is below the least level of the second,
which then is asked for a reserved key. -/
example :
    let g := ((empty.setLevel "app" 20).add "app.db").add "app.db" .null (.str "pool") 40
    let extra := [("rows", .int 1), ("component", .str "own")]
    let reply := g.run #[] [
      { reporter := 0, severity := .info, message := "read", extra },
      { reporter := 1, severity := .info, message := "idle" },
      { reporter := 1, severity := .error, message := "lost", extra := [("name", .null)] }]
    reply.1 = [.ok (), .ok (), .error (.reservedKey "name")] ∧
      reply.2.toList.map (fun r => (r.message, r.extra)) =
        [("read", [("component", .str "own"), ("correlation_id", .null), ("rows", .int 1)])] :=
  ⟨rfl, rfl⟩

/-- Across two dots in a row the level of an ancestor does not count: the call would reach it, and
nothing is emitted. -/
theorem unheard_across_two_dots :
    let g := (empty.setLevel "store" 10).add "store..cache"
    let c : Call 1 := { reporter := 0, severity := .debug, message := "miss" }
    (g.reporterOf c).least ≤ c.severity.level ∧
      g.levels.firstLevel ("store..cache" :: ancestors "store..cache" ++ [""]) ≤
        c.severity.level ∧
      c.reserved? = none ∧ g.run #[] [c] = ([.ok ()], #[]) := by
  exact ⟨by decide, by decide, rfl, rfl⟩

end Registry

end LineCursor.Log
