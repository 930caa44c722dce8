import LineCursor.Proofs.Json.RoundTrip
import LineCursor.Proofs.Settings.Derivation

/-!
Settings survive being written as JSON.

The table of valid settings describes these settings (`Settings.ofEntries_toEntries`), a value that
JSON can hold is its own copy (`Datum.plain_of_portable`), and a table of such values is read as it
was written.  So valid settings whose two values of free type can be held by JSON are read back from
their JSON text, in whatever form that is written:

    s.toJson style = .ok text ∧ ofJson text = .ok s          (Settings.ofJson_toJson)
-/

namespace LineCursor

namespace Datum

mutual

/-- What JSON can hold is its own copy. -/
theorem plain_of_portable (d : Datum) (h : d.portable = true) : d.plain = true := by
  match d with
  | .null | .bool _ | .int _ | .str _ => rfl
  | .float _ | .nan | .bytes _ | .record _ _ | .object _ _ _ => cases h
  | .list items => exact plainItems_of_portable items h
  | .dict entries =>
    rw [portable, Bool.and_eq_true] at h
    exact plainEntries_of_portable entries h.2

theorem plainItems_of_portable (ds : List Datum) (h : portableItems ds = true) :
    plainItems ds = true := by
  match ds with
  | [] => rfl
  | d :: rest =>
    rw [portableItems, Bool.and_eq_true] at h
    rw [plainItems, plain_of_portable d h.1, plainItems_of_portable rest h.2]
    rfl

theorem plainEntries_of_portable (es : List (String × Datum)) (h : portableEntries es = true) :
    plainEntries es = true := by
  match es with
  | [] => rfl
  | (_, v) :: rest =>
    rw [portableEntries, Bool.and_eq_true] at h
    rw [plainEntries, plain_of_portable v h.1, plainEntries_of_portable rest h.2]
    rfl

end

end Datum

namespace Settings

/-- The two values of free type are such as JSON can hold, and the table of settings around them
does not stand too deep. -/
structure Portable (s : Settings) : Prop where
  tallying : s.tallying.portable = true
  refillRecords : s.refillRecords.portable = true
  depth_tallying : s.tallying.depth < Json.Excess.maxDepth
  depth_refillRecords : s.refillRecords.depth < Json.Excess.maxDepth

namespace Portable

variable {s : Settings} (h : s.Portable)

include h

theorem table : (Datum.dict s.toEntries).portable = true := by
  have hnames : s.toEntries.keys.Nodup := by
    show fieldNames.Nodup
    decide
  have hcorrelation : (Datum.ofString? s.correlation).portable = true := by
    cases s.correlation <;> rfl
  rw [Datum.portable, Bool.and_eq_true]
  refine ⟨decide_eq_true hnames, ?_⟩
  show (s.tallying.portable && (s.refillRecords.portable && (true &&
    ((Datum.ofString? s.correlation).portable && true)))) = true
  rw [h.tallying, h.refillRecords, hcorrelation]
  rfl

theorem depth_table : (Datum.dict s.toEntries).depth ≤ Json.Excess.maxDepth := by
  have hcorrelation : (Datum.ofString? s.correlation).depth = 0 := by
    cases s.correlation <;> rfl
  have htallying := h.depth_tallying
  have hrefills := h.depth_refillRecords
  show max s.tallying.depth (max s.refillRecords.depth (max 0
    (max (Datum.ofString? s.correlation).depth 0))) + 1 ≤ _
  rw [hcorrelation]
  omega

end Portable

/-- Valid settings are read back from the JSON text that is written for them, with all fields as
they were, and the same text is written for them again. -/
theorem ofJson_toJson {s : Settings} (hv : s.Valid) (hp : s.Portable) {style : Json.Style}
    (hs : style.Spaced) :
    ∃ text, s.toJson style = .ok text ∧ ofJson text = .ok s ∧
      (ofJson text).bind (·.toJson style) = .ok text := by
  obtain ⟨text, hw, hr⟩ := Json.read_write hs hp.table hp.depth_table
  have htext : s.toJson style = .ok text := by
    unfold toJson
    rw [toTable_of_plain 0 (Datum.plain_of_portable _ hp.tallying)
      (Datum.plain_of_portable _ hp.refillRecords)]
    exact hw
  have hof : ofJson text = .ok s := by
    unfold ofJson
    rw [hr]
    show (ofEntries s.toEntries).mapError Fault.settings = .ok s
    rw [ofEntries_toEntries hv]
    rfl
  refine ⟨text, htext, hof, ?_⟩
  rw [hof]
  exact htext

/-- Nested values, marks and a character of two code units, in a form with tabulators. -/
def nested : Settings where
  tallying := .dict [("a\"\\", .list [.null, .int (-120), .dict []]), ("😀", .str "é\n\x07")]
  refillRecords := .list []
  threshold := "ınfo"
  correlation := some "\t"

theorem ofJson_toJson_nested :
    nested.Valid ∧ nested.Portable ∧ (Json.Style.lines "\t").Spaced ∧
      ∃ text, nested.toJson (.lines "\t") = .ok text ∧ ofJson text = .ok nested := by
  have hv : nested.Valid := (Draft.check_draft_iff nested).1 rfl
  have hp : nested.Portable := ⟨by decide, by decide, by decide, by decide⟩
  have hs : (Json.Style.lines "\t").Spaced := by
    refine .unit "\t" fun c hc => ?_
    obtain rfl : c = '\t' := List.mem_singleton.1 hc
    rfl
  obtain ⟨text, hw, hr, -⟩ := ofJson_toJson hv hp hs
  exact ⟨hv, hp, hs, text, hw, hr⟩

end Settings

end LineCursor
