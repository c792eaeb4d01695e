import ChargeController.Proofs.Settings.Discipline
import ChargeController.Proofs.Telemetry.Flight
import Mathlib.Data.List.Basic

/-!
# What is shown of a controller

A controller keeps its latest snapshot in one place and its gauges in another, and its two counters
are raised by collections and by requests about settings.  As long as one call comes after the
other, all of it stays in step: the gauges show the metrics of the latest snapshot, and the counters
show how many calls have failed.

* `gaugeSources` — which metric each gauge shows.
* **`mem_exposition`** — what is shown, and nothing else.
* `Monitor.Calls` — collections and requests about settings, one after the other.
* **`Monitor.exposition_mirrors`** — what is shown after any such calls.
-/

namespace ChargeController

/-! ## Gauges and metrics -/

/-- The gauges, each with the metric that it shows. -/
def gaugeSources : List (String × String) :=
  [("solar_battery_max_voltage", "battery-max-voltage"),
    ("solar_battery_min_voltage", "battery-min-voltage"),
    ("solar_battery_soc", "battery-soc"),
    ("solar_battery_temp", "battery-temp"),
    ("solar_battery_voltage", "battery-voltage"),
    ("solar_charging_current", "charging-current"),
    ("solar_charging_power", "charging-power"),
    ("solar_charging_status", "charging-status"),
    ("solar_device_temp", "device-temp"),
    ("solar_energy_generated_daily", "energy-generated-daily"),
    ("solar_panel_current", "array-current"),
    ("solar_panel_power", "array-power"),
    ("solar_panel_voltage", "array-voltage")]

namespace Snapshot

variable {s : Snapshot}

/-- The gauges of a snapshot show its metrics. -/
lemma gauges_eq (s : Snapshot) :
    s.gauges = gaugeSources.filterMap fun (gauge, source) =>
      (s.metrics.find? (·.name == source)).map fun metric => (gauge, metric.value) := by
  rfl

/-- Every snapshot has the same metrics. -/
lemma metrics_name (s : Snapshot) : s.metrics.map (·.name) =
    ["array-voltage", "array-current", "array-power", "charging-current", "charging-power",
      "battery-voltage", "battery-soc", "battery-temp", "battery-max-voltage",
      "battery-min-voltage", "device-temp", "energy-generated-daily", "charging-status",
      "collection-time"] :=
  rfl

lemma metrics_name_nodup (s : Snapshot) : (s.metrics.map (·.name)).Nodup := by
  rw [metrics_name]
  decide

/-- All of them but one are shown. -/
lemma sources_perm (s : Snapshot) :
    ("collection-time" :: gaugeSources.map (·.2)).Perm (s.metrics.map (·.name)) := by
  rw [metrics_name]
  decide

lemma eq_of_name (s : Snapshot) {metric metric' : Metric} (hmem : metric ∈ s.metrics)
    (hmem' : metric' ∈ s.metrics) (hname : metric.name = metric'.name) : metric = metric' :=
  List.inj_on_of_nodup_map s.metrics_name_nodup hmem hmem' hname

/-- Whatever a gauge shows is a metric. -/
lemma exists_metric (s : Snapshot) {gauge source : String}
    (hsource : (gauge, source) ∈ gaugeSources) : ∃ metric ∈ s.metrics, metric.name = source := by
  have hmem : source ∈ s.metrics.map (·.name) := by
    apply s.sources_perm.subset
    exact List.mem_cons_of_mem _ (List.mem_map.mpr ⟨_, hsource, rfl⟩)
  exact List.mem_map.mp hmem

lemma find?_metric {source : String} {metric : Metric} :
    s.metrics.find? (·.name == source) = some metric ↔
      metric ∈ s.metrics ∧ metric.name = source := by
  constructor
  · intro h
    have hname := List.find?_some h
    exact ⟨List.mem_of_find?_eq_some h, beq_iff_eq.mp hname⟩
  · rintro ⟨hmem, hname⟩
    obtain ⟨found, hfound⟩ : ∃ found, s.metrics.find? (·.name == source) = some found := by
      rw [← Option.isSome_iff_exists, List.find?_isSome]
      exact ⟨metric, hmem, beq_iff_eq.mpr hname⟩
    have hsource := List.find?_some hfound
    rw [hfound, s.eq_of_name (List.mem_of_find?_eq_some hfound) hmem
      ((beq_iff_eq.mp hsource).trans hname.symm)]

/-- **The gauges of a snapshot show its metrics**, each its own. -/
theorem mem_gauges {gauge : String} {value : MetricValue} :
    (gauge, value) ∈ s.gauges ↔ ∃ source, (gauge, source) ∈ gaugeSources ∧
      ∃ metric ∈ s.metrics, metric.name = source ∧ metric.value = value := by
  rw [gauges_eq, List.mem_filterMap]
  simp only [Prod.exists, Option.map_eq_some_iff, Prod.mk.injEq, find?_metric]
  constructor
  · rintro ⟨_, source, hsource, metric, ⟨hmem, hname⟩, rfl, hvalue⟩
    exact ⟨source, hsource, metric, hmem, hname, hvalue⟩
  · rintro ⟨source, hsource, metric, hmem, hname, hvalue⟩
    exact ⟨gauge, source, hsource, metric, ⟨hmem, hname⟩, rfl, hvalue⟩

/-- A gauge shows one metric. -/
lemma mem_gauge_of_source {gauge source : String} {value : MetricValue}
    (hsource : (gauge, source) ∈ gaugeSources) :
    (gauge, value) ∈ s.gauges ↔
      ∃ metric ∈ s.metrics, metric.name = source ∧ metric.value = value := by
  have hone : ∀ p ∈ gaugeSources, ∀ q ∈ gaugeSources, p.1 = q.1 → p.2 = q.2 := by decide
  rw [mem_gauges]
  constructor
  · rintro ⟨source', hsource', hmetric⟩
    obtain rfl : source' = source := hone _ hsource' _ hsource rfl
    exact hmetric
  · intro hmetric
    exact ⟨source, hsource, hmetric⟩

end Snapshot

/-! ## Blocks -/

/-- Two lists are cut in the same way at the first place where an element occurs. -/
lemma cut_inj {α : Type} {x : α} {as bs cs ds : List α} (has : x ∉ as) (hcs : x ∉ cs)
    (h : as ++ x :: bs = cs ++ x :: ds) : as = cs ∧ bs = ds := by
  rcases append_eq_append_cons.mp h with ⟨rest, rfl, -⟩ | ⟨rest, rfl, hrest⟩
  · exact absurd List.mem_append_cons_self has
  · cases rest with
    | nil => exact ⟨(List.append_nil as).symm, (List.cons.inj hrest).2⟩
    | cons y rest =>
        obtain ⟨rfl, -⟩ := List.cons.inj hrest
        exact absurd List.mem_append_cons_self hcs

section

variable {kind kind' name name' text text' : String}

/-- A block says of what kind it is, whose it is and what it shows. -/
lemma exposedBlock_inj (hname : ' ' ∉ name.toList) (hname' : ' ' ∉ name'.toList)
    (hkind : '\n' ∉ kind.toList) (hkind' : '\n' ∉ kind'.toList) :
    exposedBlock kind name text = exposedBlock kind' name' text' ↔
      kind = kind' ∧ name = name' ∧ text = text' := by
  constructor
  · intro h
    have hlist := congrArg String.toList h
    simp only [exposedBlock, String.toList_append, List.append_assoc, List.append_cancel_left_eq]
      at hlist
    obtain ⟨hnames, hrest⟩ := cut_inj hname hname' hlist
    obtain ⟨hkinds, hrest⟩ := cut_inj hkind hkind' hrest
    obtain ⟨-, htexts⟩ := cut_inj hname hname' hrest
    exact ⟨String.toList_inj.mp hkinds, String.toList_inj.mp hnames, String.toList_inj.mp htexts⟩
  · rintro ⟨rfl, rfl, rfl⟩
    rfl

lemma mem_counterBlock {count : Nat} (hname : ' ' ∉ name.toList) (hname' : ' ' ∉ name'.toList)
    (hkind : '\n' ∉ kind.toList) :
    exposedBlock kind name text ∈ counterBlock name' count ↔
      kind = "counter" ∧ name = name' ∧ count ≠ 0 ∧ text = toString count := by
  simp only [counterBlock]
  split
  · next hzero => simp [hzero]
  · next hne =>
      rw [List.mem_singleton, exposedBlock_inj hname hname' hkind (by decide)]
      simp [hne]

lemma no_blank_of_source {gauge source : String} (hsource : (gauge, source) ∈ gaugeSources) :
    ' ' ∉ gauge.toList := by
  have hall : ∀ p ∈ gaugeSources, ' ' ∉ p.1.toList := by decide
  exact hall _ hsource

lemma mem_gaugeBlocks {s : Snapshot} (hname : ' ' ∉ name.toList) (hkind : '\n' ∉ kind.toList) :
    exposedBlock kind name text ∈
        (s.gauges.map fun (gauge, value) => exposedBlock "gauge" gauge value.toDouble.plainText) ↔
      kind = "gauge" ∧ ∃ value, (name, value) ∈ s.gauges ∧ text = value.toDouble.plainText := by
  have hgauges : ∀ gauge ∈ s.gauges, ' ' ∉ gauge.1.toList := by
    rintro ⟨gauge, value⟩ hmem
    obtain ⟨source, hsource, -⟩ := Snapshot.mem_gauges.mp hmem
    exact no_blank_of_source hsource
  rw [List.mem_map]
  constructor
  · rintro ⟨⟨gauge, value⟩, hmem, hblock⟩
    obtain ⟨rfl, rfl, rfl⟩ :=
      (exposedBlock_inj (hgauges _ hmem) hname (by decide) hkind).mp hblock
    exact ⟨rfl, value, hmem, rfl⟩
  · rintro ⟨rfl, value, hmem, rfl⟩
    exact ⟨_, hmem, rfl⟩

/-- **What is shown, and nothing else.** -/
theorem mem_exposition {r : Recorded} (hname : ' ' ∉ name.toList) (hkind : '\n' ∉ kind.toList) :
    exposedBlock kind name text ∈ r.exposition ↔
      (kind = "gauge" ∧ ∃ s value, r.gauges = some s ∧ (name, value) ∈ s.gauges ∧
        text = value.toDouble.plainText) ∨
      (kind = "counter" ∧ name = "solar_read_failures" ∧ r.failures ≠ 0 ∧
        text = toString r.failures) ∨
      (kind = "counter" ∧ name = "solar_write_failures" ∧ r.writeFailures ≠ 0 ∧
        text = toString r.writeFailures) := by
  rw [Recorded.exposition, List.mem_append, List.mem_append, or_assoc,
    mem_counterBlock hname (by decide) hkind, mem_counterBlock hname (by decide) hkind]
  refine or_congr ?_ Iff.rfl
  cases r.gauges with
  | none => simp
  | some s => simp [mem_gaugeBlocks hname hkind]

end

namespace Monitor

open Dialogue

/-! ## One call after the other -/

/-- A call of a controller that has ended. -/
inductive Call where
  | collection (result : CollectionResult)
  | operation (f : Settings.Finished)

namespace Call

/-- Whether a collection has failed. -/
def readFailed : Call → Bool
  | collection result => result == .failed
  | operation _ => false

/-- Whether a refused write has ended a request about settings. -/
def writeFailed : Call → Bool
  | collection _ => false
  | operation f => f.writeFailed

end Call

/-- What a monitor replies to the collection of a task, whatever the device does. -/
def Collects (n : Nat) : Surroundings Monitor Ask Reply :=
  fun m q r m' => service.allows m n q r ∧ m' = service.replied m n q

/-- What a request about settings does to a monitor, whatever the device and the cache do. -/
def Counts : Surroundings Monitor Settings.Ask Settings.Reply :=
  fun m q _ m' => m' = match q with
    | .countWriteFailure => { m with recorded := m.recorded.countWriteFailure }
    | _ => m

/-- Calls one after the other, in their order. -/
inductive Calls (m : Monitor) : List Call → Monitor → Prop
  | start : Calls m [] m
  | collection {calls m' m'' n es result} (before : Calls m calls m')
      (ends : Ends collecting es result) (answered : Answered (Collects n) m' es m'') :
      Calls m (calls ++ [.collection result]) m''
  | operation {calls m' m''} {f : Settings.Finished} (before : Calls m calls m')
      (tells : Settings.Tells f.op.procedure f.account f.result)
      (answered : Answered Counts m' f.account m'') : Calls m (calls ++ [.operation f]) m''

/-! ## What one call does -/

variable {m m' : Monitor} {n : Nat}

lemma notes_of_collects {es : List (Exchange Ask Reply)} (h : Answered (Collects n) m es m') :
    m'.idle = m.idle.notes (noted es) := by
  induction h with
  | nil m => rfl
  | @cons m m₁ m₂ e es first rest ih =>
      obtain ⟨q, r⟩ := e
      obtain ⟨-, rfl⟩ := first
      rw [ih]
      cases q with
      | begin => exact congrArg (notes · (noted es)) idle_begin
      | gather => rfl
      | note x => exact congrArg (notes · (noted es)) idle_note
      | unixTime => rfl
      | finish => exact congrArg (notes · (noted es)) idle_drop

lemma recorded_of_counts {es : List Settings.Line} (h : Answered Counts m es m') :
    m' = { m with recorded :=
      { m.recorded with writeFailures := m.recorded.writeFailures + Settings.failures es } } := by
  induction h with
  | nil m => rfl
  | @cons m m₁ m₂ e es first rest ih =>
      have hsum : Settings.failures (e :: es) = Settings.failures [e] + Settings.failures es :=
        Settings.failures_append [e] es
      rw [ih, hsum, ← Nat.add_assoc]
      obtain ⟨q, r⟩ := e
      cases q with
      | countWriteFailure =>
          rw [show m₁ = _ from first]
          rfl
      | _ =>
          rw [show m₁ = m from first]
          rfl

/-- A collection has nothing to do with failed writes. -/
lemma writeFailures_notes {xs : List Notice} :
    (m.notes xs).recorded.writeFailures = m.recorded.writeFailures := by
  induction xs generalizing m with
  | nil => rfl
  | cons x xs ih =>
      rw [notes_cons, ih]
      cases x <;> rfl

/-- That what is shown of a monitor is in step with its latest snapshot and with some calls. -/
structure InStep (calls : List Call) (m : Monitor) : Prop where
  gauges : m.recorded.gauges = m.latest
  failures : m.recorded.failures = calls.countP (·.readFailed)
  writeFailures : m.recorded.writeFailures = calls.countP (·.writeFailed)

variable {calls : List Call}

lemma inStep_idle : InStep calls m.idle ↔ InStep calls m :=
  ⟨fun h => ⟨h.gauges, h.failures, h.writeFailures⟩,
    fun h => ⟨h.gauges, h.failures, h.writeFailures⟩⟩

/-- A collection keeps what is shown in step. -/
lemma InStep.collection {es : List (Exchange Ask Reply)} {result : CollectionResult}
    (h : InStep calls m) (hends : Ends collecting es result)
    (hanswered : Answered (Collects n) m es m') :
    InStep (calls ++ [.collection result]) m' := by
  have hnotes := notes_of_collects hanswered
  rw [← inStep_idle] at h ⊢
  rw [hnotes]
  clear hnotes hanswered
  rcases ends_collecting hends with ⟨rfl, rfl⟩ | ⟨entry, gathered, rest, rfl, hnoted, rfl, -⟩
  · show InStep (calls ++ [.collection .skipped]) m.idle
    exact ⟨h.gauges, by simp [h.failures, Call.readFailed],
      by simp [h.writeFailures, Call.writeFailed]⟩
  have hall : noted (⟨.begin, true⟩ :: ⟨.gather, gathered⟩ :: rest ++ [⟨.finish, ()⟩]) =
      entry.notices := by
    rw [noted_append, ← hnoted]
    exact List.append_nil _
  rw [hall]
  cases entry with
  | kept s =>
      have hkeeps := keeps_notes m.idle s
      refine ⟨hkeeps.gauges.trans hkeeps.latest.symm, ?_, ?_⟩
      · simp [hkeeps.failures, h.failures, Call.readFailed, Entry.result]
      · simp [writeFailures_notes, h.writeFailures, Call.writeFailed]
  | missed unixTime =>
      have hmisses := misses_notes m.idle unixTime
      refine ⟨?_, ?_, ?_⟩
      · rw [hmisses.gauges, hmisses.latest, h.gauges]
      · simp [hmisses.failures, h.failures, Call.readFailed, Entry.result]
      · simp [writeFailures_notes, h.writeFailures, Call.writeFailed]

/-- So does a request about settings. -/
lemma InStep.operation {f : Settings.Finished} (h : InStep calls m)
    (htells : Settings.Tells f.op.procedure f.account f.result)
    (hanswered : Answered Counts m f.account m') : InStep (calls ++ [.operation f]) m' := by
  rw [recorded_of_counts hanswered]
  refine ⟨h.gauges, ?_, ?_⟩
  · simpa [Call.readFailed] using h.failures
  · dsimp only
    rw [(Settings.Operation.disciplined htells).failures_eq, h.writeFailures, List.countP_append,
      List.countP_singleton]
    rfl

/-- **Calls keep what is shown in step.** -/
theorem Calls.inStep {identity : DeviceIdentity} (run : Calls (.start identity) calls m) :
    InStep calls m := by
  induction run with
  | start => exact ⟨rfl, rfl, rfl⟩
  | collection _ ends answered ih => exact ih.collection ends answered
  | operation _ tells answered ih => exact ih.operation tells answered

/-! ## What is shown after any calls -/

/-- A counter is shown exactly if one of the calls counts, and shows how many do. -/
lemma shown_counter {text : String} {counts : Call → Bool} {count : Nat}
    (hcount : count = calls.countP counts) :
    (count ≠ 0 ∧ text = toString count) ↔
      (∃ call ∈ calls, counts call = true) ∧ text = toString (calls.countP counts) := by
  rw [hcount, ← Nat.pos_iff_ne_zero, List.countP_pos_iff]

/-- **What is shown mirrors what has happened.**  After any collections and requests about settings,
one after the other, each gauge is shown exactly if there is a latest snapshot, and shows its metric
of that snapshot; the counters are shown exactly if a call has failed, and show how many have. -/
theorem exposition_mirrors {identity : DeviceIdentity} {calls : List Call} {m : Monitor}
    (run : Calls (.start identity) calls m) :
    (∀ gauge source, (gauge, source) ∈ gaugeSources →
      ((∃ text, exposedBlock "gauge" gauge text ∈ m.recorded.exposition) ↔
        ∃ s, m.latest = some s) ∧
      ∀ s, m.latest = some s → ∃ metric ∈ s.metrics, metric.name = source ∧
        ∀ text, exposedBlock "gauge" gauge text ∈ m.recorded.exposition ↔
          text = metric.value.toDouble.plainText) ∧
    (∀ text, exposedBlock "counter" "solar_read_failures" text ∈ m.recorded.exposition ↔
      (∃ call ∈ calls, call.readFailed = true) ∧
        text = toString (calls.countP (·.readFailed))) ∧
    (∀ text, exposedBlock "counter" "solar_write_failures" text ∈ m.recorded.exposition ↔
      (∃ call ∈ calls, call.writeFailed = true) ∧
        text = toString (calls.countP (·.writeFailed))) ∧
    ∀ s : Snapshot,
      ("collection-time" :: gaugeSources.map (·.2)).Perm (s.metrics.map (·.name)) := by
  have hstep := run.inStep
  refine ⟨?_, ?_, ?_, Snapshot.sources_perm⟩
  · intro gauge source hsource
    have hshown (text : String) :
        exposedBlock "gauge" gauge text ∈ m.recorded.exposition ↔
          ∃ s, m.latest = some s ∧ ∃ metric ∈ s.metrics, metric.name = source ∧
            text = metric.value.toDouble.plainText := by
      rw [mem_exposition (no_blank_of_source hsource) (by decide), hstep.gauges]
      simp [Snapshot.mem_gauge_of_source hsource, and_assoc]
    simp only [hshown]
    constructor
    · constructor
      · rintro ⟨text, s, hlatest, -⟩
        exact ⟨s, hlatest⟩
      · rintro ⟨s, hlatest⟩
        obtain ⟨metric, hmem, hname⟩ := s.exists_metric hsource
        exact ⟨_, s, hlatest, metric, hmem, hname, rfl⟩
    · intro s hlatest
      obtain ⟨metric, hmem, hname⟩ := s.exists_metric hsource
      refine ⟨metric, hmem, hname, fun text => ?_⟩
      constructor
      · rintro ⟨s', hlatest', metric', hmem', hname', rfl⟩
        obtain rfl : s = s' := Option.some.inj (hlatest.symm.trans hlatest')
        rw [s.eq_of_name hmem hmem' (hname.trans hname'.symm)]
      · intro htext
        exact ⟨s, hlatest, metric, hmem, hname, htext⟩
  · intro text
    rw [mem_exposition (by decide) (by decide), ← shown_counter hstep.failures]
    simp
  · intro text
    rw [mem_exposition (by decide) (by decide), ← shown_counter hstep.writeFailures]
    simp

/-- A collection that is alone with its monitor, with what it gathers. -/
def alone (gathered : Option (Except CollectionFault Snapshot)) :
    Monitor → (q : Ask) → Reply q × Monitor
  | m, .begin => (m.running.isNone, (m.begin? 0).getD m)
  | m, .gather => (gathered, m)
  | m, .note x => ((), m.note x)
  | m, .unixTime => ((1700000000 : Int), m)
  | m, .finish => ((), m.drop 0)

lemma collects_alone (gathered : Option (Except CollectionFault Snapshot)) (m : Monitor) (q : Ask) :
    Collects 0 m q (alone gathered m q).1 (alone gathered m q).2 := by
  cases q with
  | begin => exact ⟨rfl, rfl⟩
  | gather => exact ⟨trivial, rfl⟩
  | note x => exact ⟨trivial, rfl⟩
  | unixTime => exact ⟨trivial, rfl⟩
  | finish => exact ⟨trivial, rfl⟩

lemma exists_counts (m : Monitor) (es : List Settings.Line) : ∃ m', Answered Counts m es m' := by
  induction es generalizing m with
  | nil => exact ⟨m, .nil m⟩
  | cons e es ih =>
      obtain ⟨m', h⟩ := ih _
      exact ⟨m', .cons rfl h⟩

open Settings in
/-- A snapshot, a failure and a refused write are shown. -/
theorem three_calls_shown :
    ∃ calls m, Calls (.start ⟨"roof", "tracer"⟩) calls m ∧ m.latest = some .blank ∧
      exposedBlock "gauge" "solar_battery_soc" "0" ∈ m.recorded.exposition ∧
      exposedBlock "counter" "solar_read_failures" "1" ∈ m.recorded.exposition ∧
      exposedBlock "counter" "solar_write_failures" "1" ∈ m.recorded.exposition := by
  let kept := play (alone (some (.ok .blank))) (.start ⟨"roof", "tracer"⟩) collecting
  let missed := play (alone none) kept.2.2 collecting
  let op : Operation := .updateProfile ⟨some .gel, some 150⟩
  let refused := play (World.serve refuses 60000) World.sample op.procedure.run
  have hresults : kept.2.1 = .published 14 ∧ missed.2.1 = .failed := by decide +kernel
  have hrefused : Finished.writeFailed ⟨op, refused.1, refused.2.1⟩ = true := by decide +kernel
  obtain ⟨hkept, hanswered⟩ : Ends collecting kept.1 kept.2.1 ∧ _ :=
    play_ends (collects_alone (some (.ok .blank))) (.start ⟨"roof", "tracer"⟩) collecting
  obtain ⟨hmissed, hanswered'⟩ : Ends collecting missed.1 missed.2.1 ∧ _ :=
    play_ends (collects_alone none) kept.2.2 collecting
  obtain ⟨htells, -⟩ := play_ends
    (World.serve_replies (fun r (_ : refuses r = true) => trivial) 60000) World.sample
    op.procedure.run
  obtain ⟨m, hcounts⟩ := exists_counts missed.2.2 refused.1
  rw [hresults.1] at hkept
  rw [hresults.2] at hmissed
  have run := ((Calls.start.collection hkept hanswered).collection hmissed hanswered').operation
    (f := ⟨op, refused.1, refused.2.1⟩) htells hcounts
  obtain ⟨hgauges, hreads, hwrites, -⟩ := exposition_mirrors run
  have hlatest : m.latest = some .blank := by
    rw [recorded_of_counts hcounts]
    decide +kernel
  refine ⟨_, m, run, hlatest, ?_, ?_, ?_⟩
  · obtain ⟨-, hshows⟩ := hgauges "solar_battery_soc" "battery-soc" (by decide)
    obtain ⟨metric, hmem, hname, htext⟩ := hshows _ hlatest
    have hcharge : (⟨"battery-soc", .count 0, "percent", 0⟩ : Metric) ∈ Snapshot.blank.metrics := by
      simp [Snapshot.metrics, Snapshot.blank]
    rw [htext, Snapshot.eq_of_name .blank hmem hcharge hname]
    decide +kernel
  · rw [hreads]
    refine ⟨⟨.collection .failed, by simp, rfl⟩, ?_⟩
    exact congrArg toString (show 1 = _ by simp [Call.readFailed])
  · rw [hwrites]
    refine ⟨⟨.operation ⟨op, refused.1, refused.2.1⟩, by simp, hrefused⟩, ?_⟩
    exact congrArg toString (show 1 = _ by simp [Call.writeFailed, hrefused])

end Monitor

end ChargeController
