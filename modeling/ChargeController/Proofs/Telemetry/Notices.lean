import ChargeController.Proofs.Dialogue.Turns
import ChargeController.Telemetry.Monitor

/-!
# What a collection notes

A collection that is not skipped notes one entry, bit by bit: a snapshot with all its metrics, or a
failure with its one metric.  Between two of its notices it may have to wait, and other callers may
come; but they find a collection running.

* `Monitor.Entry` — what a collection notes from its begin to its finish.
* **`Monitor.ends_collecting`** — what a collection says from its begin to its end.
* `Monitor.service`, `Monitor.turn` — a monitor and the turns of its callers.
-/

namespace ChargeController

/-- The metrics of a snapshot are fourteen. -/
theorem Snapshot.metrics_length (s : Snapshot) : s.metrics.length = 14 :=
  rfl

/-- Every metric of a snapshot has the snapshot's time. -/
theorem Snapshot.metrics_timestamp (s : Snapshot) : ∀ m ∈ s.metrics, m.timestamp = s.timestamp := by
  intro m hm
  obtain ⟨_, -, rfl⟩ := List.mem_map.mp hm
  rfl

namespace Monitor

open Dialogue Callers

/-! ## Notices -/

/-- What was noted in an exchange. -/
def noticeOf : Exchange Ask Reply → Option Notice
  | ⟨.note x, _⟩ => some x
  | _ => none

/-- All that was noted, in order. -/
def noted (es : List (Exchange Ask Reply)) : List Notice :=
  es.filterMap noticeOf

section

variable {es es' : List (Exchange Ask Reply)} {x : Notice}

@[simp] lemma noted_nil : noted [] = [] :=
  rfl

@[simp] lemma noted_append : noted (es ++ es') = noted es ++ noted es' :=
  List.filterMap_append

@[simp] lemma noted_note {r : Unit} : noted (⟨.note x, r⟩ :: es) = x :: noted es :=
  rfl

lemma noted_other {q : Ask} {r : Reply q} (hq : ∀ x, q ≠ .note x) :
    noted (⟨q, r⟩ :: es) = noted es := by
  cases q with
  | note x => exact absurd rfl (hq x)
  | begin => rfl
  | gather => rfl
  | unixTime => rfl
  | finish => rfl

end

/-- The monitor with any number of things noted. -/
def notes (m : Monitor) (xs : List Notice) : Monitor :=
  xs.foldl note m

@[simp] lemma notes_nil {m : Monitor} : m.notes [] = m :=
  rfl

@[simp] lemma notes_cons {m : Monitor} {x : Notice} {xs : List Notice} :
    m.notes (x :: xs) = (m.note x).notes xs :=
  rfl

@[simp] lemma notes_append {m : Monitor} {xs ys : List Notice} :
    m.notes (xs ++ ys) = (m.notes xs).notes ys :=
  List.foldl_append

/-- Metrics are published one after the other. -/
lemma notes_publish {m : Monitor} {metrics : List Metric} :
    m.notes (metrics.map .publish) =
      { m with published := (metrics.map m.identity.message).reverse ++ m.published } := by
  induction metrics generalizing m with
  | nil => rfl
  | cons metric rest ih =>
      rw [List.map_cons, notes_cons, ih]
      simp [note]

/-! ## Entries -/

/-- What a collection notes from its begin to its finish. -/
inductive Entry where
  | kept (s : Snapshot)
  | missed (unixTime : Int)

namespace Entry

/-- The notices of an entry. -/
def notices : Entry → List Notice
  | kept s => .record s :: .retain s :: s.metrics.map .publish
  | missed unixTime => [.failure, .publish (Metric.ofFailure unixTime)]

/-- What becomes of a collection with this entry. -/
def result : Entry → CollectionResult
  | kept s => .published s.metrics.length
  | missed _ => .failed

/-- Whether an entry is about what was gathered. -/
def IsAbout (gathered : Option (Except CollectionFault Snapshot)) : Entry → Prop
  | kept s => gathered = some (.ok s)
  | missed _ => ∀ s, gathered ≠ some (.ok s)

end Entry

/-- What it means that a snapshot was kept and published. -/
structure Keeps (s : Snapshot) (before after : Monitor) : Prop where
  snapshots : after.recorded.snapshots = before.recorded.snapshots + 1
  failures : after.recorded.failures = before.recorded.failures
  gauges : after.recorded.gauges = some s
  latest : after.latest = some s
  published : after.published = (s.metrics.map before.identity.message).reverse ++ before.published

/-- What it means that a failure was counted and published. -/
structure Misses (unixTime : Int) (before after : Monitor) : Prop where
  snapshots : after.recorded.snapshots = before.recorded.snapshots
  failures : after.recorded.failures = before.recorded.failures + 1
  gauges : after.recorded.gauges = before.recorded.gauges
  latest : after.latest = before.latest
  published :
    after.published = before.identity.message (Metric.ofFailure unixTime) :: before.published

lemma keeps_notes (m : Monitor) (s : Snapshot) : Keeps s m (m.notes (Entry.kept s).notices) := by
  rw [Entry.notices, notes_cons, notes_cons, notes_publish]
  exact ⟨rfl, rfl, rfl, rfl, by simp only [note]⟩

lemma misses_notes (m : Monitor) (unixTime : Int) :
    Misses unixTime m (m.notes (Entry.missed unixTime).notices) :=
  ⟨rfl, rfl, rfl, rfl, rfl⟩

/-! ## What a collection says -/

lemma ends_publish {metrics : List Metric} {es : List (Exchange Ask Reply)} {u : Unit}
    (h : Ends (publish metrics) es u) : noted es = metrics.map .publish := by
  induction metrics generalizing es with
  | nil =>
      obtain ⟨rfl, -⟩ := ends_done.mp h
      rfl
  | cons metric rest ih =>
      obtain ⟨r, es', rfl, hrest⟩ := ends_question_bind.mp h
      exact congrArg _ (ih hrest)

lemma ends_succeed {s : Snapshot} {es : List (Exchange Ask Reply)} {o : CollectionResult}
    (h : Ends (succeed s) es o) :
    ∃ rest, es = rest ++ [⟨.finish, ()⟩] ∧ noted rest = (Entry.kept s).notices ∧
      o = (Entry.kept s).result := by
  obtain ⟨_, es₁, rfl, hrecorded⟩ := ends_question_bind.mp h
  obtain ⟨_, es₂, rfl, hretained⟩ := ends_question_bind.mp hrecorded
  obtain ⟨published, _, es₃, rfl, hpublished, hlast⟩ := ends_bind.mp hretained
  obtain ⟨_, es₄, rfl, hdone⟩ := ends_question_bind.mp hlast
  obtain ⟨rfl, rfl⟩ := ends_done.mp hdone
  refine ⟨_ :: _ :: published, rfl, ?_, rfl⟩
  exact congrArg (.record s :: .retain s :: ·) (ends_publish hpublished)

lemma ends_fail {es : List (Exchange Ask Reply)} {o : CollectionResult} (h : Ends fail es o) :
    ∃ unixTime rest, es = rest ++ [⟨.finish, ()⟩] ∧ noted rest = (Entry.missed unixTime).notices ∧
      o = (Entry.missed unixTime).result := by
  obtain ⟨_, es₁, rfl, hcounted⟩ := ends_question_bind.mp h
  obtain ⟨unixTime, es₂, rfl, htimed⟩ := ends_question_bind.mp hcounted
  obtain ⟨published, _, es₃, rfl, hpublished, hlast⟩ := ends_bind.mp htimed
  obtain ⟨_, es₄, rfl, hdone⟩ := ends_question_bind.mp hlast
  obtain ⟨rfl, rfl⟩ := ends_done.mp hdone
  refine ⟨unixTime, _ :: _ :: published, rfl, ?_, rfl⟩
  exact congrArg (.failure :: ·) (ends_publish hpublished)

/-- **A collection is skipped at once, or notes one entry and finishes.** -/
theorem ends_collecting {es : List (Exchange Ask Reply)} {o : CollectionResult}
    (h : Ends collecting es o) :
    es = [⟨.begin, false⟩] ∧ o = .skipped ∨
      ∃ (entry : Entry) (gathered : _) (rest : _),
        es = ⟨.begin, true⟩ :: ⟨.gather, gathered⟩ :: rest ++ [⟨.finish, ()⟩] ∧
          noted rest = entry.notices ∧ o = entry.result ∧ entry.IsAbout gathered := by
  obtain ⟨begun, es₁, rfl, hbegun⟩ := ends_question_bind.mp h
  cases begun with
  | false =>
      obtain ⟨rfl, rfl⟩ := ends_done.mp hbegun
      exact .inl ⟨rfl, rfl⟩
  | true =>
      obtain ⟨gathered, es₂, rfl, hgathered⟩ := ends_question_bind.mp hbegun
      refine .inr ?_
      match gathered with
      | some (.ok s) =>
          obtain ⟨rest, rfl, hnoted, ho⟩ := ends_succeed hgathered
          exact ⟨.kept s, _, rest, rfl, hnoted, ho, rfl⟩
      | some (.error fault) =>
          obtain ⟨unixTime, rest, rfl, hnoted, ho⟩ := ends_fail hgathered
          exact ⟨.missed unixTime, _, rest, rfl, hnoted, ho, fun s hs => nomatch hs⟩
      | none =>
          obtain ⟨unixTime, rest, rfl, hnoted, ho⟩ := ends_fail hgathered
          exact ⟨.missed unixTime, _, rest, rfl, hnoted, ho, fun s hs => nomatch hs⟩

/-! ## Callers of a monitor -/

/-- What a monitor says to its callers.  Gathering may take any time and have any result; keeping
the latest snapshot may take time too, as others may be looking at it. -/
def service : Service Monitor Ask Reply where
  asked m _ _ := m
  allows m _
    | .begin, begun => begun = m.running.isNone
    | _, _ => True
  replied m n
    | .begin => (m.begin? n).getD m
    | .note x => m.note x
    | .finish => m.drop n
    | _ => m
  waits
    | .gather => true
    | .note (.retain _) => true
    | _ => false
  dropped m n := m.drop n

/-- The turn of a caller: its collection. -/
def turn : Turn Ask Reply where
  begins
    | .begin, begun => begun
    | _, _ => false
  ends
    | .finish => true
    | _ => false
  needs
    | .gather => true
    | .note _ => true
    | _ => false

lemma orderly_publish {α : Type} {f : Unit → Talk α} (hf : ∀ u, turn.Orderly (f u) true)
    (metrics : List Metric) : turn.Orderly (publish metrics >>= f) true := by
  induction metrics with
  | nil => exact hf ()
  | cons metric rest ih =>
      exact Turn.orderly_ask (t := turn) (q := .note (.publish metric)) (fun _ => rfl) rfl
        (fun _ => rfl) fun _ => ih

lemma orderly_succeed (s : Snapshot) : turn.Orderly (succeed s) true := by
  refine Turn.orderly_ask (t := turn) (q := .note (.record s)) (fun _ => rfl) rfl (fun _ => rfl)
    fun _ => ?_
  refine Turn.orderly_ask (t := turn) (q := .note (.retain s)) (fun _ => rfl) rfl (fun _ => rfl)
    fun _ => ?_
  refine orderly_publish (f := fun _ => ask .finish >>= fun _ => pure _) (fun _ => ?_) s.metrics
  exact Turn.orderly_end (t := turn) (q := .finish) rfl fun _ => ⟨_, rfl⟩

lemma orderly_fail : turn.Orderly fail true := by
  refine Turn.orderly_ask (t := turn) (q := .note .failure) (fun _ => rfl) rfl (fun _ => rfl)
    fun _ => ?_
  refine Turn.orderly_ask (t := turn) (q := .unixTime) (fun _ => rfl) rfl (fun _ => rfl)
    fun unixTime => ?_
  refine orderly_publish (f := fun _ => ask .finish >>= fun _ => pure _) (fun _ => ?_)
    [Metric.ofFailure unixTime]
  exact Turn.orderly_end (t := turn) (q := .finish) rfl fun _ => ⟨_, rfl⟩

/-- A collection asks for a snapshot and notes things only while it runs. -/
theorem orderly_collecting : turn.Orderly collecting false := by
  refine Turn.orderly_begin (t := turn) (q := .begin) rfl rfl fun begun => ?_
  cases begun with
  | false => rfl
  | true =>
      refine Turn.orderly_ask (t := turn) (q := .gather) (fun _ => rfl) rfl (fun _ => rfl)
        fun gathered => ?_
      match gathered with
      | some (.ok s) => exact orderly_succeed s
      | some (.error fault) => exact orderly_fail
      | none => exact orderly_fail

end Monitor

end ChargeController
