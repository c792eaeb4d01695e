import ChargeController.Proofs.Telemetry.Mirror
import ChargeController.Service.Config

/-!
# Topics that are never mistaken

The topic of a metric is put together from a root, a device, the type of its controller and the name
of the metric.  Only the root may have slashes in it, and only the root may be empty, and then it
leaves no slash behind.  So a topic comes apart again when it is cut at its slashes from the right,
and topics of different devices or different metrics are different.

* `cutLast`, `cutFromRight` — a text that is cut at its last slashes.
* `ServiceConfig.noSlash_of_check` — what the checks of a configuration leave out of a topic.
* `ServiceConfig.cutFromRight_topic` — what a topic comes apart into.
* **`topics_never_collide`** — topics are equal only if all their parts are.
-/

namespace ChargeController

/-! ## Cutting from the right -/

/-- What stands before the last slash of a text, if it has one, and what stands after it. -/
def cutLast : List Char → Option (List Char) × List Char
  | [] => (none, [])
  | c :: s =>
      match cutLast s with
      | (some front, last) => (some (c :: front), last)
      | (none, last) => if c = '/' then (some [], last) else (none, c :: last)

/-- The parts of a text that is cut at its slashes from the right, at most so often.  The last part
of the text comes first. -/
def cutFromRight : Nat → List Char → List (List Char)
  | 0, s => [s]
  | cuts + 1, s =>
      match cutLast s with
      | (some front, last) => last :: cutFromRight cuts front
      | (none, last) => [last]

lemma cutLast_of_no_slash {s : List Char} (h : '/' ∉ s) : cutLast s = (none, s) := by
  induction s with
  | nil => rfl
  | cons c s ih =>
      obtain ⟨hc, hs⟩ := not_or.mp (mt List.mem_cons.mpr h)
      simp only [cutLast, ih hs]
      rw [if_neg (Ne.symm hc)]

lemma cutLast_append (front : List Char) {last : List Char} (h : '/' ∉ last) :
    cutLast (front ++ '/' :: last) = (some front, last) := by
  induction front with
  | nil => simp [cutLast, cutLast_of_no_slash h]
  | cons c front ih => simp only [List.cons_append, cutLast, ih]

lemma cutFromRight_single (cuts : Nat) {s : List Char} (h : '/' ∉ s) :
    cutFromRight cuts s = [s] := by
  cases cuts with
  | zero => rfl
  | succ cuts => simp only [cutFromRight, cutLast_of_no_slash h]

lemma cutFromRight_append (cuts : Nat) (front : List Char) {last : List Char} (h : '/' ∉ last) :
    cutFromRight (cuts + 1) (front ++ '/' :: last) = last :: cutFromRight cuts front := by
  simp only [cutFromRight, cutLast_append front h]

/-! ## What is checked -/

namespace ServiceConfig

lemma require_bind_ok {condition : Bool} {fault : ConfigFault} {rest : Except ConfigFault Unit} :
    (do require condition fault; rest) = .ok () ↔ condition = true ∧ rest = .ok () := by
  cases condition with
  | true => exact ⟨fun h => ⟨rfl, h⟩, fun h => h.2⟩
  | false => exact ⟨nofun, nofun⟩

/-- A part of a topic that is checked has no slash in it. -/
lemma noSlash_of_checkSegment {field value : String} {rest : Except ConfigFault Unit}
    (h : (do checkSegment field value; rest) = .ok ()) :
    '/' ∉ value.toList ∧ rest = .ok () := by
  simp only [checkSegment, bind_assoc, require_bind_ok, Bool.not_eq_true'] at h
  obtain ⟨-, hreserved, hrest⟩ := h
  refine ⟨fun hslash => ?_, hrest⟩
  exact List.any_eq_false.mp hreserved '/' hslash rfl

/-- A checked configuration has no slash in the names of its device. -/
lemma noSlash_of_check {c : ServiceConfig} (h : c.check = .ok ()) :
    '/' ∉ c.identity.deviceId.toList ∧ '/' ∉ c.identity.controllerType.toList := by
  obtain ⟨hdevice, hrest⟩ := noSlash_of_checkSegment h
  exact ⟨hdevice, (noSlash_of_checkSegment hrest).1⟩

end ServiceConfig

/-- A metric that is published: one of a snapshot's, or that of a failure. -/
def Metric.Published (m : Metric) : Prop :=
  (∃ s : Snapshot, m ∈ s.metrics) ∨ ∃ timestamp, m = .ofFailure timestamp

lemma Metric.Published.noSlash {m : Metric} (h : m.Published) : '/' ∉ m.name.toList := by
  rcases h with ⟨s, hm⟩ | ⟨timestamp, rfl⟩
  · have hname : m.name ∈ s.metrics.map (·.name) := List.mem_map.mpr ⟨m, hm, rfl⟩
    rw [Snapshot.metrics_name] at hname
    revert hname
    generalize m.name = name
    revert name
    decide
  · show '/' ∉ "collection-failure".toList
    decide

/-! ## Topics -/

namespace ServiceConfig

variable {c c' : ServiceConfig} {m m' : Metric}

/-- The topic of a metric under a configuration. -/
def topic (c : ServiceConfig) (m : Metric) : String :=
  rootedTopic c.topicRoot (c.identity.topic m.name)

/-- The root of a configuration as a part of its topics: none if it is empty. -/
def rootPart (c : ServiceConfig) : List String :=
  if c.topicRoot = "" then [] else [c.topicRoot]

lemma rootPart_inj (h : c.rootPart = c'.rootPart) : c.topicRoot = c'.topicRoot := by
  simp only [rootPart] at h
  split_ifs at h with hc hc'
  · rw [hc, hc']
  · exact (List.cons.inj h).1

/-- **A checked configuration's topic comes apart** into the name of the metric, the type of the
controller, the device and the root. -/
theorem cutFromRight_topic (h : c.check = .ok ()) (hm : m.Published) :
    (cutFromRight 3 (c.topic m).toList).map String.ofList =
      [m.name, c.identity.controllerType, c.identity.deviceId] ++ c.rootPart := by
  obtain ⟨hdevice, htype⟩ := noSlash_of_check h
  have hname := hm.noSlash
  by_cases hroot : c.topicRoot = ""
  · have htopic : (c.topic m).toList = c.identity.deviceId.toList ++
        '/' :: c.identity.controllerType.toList ++ '/' :: m.name.toList := by
      simp [topic, rootedTopic, DeviceIdentity.topic, hroot]
    rw [htopic, cutFromRight_append _ _ hname, cutFromRight_append _ _ htype,
      cutFromRight_single _ hdevice, rootPart, if_pos hroot]
    simp
  · have htopic : (c.topic m).toList = c.topicRoot.toList ++ '/' :: c.identity.deviceId.toList ++
        '/' :: c.identity.controllerType.toList ++ '/' :: m.name.toList := by
      simp [topic, rootedTopic, DeviceIdentity.topic, hroot]
    rw [htopic, cutFromRight_append _ _ hname, cutFromRight_append _ _ htype,
      cutFromRight_append _ _ hdevice, cutFromRight, rootPart, if_neg hroot]
    simp

end ServiceConfig

/-- **Topics never collide.**  A topic of a checked configuration, cut at its slashes from the
right, is the name of the metric, the type of the controller, the device and what is left of it,
which is the root, unless that is empty; so two topics are equal only if all of these are. -/
theorem topics_never_collide {c c' : ServiceConfig} (h : c.check = .ok ()) (h' : c'.check = .ok ())
    {m m' : Metric} (hm : m.Published) (hm' : m'.Published) :
    (cutFromRight 3 (c.topic m).toList).map String.ofList =
        [m.name, c.identity.controllerType, c.identity.deviceId] ++ c.rootPart ∧
      (c.topic m = c'.topic m' ↔
        c.topicRoot = c'.topicRoot ∧ c.identity.deviceId = c'.identity.deviceId ∧
          c.identity.controllerType = c'.identity.controllerType ∧ m.name = m'.name) := by
  refine ⟨c.cutFromRight_topic h hm, fun heq => ?_, ?_⟩
  · have hparts := ServiceConfig.cutFromRight_topic h hm
    rw [heq, ServiceConfig.cutFromRight_topic h' hm'] at hparts
    simp only [List.cons_append, List.nil_append, List.cons.injEq] at hparts
    obtain ⟨hname, htype, hdevice, hroot⟩ := hparts
    exact ⟨(ServiceConfig.rootPart_inj hroot).symm, hdevice.symm, htype.symm, hname.symm⟩
  · rintro ⟨hroot, hdevice, htype, hname⟩
    simp only [ServiceConfig.topic, DeviceIdentity.topic, hroot, hdevice, htype, hname]

/-- A service whose root has a slash in it. -/
def nestedConfig : ServiceConfig :=
  { ServiceConfig.usual with
    identity := ⟨"pump", "epever"⟩
    topicRoot := "site/north" }

/-- A service whose device has the name of a part of that root. -/
def flatConfig : ServiceConfig :=
  { ServiceConfig.usual with
    identity := ⟨"north", "pump"⟩
    topicRoot := "site" }

/-- Both publish below `site/north/pump`, and no topic of one is a topic of the other. -/
theorem nested_topics_apart :
    nestedConfig.check = .ok () ∧ flatConfig.check = .ok () ∧
      (Metric.ofFailure 0).Published ∧
      nestedConfig.topic (.ofFailure 0) = "site/north/pump/epever/collection-failure" ∧
      flatConfig.topic (.ofFailure 0) = "site/north/pump/collection-failure" ∧
      (cutFromRight 3 (nestedConfig.topic (.ofFailure 0)).toList).map String.ofList =
        ["collection-failure", "epever", "pump", "site/north"] ∧
      nestedConfig.topic (.ofFailure 0) ≠ flatConfig.topic (.ofFailure 0) := by
  have hnested : nestedConfig.check = .ok () := by rfl
  have hflat : flatConfig.check = .ok () := by rfl
  have hm : (Metric.ofFailure 0).Published := .inr ⟨0, rfl⟩
  obtain ⟨hparts, hequal⟩ := topics_never_collide hnested hflat hm hm
  refine ⟨hnested, hflat, hm, by rfl, by rfl, hparts, fun heq => ?_⟩
  exact absurd (hequal.mp heq).1 (by decide)

end ChargeController
