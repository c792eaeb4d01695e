import ChargeController.Proofs.Json.Records
import ChargeController.Proofs.Settings.Words
import ChargeController.Settings.Device
import ChargeController.Telemetry.Identity
import ChargeController.Telemetry.Snapshot

/-!
# The formats of requests and states

The types that requests and states are written as are formats of records: their fields alone make
their values, and the fields of a written value make it again.  Where a type has the charging
parameters among its fields they are written and read as they are alone, and an update writes the
fields that it has and no others.

* `tabled` — the written fields of a value, from a table of what there is to write.
* `ConfigField` — the fields of a configuration.
* `Snapshot.format`, `DeviceConfig.format`, `ConfigUpdate.format` and the others — the formats.
* `ConfigUpdate.present` and the others — the names of the fields that an update has.
-/

namespace ChargeController

/-! ## Tables of fields -/

section Tables

variable {K : Type} [Listed K] {label : K → String} {document : K → Option Json}

/-- The written fields of a value: those that have a document, each under its label. -/
def tabled (label : K → String) (document : K → Option Json) : List (String × Json) :=
  (Listed.present document).map fun y => (label y.1, y.2)

/-- What is written is what the table has, under its label. -/
lemma mem_tabled {m : String × Json} :
    m ∈ tabled label document ↔ ∃ k, document k = some m.2 ∧ label k = m.1 := by
  simp only [tabled, List.mem_map, Prod.exists, mem_present]
  constructor
  · rintro ⟨k, d, hk, rfl⟩
    exact ⟨k, hk, rfl⟩
  · rintro ⟨k, hk, hlabel⟩
    exact ⟨k, m.2, hk, by rw [hlabel]⟩

/-- A table of leaves is written as leaves. -/
lemma leaf_tabled (h : ∀ k d, document k = some d → d.Leaf) :
    ∀ m ∈ tabled label document, m.2.Leaf := by
  intro m hm
  obtain ⟨k, hk, -⟩ := mem_tabled.mp hm
  exact h k m.2 hk

/-- Fields are written in the order of the table, each at most once. -/
lemma tabled_sublist : ((tabled label document).map Prod.fst).Sublist (Listed.all.map label) := by
  rw [tabled, List.map_map]
  exact present_sublist document label

/-- The names that are written are those of the fields that have a document. -/
lemma map_fst_tabled : (tabled label document).map Prod.fst =
    ((Listed.all : List K).filter fun k => (document k).isSome).map label := by
  simp only [tabled, Listed.present, List.map_map]
  induction (Listed.all : List K) with
  | nil => rfl
  | cons k rest ih => cases hk : document k <;> simp [hk, ih]

/-- If every field has a document, all names are written. -/
lemma map_fst_tabled_some (document : K → Json) :
    (tabled label fun k => some (document k)).map Prod.fst = Listed.all.map label := by
  rw [map_fst_tabled]
  simp

/-- Fields that agree on the names of a record agree under the label of each. -/
lemma agreeOn_label {names : List String} {f g : Fields} (h : AgreeOn names f g)
    (hnames : (Listed.all : List K).map label = names) (k : K) : f (label k) = g (label k) := by
  refine h _ ?_
  rw [← hnames]
  exact List.mem_map_of_mem (Listed.mem_all k)

/-- What stands under a label is what the table has there. -/
lemma lookup_tabled (hnodup : ((Listed.all : List K).map label).Nodup) (k : K) :
    (tabled label document).lookup (label k) = document k := by
  have hinjective {k k' : K} (h : label k = label k') : k = k' :=
    List.inj_on_of_nodup_map hnodup (Listed.mem_all k) (Listed.mem_all k') h
  have hone := countP_le_one (hnodup.sublist tabled_sublist) (label k) (s := tabled label document)
  ext d
  rw [lookup_eq_some_iff hone, mem_tabled]
  constructor
  · rintro ⟨k', hk', hlabel⟩
    rw [← hinjective hlabel]
    exact hk'
  · intro hk
    exact ⟨k, hk, rfl⟩

end Tables

/-! ## Charging parameters -/

namespace Setting

/-- The name of a setting in documents. -/
def label : Setting → String
  | period x => x.label
  | threshold x => x.label
  | limit x => x.label

lemma map_label : (Listed.all : List Setting).map label = ChargingParameters.fieldNames := by
  simp only [Listed.all, ChargingParameters.fieldNames, List.map_append, List.map_map]
  rfl

lemma nodup_label : ((Listed.all : List Setting).map label).Nodup := by
  decide

/-- Charging parameters, and updates of them, are the same from fields that agree under the label of
each setting. -/
lemma ofFields?_congr {f g : Fields} (h : ∀ s : Setting, f s.label = g s.label) :
    ChargingParameters.ofFields? f = ChargingParameters.ofFields? g ∧
      ChargingUpdate.ofFields? f = ChargingUpdate.ofFields? g := by
  have hperiod (x : Period) : f x.label = g x.label := h (.period x)
  have hthreshold (x : Threshold) : f x.label = g x.label := h (.threshold x)
  have hlimit (x : TemperatureLimit) : f x.label = g x.label := h (.limit x)
  constructor
  · simp only [ChargingParameters.ofFields?, Fields.required, hperiod, hthreshold, hlimit]
  · simp only [ChargingUpdate.ofFields?, Fields.optional, hperiod, hthreshold, hlimit]

end Setting

namespace ChargingParameters

/-- The document of a setting. -/
def document (p : ChargingParameters) : Setting → Json
  | .period x => Json.ofNat (p.period x).toNat
  | .threshold x => Json.ofSingle (p.threshold x)
  | .limit x => Json.ofSingle (p.limit x)

/-- The texts of the voltages and temperatures read back. -/
def Legible (p : ChargingParameters) : Prop :=
  (∀ x, Layout.document.Legible (p.threshold x)) ∧ ∀ x, Layout.document.Legible (p.limit x)

/-- Charging parameters are written as a table of all settings. -/
lemma members_eq (p : ChargingParameters) :
    p.members = tabled Setting.label fun s => some (p.document s) := by
  simp only [members, tabled, Listed.present, Option.map_some, List.filterMap_eq_map', List.map_map]
  rfl

lemma map_fst_members (p : ChargingParameters) : p.members.map Prod.fst = fieldNames := by
  rw [members_eq, map_fst_tabled_some, Setting.map_label]

lemma leaf_document {p : ChargingParameters} (h : p.Legible) (s : Setting) :
    (p.document s).Leaf := by
  cases s with
  | period x => exact Json.leaf_ofWord _
  | threshold x => exact Json.leaf_ofBinary (h.1 x)
  | limit x => exact Json.leaf_ofBinary (h.2 x)

/-- The charging parameters are read from whatever fields they were written among. -/
lemma ofFields?_written {p : ChargingParameters} (hlegible : p.Legible)
    {members : List (String × Json)}
    (h : ∀ s : Setting, members.lookup s.label = some (p.document s)) :
    ofFields? (Json.writtenFields members) = some p := by
  have hperiod (x : Period) : (Json.writtenFields members).required x.label Json.word? =
      some (p.period x) :=
    Fields.required_written (h (.period x)) (Json.word?_ofNat _)
  have hthreshold (x : Threshold) : (Json.writtenFields members).required x.label Json.single? =
      some (p.threshold x) :=
    Fields.required_written (h (.threshold x)) (Json.binary?_reread (hlegible.1 x))
  have hlimit (x : TemperatureLimit) : (Json.writtenFields members).required x.label Json.single? =
      some (p.limit x) :=
    Fields.required_written (h (.limit x)) (Json.binary?_reread (hlegible.2 x))
  simp only [ofFields?, Listed.sequence_eq_some hperiod, Listed.sequence_eq_some hthreshold,
    Listed.sequence_eq_some hlimit]
  rfl

/-- Charging parameters as records. -/
def format : RecordFormat ChargingParameters where
  names := fieldNames
  isWhole := false
  members := members
  ofFields? := ofFields?
  Legible := Legible
  nodup := Setting.map_label ▸ Setting.nodup_label
  sublist p := (map_fst_members p).symm ▸ List.Sublist.refl _
  leaves p h := by
    rw [members_eq]
    exact leaf_tabled fun s d hd => Option.some.inj hd ▸ leaf_document h s
  congr f g h := (Setting.ofFields?_congr (agreeOn_label h Setting.map_label)).1
  readBack p h := ofFields?_written h fun s => by
    rw [members_eq]
    exact lookup_tabled Setting.nodup_label s

end ChargingParameters

namespace ChargingUpdate

/-- Whether an update has a setting. -/
def has (p : ChargingUpdate) : Setting → Bool
  | .period x => (p.period x).isSome
  | .threshold x => (p.threshold x).isSome
  | .limit x => (p.limit x).isSome

/-- The names of the settings that an update has, in the order of all settings. -/
def present (p : ChargingUpdate) : List String :=
  ((Listed.all : List Setting).filter p.has).map Setting.label

/-- The document of a setting, if an update has it. -/
def document (p : ChargingUpdate) : Setting → Option Json
  | .period x => (p.period x).map fun n => Json.ofNat n.toNat
  | .threshold x => (p.threshold x).map Json.ofSingle
  | .limit x => (p.limit x).map Json.ofSingle

/-- The texts of the voltages and temperatures that an update has read back. -/
def Legible (p : ChargingUpdate) : Prop :=
  (∀ x, ∀ volts ∈ p.threshold x, Layout.document.Legible volts) ∧
    ∀ x, ∀ celsius ∈ p.limit x, Layout.document.Legible celsius

/-- A setting has a document if the update has it. -/
lemma isSome_document (p : ChargingUpdate) (s : Setting) : (p.document s).isSome = p.has s := by
  cases s <;> simp [document, has]

/-- An update is written as a table of the settings that it has. -/
lemma members_eq (p : ChargingUpdate) : p.members = tabled Setting.label p.document := by
  have hall : (Listed.all : List Setting) = Listed.all.map Setting.period ++
      Listed.all.map Setting.threshold ++ Listed.all.map Setting.limit := rfl
  rw [tabled, map_present, hall]
  simp only [members, map_present, List.flatMap_append, List.flatMap_map, document, Option.map_map]
  rfl

lemma leaf_document {p : ChargingUpdate} (h : p.Legible) {s : Setting} {d : Json}
    (hd : p.document s = some d) : d.Leaf := by
  cases s with
  | period x =>
      obtain ⟨n, -, rfl⟩ := Option.map_eq_some_iff.mp hd
      exact Json.leaf_ofWord n
  | threshold x =>
      obtain ⟨volts, hvolts, rfl⟩ := Option.map_eq_some_iff.mp hd
      exact Json.leaf_ofBinary (h.1 x volts hvolts)
  | limit x =>
      obtain ⟨celsius, hcelsius, rfl⟩ := Option.map_eq_some_iff.mp hd
      exact Json.leaf_ofBinary (h.2 x celsius hcelsius)

/-- The settings of an update are read from whatever fields they were written among. -/
lemma ofFields?_written {p : ChargingUpdate} (hlegible : p.Legible)
    {members : List (String × Json)}
    (h : ∀ s : Setting, members.lookup s.label = p.document s) :
    ofFields? (Json.writtenFields members) = some p := by
  have hperiod (x : Period) : (Json.writtenFields members).optional x.label Json.word? =
      some (p.period x) :=
    Fields.optional_written (h (.period x)) rfl fun n _ => Json.word?_ofNat n
  have hthreshold (x : Threshold) : (Json.writtenFields members).optional x.label Json.single? =
      some (p.threshold x) :=
    Fields.optional_written (h (.threshold x)) rfl fun volts hvolts =>
      Json.binary?_reread (hlegible.1 x volts hvolts)
  have hlimit (x : TemperatureLimit) : (Json.writtenFields members).optional x.label Json.single? =
      some (p.limit x) :=
    Fields.optional_written (h (.limit x)) rfl fun celsius hcelsius =>
      Json.binary?_reread (hlegible.2 x celsius hcelsius)
  simp only [ofFields?, Listed.sequence_eq_some hperiod, Listed.sequence_eq_some hthreshold,
    Listed.sequence_eq_some hlimit]
  rfl

/-- An update writes the names of its settings and no others. -/
lemma map_fst_members (p : ChargingUpdate) : p.members.map Prod.fst = p.present := by
  rw [members_eq, map_fst_tabled, present]
  simp only [isSome_document]

/-- Updates of charging parameters as records. -/
def format : RecordFormat ChargingUpdate where
  names := ChargingParameters.fieldNames
  isWhole := false
  members := members
  ofFields? := ofFields?
  Legible := Legible
  nodup := ChargingParameters.format.nodup
  sublist p := by
    rw [members_eq, ← Setting.map_label]
    exact tabled_sublist
  leaves p h := by
    rw [members_eq]
    exact leaf_tabled fun s d hd => leaf_document h hd
  congr f g h := (Setting.ofFields?_congr (agreeOn_label h Setting.map_label)).2
  readBack p h := ofFields?_written h fun s => by
    rw [members_eq]
    exact lookup_tabled Setting.nodup_label s

end ChargingUpdate

/-! ## Single fields -/

lemma BatteryType.leaf_toJson (t : BatteryType) : t.toJson.Leaf :=
  Json.leaf_ofText t.name

/-- A battery type that was written is read again. -/
lemma BatteryType.ofJson?_reread (t : BatteryType) : ofJson? t.toJson.reread = some t := by
  cases t <;> rfl

lemma DateTime.leaf_toJson (t : DateTime) : t.toJson.Leaf :=
  Json.leaf_ofText t.text

/-- A date that was written is read again. -/
lemma DateTime.ofJson?_reread (t : DateTime) : ofJson? t.toJson.reread = some t := by
  rw [ofJson?, toJson, Json.text?_reread_ofText, Option.bind_some, ofText?_text]

/-! ## Configurations -/

/-- A field of a configuration. -/
inductive ConfigField where
  | time
  | batteryType
  | batteryCapacity
  | tempCompCoefficient
  | charging (s : Setting)
deriving DecidableEq

namespace ConfigField

instance : Listed ConfigField where
  all := [time, batteryType, batteryCapacity, tempCompCoefficient] ++ Listed.all.map charging
  mem_all k := by
    cases k with
    | charging s => simp [Listed.mem_all s]
    | _ => simp

/-- The name of a field in documents. -/
def label : ConfigField → String
  | time => "time"
  | batteryType => "batteryType"
  | batteryCapacity => "batteryCapacity"
  | tempCompCoefficient => "tempCompCoefficient"
  | charging s => s.label

lemma all_eq : (Listed.all : List ConfigField) =
    [time, batteryType, batteryCapacity, tempCompCoefficient] ++ Listed.all.map charging := rfl

lemma map_label : (Listed.all : List ConfigField).map label = DeviceConfig.fieldNames := by
  rw [all_eq, List.map_append, List.map_map, DeviceConfig.fieldNames, ← Setting.map_label]
  rfl

lemma nodup_label : ((Listed.all : List ConfigField).map label).Nodup := by
  decide

end ConfigField

namespace DeviceConfig

/-- The document of a field. -/
def document (c : DeviceConfig) : ConfigField → Json
  | .time => (c.time.map DateTime.toJson).getD .null
  | .batteryType => c.batteryType.toJson
  | .batteryCapacity => Json.ofNat c.batteryCapacity.toNat
  | .tempCompCoefficient => Json.ofSingle c.tempCompCoefficient
  | .charging s => c.charging.document s

/-- The texts of the floats of a configuration read back. -/
def Legible (c : DeviceConfig) : Prop :=
  Layout.document.Legible c.tempCompCoefficient ∧ c.charging.Legible

/-- A configuration is written as a table of all its fields, the charging parameters among them. -/
lemma members_eq (c : DeviceConfig) :
    c.members = tabled ConfigField.label fun k => some (c.document k) := by
  rw [members, ChargingParameters.members_eq]
  simp only [tabled, Listed.present, Option.map_some, List.filterMap_eq_map', List.map_map,
    ConfigField.all_eq, List.map_append]
  rfl

lemma map_fst_members (c : DeviceConfig) : c.members.map Prod.fst = fieldNames := by
  rw [members_eq, map_fst_tabled_some, ConfigField.map_label]

lemma leaf_document {c : DeviceConfig} (h : c.Legible) (k : ConfigField) :
    (c.document k).Leaf := by
  cases k with
  | time =>
      simp only [document]
      cases c.time with
      | none => exact Json.leaf_null
      | some t => exact t.leaf_toJson
  | batteryType => exact c.batteryType.leaf_toJson
  | batteryCapacity => exact Json.leaf_ofWord _
  | tempCompCoefficient => exact Json.leaf_ofBinary h.1
  | charging s => exact ChargingParameters.leaf_document h.2 s

/-- Under each name stands the document of its field. -/
lemma lookup_members (c : DeviceConfig) (k : ConfigField) :
    c.members.lookup k.label = some (c.document k) := by
  rw [members_eq]
  exact lookup_tabled ConfigField.nodup_label k

/-- A configuration is read from the fields that it was written as. -/
lemma ofFields?_written {c : DeviceConfig} (h : c.Legible) :
    ofFields? (Json.writtenFields c.members) = some c := by
  have htime : (Json.writtenFields c.members).optional "time" DateTime.ofJson? = some c.time :=
    Fields.nullable_written (c.lookup_members .time) rfl fun t _ => t.ofJson?_reread
  have htype : (Json.writtenFields c.members).required "batteryType" BatteryType.ofJson? =
      some c.batteryType :=
    Fields.required_written (c.lookup_members .batteryType) c.batteryType.ofJson?_reread
  have hcapacity : (Json.writtenFields c.members).required "batteryCapacity" Json.word? =
      some c.batteryCapacity :=
    Fields.required_written (c.lookup_members .batteryCapacity) (Json.word?_ofNat _)
  have hcoefficient : (Json.writtenFields c.members).required "tempCompCoefficient" Json.single? =
      some c.tempCompCoefficient :=
    Fields.required_written (c.lookup_members .tempCompCoefficient) (Json.binary?_reread h.1)
  have hcharging := ChargingParameters.ofFields?_written h.2 fun s =>
    c.lookup_members (.charging s)
  simp only [ofFields?, htime, htype, hcapacity, hcoefficient, hcharging]
  rfl

lemma ofFields?_congr {f g : Fields} (h : ∀ k : ConfigField, f k.label = g k.label) :
    ofFields? f = ofFields? g := by
  have htime : f "time" = g "time" := h .time
  have htype : f "batteryType" = g "batteryType" := h .batteryType
  have hcapacity : f "batteryCapacity" = g "batteryCapacity" := h .batteryCapacity
  have hcoefficient : f "tempCompCoefficient" = g "tempCompCoefficient" := h .tempCompCoefficient
  have hcharging : ChargingParameters.ofFields? f = ChargingParameters.ofFields? g :=
    (Setting.ofFields?_congr fun s => h (.charging s)).1
  simp only [ofFields?, Fields.optional, Fields.required, htime, htype, hcapacity, hcoefficient,
    hcharging]

/-- Configurations as records. -/
def format : RecordFormat DeviceConfig where
  names := fieldNames
  isWhole := true
  members := members
  ofFields? := ofFields?
  Legible := Legible
  nodup := ConfigField.map_label ▸ ConfigField.nodup_label
  sublist c := (map_fst_members c).symm ▸ List.Sublist.refl _
  leaves c h := by
    rw [members_eq]
    exact leaf_tabled fun k d hd => Option.some.inj hd ▸ leaf_document h k
  congr f g h := ofFields?_congr (agreeOn_label h ConfigField.map_label)
  readBack c := ofFields?_written

end DeviceConfig

namespace ConfigUpdate

/-- Whether an update has a field. -/
def has (p : ConfigUpdate) : ConfigField → Bool
  | .time => p.time.isSome
  | .batteryType => p.batteryType.isSome
  | .batteryCapacity => p.batteryCapacity.isSome
  | .tempCompCoefficient => p.tempCompCoefficient.isSome
  | .charging s => p.charging.has s

/-- The names of the fields that an update has, in the order of all fields. -/
def present (p : ConfigUpdate) : List String :=
  ((Listed.all : List ConfigField).filter p.has).map ConfigField.label

/-- The document of a field, if an update has it. -/
def document (p : ConfigUpdate) : ConfigField → Option Json
  | .time => p.time.map DateTime.toJson
  | .batteryType => p.batteryType.map BatteryType.toJson
  | .batteryCapacity => p.batteryCapacity.map fun c => Json.ofNat c.toNat
  | .tempCompCoefficient => p.tempCompCoefficient.map Json.ofSingle
  | .charging s => p.charging.document s

/-- The texts of the floats that an update has read back. -/
def Legible (p : ConfigUpdate) : Prop :=
  (∀ x ∈ p.tempCompCoefficient, Layout.document.Legible x) ∧ p.charging.Legible

lemma isSome_document (p : ConfigUpdate) (k : ConfigField) :
    (p.document k).isSome = p.has k := by
  cases k with
  | charging s => exact p.charging.isSome_document s
  | _ => simp [document, has]

/-- An update is written as a table of the fields that it has. -/
lemma members_eq (p : ConfigUpdate) : p.members = tabled ConfigField.label p.document := by
  rw [members, ChargingUpdate.members_eq, tabled, tabled, ChargingUpdate.map_present,
    ChargingUpdate.map_present, ConfigField.all_eq]
  simp only [List.flatMap_append, List.flatMap_map, List.flatMap_cons, List.flatMap_nil, document,
    Option.map_map]
  simp only [List.append_nil, List.append_assoc]
  rfl

/-- It writes their names and no others. -/
lemma map_fst_members (p : ConfigUpdate) : p.members.map Prod.fst = p.present := by
  rw [members_eq, map_fst_tabled, present]
  simp only [isSome_document]

lemma leaf_document {p : ConfigUpdate} (h : p.Legible) {k : ConfigField} {d : Json}
    (hd : p.document k = some d) : d.Leaf := by
  cases k with
  | time =>
      obtain ⟨t, -, rfl⟩ := Option.map_eq_some_iff.mp hd
      exact t.leaf_toJson
  | batteryType =>
      obtain ⟨t, -, rfl⟩ := Option.map_eq_some_iff.mp hd
      exact t.leaf_toJson
  | batteryCapacity =>
      obtain ⟨c, -, rfl⟩ := Option.map_eq_some_iff.mp hd
      exact Json.leaf_ofWord c
  | tempCompCoefficient =>
      obtain ⟨x, hx, rfl⟩ := Option.map_eq_some_iff.mp hd
      exact Json.leaf_ofBinary (h.1 x hx)
  | charging s => exact ChargingUpdate.leaf_document h.2 hd

/-- Under each name stands the document of its field, if the update has it. -/
lemma lookup_members (p : ConfigUpdate) (k : ConfigField) :
    p.members.lookup k.label = p.document k := by
  rw [members_eq]
  exact lookup_tabled ConfigField.nodup_label k

/-- An update is read from the fields that it was written as. -/
lemma ofFields?_written {p : ConfigUpdate} (h : p.Legible) :
    ofFields? (Json.writtenFields p.members) = some p := by
  have htime : (Json.writtenFields p.members).optional "time" DateTime.ofJson? = some p.time :=
    Fields.optional_written (p.lookup_members .time) rfl fun t _ => t.ofJson?_reread
  have htype : (Json.writtenFields p.members).optional "batteryType" BatteryType.ofJson? =
      some p.batteryType :=
    Fields.optional_written (p.lookup_members .batteryType) rfl fun t _ => t.ofJson?_reread
  have hcapacity : (Json.writtenFields p.members).optional "batteryCapacity" Json.word? =
      some p.batteryCapacity :=
    Fields.optional_written (p.lookup_members .batteryCapacity) rfl fun c _ => Json.word?_ofNat c
  have hcoefficient : (Json.writtenFields p.members).optional "tempCompCoefficient" Json.single? =
      some p.tempCompCoefficient :=
    Fields.optional_written (p.lookup_members .tempCompCoefficient) rfl fun x hx =>
      Json.binary?_reread (h.1 x hx)
  have hcharging := ChargingUpdate.ofFields?_written h.2 fun s => p.lookup_members (.charging s)
  simp only [ofFields?, htime, htype, hcapacity, hcoefficient, hcharging]
  rfl

lemma ofFields?_congr {f g : Fields} (h : ∀ k : ConfigField, f k.label = g k.label) :
    ofFields? f = ofFields? g := by
  have htime : f "time" = g "time" := h .time
  have htype : f "batteryType" = g "batteryType" := h .batteryType
  have hcapacity : f "batteryCapacity" = g "batteryCapacity" := h .batteryCapacity
  have hcoefficient : f "tempCompCoefficient" = g "tempCompCoefficient" := h .tempCompCoefficient
  have hcharging : ChargingUpdate.ofFields? f = ChargingUpdate.ofFields? g :=
    (Setting.ofFields?_congr fun s => h (.charging s)).2
  simp only [ofFields?, Fields.optional, htime, htype, hcapacity, hcoefficient, hcharging]

/-- Updates of configurations as records. -/
def format : RecordFormat ConfigUpdate where
  names := DeviceConfig.fieldNames
  isWhole := true
  members := members
  ofFields? := ofFields?
  Legible := Legible
  nodup := DeviceConfig.format.nodup
  sublist p := by
    rw [members_eq, ← ConfigField.map_label]
    exact tabled_sublist
  leaves p h := by
    rw [members_eq]
    exact leaf_tabled fun k d hd => leaf_document h hd
  congr f g h := ofFields?_congr (agreeOn_label h ConfigField.map_label)
  readBack p := ofFields?_written

end ConfigUpdate

/-! ## Battery profiles -/

namespace BatteryProfile

lemma ofFields?_congr {f g : Fields} (h : AgreeOn fieldNames f g) : ofFields? f = ofFields? g := by
  simp only [AgreeOn, fieldNames, List.forall_mem_cons] at h
  simp only [ofFields?, Fields.required, h]

/-- Profiles as records. -/
def format : RecordFormat BatteryProfile where
  names := fieldNames
  isWhole := false
  members := members
  ofFields? := ofFields?
  Legible _ := True
  nodup := by decide
  sublist p := List.Sublist.refl _
  leaves p _ := by
    simp only [members, List.forall_mem_cons]
    exact ⟨p.batteryType.leaf_toJson, Json.leaf_ofWord _, by simp⟩
  congr f g := ofFields?_congr
  readBack p _ := by
    have htype : (Json.writtenFields p.members).required "batteryType" BatteryType.ofJson? =
        some p.batteryType :=
      Fields.required_written rfl p.batteryType.ofJson?_reread
    have hcapacity : (Json.writtenFields p.members).required "batteryCapacity" Json.word? =
        some p.capacity :=
      Fields.required_written rfl (Json.word?_ofNat _)
    simp only [ofFields?, htype, hcapacity]
    rfl

end BatteryProfile

namespace ProfileUpdate

/-- The names of the fields that an update has. -/
def present (p : ProfileUpdate) : List String :=
  (if p.batteryType.isSome then ["batteryType"] else [])
    ++ (if p.capacity.isSome then ["batteryCapacity"] else [])

/-- An update of a profile writes the names of its fields and no others. -/
lemma map_fst_members (p : ProfileUpdate) : p.members.map Prod.fst = p.present := by
  obtain ⟨batteryType, capacity⟩ := p
  cases batteryType <;> cases capacity <;> rfl

lemma lookup_batteryType (p : ProfileUpdate) :
    p.members.lookup "batteryType" = p.batteryType.map BatteryType.toJson := by
  obtain ⟨batteryType, capacity⟩ := p
  cases batteryType <;> cases capacity <;> rfl

lemma lookup_capacity (p : ProfileUpdate) :
    p.members.lookup "batteryCapacity" = p.capacity.map fun c => Json.ofNat c.toNat := by
  obtain ⟨batteryType, capacity⟩ := p
  cases batteryType <;> cases capacity <;> rfl

lemma ofFields?_congr {f g : Fields} (h : AgreeOn BatteryProfile.fieldNames f g) :
    ofFields? f = ofFields? g := by
  simp only [AgreeOn, BatteryProfile.fieldNames, List.forall_mem_cons] at h
  simp only [ofFields?, Fields.optional, h]

/-- Updates of profiles as records. -/
def format : RecordFormat ProfileUpdate where
  names := BatteryProfile.fieldNames
  isWhole := false
  members := members
  ofFields? := ofFields?
  Legible _ := True
  nodup := BatteryProfile.format.nodup
  sublist p := by
    rw [map_fst_members, present]
    cases p.batteryType <;> cases p.capacity <;> simp [BatteryProfile.fieldNames]
  leaves p _ m hm := by
    simp only [members, List.mem_append, Option.mem_toList, Option.map_eq_some_iff] at hm
    rcases hm with ⟨t, -, rfl⟩ | ⟨c, -, rfl⟩
    · exact t.leaf_toJson
    · exact Json.leaf_ofWord c
  congr f g := ofFields?_congr
  readBack p _ := by
    have htype : (Json.writtenFields p.members).optional "batteryType" BatteryType.ofJson? =
        some p.batteryType :=
      Fields.optional_written p.lookup_batteryType rfl fun t _ => t.ofJson?_reread
    have hcapacity : (Json.writtenFields p.members).optional "batteryCapacity" Json.word? =
        some p.capacity :=
      Fields.optional_written p.lookup_capacity rfl fun c _ => Json.word?_ofNat c
    simp only [ofFields?, htype, hcapacity]
    rfl

end ProfileUpdate

/-! ## Queries, identities and snapshots -/

namespace QueryResult

lemma ofFields?_congr {f g : Fields} (h : AgreeOn fieldNames f g) : ofFields? f = ofFields? g := by
  simp only [AgreeOn, fieldNames, List.forall_mem_cons] at h
  simp only [ofFields?, Fields.required, Fields.withDefault, h]

/-- Queries as records. -/
def format : RecordFormat QueryResult where
  names := fieldNames
  isWhole := false
  members := members
  ofFields? := ofFields?
  Legible _ := True
  nodup := by decide
  sublist q := List.Sublist.refl _
  leaves q _ := by
    simp only [members, List.forall_mem_cons]
    exact ⟨Json.leaf_ofNat (Nat.lt_trans q.table.toNat_lt (by decide)), Json.leaf_ofText _,
      Json.leaf_ofWord _, by simp⟩
  congr f g := ofFields?_congr
  readBack q _ := by
    have htable : (Json.writtenFields q.members).required "register" (Json.natural? UInt8.size) =
        some q.table.toNat :=
      Fields.required_written rfl (Json.natural?_ofNat (by decide) q.table.toNat_lt)
    have haddress : (Json.writtenFields q.members).required "address" Json.text? =
        some q.address :=
      Fields.required_written rfl (Json.text?_reread_ofText q.address)
    have hresult : (Json.writtenFields q.members).withDefault "result" 0 Json.word? =
        some q.result :=
      Json.word?_ofNat q.result
    simp only [ofFields?, htable, haddress, hresult]
    simp

end QueryResult

namespace DeviceIdentity

lemma ofFields?_congr {f g : Fields} (h : AgreeOn fieldNames f g) : ofFields? f = ofFields? g := by
  simp only [AgreeOn, fieldNames, List.forall_mem_cons] at h
  simp only [ofFields?, Fields.required, h]

/-- Identities as records. -/
def format : RecordFormat DeviceIdentity where
  names := fieldNames
  isWhole := false
  members := members
  ofFields? := ofFields?
  Legible _ := True
  nodup := by decide
  sublist d := List.Sublist.refl _
  leaves d _ := by
    simp only [members, List.forall_mem_cons]
    exact ⟨Json.leaf_ofText _, Json.leaf_ofText _, by simp⟩
  congr f g := ofFields?_congr
  readBack d _ := by
    have hdevice : (Json.writtenFields d.members).required "deviceId" Json.text? =
        some d.deviceId :=
      Fields.required_written rfl (Json.text?_reread_ofText d.deviceId)
    have hcontroller : (Json.writtenFields d.members).required "controllerType" Json.text? =
        some d.controllerType :=
      Fields.required_written rfl (Json.text?_reread_ofText d.controllerType)
    simp only [ofFields?, hdevice, hcontroller]
    rfl

end DeviceIdentity

namespace Snapshot

/-- The readings of a snapshot that are 32-bit floats. -/
def readings (s : Snapshot) : List Single :=
  [s.arrayVoltage, s.arrayCurrent, s.arrayPower, s.chargingCurrent, s.chargingPower,
    s.batteryVoltage, s.batteryTemp, s.batteryMaxVoltage, s.batteryMinVoltage, s.deviceTemp,
    s.energyToday]

/-- The texts of the floats of a snapshot read back, and its time is a 64-bit integer. -/
structure Legible (s : Snapshot) : Prop where
  readings : ∀ x ∈ s.readings, Layout.document.Legible x
  collectionTime : Layout.wideDocument.Legible s.collectionTime
  least : -(UInt64.size / 2 : Nat) ≤ s.timestamp
  last : s.timestamp < (UInt64.size / 2 : Nat)

lemma ofFields?_congr {f g : Fields} (h : AgreeOn fieldNames f g) : ofFields? f = ofFields? g := by
  simp only [AgreeOn, fieldNames, blank, members, List.map_cons, List.forall_mem_cons] at h
  simp only [ofFields?, Fields.required, h]

lemma leaf_members {s : Snapshot} (h : s.Legible) : ∀ m ∈ s.members, m.2.Leaf := by
  have htime : s.timestamp.natAbs < UInt64.size := by
    have hleast := h.least
    have hlast := h.last
    omega
  have hcount (n : UInt32) : (Json.ofNat n.toNat).Leaf :=
    Json.leaf_ofNat (Nat.lt_trans n.toNat_lt (by decide))
  have hreading {x : Single} (hx : x ∈ s.readings) : (Json.ofSingle x).Leaf :=
    Json.leaf_ofBinary (h.readings x hx)
  simp only [members, List.forall_mem_cons]
  exact ⟨Json.leaf_ofInt htime, Json.leaf_ofBinary h.collectionTime, hreading (by simp [readings]),
    hreading (by simp [readings]), hreading (by simp [readings]), hreading (by simp [readings]),
    hreading (by simp [readings]), hreading (by simp [readings]), hcount _,
    hreading (by simp [readings]), hreading (by simp [readings]), hreading (by simp [readings]),
    hreading (by simp [readings]), hreading (by simp [readings]), hcount _, by simp⟩

/-- A reading that was written is read again. -/
lemma required_reading {s : Snapshot} (h : s.Legible) (name : String) {x : Single}
    (hlookup : s.members.lookup name = some (Json.ofSingle x)) (hx : x ∈ s.readings) :
    (Json.writtenFields s.members).required name Json.single? = some x :=
  Fields.required_written hlookup (Json.binary?_reread (h.readings x hx))

/-- So is a count. -/
lemma required_count {s : Snapshot} (name : String) {n : UInt32}
    (hlookup : s.members.lookup name = some (Json.ofNat n.toNat)) :
    (Json.writtenFields s.members).required name (Json.natural? UInt32.size) = some n.toNat :=
  Fields.required_written hlookup (Json.natural?_ofNat (by decide) n.toNat_lt)

/-- A snapshot is read from the fields that it was written as. -/
lemma ofFields?_written {s : Snapshot} (h : s.Legible) :
    ofFields? (Json.writtenFields s.members) = some s := by
  have htime : (Json.writtenFields s.members).required "timestamp" Json.integer? =
      some s.timestamp :=
    Fields.required_written rfl (Json.integer?_ofInt h.least h.last)
  have hduration : (Json.writtenFields s.members).required "collectionTime" Json.double? =
      some s.collectionTime :=
    Fields.required_written rfl (Json.binary?_reread h.collectionTime)
  simp only [ofFields?, htime, hduration,
    required_reading h "arrayVoltage" rfl (by simp [readings]),
    required_reading h "arrayCurrent" rfl (by simp [readings]),
    required_reading h "arrayPower" rfl (by simp [readings]),
    required_reading h "chargingCurrent" rfl (by simp [readings]),
    required_reading h "chargingPower" rfl (by simp [readings]),
    required_reading h "batteryVoltage" rfl (by simp [readings]),
    required_reading h "batteryTemp" rfl (by simp [readings]),
    required_reading h "batteryMaxVoltage" rfl (by simp [readings]),
    required_reading h "batteryMinVoltage" rfl (by simp [readings]),
    required_reading h "deviceTemp" rfl (by simp [readings]),
    required_reading h "energyGeneratedDaily" rfl (by simp [readings]),
    required_count (s := s) "batterySoc" rfl, required_count (s := s) "chargingStatus" rfl]
  simp

lemma fieldNames_eq : fieldNames =
    ["timestamp", "collectionTime", "arrayVoltage", "arrayCurrent", "arrayPower",
      "chargingCurrent", "chargingPower", "batteryVoltage", "batterySoc", "batteryTemp",
      "batteryMaxVoltage", "batteryMinVoltage", "deviceTemp", "energyGeneratedDaily",
      "chargingStatus"] := by
  simp only [fieldNames, members, List.map_cons, List.map_nil]

lemma map_fst_members (s : Snapshot) : s.members.map Prod.fst = fieldNames := by
  simp only [fieldNames, members, List.map_cons, List.map_nil]

/-- Snapshots as records. -/
def format : RecordFormat Snapshot where
  names := fieldNames
  isWhole := false
  members := members
  ofFields? := ofFields?
  Legible := Legible
  nodup := by
    rw [fieldNames_eq]
    decide
  sublist s := (map_fst_members s).symm ▸ List.Sublist.refl _
  leaves s := leaf_members
  congr f g := ofFields?_congr
  readBack s := ofFields?_written

end Snapshot

end ChargeController
