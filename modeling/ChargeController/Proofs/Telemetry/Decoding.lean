import ChargeController.Proofs.Register.Payload
import ChargeController.Telemetry.Collection
import Mathlib.Data.List.Forall2
import Mathlib.Tactic.Lemma

/-!
# What an answer contributes to a snapshot

A snapshot has ten fields of one or two values, each taken from a group of neighbouring registers.
Whether a group is asked for by itself or taken out of a longer block, its field depends on the
words of its own registers only, and an answer that lacks one of their bytes is refused.

* `Field` — the fields, with what their words make of a snapshot.
* `Read` — a request of a collection and the fields that are taken from its answer.
* **`Strategy.plan_absorbs`** — what the requests of a strategy make of any answer.
-/

namespace ChargeController

/-! ## Fields -/

namespace Collection

/-- The fields of a snapshot that are read together. -/
inductive Field where
  | arrayInput
  | arrayPower
  | batteryVoltage
  | chargingCurrent
  | chargingPower
  | temperatures
  | batteryCharge
  | batteryExtremes
  | energyToday
  | controllerStatus
deriving DecidableEq

namespace Field

/-- How a field is taken from bytes. -/
def reading : Field → Reading
  | arrayInput => Collection.arrayInput
  | arrayPower => Collection.arrayPower
  | batteryVoltage => Collection.batteryVoltage
  | chargingCurrent => Collection.chargingCurrent
  | chargingPower => Collection.chargingPower
  | temperatures => Collection.temperatures
  | batteryCharge => Collection.batteryCharge
  | batteryExtremes => Collection.batteryExtremes
  | energyToday => Collection.energyToday
  | controllerStatus => Collection.controllerStatus

/-- The group of registers that a field is taken from. -/
def register (f : Field) : Register :=
  f.reading.register

/-- What bytes are said to be too short for. -/
def what : Field → String
  | arrayInput => "scaled floats"
  | arrayPower => "swapped float32"
  | batteryVoltage => "scaled float"
  | chargingCurrent => "scaled float"
  | chargingPower => "swapped float32"
  | temperatures => "temperature pair"
  | batteryCharge => "int"
  | batteryExtremes => "scaled floats"
  | energyToday => "swapped float32"
  | controllerStatus => "int"

/-- What the words of a field make of a snapshot. -/
def put (w : Nat → UInt16) : Field → Snapshot → Snapshot
  | arrayInput, s =>
      { s with arrayVoltage := Register.scaled (w 0), arrayCurrent := Register.scaled (w 1) }
  | arrayPower, s => { s with arrayPower := Register.scaledPair (w 0) (w 1) }
  | batteryVoltage, s => { s with batteryVoltage := Register.scaled (w 0) }
  | chargingCurrent, s => { s with chargingCurrent := Register.scaled (w 0) }
  | chargingPower, s => { s with chargingPower := Register.scaledPair (w 0) (w 1) }
  | temperatures, s =>
      { s with
        batteryTemp := Register.signedScaled (w 0)
        deviceTemp := Register.signedScaled (w 1) }
  | batteryCharge, s => { s with batteryCharge := (w 0).toUInt32 }
  | batteryExtremes, s =>
      { s with
        batteryMaxVoltage := Register.scaled (w 0)
        batteryMinVoltage := Register.scaled (w 1) }
  | energyToday, s => { s with energyToday := Register.scaledPair (w 0) (w 1) }
  | controllerStatus, s => { s with chargingStatus := chargingStatus (w 0).toUInt32 }

/-- **A field depends on the words of its own registers only.** -/
theorem put_congr {w w' : Nat → UInt16} {f : Field} {s : Snapshot}
    (h : ∀ i < f.register.quantity.toNat, w i = w' i) : f.put w s = f.put w' s := by
  have h₀ : w 0 = w' 0 := h 0 (by cases f <;> decide)
  cases f with
  | batteryVoltage => simp only [put, h₀]
  | chargingCurrent => simp only [put, h₀]
  | batteryCharge => simp only [put, h₀]
  | controllerStatus => simp only [put, h₀]
  | arrayInput => simp only [put, h₀, h 1 (by decide)]
  | arrayPower => simp only [put, h₀, h 1 (by decide)]
  | chargingPower => simp only [put, h₀, h 1 (by decide)]
  | temperatures => simp only [put, h₀, h 1 (by decide)]
  | batteryExtremes => simp only [put, h₀, h 1 (by decide)]
  | energyToday => simp only [put, h₀, h 1 (by decide)]

lemma absorb_of {α : Type} {register : Register} {decode : Bytes → Except RegisterFault α}
    {store : α → Snapshot → Snapshot} {data : Bytes} {short : Prop} [Decidable short]
    {fault : RegisterFault} {value : α}
    (h : decode data = if short then .error fault else .ok value) (s : Snapshot) :
    (Reading.of register decode store).absorb data s =
      if short then .error fault else .ok (store value s) := by
  simp only [Reading.of, h]
  split
  · rfl
  · rfl

lemma valueAt_range {g : Nat → Single} {n i : Nat} (h : i < n) :
    valueAt ((List.range n).map g) i = g i := by
  simp [valueAt, h]

/-- **A field is taken from any bytes that are long enough for its registers.** -/
theorem absorb (f : Field) (data : Bytes) (s : Snapshot) :
    f.reading.absorb data s =
      if data.length < f.register.byteLength then
        .error (.tooShort f.what f.register.byteLength data.length)
      else .ok (f.put (Register.wordAt data) s) := by
  cases f with
  | arrayInput =>
      rw [reading, Collection.arrayInput, absorb_of (Register.readScaledRow_eq 2 data),
        valueAt_range Nat.two_pos, valueAt_range Nat.one_lt_two]
      rfl
  | arrayPower => exact absorb_of (Register.readScaledPair_eq data) s
  | batteryVoltage => exact absorb_of (Register.readScaled_eq data) s
  | chargingCurrent => exact absorb_of (Register.readScaled_eq data) s
  | chargingPower => exact absorb_of (Register.readScaledPair_eq data) s
  | temperatures => exact absorb_of (Register.readTemperatures_eq data) s
  | batteryCharge => exact absorb_of (Register.readCount_eq data) s
  | batteryExtremes =>
      rw [reading, Collection.batteryExtremes, absorb_of (Register.readScaledRow_eq 2 data),
        valueAt_range Nat.two_pos, valueAt_range Nat.one_lt_two]
      rfl
  | energyToday => exact absorb_of (Register.readScaledPair_eq data) s
  | controllerStatus => exact absorb_of (Register.readCount_eq data) s

lemma take (f : Field) (data : Bytes) (s : Snapshot) :
    f.reading.take data s =
      if data.length < f.register.byteLength then
        .error (.decode f.register (.tooShort f.what f.register.byteLength data.length))
      else .ok (f.put (Register.wordAt data) s) := by
  rw [Reading.take, f.absorb, apply_ite (Except.mapError _)]
  rfl

/-- How many bytes of a block it takes to the end of a field. -/
def endIn (block : Register) (f : Field) : Nat :=
  block.offsetIn f.register * 2 + f.register.quantity.toNat * 2

/-- What an answer is said to be too short for: the field's own value, or its place in a block. -/
def whatIn (block : Register) (f : Field) : String :=
  if f.register = block then f.what else "register slice"

/-- The words of a field in a block. -/
def wordsIn (block : Register) (f : Field) (w : Nat → UInt16) : Nat → UInt16 :=
  fun i => w (block.offsetIn f.register + i)

/-- **A field is taken out of any block whose bytes reach to the end of its registers.** -/
theorem takeFrom (f : Field) (block : Register) (data : Bytes) (s : Snapshot) :
    f.reading.takeFrom block data s =
      if data.length < f.endIn block then
        .error (.decode f.register (.tooShort "register slice" (f.endIn block) data.length))
      else .ok (f.put (f.wordsIn block (Register.wordAt data)) s) := by
  have hslice := Register.slice_eq data (block.offsetIn f.register) f.register.quantity.toNat
  rw [endIn]
  by_cases h : data.length < block.offsetIn f.register * 2 + f.register.quantity.toNat * 2
  · rw [if_pos h] at hslice ⊢
    rw [Reading.takeFrom, show Register.slice data (block.offsetIn f.reading.register)
      f.reading.register.quantity.toNat = _ from hslice]
    rfl
  · rw [if_neg h] at hslice ⊢
    rw [Reading.takeFrom, show Register.slice data (block.offsetIn f.reading.register)
      f.reading.register.quantity.toNat = _ from hslice]
    dsimp only
    rw [f.take, if_neg ?_]
    · refine congrArg Except.ok (put_congr fun i hi => ?_)
      rw [Nat.mul_comm _ 2, Nat.mul_comm _ 2, Register.wordAt_take hi, Register.wordAt_drop,
        wordsIn]
    · rw [List.length_take, List.length_drop, Register.byteLength]
      omega

end Field

/-! ## Requests and their fields -/

/-- One request of a collection, and the fields that are taken from its answer. -/
structure Read where
  register : Register
  fields : List Field

namespace Read

/-- A request for one field. -/
def single (f : Field) : Read :=
  ⟨f.register, [f]⟩

/-- What is wrong with the bytes of an answer: the first field that is not all there. -/
def fault? (r : Read) (data : Bytes) : Option CollectionFault :=
  (r.fields.find? fun f => decide (data.length < f.endIn r.register)).map fun f =>
    .decode f.register (.tooShort (f.whatIn r.register) (f.endIn r.register) data.length)

/-- What the words of an answer make of a snapshot. -/
def put (r : Read) (w : Nat → UInt16) (s : Snapshot) : Snapshot :=
  r.fields.foldl (fun s f => f.put (f.wordsIn r.register w) s) s

/-- What an answer makes of a snapshot. -/
def absorb (r : Read) (data : Bytes) (s : Snapshot) : Except CollectionFault Snapshot :=
  match r.fault? data with
  | some fault => .error fault
  | none => .ok (r.put (Register.wordAt data) s)

/-- A request of a plan does what a read says. -/
structure IsStep (r : Read) (step : Step) : Prop where
  register : step.register = r.register
  absorb : ∀ data s, step.absorb data s = r.absorb data s

lemma fault?_cons {block : Register} {f : Field} {rest : List Field} {data : Bytes} :
    (⟨block, f :: rest⟩ : Read).fault? data =
      if data.length < f.endIn block then
        some (.decode f.register (.tooShort (f.whatIn block) (f.endIn block) data.length))
      else (⟨block, rest⟩ : Read).fault? data := by
  change ((f :: rest).find? fun f => decide (data.length < f.endIn block)).map _ = _
  by_cases h : data.length < f.endIn block
  · rw [if_pos h, List.find?_cons_of_pos (by simpa using h), Option.map_some]
  · rw [if_neg h, List.find?_cons_of_neg (by simpa using h)]
    rfl

lemma absorb_cons {block : Register} {f : Field} {rest : List Field} {data : Bytes} {s : Snapshot} :
    (⟨block, f :: rest⟩ : Read).absorb data s =
      if data.length < f.endIn block then
        .error (.decode f.register (.tooShort (f.whatIn block) (f.endIn block) data.length))
      else
        (⟨block, rest⟩ : Read).absorb data (f.put (f.wordsIn block (Register.wordAt data)) s) := by
  rw [absorb, fault?_cons]
  split_ifs with h
  · rfl
  · rfl

/-- A field that is read by itself. -/
theorem single_isStep (f : Field) : (single f).IsStep (.single f.reading) := by
  refine ⟨rfl, fun data s => ?_⟩
  have hoffset : f.register.offsetIn f.register = 0 := by simp [Register.offsetIn]
  have hend : f.endIn f.register = f.register.byteLength := by
    rw [Field.endIn, hoffset, Nat.zero_mul, Nat.zero_add, Register.byteLength]
  have hwords : f.wordsIn f.register (Register.wordAt data) = Register.wordAt data := by
    funext i
    rw [Field.wordsIn, hoffset, Nat.zero_add]
  change f.reading.take data s = _
  rw [f.take, single, absorb_cons, hend, hwords, Field.whatIn, if_pos rfl]
  rfl

/-- Fields that are read as a block. -/
theorem block_isStep {block : Register} {fields : List Field}
    (hfields : ∀ f ∈ fields, f.register ≠ block) :
    (⟨block, fields⟩ : Read).IsStep (.block block (fields.map Field.reading)) := by
  refine ⟨rfl, fun data s => ?_⟩
  change (fields.map Field.reading).foldlM (fun s r => r.takeFrom block data s) s = _
  induction fields generalizing s with
  | nil => rfl
  | cons f rest ih =>
      have hwhat : f.whatIn block = "register slice" := if_neg (hfields f List.mem_cons_self)
      rw [List.map_cons, List.foldlM_cons, f.takeFrom, absorb_cons, hwhat]
      split_ifs with h
      · rfl
      · exact ih (fun f' hf' => hfields f' (List.mem_cons_of_mem _ hf')) _

end Read

end Collection

open Collection in
/-- The requests of a strategy, in order, with their fields. -/
def Strategy.reads : Strategy → List Read
  | sequential =>
      [.arrayInput, .batteryVoltage, .batteryCharge, .batteryExtremes, .arrayPower,
        .chargingCurrent, .chargingPower, .energyToday, .controllerStatus, .temperatures].map
        Read.single
  | batched =>
      ⟨Register.telemetryBlock, [.arrayInput, .arrayPower, .batteryVoltage, .chargingCurrent,
        .chargingPower, .temperatures]⟩
        :: [.batteryCharge, .batteryExtremes, .energyToday, .controllerStatus].map Read.single

open Collection in
/-- **The plan of a strategy is what its reads say.** -/
theorem Strategy.plan_absorbs (strategy : Strategy) :
    List.Forall₂ Read.IsStep strategy.reads strategy.plan := by
  have hsingles (fields : List Field) : List.Forall₂ Read.IsStep (fields.map Read.single)
      (fields.map fun f => Step.single f.reading) := by
    rw [List.forall₂_map_left_iff, List.forall₂_map_right_iff, List.forall₂_same]
    exact fun f _ => Read.single_isStep f
  cases strategy with
  | sequential => exact hsingles _
  | batched => exact .cons (Read.block_isStep (by decide)) (hsingles _)

end ChargeController
