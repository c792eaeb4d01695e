import ChargeController.Proofs.Telemetry.Gathering

/-!
# Both strategies find the same

One strategy asks for each group of registers by itself; the other one takes most groups out of one
long block, at their places in it, and asks in another order.  From a device whose input registers
stay as they are, both fill a snapshot with the same words.  The block asks for more registers than
any field needs, so only its request can fail because of these.

* `Collection.Yields` — what a collection from a given device can result in.
* `Collection.Delivers` — a strategy always finds given readings.
* `Snapshot.ofRegisters` — the snapshot of given registers.
* **`Collection.Yields.outcome`** — the only result that a collection can have.
* **`Collection.strategies_agree`** — the strategies agree, and on the registers of each field only.
-/

namespace ChargeController

/-! ## Registers by address -/

namespace Register

/-- The addresses of a register. -/
def places (r : Register) : List UInt16 :=
  (List.range r.quantity.toNat).map fun i => r.address + UInt16.ofNat i

/-- The words of a register. -/
def words (w : UInt16 → UInt16) (r : Register) : Nat → UInt16 :=
  fun i => w (r.address + UInt16.ofNat i)

lemma forall_places {r : Register} {p : UInt16 → Prop} :
    (∀ a ∈ r.places, p a) ↔ ∀ i < r.quantity.toNat, p (r.address + UInt16.ofNat i) := by
  simp only [places, List.forall_mem_map, List.mem_range]

end Register

/-- The addresses that a strategy asks for. -/
def Strategy.places (strategy : Strategy) : List UInt16 :=
  strategy.reads.flatMap fun r => r.register.places

/-- The word of an input register as it reads. -/
def Device.word (d : Device) (a : UInt16) : UInt16 :=
  (d.live a).getD 0

namespace Snapshot

/-- The registers that the fields of a snapshot are taken from. -/
def sources : List UInt16 :=
  [0x3100, 0x3101, 0x3102, 0x3103, 0x3104, 0x3105, 0x3106, 0x3107, 0x3110, 0x3111, 0x311A, 0x3201,
    0x3302, 0x3303, 0x330C, 0x330D]

/-- The snapshot of input registers with given words. -/
def ofRegisters (w : UInt16 → UInt16) (timestamp : Int) (collectionTime : Double) : Snapshot where
  timestamp
  collectionTime
  arrayVoltage := Register.scaled (w 0x3100)
  arrayCurrent := Register.scaled (w 0x3101)
  arrayPower := Register.scaledPair (w 0x3102) (w 0x3103)
  chargingCurrent := Register.scaled (w 0x3105)
  chargingPower := Register.scaledPair (w 0x3106) (w 0x3107)
  batteryVoltage := Register.scaled (w 0x3104)
  batteryCharge := (w 0x311A).toUInt32
  batteryTemp := Register.signedScaled (w 0x3110)
  batteryMaxVoltage := Register.scaled (w 0x3302)
  batteryMinVoltage := Register.scaled (w 0x3303)
  deviceTemp := Register.signedScaled (w 0x3111)
  energyToday := Register.scaledPair (w 0x330C) (w 0x330D)
  chargingStatus := UInt32.ofNat ((w 0x3201).toNat / 4 % 4)

/-- A snapshot with the same readings; only the times may differ. -/
def SameReadings (s s' : Snapshot) : Prop :=
  s' = { s with timestamp := s'.timestamp, collectionTime := s'.collectionTime }

/-- **Registers without a field have no part in a snapshot.** -/
lemma ofRegisters_congr {w w' : UInt16 → UInt16} (h : ∀ a ∈ sources, w a = w' a)
    (timestamp : Int) (collectionTime : Double) :
    ofRegisters w timestamp collectionTime = ofRegisters w' timestamp collectionTime := by
  simp only [sources, List.forall_mem_cons] at h
  simp only [ofRegisters, h]

end Snapshot

namespace Collection

open Dialogue

/-! ## Words that are put into a snapshot -/

/-- The charging status is the number in bits two and three. -/
lemma chargingStatus_word (w : UInt16) :
    chargingStatus w.toUInt32 = UInt32.ofNat (w.toNat / 4 % 4) := by
  apply UInt32.toNat_inj.mp
  have hmask : (w.toNat &&& 12) >>> 2 = w.toNat / 4 % 4 := by
    rw [Nat.shiftRight_and_distrib, Nat.shiftRight_eq_div_pow]
    exact Nat.and_two_pow_sub_one_eq_mod (w.toNat / 4) 2
  have hsmall : w.toNat / 4 % 4 < UInt32.size := Nat.lt_trans (Nat.mod_lt _ (by decide)) (by decide)
  rw [UInt32.toNat_ofNat_of_lt' hsmall, ← hmask]
  rfl

/-- A field has the words of its own registers, wherever it stands in a block. -/
lemma Field.wordsIn_words (f : Field) (block : Register) (w : UInt16 → UInt16) :
    f.wordsIn block (block.words w) = f.register.words w := by
  funext i
  refine congrArg w ?_
  -- The offset is a difference of addresses, so this holds even outside the block.
  rw [Register.offsetIn, UInt16.ofNat_add, UInt16.ofNat_toNat, ← UInt16.add_assoc,
    UInt16.add_comm block.address, UInt16.sub_add_cancel]

lemma Read.put_words (r : Read) (w : UInt16 → UInt16) (s : Snapshot) :
    r.put (r.register.words w) s =
      r.fields.foldl (fun s f => f.put (f.register.words w) s) s := by
  simp only [Read.put, Field.wordsIn_words]

/-- **Either strategy puts the words of the same registers into the same fields.** -/
theorem put_reads (strategy : Strategy) (w : UInt16 → UInt16) (timestamp : Int) :
    strategy.reads.foldl (fun s r => r.put (r.register.words w) s)
        { Snapshot.blank with timestamp } =
      .ofRegisters w timestamp (Binary.zero false) := by
  simp only [Read.put_words, Snapshot.blank, Snapshot.ofRegisters, ← chargingStatus_word]
  -- No field is put twice, so the order in which a strategy reads them does not matter.
  cases strategy with
  | sequential =>
      simp only [Strategy.reads, List.map_cons, List.map_nil, List.foldl_cons, List.foldl_nil,
        Read.single, Field.put]
      rfl
  | batched =>
      simp only [Strategy.reads, List.map_cons, List.map_nil, List.foldl_cons, List.foldl_nil,
        Read.single, Field.put]
      rfl

/-! ## Collections beside a device -/

/-- What surrounds a collection from a device that others may use, too: its requests are answered by
the device, the clocks show any time, and the input registers stay as they are. -/
def Beside : Surroundings Device Ask Reply
  | d, .send r, answer, d' => answer = (d.respond r).1 ∧ (d.respond r).2.Stays d'
  | d, .pause _, _, d' => d.Stays d'
  | d, .now, _, d' => d.Stays d'
  | d, .unixTime, _, d' => d.Stays d'

/-- What a collection from a device can result in. -/
def Yields (d : Device) (strategy : Strategy) (recovery : Nat)
    (result : Except CollectionFault Snapshot) : Prop :=
  ∃ es d', Ends (collect strategy recovery).run es result ∧ Answered Beside d es d'

/-- A collection from any device has a result. -/
lemma exists_yields (d : Device) (strategy : Strategy) (recovery : Nat) :
    ∃ result, Yields d strategy recovery result := by
  have hreplies : ∀ d q, ∃ r d', Beside d q r d' := by
    intro d q
    cases q with
    | send r => exact ⟨_, _, rfl, .refl _⟩
    | pause t => exact ⟨(), _, .refl _⟩
    | now => exact ⟨(0 : Nat), _, .refl _⟩
    | unixTime => exact ⟨(0 : Int), _, .refl _⟩
  obtain ⟨es, result, d', hends, hanswered⟩ :=
    exists_answered hreplies d (collect strategy recovery).run
  exact ⟨result, es, d', hends, hanswered⟩

/-- A read of input registers is answered as they read. -/
def AnsweredBy (live : Bank) (x : Request × Answer) : Prop :=
  ∀ a q, x.1 = .read .input a q →
    x.2 = Register.bytesOfWords <$> Device.readRegisters live none a q

lemma Beside.stays {d d' : Device} {q : Ask} {r : Reply q} (hplain : d.Plain)
    (h : Beside d q r d') : d.Stays d' := by
  cases q with
  | send request => exact (Device.respond_stays hplain request).trans h.2
  | pause t => exact h
  | now => exact h
  | unixTime => exact h

/-- Whatever happens beside a collection, all its requests are answered from the same registers. -/
lemma requests_answeredBy {d d' : Device} {es : List Line} (hplain : d.Plain)
    (h : Answered Beside d es d') : ∀ x ∈ requests es, AnsweredBy d.live x := by
  induction h with
  | nil => exact fun _ hx => nomatch hx
  | @cons d₁ d₂ d₃ e es first rest ih =>
      have hstays : d₁.Stays d₂ := Beside.stays hplain first
      have hrest : ∀ x ∈ requests es, AnsweredBy d₁.live x := by
        rw [← hstays.live]
        exact ih (hstays.plain hplain)
      obtain ⟨question, reply⟩ := e
      cases question with
      | send request =>
          refine List.forall_mem_cons.mpr ⟨?_, hrest⟩
          rintro a q rfl
          exact first.1.trans (Device.respond_input hplain a q)
      | pause t => exact hrest
      | now => exact hrest
      | unixTime => exact hrest

/-! ## The only result -/

/-- A read whose register does not run past the last address. -/
def Read.Fits (r : Read) : Prop :=
  r.register.address.toNat + r.register.quantity.toNat ≤ UInt16.size

instance (r : Read) : Decidable r.Fits :=
  inferInstanceAs (Decidable (_ ≤ _))

lemma reads_fit (strategy : Strategy) : ∀ r ∈ strategy.reads, r.Fits := by
  cases strategy <;> decide

/-- The answer to a read has the words of its register, or is an error because one is missing. -/
lemma Read.answer_cases {r : Read} {live : Bank} {answer : Answer}
    (hread : r.Fills ∧ r.register.table = .input ∧ r.Fits)
    (hanswer : AnsweredBy live (r.register.readRequest, answer)) :
    ((∀ a ∈ r.register.places, (live a).isSome) ∧ ∃ data, answer = .ok data ∧
        r.fault? data = none ∧ ∀ s, r.put (Register.wordAt data) s =
          r.put (r.register.words fun a => (live a).getD 0) s) ∨
      (¬ ∀ a ∈ r.register.places, (live a).isSome) ∧ ∃ source, answer = .error source := by
  obtain ⟨hfills, htable, hfits⟩ := hread
  have hwords : answer = Register.bytesOfWords <$>
      Device.readRegisters live none r.register.address r.register.quantity :=
    hanswer _ _ (by rw [Register.readRequest, htable])
  simp only [Register.forall_places]
  rcases Device.readRegisters_cases live hfits with ⟨hall, hrow⟩ | ⟨hmissing, fault, hfault⟩
  · rw [hrow] at hwords
    refine .inl ⟨hall, _, hwords, (fault?_eq_none_iff hfills).mpr ?_, fun s => ?_⟩
    · rw [Register.length_bytesOfWords, List.length_map, List.length_range, Register.byteLength]
      omega
    · refine put_congr hfills fun i hi => ?_
      rw [Register.wordAt_bytesOfWords (by simpa using hi)]
      simp [Register.words, hi]
  · rw [hfault] at hwords
    exact .inr ⟨hmissing, fault, hwords⟩

variable {reads : List Read} {xs : List (Request × Answer)} {s : Snapshot}
  {result : Except CollectionFault Snapshot}

/-- **What is gathered from given registers** is all their words, or nothing. -/
theorem Gathers.outcome {live : Bank} (h : Gathers reads xs s result)
    (hreads : ∀ r ∈ reads, r.Fills ∧ r.register.table = .input ∧ r.Fits)
    (hxs : ∀ x ∈ xs, AnsweredBy live x) :
    ((∀ r ∈ reads, ∀ a ∈ r.register.places, (live a).isSome) ∧ result = .ok
        (reads.foldl (fun s r => r.put (r.register.words fun a => (live a).getD 0) s) s)) ∨
      (¬ ∀ r ∈ reads, ∀ a ∈ r.register.places, (live a).isSome) ∧
        ∃ fault, result = .error fault := by
  induction h with
  | nil => exact .inl ⟨fun _ hr => (nomatch hr), rfl⟩
  | @enough r reads data xs s result hfault rest ih =>
      obtain ⟨hread, hrest⟩ := List.forall_mem_cons.mp hreads
      obtain ⟨hx, hxs⟩ := List.forall_mem_cons.mp hxs
      rw [List.forall_mem_cons]
      -- An answer with bytes has come from registers that can all be read.
      rcases r.answer_cases hread hx with ⟨hall, data', hdata, -, hput⟩ | ⟨-, source, hsource⟩
      · obtain rfl := Except.ok.inj hdata
        rw [hput] at ih
        refine (ih hrest hxs).imp ?_ ?_
        · exact fun ⟨hothers, hresult⟩ => ⟨⟨hall, hothers⟩, hresult⟩
        · exact fun ⟨hmissing, hresult⟩ => ⟨fun h => hmissing h.2, hresult⟩
      · cases hsource
  | @short r reads data s fault hfault =>
      rcases r.answer_cases (hreads r List.mem_cons_self) (hxs _ List.mem_cons_self) with
        ⟨-, data', hdata, hnone, -⟩ | ⟨-, source, hsource⟩
      · obtain rfl := Except.ok.inj hdata
        rw [hnone] at hfault
        cases hfault
      · cases hsource
  | @failed r reads source s =>
      rcases r.answer_cases (hreads r List.mem_cons_self) (hxs _ List.mem_cons_self) with
        ⟨-, data', hdata, -⟩ | ⟨hmissing, -⟩
      · cases hdata
      · exact .inr ⟨fun h => hmissing (h r List.mem_cons_self), _, rfl⟩

section

variable {d : Device} {strategy : Strategy} {recovery : Nat}

/-- **The only result that a collection can have**: the words of its registers, or a fault because
one of them cannot be read. -/
theorem Yields.outcome (hplain : d.Plain) (h : Yields d strategy recovery result) :
    ((∀ a ∈ strategy.places, (d.live a).isSome) ∧ ∃ timestamp collectionTime,
        result = .ok (.ofRegisters d.word timestamp collectionTime)) ∨
      (¬ ∀ a ∈ strategy.places, (d.live a).isSome) ∧ ∃ fault, result = .error fault := by
  obtain ⟨es, d', hends, hanswered⟩ := h
  obtain ⟨started, timestamp, filled, hgathers, ended, rfl⟩ := gathers_collect hends
  have hreads : ∀ r ∈ strategy.reads, r.Fills ∧ r.register.table = .input ∧ r.Fits :=
    fun r hr =>
      ⟨(reads_fill strategy r hr).1, (reads_fill strategy r hr).2, reads_fit strategy r hr⟩
  simp only [Strategy.places, List.forall_mem_flatMap]
  rcases hgathers.outcome hreads (requests_answeredBy hplain hanswered) with
    ⟨hall, rfl⟩ | ⟨hmissing, fault, rfl⟩
  · refine .inl ⟨hall, timestamp, seconds (ended - started), ?_⟩
    rw [show (fun a => (d.live a).getD 0) = d.word from rfl, put_reads]
    rfl
  · exact .inr ⟨hmissing, fault, rfl⟩

/-- A strategy finds the readings of a snapshot, whenever it is run. -/
def Delivers (d : Device) (strategy : Strategy) (s : Snapshot) : Prop :=
  ∀ recovery, (∃ s', Yields d strategy recovery (.ok s')) ∧
    ∀ result, Yields d strategy recovery result → ∃ s', result = .ok s' ∧ s.SameReadings s'

/-- A snapshot has been found in registers that can be read. -/
lemma Yields.found (hplain : d.Plain) (h : Yields d strategy recovery (.ok s)) :
    (∀ a ∈ strategy.places, (d.live a).isSome) ∧
      s = .ofRegisters d.word s.timestamp s.collectionTime := by
  rcases h.outcome hplain with ⟨hall, timestamp, collectionTime, hs⟩ | ⟨-, fault, hfault⟩
  · obtain rfl := Except.ok.inj hs
    exact ⟨hall, rfl⟩
  · cases hfault

/-- A strategy whose registers can all be read finds their words. -/
lemma delivers_of_words (hplain : d.Plain) (hall : ∀ a ∈ strategy.places, (d.live a).isSome)
    (timestamp : Int) (collectionTime : Double) :
    Delivers d strategy (.ofRegisters d.word timestamp collectionTime) := by
  have hok : ∀ recovery result, Yields d strategy recovery result →
      ∃ timestamp collectionTime, result = .ok (.ofRegisters d.word timestamp collectionTime) :=
    fun recovery result h =>
      (h.outcome hplain).elim And.right fun hmissing => absurd hall hmissing.1
  intro recovery
  constructor
  · obtain ⟨result, h⟩ := exists_yields d strategy recovery
    obtain ⟨timestamp, collectionTime, rfl⟩ := hok recovery result h
    exact ⟨_, h⟩
  · intro result h
    obtain ⟨timestamp', collectionTime', rfl⟩ := hok recovery result h
    exact ⟨_, rfl, rfl⟩

/-! ## Agreement -/

lemma sources_subset (strategy : Strategy) : Snapshot.sources ⊆ strategy.places := by
  cases strategy <;> decide

lemma sequential_subset : Strategy.sequential.places ⊆ Snapshot.sources := by
  decide

lemma batched_subset :
    Strategy.batched.places ⊆ Snapshot.sources ++ Register.telemetryBlock.places := by
  decide

lemma places_telemetryBlock : ∀ a ∈ Register.telemetryBlock.places, 0x3100 ≤ a ∧ a ≤ 0x3111 :=
  Register.forall_places.mpr (by decide)

/-- **The strategies agree.**  From a device without a script, whatever its input registers hold
and whichever of them are there or filled in:

* a strategy finds a snapshot if and only if all registers that it asks for can be read;
* what the batched strategy finds, the sequential strategy finds, too, whenever it is run;
* so it is the other way round, if all registers of the block can be read;
* the readings are the words of their own registers;
* they are found, too, where these registers read the same and the strategy can read all others. -/
theorem strategies_agree {d : Device} (hplain : d.Plain) (recovery : Nat) :
    (∀ strategy, (∃ s, Yields d strategy recovery (.ok s)) ↔
      ∀ a ∈ strategy.places, (d.live a).isSome) ∧
    (∀ s, Yields d .batched recovery (.ok s) → Delivers d .sequential s) ∧
    ((∀ a, 0x3100 ≤ a → a ≤ 0x3111 → (d.live a).isSome) →
      ∀ s, Yields d .sequential recovery (.ok s) → Delivers d .batched s) ∧
    (∀ strategy s, Yields d strategy recovery (.ok s) →
      s = .ofRegisters d.word s.timestamp s.collectionTime) ∧
    ∀ d' : Device, d'.Plain → (∀ a ∈ Snapshot.sources, d'.live a = d.live a) →
      ∀ strategy, (∀ a ∈ strategy.places, (d.live a).isSome → (d'.live a).isSome) →
        ∀ s, Yields d strategy recovery (.ok s) → Delivers d' strategy s := by
  refine ⟨fun strategy => ⟨?_, ?_⟩, ?_, ?_, fun _ _ h => (h.found hplain).2, ?_⟩
  · rintro ⟨s, h⟩
    exact (h.found hplain).1
  · exact fun hall => (delivers_of_words hplain hall 0 (Binary.zero false) recovery).1
  · intro s h
    obtain ⟨hall, hs⟩ := h.found hplain
    rw [hs]
    exact delivers_of_words hplain
      (fun a ha => hall a (sources_subset _ (sequential_subset ha))) _ _
  · intro hblock s h
    obtain ⟨hall, hs⟩ := h.found hplain
    rw [hs]
    refine delivers_of_words hplain (fun a ha => ?_) _ _
    rcases List.mem_append.mp (batched_subset ha) with hsource | hinside
    · exact hall a (sources_subset _ hsource)
    · obtain ⟨hfirst, hlast⟩ := places_telemetryBlock a hinside
      exact hblock a hfirst hlast
  · intro d' hplain' hsame strategy hreads s h
    obtain ⟨hall, hs⟩ := h.found hplain
    have hwords : ∀ a ∈ Snapshot.sources, d.word a = d'.word a := by
      intro a ha
      rw [Device.word, Device.word, hsame a ha]
    rw [hs, Snapshot.ofRegisters_congr hwords]
    exact delivers_of_words hplain' (fun a ha => hreads a ha (hall a ha)) _ _

/-- A device that fills the gaps between its registers. -/
def gapless : Device :=
  { Device.empty with
    input := fun a => List.lookup a [(0x3100, 1831), (0x3101, 512), (0x3102, 9375), (0x3104, 1284),
      (0x3105, 702), (0x3106, 9013), (0x3110, 2350), (0x3111, 65336), (0x311A, 87), (0x3201, 11),
      (0x3302, 1440), (0x3303, 1210), (0x330C, 130)]
    fill := some 0 }

/-- Both strategies find its readings, whatever a gap in the block holds. -/
theorem found_in_gapless :
    let gap : Device := { gapless with input := Device.put gapless.input 0x3108 (some 4711) }
    ∃ s s', Yields gapless .batched 50 (.ok s) ∧ Yields gapless .sequential 50 (.ok s') ∧
      s.SameReadings s' ∧ s'.chargingStatus = 2 ∧ Delivers gapless .batched s' ∧
      Delivers gap .batched s := by
  intro gap
  have hplain : gapless.Plain := ⟨fun _ => rfl, fun _ => rfl⟩
  have hlive : ∀ a, (gapless.live a).isSome := fun a => by simp [gapless, Device.live]
  have hgap : ∀ a, (gap.live a).isSome := fun a => by simp [gap, gapless, Device.live]
  obtain ⟨hfinds, hbatched, hsequential, hwords, hsame⟩ := strategies_agree hplain 50
  obtain ⟨s, h⟩ := (hfinds .batched).mpr fun a _ => hlive a
  obtain ⟨s', h'⟩ := (hbatched s h 50).1
  obtain ⟨s'', hs'', hagree⟩ := (hbatched s h 50).2 _ h'
  obtain rfl := Except.ok.inj hs''
  refine ⟨s, s', h, h', hagree, ?_, hsequential (fun a _ _ => hlive a) s' h', ?_⟩
  · have hstatus : gapless.word 0x3201 = 11 := by decide
    rw [hwords .sequential s' h', Snapshot.ofRegisters, hstatus]
    rfl
  · refine hsame gap ⟨fun _ => rfl, fun _ => rfl⟩ (fun a ha => ?_) .batched
      (fun a _ _ => hgap a) s h
    have hne : a ≠ 0x3108 := fun heq => absurd (heq ▸ ha) (by decide)
    simp only [Device.live, gap, Device.put_of_ne hne]

end

end Collection

end ChargeController
