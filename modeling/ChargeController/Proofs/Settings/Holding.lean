import ChargeController.Proofs.Bus.Rows
import ChargeController.Proofs.Settings.Recollection

/-!
# What the registers hold

Only the accepted writes of an account change the registers, so the registers at its end are those
at its start with these writes replayed.  A reading that met no write in between has read one state
of the registers, and its configuration is the one that this state is understood as.

* `Registers.after` — the registers after the accepted writes of an account.
* `Registers.config` — the configuration that a reading finds in registers that stay as they are.
* **`config_of_answered`** — what a reading finds, if nobody writes meanwhile.
* `config_makes` — what such a configuration was made of.
* **`config_threshold`** — its thresholds are the words of the registers.
-/

namespace ChargeController

open Settings Dialogue

namespace Settings

variable {mayFail : Request → Prop} {ttl : Nat}

/-! ## Registers along an account -/

namespace Registers

/-- What a line leaves in the registers. -/
def afterLine (b : Bank) : Line → Bank
  | ⟨.send r, answer⟩ => leftBy b r answer
  | _ => b

/-- What the accepted writes of an account leave in the registers. -/
def after (b : Bank) (es : List Line) : Bank :=
  es.foldl afterLine b

lemma after_append (b : Bank) (es es' : List Line) : after b (es ++ es') = after (after b es) es' :=
  List.foldl_append

lemma afterLine_of_no_store {e : Line} (h : e.stores = false) (b : Bank) : afterLine b e = b := by
  obtain ⟨q, r⟩ := e
  cases q with
  | send request =>
      cases r with
      | error fault => rfl
      | ok data =>
          cases request with
          | read t a n => rfl
          | writeWord a value => cases h
          | writeWords a words => cases h
  | _ => rfl

lemma after_of_no_store {es : List Line} (h : ∀ e ∈ es, e.stores = false) (b : Bank) :
    after b es = b := by
  induction es generalizing b with
  | nil => rfl
  | cons e es ih =>
      show after (afterLine b e) es = b
      rw [afterLine_of_no_store (h e List.mem_cons_self)]
      exact ih (fun e' he' => h e' (List.mem_cons_of_mem _ he')) b

end Registers

lemma device_of_replies {w w' : World Bank} {q : Ask} {r : Reply q}
    (h : World.Replies (Registers.Answers mayFail) ttl w q r w') :
    w'.device = Registers.afterLine w.device ⟨q, r⟩ := by
  cases h with
  | send hanswer _ => exact hanswer.change
  | _ => rfl

/-- **The registers at the end of an account are those at its start with its writes replayed.** -/
theorem device_of_answered {w w' : World Bank} {es : List Line}
    (h : Answered (World.Replies (Registers.Answers mayFail) ttl) w es w') :
    w'.device = Registers.after w.device es := by
  induction h with
  | nil w => rfl
  | @cons w w₁ w₂ e es first rest ih => rw [ih, device_of_replies first]; rfl

/-! ## One register -/

namespace Registers

/-- That a request would change the register at an address. -/
def Reaches (a : UInt16) : Request → Prop
  | .read _ _ _ => False
  | .writeWord address _ => address = a
  | .writeWords address words => ∃ i < words.length, Device.offsetAddress? address i = some a

lemma written_of_not_reached {a : UInt16} {r : Request} (h : ¬ Reaches a r) (b : Bank) :
    written b r a = b a := by
  cases r with
  | read t address q => rfl
  | writeWord address value =>
      refine Device.put_of_ne ?_
      rintro rfl
      exact h rfl
  | writeWords address words =>
      refine Device.writeRow_of_not_reached (fun i hi ha => ?_) b
      rw [Nat.zero_add] at ha
      exact h ⟨i, hi, ha⟩

/-- That a line does not ask to change the register at an address. -/
def Spares (a : UInt16) (e : Line) : Prop :=
  ∀ r answer, e = ⟨.send r, answer⟩ → ¬ Reaches a r

/-- That a line leaves the register at an address as it is. -/
def Leaves (a : UInt16) (e : Line) : Prop :=
  ∀ b, afterLine b e a = b a

lemma leaves_of_no_store {a : UInt16} {e : Line} (h : e.stores = false) : Leaves a e := by
  intro b
  rw [afterLine_of_no_store h]

lemma leaves_of_spares {a : UInt16} {e : Line} (h : Spares a e) : Leaves a e := by
  intro b
  obtain ⟨q, r⟩ := e
  cases q with
  | send request =>
      cases r with
      | error fault => rfl
      | ok data => exact written_of_not_reached (h request (.ok data) rfl) b
  | _ => rfl

lemma after_of_leaves {a : UInt16} {es : List Line} (h : ∀ e ∈ es, Leaves a e) (b : Bank) :
    after b es a = b a := by
  induction es generalizing b with
  | nil => rfl
  | cons e es ih =>
      show after (afterLine b e) es a = b a
      rw [ih fun e' he' => h e' (List.mem_cons_of_mem _ he')]
      exact h e List.mem_cons_self b

lemma after_of_spares {a : UInt16} {es : List Line} (h : ∀ e ∈ es, Spares a e) (b : Bank) :
    after b es a = b a :=
  after_of_leaves (fun e he => leaves_of_spares (h e he)) b

lemma writeRow_congr {a : UInt16} {b b' : Bank} (h : b a = b' a) (address : UInt16) (offset : Nat)
    (words : List UInt16) :
    (Device.writeRow b address offset words).1 a =
      (Device.writeRow b' address offset words).1 a := by
  induction words generalizing b b' offset with
  | nil => exact h
  | cons w rest ih =>
      simp only [Device.writeRow]
      split
      · exact h
      · apply ih
        simp only [Device.put]
        split
        · rfl
        · exact h

lemma afterLine_congr {a : UInt16} {b b' : Bank} (h : b a = b' a) (e : Line) :
    afterLine b e a = afterLine b' e a := by
  obtain ⟨q, r⟩ := e
  cases q with
  | send request =>
      cases r with
      | error fault => exact h
      | ok data =>
          cases request with
          | read t address n => exact h
          | writeWord address value =>
              show Device.put b address _ a = Device.put b' address _ a
              simp only [Device.put]
              split
              · rfl
              · exact h
          | writeWords address words => exact writeRow_congr h address 0 words
  | _ => exact h

lemma after_congr {a : UInt16} {b b' : Bank} (h : b a = b' a) (es : List Line) :
    after b es a = after b' es a := by
  induction es generalizing b b' with
  | nil => exact h
  | cons e es ih => exact ih (afterLine_congr h e)

lemma spares_of_no_write {a : UInt16} {e : Line} (h : e.writes = false) : Spares a e := by
  rintro r answer rfl hreaches
  cases r with
  | read t address q => exact hreaches
  | writeWord address value => cases h
  | writeWords address words => cases h

lemma spares_of_quiet {a : UInt16} {e : Line} (h : e.quiet = true) : Spares a e :=
  spares_of_no_write (Exchange.writes_of_quiet h)

/-- That a register, with all its words, is not at an address. -/
def Apart (a : UInt16) (r : Register) : Prop :=
  r.address ≠ a ∧ ∀ i < r.quantity.toNat, Device.offsetAddress? r.address i ≠ some a

/-- An operation spares the addresses that none of its registers has. -/
lemma allows_spares (a : UInt16) : Allows (Apart a) fun es => ∀ e ∈ es, Spares a e where
  toConsults := {
    toLasting := .lines _
    read t address q answer e he := by
      simp only [List.mem_singleton] at he
      subst he
      exact spares_of_quiet rfl
    cached es result h e he := spares_of_quiet (quiet_consults.cached es result h e he) }
  word r value answer hr e he := by
    simp only [List.mem_singleton] at he
    subst he
    rintro r' answer' heq hreaches
    cases heq
    exact hr.1 hreaches
  clock r answer hclock hr e he := by
    simp only [List.mem_singleton] at he
    subst he
    obtain ⟨words, hlength, rfl⟩ := hr
    rintro r' answer' heq hreaches
    cases heq
    obtain ⟨i, hi, hreached⟩ := hreaches
    exact hclock.2 i (by rwa [hlength] at hi) hreached
  count e he := by
    simp only [List.mem_singleton] at he
    subst he
    exact spares_of_quiet rfl
  forget e he := by
    simp only [List.mem_singleton] at he
    subst he
    rintro r answer heq
    cases heq

end Registers

/-! ## Accepted words -/

lemma Stored.after_of_ne {ws : List RegisterWrite} {es : List Line} (h : Stored ws es) {a : UInt16}
    (hws : ∀ w ∈ ws, w.register.address ≠ a) (b : Bank) : Registers.after b es a = b a := by
  refine Registers.after_of_spares (fun e he => ?_) b
  obtain ⟨w, hw, data, rfl⟩ := h.accepts he
  rintro r answer heq hreaches
  cases heq
  exact hws w hw hreaches

/-- Among accepted writes of different registers, each leaves its word. -/
lemma Stored.after_of_mem {ws : List RegisterWrite} {es : List Line} (h : Stored ws es)
    (hnodup : (ws.map (·.register.address)).Nodup) {w : RegisterWrite} (hw : w ∈ ws) (b : Bank) :
    Registers.after b es w.register.address = some w.value := by
  induction h generalizing b with
  | nil => exact absurd hw List.not_mem_nil
  | @cons w' e ws es haccepts hrest ih =>
      rw [List.map_cons, List.nodup_cons] at hnodup
      show Registers.after (Registers.afterLine b e) es w.register.address = some w.value
      simp only [List.mem_cons] at hw
      rcases hw with rfl | hw
      · obtain ⟨data, rfl⟩ := haccepts
        rw [Stored.after_of_ne hrest]
        · exact Device.put_same ..
        · intro w' hw' heq
          exact hnodup.1 (List.mem_map.mpr ⟨w', hw', heq⟩)
      · exact ih hnodup.2 hw _

/-! ## Reading registers that nobody writes -/

lemma device_of_no_store {w w' : World Bank} {es : List Line}
    (h : Answered (World.Replies (Registers.Answers mayFail) ttl) w es w')
    (hnone : ∀ e ∈ es, e.stores = false) : w'.device = w.device := by
  rw [device_of_answered h, Registers.after_of_no_store hnone]

/-- Every reply in an account without writes was given by the registers of its start. -/
lemma reply_of_answered {w w' : World Bank} {es : List Line}
    (h : Answered (World.Replies (Registers.Answers mayFail) ttl) w es w')
    (hnone : ∀ e ∈ es, e.stores = false) {e : Line} (he : e ∈ es) :
    ∃ w₁ w₂, w₁.device = w.device ∧
      World.Replies (Registers.Answers mayFail) ttl w₁ e.question e.reply w₂ := by
  obtain ⟨before, after, rfl⟩ := List.append_of_mem he
  obtain ⟨w₁, hbefore, hrest⟩ := answered_append.mp h
  obtain ⟨w₂, hreply, -⟩ := answered_cons.mp hrest
  refine ⟨w₁, w₂, device_of_no_store hbefore ?_, hreply⟩
  exact fun e he => hnone e (List.mem_append_left _ he)

/-- What was read in an account without writes is what the registers held at its start. -/
lemma read_of_answered {w w' : World Bank} {es : List Line}
    (h : Answered (World.Replies (Registers.Answers mayFail) ttl) w es w')
    (hnone : ∀ e ∈ es, e.stores = false) {a q : UInt16} {data : Bytes}
    (hmem : (⟨.send (.read .holding a q), .ok data⟩ : Line) ∈ es) :
    ∃ words, Device.readRegisters w.device none a q = .ok words ∧
      data = Register.bytesOfWords words := by
  obtain ⟨w₁, w₂, hsame, hreply⟩ := reply_of_answered h hnone hmem
  rw [← hsame]
  cases hreply with
  | send hanswer _ => exact hanswer.read

/-- The configuration that a reading finds in registers that stay as they are. -/
def Registers.config (b : Bank) : Except SettingsFault DeviceConfig :=
  (play (World.serve (fun _ => false) 0) ⟨b, .empty, 0, 0⟩ readConfig.run).2.1

lemma answered_unchanged {S : Type} {serve : S → (q : Ask) → Reply q × S} {s : S}
    {es : List Line} (h : ∀ e ∈ es, serve s e.question = (e.reply, s)) :
    Answered (fun s q r s' => serve s q = (r, s')) s es s := by
  induction es with
  | nil => exact .nil s
  | cons e es ih =>
      exact .cons (h e List.mem_cons_self) (ih fun e' he' => h e' (List.mem_cons_of_mem _ he'))

lemma readConfig_lines :
    Always (fun es => ∀ e ∈ es, ∃ b : Block, ∃ answer, e = ⟨.send b.register.readRequest, answer⟩)
      readConfig := by
  have hP := Lasting.lines fun e : Line =>
    ∃ b : Block, ∃ answer, e = ⟨.send b.register.readRequest, answer⟩
  have hsilent {α : Type} {p : Procedure α} (h : Silent p) := h.always hP
  refine readConfig_built (M := Always _) (.bind hP) (.pure hP) (fun b => ?_)
    (fun r x => hsilent (silent_decoded r x)) fun data => hsilent (silent_clockTime data)
  intro es result h
  rcases tells_readRegister.mp h with ⟨data, rfl, -⟩ | ⟨source, rfl, -⟩
  · exact List.forall_mem_singleton.mpr ⟨b, _, rfl⟩
  · exact List.forall_mem_singleton.mpr ⟨b, _, rfl⟩

/-- The answer of registers that stay as they are to a read of a block. -/
def Registers.blockAnswer (b : Bank) (block : Block) : Answer :=
  Register.bytesOfWords <$>
    Device.readRegisters b none block.register.address block.register.quantity

/-- A reading whose every answer is what the registers held found their configuration. -/
lemma config_of_blockAnswers {b : Bank} {reads : List Line}
    {result : Except SettingsFault DeviceConfig} (hreads : Tells readConfig reads result)
    (h : ∀ (block : Block) (answer : Answer),
      (⟨.send block.register.readRequest, answer⟩ : Line) ∈ reads →
        answer = Registers.blockAnswer b block) : Registers.config b = result := by
  have hserve : ∀ e ∈ reads,
      World.serve (fun _ => false) 0 ⟨b, .empty, 0, 0⟩ e.question =
        (e.reply, ⟨b, .empty, 0, 0⟩) := by
    intro e he
    obtain ⟨block, answer, rfl⟩ := readConfig_lines _ _ hreads e he
    have hanswer : Registers.answer (fun _ => false) b block.register.readRequest =
        (answer, b) := by
      rw [h block answer he]
      cases block <;> rfl
    unfold World.serve
    dsimp only
    rw [hanswer]
  rw [Registers.config, play_eq_of_ends hreads (answered_unchanged hserve)]

/-- **What a reading finds, if nobody writes meanwhile**, is the configuration of the registers. -/
theorem config_of_answered {w w' : World Bank} {reads : List Line} {c : DeviceConfig}
    (h : Answered (World.Replies (Registers.Answers mayFail) ttl) w reads w')
    (hreads : Tells readConfig reads (.ok c)) : Registers.config w.device = .ok c := by
  have hnone := storeless_consults.readConfig _ _ hreads
  refine config_of_blockAnswers hreads fun block answer hmem => ?_
  obtain ⟨data, rfl, -⟩ := tells_readConfig_ok.mp hreads
  obtain rfl := answer_of_mem_readout hmem
  obtain ⟨words, hwords, hdata⟩ : ∃ words, Device.readRegisters w.device none
      block.register.address block.register.quantity = .ok words ∧
        data block = Register.bytesOfWords words :=
    read_of_answered h hnone (by cases block <;> exact hmem)
  rw [Registers.blockAnswer, hwords, hdata]
  rfl

/-! ## The thresholds -/

lemma readWord_bytes {what : String} {words : List UInt16} {word : UInt16}
    (h : Register.readWord what (Register.bytesOfWords words) = .ok word) :
    words[0]? = some word := by
  cases words with
  | nil => cases h
  | cons first rest =>
      rw [← Except.ok.inj h]
      exact congrArg some (Register.word_wordBytes first).symm

lemma readWords_bytes {what : String} {count : Nat} {words row : List UInt16}
    (h : Register.readWords what count (Register.bytesOfWords words) = .ok row) :
    row = words.take count := by
  simp only [Register.readWords] at h
  cases hlong : Register.require what (count * 2) (Register.bytesOfWords words) with
  | error fault =>
      rw [hlong] at h
      cases h
  | ok _ =>
      rw [hlong] at h
      obtain rfl := Except.ok.inj h
      rw [Register.leadingWords_bytesOfWords]

lemma ok_of_map {ε α β : Type} {f : α → β} {x : Except ε α} {b : β} (h : f <$> x = .ok b) :
    ∃ a, x = .ok a ∧ b = f a := by
  cases x with
  | error fault => cases h
  | ok a => exact ⟨a, rfl, (Except.ok.inj h).symm⟩

lemma readRegisters_place {b : Bank} {block r : Register} {words : List UInt16}
    (hwords : Device.readRegisters b none block.address block.quantity = .ok words)
    (hlt : block.offsetIn r < block.quantity.toNat)
    (hplace : Device.offsetAddress? block.address (block.offsetIn r) = some r.address) :
    ∃ word, b r.address = some word ∧
      (words.take block.quantity.toNat)[block.offsetIn r]? = some word := by
  obtain ⟨address, word, haddress, hbank, hword⟩ := Device.readRegisters_word hwords hlt
  obtain rfl := Option.some.inj (hplace.symm.trans haddress)
  exact ⟨word, hbank, (List.getElem?_take_of_lt hlt).trans hword⟩

/-- The value at a register's place in a row is that of the register's word. -/
lemma valueAt_row {b : Bank} {block r : Register} {words : List UInt16} {decode : UInt16 → Single}
    (hwords : Device.readRegisters b none block.address block.quantity = .ok words)
    (hlt : block.offsetIn r < block.quantity.toNat)
    (hplace : Device.offsetAddress? block.address (block.offsetIn r) = some r.address) :
    ∃ word, b r.address = some word ∧
      valueAt ((words.take block.quantity.toNat).map decode) block r = decode word := by
  obtain ⟨word, hbank, hword⟩ := readRegisters_place hwords hlt hplace
  refine ⟨word, hbank, ?_⟩
  dsimp only [valueAt]
  rw [List.getD_eq_getElem?_getD, List.getElem?_map, hword, Option.map_some, Option.getD_some]

/-- The word at a register's place in a row is the register's. -/
lemma wordAt_row {b : Bank} {block r : Register} {words : List UInt16}
    (hwords : Device.readRegisters b none block.address block.quantity = .ok words)
    (hlt : block.offsetIn r < block.quantity.toNat)
    (hplace : Device.offsetAddress? block.address (block.offsetIn r) = some r.address) :
    b r.address = some ((words.take block.quantity.toNat).getD (block.offsetIn r) 0) := by
  obtain ⟨word, hbank, hword⟩ := readRegisters_place hwords hlt hplace
  rw [hbank, List.getD_eq_getElem?_getD, hword, Option.getD_some]

/-- The thresholds of a configuration are the words that the registers held when they were read. -/
lemma Makes.threshold_word {data : Block → Bytes} {c : DeviceConfig} (hmakes : Makes data c)
    {b : Bank}
    (hread : ∃ words, Device.readRegisters b none Register.voltageThresholds.address
      Register.voltageThresholds.quantity = .ok words ∧
      data .thresholds = Register.bytesOfWords words) (x : Threshold) :
    ∃ word, b x.register.address = some word ∧
      c.charging.threshold x = Register.scaled word := by
  obtain ⟨volts, hvolts, hthreshold⟩ := (Makes.understood hmakes).threshold
  obtain ⟨words, hwords, hdata⟩ := hread
  rw [hdata] at hvolts
  obtain ⟨row, hrow, rfl⟩ := ok_of_map hvolts
  rw [hthreshold, readWords_bytes hrow]
  exact valueAt_row hwords (by cases x <;> decide) (by cases x <;> decide)

/-- The bytes of every block are those of its words in the registers. -/
def Registers.Shows (b : Bank) (data : Block → Bytes) : Prop :=
  ∀ block : Block, ∃ words,
    Device.readRegisters b none block.register.address block.register.quantity = .ok words ∧
      data block = Register.bytesOfWords words

/-- A configuration of registers was made of what each of its blocks holds. -/
lemma config_makes {b : Bank} {c : DeviceConfig} (h : Registers.config b = .ok c) :
    ∃ data, Makes data c ∧ Registers.Shows b data := by
  obtain ⟨hends, hanswered⟩ := play_ends
    (World.serve_all 0) (⟨b, .empty, 0, 0⟩ : World Bank) readConfig.run
  generalize (play (World.serve (fun _ => false) 0) ⟨b, .empty, 0, 0⟩ readConfig.run).1 = reads
    at hends hanswered
  have hreads : Tells readConfig reads (.ok c) := by
    rw [← h]
    exact hends
  have hnone := storeless_consults.readConfig _ _ hreads
  obtain ⟨data, rfl, hmakes⟩ := tells_readConfig_ok.mp hreads
  refine ⟨data, hmakes, fun block => read_of_answered hanswered hnone ?_⟩
  have hmem : block.line (data block) ∈ readout data :=
    List.mem_map.mpr ⟨block, Listed.mem_all _, rfl⟩
  cases block <;> exact hmem

/-- **The thresholds of a configuration are the words of their registers.** -/
theorem config_threshold {b : Bank} {c : DeviceConfig} (h : Registers.config b = .ok c)
    (x : Threshold) :
    ∃ word, b x.register.address = some word ∧
      c.charging.threshold x = Register.scaled word := by
  obtain ⟨data, hmakes, hread⟩ := config_makes h
  exact hmakes.threshold_word (hread .thresholds) x

end Settings

end ChargeController
