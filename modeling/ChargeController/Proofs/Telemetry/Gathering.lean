import ChargeController.Proofs.Bus.Rows
import ChargeController.Proofs.Dialogue.Transcript
import ChargeController.Proofs.Telemetry.Decoding

/-!
# All or nothing

Whatever answers a collection gets, it sends the requests of its strategy in order up to the first
answer that is an error or too short, and has a snapshot if there is none.

* `Collection.Gathers` — what becomes of a snapshot with given answers.
* **`Collection.gathers_collect`** — a collection gathers the reads of its strategy.
* **`Collection.all_or_nothing`** — the requests, the result and the fault of any collection, and
  that surplus bytes have no part in them.
-/

namespace ChargeController

namespace Collection

open Dialogue

/-- A question of a collection and its reply. -/
abbrev Line := Exchange Ask Reply

/-- The requests among some lines, with their answers. -/
def requests (es : List Line) : List (Request × Answer) :=
  es.filterMap fun
    | ⟨.send r, answer⟩ => some (r, answer)
    | _ => none

/-- A line without the bytes that were not asked for. -/
def trimmed : Line → Line
  | ⟨.send (.read table a q), .ok data⟩ => ⟨.send (.read table a q), .ok (data.take (q.toNat * 2))⟩
  | e => e

/-! ## What is gathered -/

/-- What becomes of a snapshot by given reads with given answers: the first answer that is an error,
or lacks a byte of a field, ends it. -/
inductive Gathers : List Read → List (Request × Answer) → Snapshot →
    Except CollectionFault Snapshot → Prop
  | nil {s} : Gathers [] [] s (.ok s)
  | enough {r reads data xs s result} (hfault : r.fault? data = none)
      (rest : Gathers reads xs (r.put (Register.wordAt data) s) result) :
      Gathers (r :: reads) ((r.register.readRequest, .ok data) :: xs) s result
  | short {r reads data s fault} (hfault : r.fault? data = some fault) :
      Gathers (r :: reads) [(r.register.readRequest, .ok data)] s (.error fault)
  | failed {r reads source s} :
      Gathers (r :: reads) [(r.register.readRequest, .error source)] s
        (.error (.read r.register source))

variable {es : List Line} {s : Snapshot} {recovery : Nat} {r : Read} {reads : List Read}
  {step : Step} {steps : List Step} {xs : List (Request × Answer)}
  {result : Except CollectionFault Snapshot}

@[simp] lemma requests_nil : requests [] = [] :=
  rfl

@[simp] lemma requests_append {es' : List Line} :
    requests (es ++ es') = requests es ++ requests es' :=
  List.filterMap_append

/-! ## Single steps -/

/-- What is said when a register is read and something is made of its bytes. -/
lemma ends_readRegister_bind {r : Register} {α : Type} {k : Bytes → Procedure α}
    {result : Except CollectionFault α} :
    Ends (readRegister r >>= k).run es result ↔
      (∃ data rest, es = ⟨.send r.readRequest, .ok data⟩ :: rest ∧ Ends (k data).run rest result) ∨
        ∃ source, es = [⟨.send r.readRequest, .error source⟩] ∧
          result = .error (.read r source) := by
  rw [readRegister, LawfulMonad.bind_assoc]
  refine ends_run_question_bind.trans ?_
  constructor
  · rintro ⟨answer, rest, rfl, hrest⟩
    cases answer with
    | ok data => exact .inl ⟨data, rest, rfl, hrest⟩
    | error source =>
        obtain ⟨rfl, rfl⟩ := ends_done.mp hrest
        exact .inr ⟨source, rfl, rfl⟩
  · rintro (⟨data, rest, rfl, hrest⟩ | ⟨source, rfl, rfl⟩)
    · exact ⟨.ok data, rest, rfl, hrest⟩
    · exact ⟨.error source, [], rfl, .stay _⟩

lemma ends_recover {result : Except CollectionFault Unit}
    (h : Ends (recover recovery).run es result) :
    result = .ok () ∧ requests es = [] ∧ es.map trimmed = es := by
  by_cases hzero : recovery = 0
  · rw [show recover recovery = pure () from if_pos hzero] at h
    obtain ⟨rfl, rfl⟩ := ends_run_pure.mp h
    exact ⟨rfl, rfl, rfl⟩
  · rw [show recover recovery = ask (.pause recovery) from if_neg hzero] at h
    obtain ⟨r, rfl, rfl⟩ := ends_run_lift.mp h
    exact ⟨rfl, rfl, rfl⟩

lemma ends_liftExcept_bind {α β : Type} {x : Except CollectionFault α} {k : α → Procedure β}
    {result : Except CollectionFault β} :
    Ends (fill.liftExcept x >>= k).run es result ↔
      (∃ a, x = .ok a ∧ Ends (k a).run es result) ∨
        ∃ fault, x = .error fault ∧ es = [] ∧ result = .error fault := by
  cases x with
  | ok a =>
      constructor
      · exact fun h => .inl ⟨a, rfl, h⟩
      · rintro (⟨a', ha, h⟩ | ⟨fault, hfault, -, -⟩)
        · obtain rfl := Except.ok.inj ha
          exact h
        · cases hfault
  | error fault =>
      refine ends_done.trans ⟨fun ⟨hes, hresult⟩ => .inr ⟨fault, rfl, hes, hresult⟩, ?_⟩
      rintro (⟨a', ha, -⟩ | ⟨fault', hfault, hes, hresult⟩)
      · cases ha
      · obtain rfl := Except.error.inj hfault
        exact ⟨hes, hresult⟩

/-! ## A whole collection -/

lemma fill_single : fill recovery [step] s =
    (readRegister step.register >>= fun data =>
      fill.liftExcept (step.absorb data s) >>= pure) := by
  simp only [fill, bind_pure]

lemma gathers_step (hstep : r.IsStep step) {k : Snapshot → Procedure Snapshot}
    (h : Ends (readRegister step.register >>= fun data =>
      fill.liftExcept (step.absorb data s) >>= k).run es result)
    (hk : ∀ s es result, Ends (k s).run es result → Gathers reads (requests es) s result) :
    Gathers (r :: reads) (requests es) s result := by
  rw [hstep.register] at h
  rcases ends_readRegister_bind.mp h with ⟨data, rest, rfl, hrest⟩ | ⟨source, rfl, rfl⟩
  · rw [hstep.absorb, Read.absorb] at hrest
    rcases ends_liftExcept_bind.mp hrest with ⟨s', hs', hgoes⟩ | ⟨fault, hfault, rfl, rfl⟩
    · cases hnone : r.fault? data with
      | none =>
          rw [hnone] at hs'
          obtain rfl := Except.ok.inj hs'
          exact .enough hnone (hk _ _ _ hgoes)
      | some fault =>
          rw [hnone] at hs'
          cases hs'
    · cases hsome : r.fault? data with
      | none =>
          rw [hsome] at hfault
          cases hfault
      | some fault' =>
          rw [hsome] at hfault
          obtain rfl := Except.error.inj hfault
          exact .short hsome
  · exact .failed

/-- **Filling a snapshot gathers the reads of its steps.** -/
theorem gathers_fill (hsteps : List.Forall₂ Read.IsStep reads steps)
    (h : Ends (fill recovery steps s).run es result) : Gathers reads (requests es) s result := by
  induction hsteps generalizing s es result with
  | nil =>
      obtain ⟨rfl, rfl⟩ := ends_run_pure.mp h
      exact .nil
  | cons hstep hrest ih =>
      -- There is a pause after every step but the last one.
      cases hrest with
      | nil =>
          rw [fill_single] at h
          refine gathers_step hstep h fun s es result h => ?_
          obtain ⟨rfl, rfl⟩ := ends_run_pure.mp h
          exact .nil
      | cons hnext hrest =>
          refine gathers_step hstep h fun s es result h => ?_
          rcases ends_run_bind.mp h with ⟨fault, hfault, -⟩ | ⟨first, _, rest, rfl, hrecover, hrest⟩
          · cases (ends_recover hfault).1
          · rw [requests_append, (ends_recover hrecover).2.1, List.nil_append]
            exact ih hrest

/-- What a collection says before, while and after it fills its snapshot. -/
lemma ends_collect {strategy : Strategy} :
    Ends (collect strategy recovery).run es result ↔
      ∃ (started : Nat) (timestamp : Int) (rest : List Line),
        es = ⟨.now, started⟩ :: ⟨.unixTime, timestamp⟩ :: rest ∧
        ((∃ fault, Ends (fill recovery strategy.plan { Snapshot.blank with timestamp }).run rest
            (.error fault) ∧ result = .error fault) ∨
          ∃ (filling : List Line) (s : Snapshot) (ended : Nat), rest = filling ++ [⟨.now, ended⟩] ∧
            Ends (fill recovery strategy.plan { Snapshot.blank with timestamp }).run filling
              (.ok s) ∧
            result = .ok { s with collectionTime := seconds (ended - started) }) := by
  rw [collect]
  constructor
  · intro h
    obtain ⟨started, _, rfl, htimed⟩ := ends_run_question_bind.mp h
    obtain ⟨timestamp, rest, rfl, hrest⟩ := ends_run_question_bind.mp htimed
    refine ⟨started, timestamp, rest, rfl, ?_⟩
    rcases ends_run_bind.mp hrest with ⟨fault, hfill, rfl⟩ | ⟨filling, s, _, rfl, hfill, hlast⟩
    · exact .inl ⟨fault, hfill, rfl⟩
    · obtain ⟨ended, _, rfl, hdone⟩ := ends_run_question_bind.mp hlast
      obtain ⟨rfl, rfl⟩ := ends_run_pure.mp hdone
      exact .inr ⟨filling, s, ended, rfl, hfill, rfl⟩
  · rintro ⟨started, timestamp, rest, rfl, h⟩
    refine ends_run_question_bind.mpr ⟨started, _, rfl, ends_run_question_bind.mpr
      ⟨timestamp, _, rfl, ends_run_bind.mpr ?_⟩⟩
    rcases h with ⟨fault, hfill, rfl⟩ | ⟨filling, s, ended, rfl, hfill, rfl⟩
    · exact .inl ⟨fault, hfill, rfl⟩
    · exact .inr ⟨filling, s, _, rfl, hfill, ends_run_question_bind.mpr
        ⟨ended, [], rfl, ends_run_pure.mpr ⟨rfl, rfl⟩⟩⟩

/-- **A collection gathers the reads of its strategy.** -/
theorem gathers_collect {strategy : Strategy} (h : Ends (collect strategy recovery).run es result) :
    ∃ (started : Nat) (timestamp : Int) (filled : _), Gathers strategy.reads (requests es)
      { Snapshot.blank with timestamp } filled ∧
      ∃ ended, result =
        (fun s => { s with collectionTime := seconds (ended - started) }) <$> filled := by
  obtain ⟨started, timestamp, rest, rfl, hbody⟩ := ends_collect.mp h
  refine ⟨started, timestamp, ?_⟩
  rcases hbody with ⟨fault, hfill, rfl⟩ | ⟨filling, s, ended, rfl, hfill, rfl⟩
  · refine ⟨.error fault, ?_, 0, rfl⟩
    change Gathers _ (requests rest) _ _
    exact gathers_fill strategy.plan_absorbs hfill
  · refine ⟨.ok s, ?_, ended, rfl⟩
    change Gathers _ (requests (filling ++ [⟨.now, ended⟩])) _ _
    rw [requests_append, show requests [⟨.now, ended⟩] = [] from rfl, List.append_nil]
    exact gathers_fill strategy.plan_absorbs hfill

/-! ## Requests and faults -/

namespace Read

/-- What an answer is refused for. -/
def verdict (r : Read) : Answer → Option CollectionFault
  | .ok data => r.fault? data
  | .error source => some (.read r.register source)

/-- A request was answered with bytes enough for its register. -/
def Suffices (r : Read) (x : Request × Answer) : Prop :=
  x.1 = r.register.readRequest ∧ ∃ data, x.2 = .ok data ∧ r.register.byteLength ≤ data.length

/-- The fields of a read fill its register up to its end, and no more. -/
def Fills (r : Read) : Prop :=
  (∀ f ∈ r.fields, f.endIn r.register ≤ r.register.byteLength) ∧
    ∃ f ∈ r.fields, f.endIn r.register = r.register.byteLength

instance (r : Read) : Decidable r.Fills :=
  inferInstanceAs (Decidable (_ ∧ _))

lemma fault?_eq_none_iff (hfills : r.Fills) {data : Bytes} :
    r.fault? data = none ↔ r.register.byteLength ≤ data.length := by
  obtain ⟨hends, f, hf, hend⟩ := hfills
  simp only [fault?, Option.map_eq_none_iff, List.find?_eq_none, decide_eq_true_eq, Nat.not_lt]
  constructor
  · intro h
    rw [← hend]
    exact h f hf
  · exact fun h f' hf' => Nat.le_trans (hends f' hf') h

/-- What an answer puts into a snapshot depends on the words of the register only. -/
lemma put_congr (hfills : r.Fills) {w w' : Nat → UInt16}
    (h : ∀ i < r.register.quantity.toNat, w i = w' i) : r.put w s = r.put w' s := by
  refine List.foldl_ext _ _ _ fun s f hf => Field.put_congr fun i hi => h _ ?_
  have hend := hfills.1 f hf
  simp only [Field.endIn, Register.byteLength] at hend
  omega

end Read

/-- Every request of a collection is read up to its end, and is one for input registers. -/
lemma reads_fill (strategy : Strategy) :
    ∀ r ∈ strategy.reads, r.Fills ∧ r.register.table = .input := by
  cases strategy <;> decide

/-- **What was gathered is complete, or has ended with the first fault.** -/
theorem Gathers.cases (h : Gathers reads xs s result) (hfills : ∀ r ∈ reads, r.Fills) :
    (∃ s', result = .ok s') ∧ List.Forall₂ Read.Suffices reads xs ∨
      ∃ fault before r after good answer, result = .error fault ∧ reads = before ++ r :: after ∧
        xs = good ++ [(r.register.readRequest, answer)] ∧
        List.Forall₂ Read.Suffices before good ∧ r.verdict answer = some fault := by
  induction h with
  | nil => exact .inl ⟨⟨_, rfl⟩, .nil⟩
  | @enough r reads data xs s result hfault rest ih =>
      have hsuffices : r.Suffices (r.register.readRequest, .ok data) :=
        ⟨rfl, data, rfl, (Read.fault?_eq_none_iff (hfills r List.mem_cons_self)).mp hfault⟩
      rcases ih fun r' hr' => hfills r' (List.mem_cons_of_mem _ hr') with
        ⟨hok, hall⟩ | ⟨fault, before, r', after, good, answer, hresult, rfl, rfl, hgood, hverdict⟩
      · exact .inl ⟨hok, .cons hsuffices hall⟩
      · exact .inr ⟨fault, r :: before, r', after, _ :: good, answer, hresult, rfl, rfl,
          .cons hsuffices hgood, hverdict⟩
  | @short r reads data s fault hfault =>
      exact .inr ⟨fault, [], r, reads, [], .ok data, rfl, rfl, rfl, .nil, hfault⟩
  | @failed r reads source s =>
      exact .inr ⟨_, [], r, reads, [], .error source, rfl, rfl, rfl, .nil, rfl⟩

lemma Gathers.in_order (h : Gathers reads xs s result) :
    xs.map Prod.fst <+: reads.map fun r => r.register.readRequest := by
  induction h with
  | nil => exact List.nil_prefix
  | enough hfault rest ih => exact List.cons_prefix_cons.mpr ⟨rfl, ih⟩
  | short hfault => exact List.cons_prefix_cons.mpr ⟨rfl, List.nil_prefix⟩
  | failed => exact List.cons_prefix_cons.mpr ⟨rfl, List.nil_prefix⟩

/-! ## Surplus bytes -/

lemma Read.absorb_take {data : Bytes} (hfills : r.Fills) :
    r.absorb (data.take r.register.byteLength) s = r.absorb data s := by
  by_cases hlong : data.length ≤ r.register.byteLength
  · rw [List.take_of_length_le hlong]
  · have htaken : r.register.byteLength ≤ (data.take r.register.byteLength).length := by
      rw [List.length_take]
      omega
    rw [absorb, absorb, (fault?_eq_none_iff hfills).mpr htaken,
      (fault?_eq_none_iff hfills).mpr (by omega)]
    refine congrArg Except.ok (put_congr hfills fun i hi => ?_)
    rw [Register.byteLength, Nat.mul_comm]
    exact Register.wordAt_take hi

lemma trimmed_step (hstep : r.IsStep step) (hfills : r.Fills) {k : Snapshot → Procedure Snapshot}
    (h : Ends (readRegister step.register >>= fun data =>
      fill.liftExcept (step.absorb data s) >>= k).run es result)
    (hk : ∀ s es result, Ends (k s).run es result → Ends (k s).run (es.map trimmed) result) :
    Ends (readRegister step.register >>= fun data =>
      fill.liftExcept (step.absorb data s) >>= k).run (es.map trimmed) result := by
  rcases ends_readRegister_bind.mp h with ⟨data, rest, rfl, hrest⟩ | ⟨source, rfl, rfl⟩
  · refine ends_readRegister_bind.mpr (.inl ⟨_, rest.map trimmed, rfl, ?_⟩)
    have habsorb : step.absorb (data.take step.register.byteLength) s = step.absorb data s := by
      rw [hstep.absorb, hstep.absorb, hstep.register, Read.absorb_take hfills]
    change Ends (fill.liftExcept (step.absorb (data.take step.register.byteLength) s) >>= k).run _ _
    rw [habsorb]
    refine ends_liftExcept_bind.mpr ((ends_liftExcept_bind.mp hrest).imp ?_ ?_)
    · rintro ⟨s', hs', hgoes⟩
      exact ⟨s', hs', hk _ _ _ hgoes⟩
    · rintro ⟨fault, hfault, rfl, rfl⟩
      exact ⟨fault, hfault, rfl, rfl⟩
  · exact ends_readRegister_bind.mpr (.inr ⟨source, rfl, rfl⟩)

/-- Filling a snapshot goes the same way without surplus bytes. -/
lemma trimmed_fill (hsteps : List.Forall₂ Read.IsStep reads steps) (hfills : ∀ r ∈ reads, r.Fills)
    (h : Ends (fill recovery steps s).run es result) :
    Ends (fill recovery steps s).run (es.map trimmed) result := by
  induction hsteps generalizing s es result with
  | nil =>
      obtain ⟨rfl, rfl⟩ := ends_run_pure.mp h
      exact ends_run_pure.mpr ⟨rfl, rfl⟩
  | cons hstep hrest ih =>
      have hfill := hfills _ List.mem_cons_self
      cases hrest with
      | nil =>
          rw [fill_single] at h ⊢
          refine trimmed_step hstep hfill h fun s es result h => ?_
          obtain ⟨rfl, rfl⟩ := ends_run_pure.mp h
          exact ends_run_pure.mpr ⟨rfl, rfl⟩
      | cons hnext hrest =>
          refine trimmed_step hstep hfill h fun s es result h => ?_
          refine ends_run_bind.mpr ((ends_run_bind.mp h).imp ?_ ?_)
          · rintro ⟨fault, hfault, -⟩
            cases (ends_recover hfault).1
          · rintro ⟨first, u, rest, rfl, hrecover, hgoes⟩
            rw [List.map_append, (ends_recover hrecover).2.2]
            exact ⟨first, u, _, rfl, hrecover,
              ih (fun r hr => hfills r (List.mem_cons_of_mem _ hr)) hgoes⟩

/-- A collection goes the same way without surplus bytes. -/
theorem trimmed_collect {strategy : Strategy} (h : Ends (collect strategy recovery).run es result) :
    Ends (collect strategy recovery).run (es.map trimmed) result := by
  have hfills : ∀ r ∈ strategy.reads, r.Fills := fun r hr => (reads_fill strategy r hr).1
  obtain ⟨started, timestamp, rest, rfl, hbody⟩ := ends_collect.mp h
  refine ends_collect.mpr ⟨started, timestamp, rest.map trimmed, rfl, hbody.imp ?_ ?_⟩
  · rintro ⟨fault, hfill, rfl⟩
    exact ⟨fault, trimmed_fill strategy.plan_absorbs hfills hfill, rfl⟩
  · rintro ⟨filling, s, ended, rfl, hfill, rfl⟩
    exact ⟨filling.map trimmed, s, ended, List.map_append,
      trimmed_fill strategy.plan_absorbs hfills hfill, rfl⟩

/-! ## All or nothing -/

/-- A read with a fault was not answered with bytes enough for it. -/
lemma not_suffices_of_verdict {x : Request × Answer} {fault : CollectionFault} (hfills : r.Fills)
    (hverdict : r.verdict x.2 = some fault) : ¬ r.Suffices x := by
  rintro ⟨-, data, hdata, hlong⟩
  rw [hdata, Read.verdict, (Read.fault?_eq_none_iff hfills).mpr hlong] at hverdict
  cases hverdict

lemma not_all_suffice {before after : List Read} {good : List (Request × Answer)}
    {x : Request × Answer} (hgood : List.Forall₂ Read.Suffices before good)
    (hlast : ¬ r.Suffices x) :
    ¬ List.Forall₂ Read.Suffices (before ++ r :: after) (good ++ [x]) := by
  intro hall
  have hrest := List.forall₂_drop_append _ _ _ hall
  rw [← hgood.length_eq, List.drop_left] at hrest
  cases hrest with
  | cons hx _ => exact hlast hx

/-- **A collection is all or nothing.**  Whatever answers it gets, by either strategy:

* it comes to an end, as long as there are answers;
* it has a snapshot if and only if every read of the strategy, in order, was answered with bytes
  enough for its register;
* otherwise all reads before the last one were, and the fault is that of the last answer: the error
  with the register that was asked for, or too few bytes with the first field that lacks some;
* its requests are the first ones of the strategy, and none asks for anything but input registers;
* bytes that were not asked for have no part in the result. -/
theorem all_or_nothing (strategy : Strategy) (recovery : Nat) :
    (∀ {S : Type} (around : Surroundings S Ask Reply), (∀ s q, ∃ r s', around s q r s') →
      ∀ s, ∃ es result s', Ends (collect strategy recovery).run es result ∧
        Answered around s es s') ∧
    ∀ es result, Ends (collect strategy recovery).run es result →
      ((∃ s, result = .ok s) ↔ List.Forall₂ Read.Suffices strategy.reads (requests es)) ∧
      (∀ fault, result = .error fault → ∃ before r after good answer,
        strategy.reads = before ++ r :: after ∧
        requests es = good ++ [(r.register.readRequest, answer)] ∧
        List.Forall₂ Read.Suffices before good ∧ r.verdict answer = some fault) ∧
      ((requests es).map Prod.fst <+: strategy.reads.map fun r => r.register.readRequest) ∧
      (∀ x ∈ requests es, ∃ address quantity, x.1 = .read .input address quantity) ∧
      ∀ es' result', Ends (collect strategy recovery).run es' result' →
        es'.map trimmed = es.map trimmed → result' = result := by
  refine ⟨fun around hreplies s => exists_answered hreplies s _, fun es result h => ?_⟩
  have hfills : ∀ r ∈ strategy.reads, r.Fills := fun r hr => (reads_fill strategy r hr).1
  obtain ⟨started, timestamp, filled, hgathers, ended, hresult⟩ := gathers_collect h
  refine ⟨?_, ?_, hgathers.in_order, ?_, ?_⟩
  · rcases hgathers.cases hfills with
      ⟨⟨s, rfl⟩, hall⟩ | ⟨fault, before, r, after, good, answer, rfl, hreads, hxs, hgood, hverdict⟩
    · exact iff_of_true ⟨_, hresult⟩ hall
    · refine iff_of_false ?_ ?_
      · rintro ⟨s, rfl⟩
        cases hresult
      · have hr : r ∈ strategy.reads := hreads ▸ List.mem_append_cons_self
        rw [hreads, hxs]
        exact not_all_suffice hgood (not_suffices_of_verdict (hfills r hr) hverdict)
  · rintro fault rfl
    rcases hgathers.cases hfills with
      ⟨⟨s, rfl⟩, -⟩ | ⟨fault', before, r, after, good, answer, rfl, hreads, hxs, hgood, hverdict⟩
    · cases hresult
    · obtain rfl := Except.error.inj hresult
      exact ⟨before, r, after, good, answer, hreads, hxs, hgood, hverdict⟩
  · intro x hx
    obtain ⟨r, hr, hrequest⟩ := List.mem_map.mp
      (hgathers.in_order.subset (List.mem_map_of_mem hx))
    refine ⟨r.register.address, r.register.quantity, ?_⟩
    rw [← hrequest, Register.readRequest, (reads_fill strategy r hr).2]
  · intro es' result' h' heq
    have hends := trimmed_collect h'
    rw [heq] at hends
    exact Dialogue.done.inj (hends.unique (trimmed_collect h))

/-- Surroundings that give these answers, one after the other; the clocks stand still. -/
def answering : List Answer → (q : Ask) → Reply q × List Answer
  | answer :: rest, .send _ => (answer, rest)
  | [], .send _ => ((.error .closed : Answer), [])
  | answers, .pause _ => ((), answers)
  | answers, .now => ((0 : Nat), answers)
  | answers, .unixTime => ((0 : Int), answers)

/-- A block that ends inside the charging power: the collection ends there, too. -/
theorem cut_off_in_charging_power :
    let played := play answering [.ok (List.replicate 14 0)] (collect .batched 50).run
    (∃ before r after good answer, Strategy.batched.reads = before ++ r :: after ∧
      requests played.1 = good ++ [(r.register.readRequest, answer)] ∧
      List.Forall₂ Read.Suffices before good ∧
      r.verdict answer =
        some (.decode Register.chargingPower (.tooShort "register slice" 16 14))) ∧
    ∀ x ∈ requests played.1, ∃ address quantity, x.1 = .read .input address quantity := by
  intro played
  have hends : Ends (collect .batched 50).run played.1 played.2.1 :=
    (@play_ends Ask Reply _ _ (fun _ _ _ _ => True) _ (fun _ _ => trivial) _ _).1
  have hfault : played.2.1 =
      .error (.decode Register.chargingPower (.tooShort "register slice" 16 14)) := by rfl
  obtain ⟨-, hlast, -, hinput, -⟩ := (all_or_nothing .batched 50).2 _ _ hends
  exact ⟨hlast _ hfault, hinput⟩

end Collection

end ChargeController
