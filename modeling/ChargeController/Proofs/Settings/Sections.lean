import ChargeController.Proofs.Settings.Order
import Mathlib.Data.List.Infix

/-!
# Charging updates at the same time

A charging update is checked against the configuration that it looks up, and writes later; what
another update writes in between is not checked against it.  Between looking up and forgetting lies
the section of an update.  If the sections of the updates that concern a rule do not overlap, then
each of them is checked against registers that only itself changes until it has forgotten, and the
rule holds when all have ended.

* `Inside` — an update has looked up the configuration and has not forgotten it yet.
* `SectionsApart` — the sections of the updates that concern a rule do not overlap.
* **`rule_holds_of_sections_apart`** — then the rule holds at the end.
-/

namespace ChargeController

open Settings Dialogue

namespace ChargingUpdate

/-- An update has a voltage for some threshold of a rule. -/
def Concerns (p : ChargingUpdate) (rule : OrderRule) : Prop :=
  ∃ x ∈ rule.thresholds, ∃ v, p.threshold x = some v

end ChargingUpdate

namespace Settings

/-! ## The course of one update -/

/-- The account of a charging update that has not failed: it asked for the battery type, looked up a
configuration that the update is in order on top of, stored the words, forgot, and read back. -/
structure Course (p : ChargingUpdate) (asked look stored back : List Line) (c : DeviceConfig) :
    Prop where
  asked : ∃ t, Tells currentBatteryType asked (.ok t)
  look : Tells cachedConfig look (.ok c)
  order : (p.onto c.charging).checkOrder = .ok ()
  stored : Stored p.writes stored
  back : ∀ e ∈ back, e.quiet = true

def courseLines (p : ChargingUpdate) (asked look stored back : List Line) : List Line :=
  asked ++ (look ++ (stored ++ (forgetting (!p.writes.isEmpty) ++ back)))

lemma course_of_ok {p : ChargingUpdate} {es : List Line} {v : Confirmation ChargingParameters}
    (h : Tells (updateCharging p) es (.ok v)) :
    ∃ asked look stored back c, es = courseLines p asked look stored back ∧
      Course p asked look stored back c := by
  rw [updateCharging_eq] at h
  rcases Stages.tells_staged.mp h with ⟨fault, -, hok⟩ | ⟨_, _, fault, -, -, -, hok⟩ |
    ⟨prepared, stored, back, rfl, hprepare, hstore, hback⟩
  · cases hok
  · cases hok
  obtain ⟨asked, look, rfl, hasked, hproposal⟩ := tells_prepareCharging_ok hprepare
  obtain ⟨c, hlook, -, horder⟩ := tells_checkProposal_ok hproposal
  refine ⟨asked, look, stored, back, c, ?_, ⟨_, hasked⟩, hlook, horder,
    tells_writeAll_ok.mp hstore, (chargingStages p).read_quiet.confirm _ _ _ hback⟩
  rw [List.append_assoc]
  rfl

lemma looksUp_of_cachedConfig {es : List Line} {result : Except SettingsFault DeviceConfig}
    (h : Tells cachedConfig es result) : ∃ found rest, es = ⟨.lookUp, found⟩ :: rest := by
  rcases tells_cachedConfig.mp h with ⟨c, rfl, -⟩ | ⟨g, reads, fault, rfl, -, -⟩ |
    ⟨g, reads, c, rfl, -, -⟩
  · exact ⟨_, _, rfl⟩
  · exact ⟨_, _, rfl⟩
  · exact ⟨_, _, rfl⟩

lemma Course.after_stored {p : ChargingUpdate} {asked look stored back : List Line}
    {c : DeviceConfig} (hcourse : Course p asked look stored back c) (wrote : Bool) :
    ∀ e ∈ forgetting wrote ++ back, e.stores = false := by
  intro e he
  simp only [List.mem_append] at he
  rcases he with he | he
  · obtain rfl := eq_forget_of_mem_forgetting he
    rfl
  · exact Exchange.stores_of_quiet (hcourse.back e he)

/-- Before each of its writes an update has looked up the configuration and has not forgotten, and
the write is one of its own. -/
lemma Course.before_store {p : ChargingUpdate} {asked look stored back : List Line}
    {c : DeviceConfig} (hcourse : Course p asked look stored back c) {before after : List Line}
    {e : Line} (heq : courseLines p asked look stored back = before ++ e :: after)
    (hstores : e.stores = true) :
    (∃ x ∈ before, x.looksUp = true) ∧ (∀ x ∈ before, x.forgets = false) ∧
      ∃ w ∈ p.writes, Accepts w e := by
  have hloud {es : List Line} (hes : ∀ x ∈ es, x.quiet = true) : e ∉ es := by
    intro he
    rw [Exchange.stores_of_quiet (hes e he)] at hstores
    cases hstores
  obtain ⟨t, hasked⟩ := hcourse.asked
  have hasked := quiet_consults.currentBatteryType _ _ hasked
  have hlook := quiet_consults.cached _ _ hcourse.look
  rcases append_eq_append_cons.mp heq with ⟨rest, rfl, -⟩ | ⟨rest₁, rfl, heq₁⟩
  · exact absurd List.mem_append_cons_self (hloud hasked)
  rcases append_eq_append_cons.mp heq₁ with ⟨rest, rfl, -⟩ | ⟨rest₂, rfl, heq₂⟩
  · exact absurd List.mem_append_cons_self (hloud hlook)
  rcases append_eq_append_cons.mp heq₂ with ⟨rest, hcut, -⟩ | ⟨rest₃, rfl, heq₃⟩
  · have haccepts : ∀ x ∈ stored, ∃ w ∈ p.writes, Accepts w x := fun x hx =>
      hcourse.stored.accepts hx
    refine ⟨?_, ?_, haccepts e (by rw [hcut]; exact List.mem_append_cons_self)⟩
    · obtain ⟨found, tail, rfl⟩ := looksUp_of_cachedConfig hcourse.look
      exact ⟨_, List.mem_append_right _ (List.mem_append_left _ List.mem_cons_self), rfl⟩
    · intro x hx
      rcases List.mem_append.mp hx with hx | hx
      · exact Exchange.forgets_of_quiet (hasked x hx)
      simp only [List.mem_append] at hx
      rcases hx with hx | hx
      · exact Exchange.forgets_of_quiet (hlook x hx)
      · obtain ⟨w, -, haccepts⟩ := haccepts x (by rw [hcut]; exact List.mem_append_left _ hx)
        exact haccepts.forgets
  · exfalso
    have he : e ∈ forgetting (!p.writes.isEmpty) ++ back := by
      rw [heq₃]
      exact List.mem_append_cons_self
    rw [hcourse.after_stored _ e he] at hstores
    cases hstores

/-! ## Sections -/

variable {mayFail : Request → Prop} {ttl : Nat} {ι : Type} [DecidableEq ι] {w : World Bank}
  {p : ι → ChargingUpdate} {rule : OrderRule} {h : List (Move ι Ask Reply)}

/-- Charging updates that go on at the same time. -/
abbrev Updates (p : ι → ChargingUpdate) : Type :=
  Crew (World Bank) Ask Reply fun i => Except SettingsFault (Operation.updateCharging (p i)).Value

/-- A member has looked up the configuration and has not forgotten it yet. -/
def Inside (i : ι) (h : List (Move ι Ask Reply)) : Prop :=
  (∃ e ∈ Crew.own i h, e.looksUp = true) ∧ ∀ e ∈ Crew.own i h, e.forgets = false

instance (i : ι) (h : List (Move ι Ask Reply)) : Decidable (Inside i h) :=
  inferInstanceAs (Decidable (_ ∧ _))

/-- At no point of a history are two updates inside that concern a rule. -/
def SectionsApart (p : ι → ChargingUpdate) (rule : OrderRule) (h : List (Move ι Ask Reply)) :
    Prop :=
  ∀ h₁ h₂, h = h₁ ++ h₂ → ∀ i j, (p i).Concerns rule → (p j).Concerns rule →
    Inside i h₁ → Inside j h₁ → i = j

/-- A line changes the register of a threshold of a rule. -/
def Hits (rule : OrderRule) (e : Line) : Prop :=
  ∃ x ∈ rule.thresholds, ¬ Registers.Leaves x.register.address e

lemma Hits.stores {e : Line} (he : Hits rule e) : e.stores = true := by
  obtain ⟨x, -, hx⟩ := he
  by_contra hstores
  exact hx (Registers.leaves_of_no_store (Bool.eq_false_iff.mpr hstores))

omit [DecidableEq ι] in
/-- A stretch in which no line hits a rule leaves its thresholds as they are. -/
lemma after_of_no_hit {s : List (Move ι Ask Reply)} (hs : ∀ m ∈ s, ¬ Hits rule m.exchange)
    (b : Bank) {x : Threshold} (hx : x ∈ rule.thresholds) :
    Registers.after b (Crew.said s) x.register.address = b x.register.address := by
  refine Registers.after_of_leaves (fun e he => ?_) b
  obtain ⟨m, hm, rfl⟩ := List.mem_map.mp he
  by_contra hleaves
  exact hs m hm ⟨x, hx, hleaves⟩

/-- A stretch in which only one member's lines hit a rule leaves its thresholds as they are after
that member's lines alone. -/
lemma after_own {i : ι} {s : List (Move ι Ask Reply)}
    (hs : ∀ m ∈ s, Hits rule m.exchange → m.member = i) (b : Bank) {x : Threshold}
    (hx : x ∈ rule.thresholds) :
    Registers.after b (Crew.said s) x.register.address =
      Registers.after b (Crew.own i s) x.register.address := by
  induction s generalizing b with
  | nil => rfl
  | cons m s ih =>
      have hs' : ∀ m' ∈ s, Hits rule m'.exchange → m'.member = i :=
        fun m' hm' => hs m' (List.mem_cons_of_mem _ hm')
      obtain ⟨j, e⟩ := m
      show Registers.after (Registers.afterLine b e) (Crew.said s) x.register.address = _
      rw [ih hs']
      rcases eq_or_ne j i with rfl | hne
      · rw [Crew.own_cons_self]
        rfl
      · rw [Crew.own_cons_of_ne hne]
        refine Registers.after_congr ?_ _
        by_contra hchanged
        refine hne (hs ⟨j, e⟩ List.mem_cons_self ⟨x, hx, fun hleaves => hchanged (hleaves b)⟩)

/-! ## Updates that have all ended -/

/-- A run in which all charging updates have ended without a fault. -/
structure Ended (mayFail : Request → Prop) (ttl : Nat) (w : World Bank) (p : ι → ChargingUpdate)
    (h : List (Move ι Ask Reply)) (c' : Updates p) : Prop where
  run : Crew.Run (World.Replies (Registers.Answers mayFail) ttl)
    (crew w fun i => .updateCharging (p i)) h c'
  ok : ∀ i, ∃ v, c'.talk i = .done (.ok v)

namespace Ended

variable {c' : Updates p}

lemma course (ended : Ended mayFail ttl w p h c') (i : ι) :
    ∃ asked look stored back c, Crew.own i h = courseLines (p i) asked look stored back ∧
      Course (p i) asked look stored back c := by
  obtain ⟨v, hv⟩ := ended.ok i
  exact course_of_ok (own_tells ended.run hv)

/-- Where a member hits a rule, it has looked up the configuration and has not forgotten it, and its
update concerns the rule. -/
lemma of_hit (ended : Ended mayFail ttl w p h c') {i : ι} {e : Line}
    {h₁ h₂ : List (Move ι Ask Reply)} (heq : h = h₁ ++ ⟨i, e⟩ :: h₂) (hhit : Hits rule e) :
    Inside i h₁ ∧ (p i).Concerns rule := by
  obtain ⟨asked, look, stored, back, c, hown, hcourse⟩ := ended.course i
  have hcut : courseLines (p i) asked look stored back = Crew.own i h₁ ++ e :: Crew.own i h₂ := by
    rw [← hown, heq, Crew.own_append, Crew.own_cons_self]
  obtain ⟨hlooked, hkept, written, hw, haccepts⟩ := hcourse.before_store hcut hhit.stores
  refine ⟨⟨hlooked, hkept⟩, ?_⟩
  obtain ⟨x, hx, hchanges⟩ := hhit
  refine ⟨x, hx, threshold_of_mem_writes hw ?_⟩
  by_contra hne
  refine hchanges (Registers.leaves_of_spares ?_)
  obtain ⟨data, rfl⟩ := haccepts
  rintro r answer hr hreaches
  cases hr
  exact hne hreaches

/-- A member that has hit a rule is inside for as long as nobody forgets anything. -/
lemma inside_of_hit (ended : Ended mayFail ttl w p h c') {i : ι} {e : Line}
    {h₁ h₂ h₃ : List (Move ι Ask Reply)} (heq : h = h₁ ++ ⟨i, e⟩ :: (h₂ ++ h₃))
    (hhit : Hits rule e) (hnone : forgettings (Crew.said h₂) = 0) :
    Inside i (h₁ ++ ⟨i, e⟩ :: h₂) := by
  obtain ⟨⟨⟨x, hx, hlooked⟩, hkept⟩, -⟩ := ended.of_hit heq hhit
  rw [Inside, Crew.own_append, Crew.own_cons_self]
  refine ⟨⟨x, List.mem_append_left _ hx, hlooked⟩, fun y hy => ?_⟩
  simp only [List.mem_append] at hy
  rcases hy with hy | hy
  · exact hkept y hy
  simp only [List.mem_cons] at hy
  rcases hy with rfl | hy
  · obtain ⟨r, answer, rfl⟩ := Exchange.writes_eq (Exchange.writes_of_stores hhit.stores)
    rfl
  · exact forgettings_eq_zero.mp hnone y (List.mem_map.mpr ⟨⟨i, y⟩, Crew.mem_own.mp hy, rfl⟩)

/-- Since the last forgetting before a look-up of one update nobody has hit the rule: whoever had
would still be inside. -/
lemma no_hit_before_lookUp (ended : Ended mayFail ttl w p h c') (hapart : SectionsApart p rule h)
    {i : ι} (hconcerns : (p i).Concerns rule) {found : Recall} {u t v : List (Move ι Ask Reply)}
    (heq : h = (u ++ t) ++ ⟨i, ⟨.lookUp, found⟩⟩ :: v)
    (hquiet : ∀ e ∈ Crew.own i (u ++ t), e.quiet = true) (hnone : forgettings (Crew.said t) = 0) :
    ∀ m ∈ t, ¬ Hits rule m.exchange := by
  rintro ⟨j, e⟩ hm hhit
  obtain ⟨t₁, t₂, rfl⟩ := List.append_of_mem hm
  have hnone' : forgettings (Crew.said (t₂ ++ [⟨i, ⟨.lookUp, found⟩⟩])) = 0 := by
    rw [Crew.said_append, forgettings_append] at hnone ⊢
    have hrest : forgettings (Crew.said t₂) = 0 := by
      have hcons := Nat.eq_zero_of_add_eq_zero_left hnone
      rw [forgettings_eq_zero] at hcons ⊢
      exact fun y hy => hcons y (List.mem_cons_of_mem _ hy)
    rw [hrest]
    rfl
  have hcut : h = (u ++ t₁) ++ ⟨j, e⟩ :: ((t₂ ++ [⟨i, ⟨.lookUp, found⟩⟩]) ++ v) := by
    rw [heq]
    simp
  have hj := ended.inside_of_hit hcut hhit hnone'
  have hconcernsj := (ended.of_hit hcut hhit).2
  have hi : Inside i ((u ++ t₁) ++ ⟨j, e⟩ :: (t₂ ++ [⟨i, ⟨.lookUp, found⟩⟩])) := by
    have hown : (u ++ t₁) ++ ⟨j, e⟩ :: (t₂ ++ [⟨i, ⟨.lookUp, found⟩⟩]) =
        (u ++ (t₁ ++ ⟨j, e⟩ :: t₂)) ++ [⟨i, ⟨.lookUp, found⟩⟩] := by
      simp
    rw [hown, Inside, Crew.own_append, Crew.own_cons_self]
    refine ⟨⟨_, List.mem_append_right _ List.mem_cons_self, rfl⟩, fun y hy => ?_⟩
    simp only [List.mem_append] at hy
    rcases hy with hy | hy
    · exact Exchange.forgets_of_quiet (hquiet y hy)
    · obtain rfl := List.mem_singleton.mp hy
      rfl
  obtain rfl := hapart _ v (by rw [hcut]; simp) j i hconcernsj hconcerns hj hi
  have hmem : e ∈ Crew.own j (u ++ (t₁ ++ ⟨j, e⟩ :: t₂)) :=
    Crew.mem_own.mpr (List.mem_append_right _ List.mem_append_cons_self)
  have hloud := Exchange.stores_of_quiet (hquiet e hmem)
  rw [hhit.stores] at hloud
  cases hloud

/-- After the look-up of the update that is the last to hit a rule, nobody else hits it. -/
lemma only_last_hits (ended : Ended mayFail ttl w p h c') (hapart : SectionsApart p rule h)
    {i : ι} {e : Line} {h₁ h₂ : List (Move ι Ask Reply)} (heq : h = h₁ ++ ⟨i, e⟩ :: h₂)
    (hhit : Hits rule e) (hlast : ∀ m ∈ h₂, ¬ Hits rule m.exchange) {found : Recall}
    {u v : List (Move ι Ask Reply)} (hcut : h = u ++ ⟨i, ⟨.lookUp, found⟩⟩ :: v) :
    ∀ m ∈ v, Hits rule m.exchange → m.member = i := by
  rintro ⟨j, e'⟩ hm hhit'
  obtain ⟨v₁, v₂, rfl⟩ := List.append_of_mem hm
  have hsplit : h = (u ++ ⟨i, ⟨.lookUp, found⟩⟩ :: v₁) ++ ⟨j, e'⟩ :: v₂ := by
    rw [hcut]
    simp
  obtain ⟨hj, hconcernsj⟩ := ended.of_hit hsplit hhit'
  rcases append_eq_append_cons.mp (heq.symm.trans hsplit) with ⟨rest, rfl, -⟩ | ⟨rest, -, hrest⟩
  · -- The last hit comes later, so its member is inside as well.
    obtain ⟨hi, hconcernsi⟩ := ended.of_hit heq hhit
    refine hapart _ _ hsplit j i hconcernsj hconcernsi hj ⟨?_, fun y hy => hi.2 y ?_⟩
    · rw [Crew.own_append, Crew.own_cons_self]
      exact ⟨_, List.mem_append_right _ List.mem_cons_self, rfl⟩
    · rw [Crew.own_append]
      exact List.mem_append_left _ hy
  · cases rest with
    | nil =>
        obtain ⟨hmove, -⟩ := List.cons.inj hrest
        cases hmove
        rfl
    | cons m rest =>
        obtain ⟨-, rfl⟩ := List.cons.inj hrest
        exact absurd hhit' (hlast _ List.mem_append_cons_self)

lemma threshold_of_read (ended : Ended mayFail ttl w p h c') {j : ι} {data : Block → Bytes}
    {c : DeviceConfig} (hmakes : Makes data c) {s s' : List (Move ι Ask Reply)}
    (heq : h = s ++ ⟨j, Block.thresholds.line (data .thresholds)⟩ :: s') (x : Threshold) :
    ∃ word, Registers.after w.device (Crew.said s) x.register.address = some word ∧
      c.charging.threshold x = Register.scaled word := by
  have hanswered := ended.run.answered
  rw [heq, Crew.said_append] at hanswered
  obtain ⟨w₁, hbefore, hrest⟩ := answered_append.mp hanswered
  obtain ⟨w₂, hreply, -⟩ := answered_cons.mp hrest
  refine hmakes.threshold_word ?_ x
  have hdevice : w₁.device = Registers.after w.device (Crew.said s) := device_of_answered hbefore
  rw [← hdevice]
  cases hreply with
  | send hanswer _ => exact hanswer.read

/-- What was found in the cache by an update that concerns a rule are the words of that moment, as
far as the rule is concerned. -/
lemma base_of_fresh (ended : Ended mayFail ttl w p h c') (hw : Coherent w)
    (hfew : forgettings (Crew.said h) < 2 ^ 64) (hapart : SectionsApart p rule h) {i : ι}
    (hconcerns : (p i).Concerns rule) {c : DeviceConfig} {u v : List (Move ι Ask Reply)}
    (hcut : h = u ++ ⟨i, ⟨.lookUp, .fresh c⟩⟩ :: v)
    (hquiet : ∀ e ∈ Crew.own i u, e.quiet = true) {x : Threshold} (hx : x ∈ rule.thresholds) :
    ∃ word, Registers.after w.device (Crew.said u) x.register.address = some word ∧
      c.charging.threshold x = Register.scaled word := by
  have hrun := ended.run
  rw [hcut] at hrun hfew
  obtain ⟨middle, hbefore, hafter⟩ := hrun.cut
  obtain ⟨t, hrecall⟩ := lookUp_of_answered hafter.answered
  obtain ⟨since, hkept⟩ := lookUp_fresh hrecall
  have hfew' : forgettings (Crew.said u) < 2 ^ 64 := by
    rw [Crew.said_append, forgettings_append] at hfew
    omega
  rcases kept_source hbefore hfew' hkept with
    ⟨hkept, hnone⟩ | ⟨u₁, j, g, u₂, u₃, rfl, hreads, hnone⟩
  · have hunhit := ended.no_hit_before_lookUp hapart hconcerns (u := []) hcut hquiet hnone
    rw [after_of_no_hit hunhit w.device hx]
    exact config_threshold (hw c since hkept) x
  · have hunhit := ended.no_hit_before_lookUp hapart hconcerns hcut hquiet hnone
    -- The words were read between the look-up of the reader and its offer.
    obtain ⟨data, hreadout, hmakes⟩ := tells_readConfig_ok.mp hreads
    have hmem : Block.thresholds.line (data .thresholds) ∈ Crew.own j u₂ := by
      rw [hreadout]
      exact List.mem_map.mpr ⟨.thresholds, Listed.mem_all _, rfl⟩
    obtain ⟨s₁, s₂, rfl⟩ := List.append_of_mem (Crew.mem_own.mp hmem)
    have hread : h = (u₁ ++ ⟨j, ⟨.lookUp, .stale g⟩⟩ :: s₁) ++
        ⟨j, Block.thresholds.line (data .thresholds)⟩ ::
          (s₂ ++ ⟨j, ⟨.keep g c, ()⟩⟩ :: (u₃ ++ ⟨i, ⟨.lookUp, .fresh c⟩⟩ :: v)) := by
      rw [hcut]
      simp only [List.append_assoc, List.cons_append]
    obtain ⟨word, hword, hvalue⟩ := ended.threshold_of_read hmakes hread x
    refine ⟨word, ?_, hvalue⟩
    rw [Crew.said_append, Registers.after_append] at hword ⊢
    rw [after_of_no_hit hunhit _ hx]
    rwa [after_of_no_hit (fun m hm => hunhit m ?_) _ hx] at hword
    simp only [List.mem_cons] at hm
    rcases hm with rfl | hm
    · exact List.mem_cons_self
    · exact List.mem_cons_of_mem _ (List.mem_append_left _ (List.mem_append_left _ hm))

/-- What an update has read for itself are the words at its look-up, as far as a rule is concerned
that nobody else hits meanwhile. -/
lemma base_of_stale (ended : Ended mayFail ttl w p h c') {i : ι} {c : DeviceConfig} {g : UInt64}
    {reads after : List Line} (hreads : Tells readConfig reads (.ok c))
    {u v : List (Move ι Ask Reply)} (hcut : h = u ++ ⟨i, ⟨.lookUp, .stale g⟩⟩ :: v)
    (hown : Crew.own i v = reads ++ after)
    (honly : ∀ m ∈ v, Hits rule m.exchange → m.member = i) {x : Threshold}
    (hx : x ∈ rule.thresholds) :
    ∃ word, Registers.after w.device (Crew.said u) x.register.address = some word ∧
      c.charging.threshold x = Register.scaled word := by
  have hquiet := quiet_consults.readConfig _ _ hreads
  obtain ⟨data, rfl, hmakes⟩ := tells_readConfig_ok.mp hreads
  have hmem : Block.thresholds.line (data .thresholds) ∈ readout data :=
    List.mem_map.mpr ⟨.thresholds, Listed.mem_all _, rfl⟩
  obtain ⟨r₁, r₂, hr⟩ := List.append_of_mem hmem
  rw [hr, List.append_assoc, List.cons_append] at hown
  obtain ⟨v₁, v₂, rfl, hv₁, -⟩ := Crew.own_eq_append_cons hown
  have hread : h = (u ++ ⟨i, ⟨.lookUp, .stale g⟩⟩ :: v₁) ++
      ⟨i, Block.thresholds.line (data .thresholds)⟩ :: v₂ := by
    rw [hcut, List.append_assoc, List.cons_append]
  obtain ⟨word, hword, hvalue⟩ := ended.threshold_of_read hmakes hread x
  refine ⟨word, ?_, hvalue⟩
  have hunhit : ∀ m ∈ (⟨i, ⟨.lookUp, .stale g⟩⟩ : Move ι Ask Reply) :: v₁,
      ¬ Hits rule m.exchange := by
    intro m hm hhit
    have hstores := hhit.stores
    simp only [List.mem_cons] at hm
    rcases hm with rfl | hlater
    · cases hstores
    · obtain ⟨j, e⟩ := m
      obtain rfl : j = i := honly _ (List.mem_append_left _ hlater) hhit
      have he : e ∈ r₁ := by
        rw [← hv₁]
        exact Crew.mem_own.mpr hlater
      have hread : e ∈ readout data := by
        rw [hr]
        exact List.mem_append_left _ he
      rw [Exchange.stores_of_quiet (hquiet e hread)] at hstores
      cases hstores
  rwa [Crew.said_append, Registers.after_append, after_of_no_hit hunhit _ hx] at hword

end Ended

lemma exists_last {α : Type} (P : α → Prop) (xs : List α) :
    (∀ x ∈ xs, ¬ P x) ∨ ∃ before x after, xs = before ++ x :: after ∧ P x ∧ ∀ y ∈ after, ¬ P y := by
  induction xs with
  | nil => exact .inl (by simp)
  | cons a xs ih =>
      rcases ih with hnone | ⟨before, x, after, rfl, hx, hafter⟩
      · by_cases ha : P a
        · exact .inr ⟨[], a, xs, rfl, ha, hnone⟩
        · exact .inl fun x hx => (List.mem_cons.mp hx).elim (fun h => h ▸ ha) (hnone x)
      · exact .inr ⟨a :: before, x, after, rfl, hx, hafter⟩

/-- **A rule holds in the end if the sections of its updates are apart.**  Any number of charging
updates go on at the same time, over a device whose registers only accepted writes change, and all
of them end without a fault.  If the rule held at the start, the cache was coherent then, and no
two updates that concern the rule were between looking up the configuration and forgetting it at
the same time, the rule holds in the end. -/
theorem rule_holds_of_sections_apart {c' : Updates p} (ended : Ended mayFail ttl w p h c')
    (hw : Coherent w) (hholds : rule.HoldsIn w.device) (hdecodes : ∀ i, (p i).Decodes)
    (hfew : forgettings (Crew.said h) < 2 ^ 64) (hapart : SectionsApart p rule h) :
    rule.HoldsIn c'.shared.device := by
  have hdevice : c'.shared.device = Registers.after w.device (Crew.said h) :=
    device_of_answered ended.run.answered
  rcases exists_last (fun m => Hits rule m.exchange) h with
    hnone | ⟨h₁, ⟨i, e⟩, h₂, heq, hhit, hlast⟩
  · refine hholds.congr fun x hx => ?_
    rw [hdevice, after_of_no_hit hnone _ hx]
  obtain ⟨-, hconcerns⟩ := ended.of_hit heq hhit
  obtain ⟨asked, look, stored, back, c, hown, hcourse⟩ := ended.course i
  obtain ⟨t, hasked⟩ := hcourse.asked
  obtain ⟨found, rest, rfl⟩ := looksUp_of_cachedConfig hcourse.look
  rw [courseLines, List.cons_append] at hown
  obtain ⟨u, v, hcut, rfl, hv⟩ := Crew.own_eq_append_cons hown
  have hquiet := quiet_consults.currentBatteryType _ _ hasked
  have honly := ended.only_last_hits hapart heq hhit hlast hcut
  have hbase : ∀ x ∈ rule.thresholds, ∃ word,
      Registers.after w.device (Crew.said u) x.register.address = some word ∧
        c.charging.threshold x = Register.scaled word := by
    intro x hx
    rcases tells_cachedConfig.mp hcourse.look with ⟨c₀, hlook, hc⟩ | ⟨_, _, _, -, -, hc⟩ |
      ⟨g, reads, c₀, hlook, hreads, hc⟩
    · obtain rfl := Except.ok.inj hc
      cases hlook
      exact ended.base_of_fresh hw hfew hapart hconcerns hcut hquiet hx
    · cases hc
    · obtain rfl := Except.ok.inj hc
      cases hlook
      rw [List.append_assoc] at hv
      exact ended.base_of_stale hreads hcut hv honly hx
  -- From its look-up on, the registers of the rule are this update's alone.
  refine holdsIn_of_merge (b := Registers.after w.device (Crew.said u)) (hdecodes i) hbase
    (fun x hx => ?_) (ChargingParameters.obeys_of_checkOrder hcourse.order rule)
  have hsilent : ∀ e ∈ rest, e.stores = false := fun e he =>
    Exchange.stores_of_quiet (quiet_consults.cached _ _ hcourse.look e (List.mem_cons_of_mem _ he))
  rw [hdevice, hcut, Crew.said_append, Registers.after_append]
  show Registers.after (Registers.after w.device (Crew.said u)) (Crew.said v) _ = _
  rw [after_own honly _ hx, hv, Registers.after_append, Registers.after_of_no_store hsilent,
    Registers.after_append, Registers.after_of_no_store (hcourse.after_stored _)]
  exact (carries_writes (p i)).after hcourse.stored _ x

/-- Two updates, of the boost voltage and of the float voltage. -/
def boostAndFloat (boost float : UInt16) : Bool → ChargingUpdate
  | true => .setting .boost boost
  | false => .setting .float float

lemma boostAndFloat_decodes (boost float : UInt16) (i : Bool) :
    (boostAndFloat boost float i).Decodes := by
  cases i with
  | true => exact ChargingUpdate.setting_decodes .boost boost
  | false => exact ChargingUpdate.setting_decodes .float float

lemma holdsIn_sample (rule : OrderRule) : rule.HoldsIn Registers.sample := by
  refine ⟨fun x => (Registers.sample x.register.address).getD 0, ?_, ?_⟩
  · cases rule <;> decide
  · cases rule <;> simp only [OrderRule.Holds] <;> decide

/-- Both ask for the battery type; then one update goes through, and then the other. -/
def oneByOne : List Bool :=
  [true, false] ++ List.replicate 20 true ++ List.replicate 20 false

/-- Both look up the configuration and check against it before either writes. -/
def checksFirst : List Bool :=
  List.replicate 9 true ++ List.replicate 9 false ++ List.replicate 12 true ++
    List.replicate 12 false

/-- What the two updates do under a schedule, when every request is accepted. -/
abbrev played (schedule : List Bool) (boost float : UInt16) :
    List (Move Bool Ask Reply) × Updates (boostAndFloat boost float) :=
  Crew.perform (World.serve (fun _ => false) 60000) schedule
    (crew World.sample fun i => .updateCharging (boostAndFloat boost float i))

lemma ended_of_values {schedule : List Bool} {boost float : UInt16}
    (h : ∀ i, (valueOf ((played schedule boost float).2.talk i)).isSome = true) :
    Ended (fun _ => False) 60000 World.sample (boostAndFloat boost float)
      (played schedule boost float).1 (played schedule boost float).2 := by
  refine ⟨Crew.perform_run (World.serve_all 60000) _ _, fun i => ?_⟩
  obtain ⟨v, hv⟩ := Option.isSome_iff_exists.mp (h i)
  exact ⟨v, valueOf_eq_some.mp hv⟩

/-- Two updates that only ask for the battery type at the same time leave the rules holding. -/
theorem rules_hold_one_by_one :
    (played oneByOne 1400 1360).2.shared.device Register.boostVoltage.address = some 1400 ∧
      (played oneByOne 1400 1360).2.shared.device Register.floatVoltage.address = some 1360 ∧
      ∀ rule : OrderRule, rule.HoldsIn (played oneByOne 1400 1360).2.shared.device := by
  refine ⟨by decide +kernel, by decide +kernel, fun rule => ?_⟩
  have hnever : ∀ h₁ ∈ (played oneByOne 1400 1360).1.inits,
      ¬ (Inside true h₁ ∧ Inside false h₁) := by
    decide +kernel
  have hapart : SectionsApart (boostAndFloat 1400 1360) rule (played oneByOne 1400 1360).1 := by
    intro h₁ h₂ hcut i j _ _ hi hj
    have hmem : h₁ ∈ (played oneByOne 1400 1360).1.inits :=
      (List.mem_inits _ _).mpr ⟨h₂, hcut.symm⟩
    match i, j with
    | true, true => rfl
    | false, false => rfl
    | true, false => exact absurd ⟨hi, hj⟩ (hnever h₁ hmem)
    | false, true => exact absurd ⟨hj, hi⟩ (hnever h₁ hmem)
  exact rule_holds_of_sections_apart (ended_of_values (by decide +kernel)) (coherent_of_empty rfl)
    (holdsIn_sample rule) (boostAndFloat_decodes 1400 1360) (by decide +kernel) hapart

/-- **Two updates at the same time can break a rule.**  Each of them is in order on top of the
registers as they were, and both end without a fault, but the float voltage is then above the boost
voltage. -/
theorem overlapping_updates_break_order :
    Ended (fun _ => False) 60000 World.sample (boostAndFloat 1400 1420)
        (played checksFirst 1400 1420).1 (played checksFirst 1400 1420).2 ∧
      (∀ rule : OrderRule, rule.HoldsIn World.sample.device) ∧
      (∀ i, (boostAndFloat 1400 1420 i).Decodes) ∧
      ¬ OrderRule.charging.HoldsIn (played checksFirst 1400 1420).2.shared.device := by
  refine ⟨ended_of_values (by decide +kernel), holdsIn_sample, boostAndFloat_decodes 1400 1420, ?_⟩
  rintro ⟨word, hword, hholds⟩
  have hboost := hword .boost (by decide)
  have hfloat := hword .float (by decide)
  have hboost' : (played checksFirst 1400 1420).2.shared.device Threshold.boost.register.address =
      some 1400 := by
    decide +kernel
  have hfloat' : (played checksFirst 1400 1420).2.shared.device Threshold.float.register.address =
      some 1420 := by
    decide +kernel
  rw [hboost'] at hboost
  rw [hfloat'] at hfloat
  have horder : word .boost > word .float := hholds.2.2.2.1
  rw [← Option.some.inj hboost, ← Option.some.inj hfloat] at horder
  exact absurd horder (by decide)

end Settings

end ChargeController
