import ChargeController.Proofs.Settings.Coherence
import ChargeController.Proofs.Settings.Plan

/-!
# Writing by the plan

An update issues its writes in the order of its plan and stops at the first one that is refused.
What it can have issued is therefore a beginning of the plan; a refusal can only be the last of it,
is counted once and becomes the result; and once the whole plan has been accepted, nothing is left
that could fail.

* `issued`, `failures` — the writes of an account with their answers, and how many were counted.
* `Pursues` — how far a part of an update can come with its part of the plan.
* **`Operation.pursues`** — every operation pursues its plan.
* `Disciplined` — what that says of an account and its result.
* **`writes_follow_plan`** — every operation of a session is disciplined, and the counter counts
  the operations that a refused write has ended.
-/

namespace ChargeController

open Settings Dialogue

namespace Exchange

/-- Whether a line counts a failed write. -/
def counts : Exchange Ask Reply → Bool
  | ⟨.countWriteFailure, _⟩ => true
  | _ => false

/-- The write that a line issues, with its answer. -/
def issue? : Exchange Ask Reply → Option (Request × Answer)
  | ⟨.send r, answer⟩ => if r.isWrite then some (r, answer) else none
  | _ => none

end Exchange

namespace Settings

variable {α β : Type}

/-! ## What an account issues -/

/-- The writes that an account issues, each with its answer. -/
def issued (es : List Line) : List (Request × Answer) :=
  es.filterMap (·.issue?)

/-- How many failed writes an account counts. -/
def failures (es : List Line) : Nat :=
  es.countP (·.counts)

@[simp] lemma issued_append (es es' : List Line) : issued (es ++ es') = issued es ++ issued es' :=
  List.filterMap_append

@[simp] lemma failures_append (es es' : List Line) :
    failures (es ++ es') = failures es + failures es' :=
  List.countP_append

/-- A line that issues no write and counts none. -/
def Idle (e : Line) : Prop :=
  e.issue? = none ∧ e.counts = false

lemma issued_of_idle {es : List Line} (h : ∀ e ∈ es, Idle e) : issued es = [] := by
  refine List.filterMap_eq_nil_iff.mpr fun e he => ?_
  exact (h e he).1

lemma failures_of_idle {es : List Line} (h : ∀ e ∈ es, Idle e) : failures es = 0 := by
  refine List.countP_eq_zero.mpr fun e he => ?_
  rw [(h e he).2]
  exact Bool.false_ne_true

lemma idle_consults : Consults fun es => ∀ e ∈ es, Idle e :=
  consults_lines (fun _ _ _ _ => ⟨rfl, rfl⟩) (fun _ => ⟨rfl, rfl⟩) fun _ _ => ⟨rfl, rfl⟩

/-! ## Pursuing a plan -/

/-- Each planned write has a request that was issued and accepted, one after the other. -/
abbrev Accomplished (plan : List PlannedWrite) (is : List (Request × Answer)) : Prop :=
  List.Forall₂ (fun w i => ∃ r data, w.request = some r ∧ i = (r, .ok data)) plan is

/-- How far writes with this result have come with a plan: to its end; to a write that was refused
and counted; or to a fault of another kind, after which something is left unless `loose` holds. -/
inductive Pursued (plan : List PlannedWrite) (loose : Prop) :
    List (Request × Answer) → Nat → Except SettingsFault α → Prop
  | accomplished {is a} (all : Accomplished plan is) : Pursued plan loose is 0 (.ok a)
  | refused {before w after is r source} (cut : plan = before ++ w :: after)
      (begun : Accomplished before is) (request : w.request = some r) :
      Pursued plan loose (is ++ [(r, .error source)]) 1
        (.error (.write w.register.name w.register.address w.value source))
  | stopped {before after is fault} (cut : plan = before ++ after)
      (begun : Accomplished before is) (kind : fault.isWriting = false)
      (left : after = [] → loose) : Pursued plan loose is 0 (.error fault)

namespace Pursued

variable {plan plan' : List PlannedWrite} {loose loose' loose'' : Prop} {n : Nat}
  {is is' : List (Request × Answer)}

lemma of_ok {a : α} (h : Pursued plan loose is n (.ok a)) : Accomplished plan is ∧ n = 0 := by
  cases h with
  | accomplished all => exact ⟨all, rfl⟩

/-- What has failed stays so when there is more to do. -/
lemma extend {fault : SettingsFault}
    (h : Pursued plan loose is n (.error fault : Except SettingsFault α))
    (hloose : plan' = [] → loose → loose'') :
    Pursued (plan ++ plan') loose'' is n (.error fault : Except SettingsFault β) := by
  cases h with
  | refused cut begun request =>
      subst cut
      rw [List.append_assoc, List.cons_append]
      exact .refused rfl begun request
  | stopped cut begun kind left =>
      subst cut
      rw [List.append_assoc]
      refine .stopped rfl begun kind fun hnil => ?_
      obtain ⟨hafter, hplan'⟩ := List.append_eq_nil_iff.mp hnil
      exact hloose hplan' (left hafter)

/-- What was accomplished comes before what is pursued next. -/
lemma prepend {result : Except SettingsFault α} (hall : Accomplished plan is)
    (h : Pursued plan' loose' is' n result) (hloose : loose' → loose'') :
    Pursued (plan ++ plan') loose'' (is ++ is') n result := by
  cases h with
  | accomplished all => exact .accomplished (List.rel_append hall all)
  | refused cut begun request =>
      subst cut
      rw [← List.append_assoc, ← List.append_assoc]
      exact .refused rfl (List.rel_append hall begun) request
  | stopped cut begun kind left =>
      subst cut
      rw [← List.append_assoc]
      exact .stopped rfl (List.rel_append hall begun) kind fun hnil => hloose (left hnil)

end Pursued

/-- What a procedure says and how it ends is a pursuit of a plan. -/
def Pursues (plan : List PlannedWrite) (loose : Prop) (p : Procedure α) : Prop :=
  ∀ es result, Tells p es result → Pursued plan loose (issued es) (failures es) result

namespace Pursues

variable {plan plan' : List PlannedWrite} {loose loose' loose'' : Prop}

lemma idle {p : Procedure α} (hidle : Always (fun es => ∀ e ∈ es, Idle e) p)
    (hthrows : Throws (fun fault => fault.isWriting = false ∧ loose) p) : Pursues [] loose p := by
  intro es result h
  rw [issued_of_idle (hidle es result h), failures_of_idle (hidle es result h)]
  cases result with
  | ok a => exact .accomplished .nil
  | error fault =>
      obtain ⟨hkind, hloose⟩ := hthrows es fault h
      exact .stopped rfl .nil hkind fun _ => hloose

/-- **A sequence pursues the plans of its parts, one after the other.** -/
theorem bind {p : Procedure α} {f : α → Procedure β} (hp : Pursues plan loose p)
    (hf : ∀ a, Pursues plan' loose' (f a)) (hfirst : plan' = [] → loose → loose'')
    (hsecond : loose' → loose'') : Pursues (plan ++ plan') loose'' (p >>= f) := by
  intro es result h
  rcases tells_bind.mp h with ⟨fault, hfault, rfl⟩ | ⟨first, a, second, rfl, htells, hrest⟩
  · exact (hp es _ hfault).extend hfirst
  · obtain ⟨hall, hnone⟩ := (hp first _ htells).of_ok
    rw [issued_append, failures_append, hnone, Nat.zero_add]
    exact (hf a second _ hrest).prepend hall hsecond

lemma writeRegister (w : RegisterWrite) : Pursues [.ofWord w] False (writeRegister w) := by
  intro es result h
  rcases tells_writeRegister.mp h with ⟨e, ⟨data, rfl⟩, rfl, rfl⟩ | ⟨source, rfl, rfl⟩
  · exact .accomplished (.cons ⟨_, data, rfl, rfl⟩ .nil)
  · exact .refused (List.nil_append [.ofWord w]).symm .nil rfl

lemma writeAll (ws : List RegisterWrite) : Pursues (ws.map .ofWord) False (writeAll ws) := by
  induction ws with
  | nil => exact .idle (.pure idle_consults.toLasting _) (.pure ())
  | cons w rest ih => exact (writeRegister w).bind (fun _ => ih) (fun _ => id) id

lemma storeBatteryType (t : BatteryType) : Pursues [.ofType t] False (storeBatteryType t) := by
  intro es result h
  rcases tells_storeBatteryType h with ⟨code, e, hcode, ⟨data, rfl⟩, rfl, rfl⟩ |
    ⟨code, source, hcode, rfl, rfl⟩ | ⟨hcode, rfl, rfl⟩
  · refine .accomplished (.cons ⟨_, data, ?_, rfl⟩ .nil)
    simp only [PlannedWrite.ofType, hcode, Option.map_some]
  · have hvalue : (PlannedWrite.ofType t).value = code := by
      simp only [PlannedWrite.ofType, hcode, Option.getD_some]
    rw [← hvalue]
    refine .refused (List.nil_append [.ofType t]).symm .nil ?_
    simp only [PlannedWrite.ofType, hcode, Option.map_some, Option.getD_some]
  · exact .stopped (List.nil_append _).symm .nil rfl fun hnil => by cases hnil

lemma storeClock (t : DateTime) : Pursues [.ofClock t] False (storeClock t) := by
  intro es result h
  rcases tells_storeClock h with ⟨r, data, hr, rfl, rfl⟩ | ⟨r, source, hr, rfl, rfl⟩ |
    ⟨source, hr, rfl, rfl⟩
  · obtain ⟨words, -, rfl⟩ := clockRequest_of_eq_some hr
    exact .accomplished (.cons ⟨_, data, hr, rfl⟩ .nil)
  · obtain ⟨words, -, rfl⟩ := clockRequest_of_eq_some hr
    exact .refused (List.nil_append [PlannedWrite.ofClock t]).symm .nil hr
  · exact .stopped (List.nil_append _).symm .nil rfl fun hnil => by cases hnil

lemma whenPresent {x : Option α} {f : α → Procedure Unit} {planned : α → PlannedWrite}
    (h : ∀ a, Pursues [planned a] False (f a)) :
    Pursues (x.map planned).toList False (whenPresent x f) := by
  cases x with
  | some a => exact h a
  | none => exact .idle (.pure idle_consults.toLasting _) (.pure ())

lemma forgetting (loose : Prop) (wrote : Bool) : Pursues [] loose (invalidateIf wrote) := by
  intro es result h
  obtain ⟨rfl, rfl⟩ := tells_invalidateIf.mp h
  cases wrote with
  | true => exact .accomplished .nil
  | false => exact .accomplished .nil

/-- Once everything is stored, nothing can fail any more. -/
lemma finish {p : Procedure Unit} (hp : Pursues plan False p) (wrote : Bool) {what : String}
    {read : Procedure α} (hread : Always (fun es => ∀ e ∈ es, Idle e) read) :
    Pursues plan False (do
      p
      invalidateIf wrote
      Settings.confirm what read) := by
  have hback : Pursues [] False (do
      invalidateIf wrote
      Settings.confirm what read) :=
    (forgetting False wrote).bind (fun _ => .idle (hread.confirm what) (.confirm read what))
      (fun _ => id) id
  rw [← List.append_nil plan]
  exact hp.bind (fun _ => hback) (fun _ => id) id

end Pursues

/-! ## Operations -/

lemma throws_prepareCharging (p : ChargingUpdate) :
    Throws (·.isWriting = false) (prepareCharging p) := by
  refine .bind (throws_currentBatteryType.mono fun _ => SettingsFault.isWriting_of_isReading) ?_
  exact fun t => .bind (throws_requireUserDefined t) fun _ => throws_checkProposal p

lemma throws_checkCharging (p : ConfigUpdate) :
    Throws (fun fault => fault.isWriting = false ∧ p.touchesCharging = true)
      (checkCharging p) := by
  simp only [checkCharging]
  split
  · next htouches =>
      have hchecks (t : BatteryType) : Throws (·.isWriting = false) (do
          requireUserDefined t
          checkProposal p.charging) :=
        .bind (throws_requireUserDefined t) fun _ => throws_checkProposal p.charging
      refine Throws.mono ?_ fun fault hkind => ⟨hkind, htouches⟩
      split
      · exact hchecks _
      · exact .bind (throws_currentBatteryType.mono fun _ => SettingsFault.isWriting_of_isReading)
          hchecks
  · exact .pure _

lemma updateCharging_pursues (p : ChargingUpdate) :
    Pursues (Operation.updateCharging p).plan ((Operation.updateCharging p).plan = [])
      (updateCharging p) := by
  rw [updateCharging_eq]
  have hprepare : Pursues [] True (prepareCharging p) :=
    .idle (prepareCharging_always idle_consults p)
      ((throws_prepareCharging p).mono fun _ hkind => ⟨hkind, trivial⟩)
  refine hprepare.bind (fun _ => .finish ?_ _ idle_consults.chargingParameters) ?_ ?_
  · show Pursues (chargingPlan p) False (writeAll p.writes)
    rw [chargingPlan_eq]
    exact .writeAll p.writes
  · exact fun hnil _ => hnil
  · exact False.elim

lemma updateProfile_pursues (p : ProfileUpdate) :
    Pursues (Operation.updateProfile p).plan ((Operation.updateProfile p).plan = [])
      (updateProfile p) := by
  rw [updateProfile_eq]
  have hprepare : Pursues [] (p.batteryType = some .unknown) (prepareProfile p) := by
    refine .idle ((silent_prepareProfile p).always idle_consults.toLasting) ?_
    simp only [prepareProfile]
    split
    · next hunknown => exact .throw ⟨rfl, hunknown⟩
    · exact .pure _
  have hstore : Pursues (Operation.updateProfile p).plan False (storeProfile p) :=
    Pursues.bind (.whenPresent .storeBatteryType) (fun _ => .whenPresent fun _ => .writeRegister _)
      (fun _ => id) id
  refine hprepare.bind (fun _ => .finish hstore _ idle_consults.batteryProfile) ?_ ?_
  · intro hnil _
    exact hnil
  · exact False.elim

lemma updateConfig_pursues (p : ConfigUpdate) :
    Pursues (Operation.updateConfig p).plan ((Operation.updateConfig p).plan = [])
      (updateConfig p) := by
  rw [updateConfig_eq, updateConfig_plan]
  have htempComp : Pursues [] (p.touchesCharging = true)
      (whenPresent p.tempCompCoefficient fun x => allowed (checkTempComp x)) := by
    refine .idle ((silent_whenPresent fun _ => silent_allowed _).always idle_consults.toLasting)
      (throws_whenPresent fun x hx => ?_)
    refine (throws_allowed _).mono fun fault hkind => ⟨hkind, ?_⟩
    rw [ConfigUpdate.touchesCharging, hx]
    rfl
  have htype : Pursues (p.batteryType.map .ofType).toList False (updateBatteryType p) := by
    simp only [updateBatteryType]
    cases p.batteryType with
    | some t =>
        exact (Pursues.storeBatteryType t).bind (fun _ => .forgetting False true) (fun _ => id) id
    | none => exact .idle (.pure idle_consults.toLasting _) (.pure ())
  have hcheck : Pursues [] (p.touchesCharging = true) (checkCharging p) :=
    .idle (checkCharging_always idle_consults p) (throws_checkCharging p)
  have hprepare : Pursues ((p.batteryType.map .ofType).toList) (p.touchesCharging = true)
      (prepareConfig p) := by
    rw [← List.append_nil (p.batteryType.map PlannedWrite.ofType).toList]
    exact htempComp.bind (fun _ => htype.bind (fun _ => hcheck) (fun _ => False.elim) id)
      (fun _ => id) id
  have hstore : Pursues ((updateWrites p).map .ofWord ++ (p.time.map .ofClock).toList) False
      (storeConfig p) :=
    (Pursues.writeAll _).bind (fun _ => .whenPresent .storeClock) (fun _ => id) id
  refine hprepare.bind (fun _ => .finish hstore _ idle_consults.cached) ?_ False.elim
  -- Whoever was refused before the gate has something to write behind it.
  intro hnil htouches
  obtain ⟨hwords, -⟩ := List.append_eq_nil_iff.mp hnil
  exact absurd (List.map_eq_nil_iff.mp hwords) (updateWrites_ne_nil htouches)

/-- **Every operation pursues its plan**, and an operation that has a plan fails only with something
left of it. -/
theorem Operation.pursues (op : Operation) : Pursues op.plan (op.plan = []) op.procedure := by
  induction op using kinds with
  | looks op hlooks hthrows hop =>
      rw [plan_of_looks hop]
      exact .idle (hlooks idle_consults) (hthrows.mono fun _ hkind => ⟨hkind, rfl⟩)
  | invalidate => exact .forgetting _ true
  | updateConfig p => exact updateConfig_pursues p
  | updateProfile p => exact updateProfile_pursues p
  | updateCharging p => exact updateCharging_pursues p
  | setTime t =>
      have hstart : Pursues [] False (pure () : Procedure Unit) :=
        .idle (.pure idle_consults.toLasting _) (.pure ())
      exact hstart.bind (fun _ => .finish (.storeClock t) true idle_consults.currentTime)
        (fun _ => False.elim) False.elim

/-! ## Discipline -/

/-- What an account and its result show of a plan. -/
structure Disciplined (plan : List PlannedWrite) (es : List Line)
    (result : Except SettingsFault α) : Prop where
  /-- The writes that were issued are a beginning of the plan. -/
  begun : (issued es).map (fun i => some i.1) <+: plan.map (·.request)
  /-- A refused write is the last one.  It is counted once, and the result names its register. -/
  refused {before r source after} : issued es = before ++ (r, .error source) :: after →
    after = [] ∧ failures es = 1 ∧ ∃ w, plan[before.length]? = some w ∧ w.request = some r ∧
      result = .error (.write w.register.name w.register.address w.value source)
  /-- Without a refused write nothing is counted, and no fault is that of a write. -/
  unrefused : (∀ i ∈ issued es, i.2.isOk = true) →
    failures es = 0 ∧ ∀ fault, result = .error fault → fault.isWriting = false
  /-- Once the whole plan has been accepted, there is a result. -/
  accomplished : plan ≠ [] → Accomplished plan (issued es) → ∃ a, result = .ok a
  /-- There is a result only if the whole plan has been accepted. -/
  whole {a} : result = .ok a → Accomplished plan (issued es)

lemma Accomplished.requests {plan : List PlannedWrite} {is : List (Request × Answer)}
    (h : Accomplished plan is) : is.map (fun i => some i.1) = plan.map (·.request) := by
  induction h with
  | nil => rfl
  | cons hw _ ih =>
      obtain ⟨r, data, hrequest, rfl⟩ := hw
      rw [List.map_cons, List.map_cons, ih, hrequest]

lemma Accomplished.isOk {plan : List PlannedWrite} {is : List (Request × Answer)}
    (h : Accomplished plan is) : ∀ i ∈ is, i.2.isOk = true := by
  induction h with
  | nil => exact fun i hi => by cases hi
  | cons hw _ ih =>
      obtain ⟨r, data, -, rfl⟩ := hw
      exact List.forall_mem_cons.mpr ⟨rfl, ih⟩

/-- Where all but the last write were accepted, a refused one is the last. -/
lemma last_of_refused {is before after : List (Request × Answer)} {i : Request × Answer}
    {r : Request} {source : BusFault} (his : ∀ j ∈ is, j.2.isOk = true)
    (h : is ++ [i] = before ++ (r, .error source) :: after) :
    before = is ∧ i = (r, .error source) ∧ after = [] := by
  rcases append_eq_append_cons.mp h with ⟨rest, rfl, -⟩ | ⟨rest, rfl, hrest⟩
  · cases his _ List.mem_append_cons_self
  · cases rest with
    | nil =>
        obtain ⟨rfl, rfl⟩ := List.cons.inj hrest
        exact ⟨List.append_nil is, rfl, rfl⟩
    | cons j rest =>
        have hnil := (List.cons.inj hrest).2
        exact absurd hnil.symm (List.append_ne_nil_of_right_ne_nil _ (List.cons_ne_nil _ _))

/-- **A pursuit is disciplined**, if it does not fail with nothing left of its plan. -/
theorem Pursued.disciplined {plan : List PlannedWrite} {es : List Line}
    {result : Except SettingsFault α}
    (h : Pursued plan (plan = []) (issued es) (failures es) result) :
    Disciplined plan es result := by
  generalize his : issued es = is at h
  generalize hn : failures es = n at h
  cases h with
  | accomplished all =>
      refine ⟨?_, fun hcut => ?_, fun _ => ⟨hn, fun _ hfault => by cases hfault⟩,
        fun _ _ => ⟨_, rfl⟩, fun _ => his ▸ all⟩
      · exact ⟨[], by rw [List.append_nil, his, all.requests]⟩
      · rw [his] at hcut
        cases all.isOk _ (hcut ▸ List.mem_append_cons_self)
  | @refused before w after is r source cut begun request =>
      have hfails (hall : ∀ i ∈ issued es, i.2.isOk = true) : False := by
        rw [his] at hall
        cases hall _ (List.mem_append_right _ List.mem_cons_self)
      refine ⟨?_, fun hcut => ?_, fun hall => (hfails hall).elim,
        fun _ hall => (hfails hall.isOk).elim, fun hok => by cases hok⟩
      · refine ⟨after.map (·.request), ?_⟩
        simp [his, cut, begun.requests, request]
      · rw [his] at hcut
        obtain ⟨rfl, hlast, rfl⟩ := last_of_refused begun.isOk hcut
        cases hlast
        refine ⟨rfl, hn, w, ?_, request, rfl⟩
        rw [cut, ← begun.length_eq]
        exact List.getElem?_append_right (Nat.le_refl _) |>.trans (by rw [Nat.sub_self]; rfl)
  | @stopped before after is fault cut begun kind left =>
      refine ⟨?_, fun hcut => ?_, fun _ => ⟨hn, fun fault' hfault => ?_⟩, fun hplan hall => ?_,
        fun hok => by cases hok⟩
      · rw [his, cut, begun.requests, List.map_append]
        exact List.prefix_append _ _
      · rw [his] at hcut
        cases begun.isOk _ (hcut ▸ List.mem_append_cons_self)
      · obtain rfl := Except.error.inj hfault
        exact kind
      · -- What was accomplished is as long as the plan, so nothing is left of it.
        rw [his] at hall
        have hlength := hall.length_eq.trans begun.length_eq.symm
        rw [cut, List.length_append] at hlength
        exact absurd (left (List.eq_nil_of_length_eq_zero (by omega))) hplan

theorem Operation.disciplined {op : Operation} {es : List Line}
    {result : Except SettingsFault op.Value} (h : Tells op.procedure es result) :
    Disciplined op.plan es result :=
  (op.pursues es result h).disciplined

/-! ## Reading back -/

/-- An update reads back what it has written: it confirms what it reads, and says so if it cannot
read. -/
def ReadsBack (what : String) (read : Procedure α) (back : List Line)
    (c : Confirmation α) : Prop :=
  (∃ value, Tells read back (.ok value) ∧ c = .confirmed value) ∨
    ∃ fault, Tells read back (.error fault) ∧ c = .unconfirmed what

/-- How an operation reads back what it has written; one that writes nothing has nothing to read. -/
def Operation.ReadsBack : (op : Operation) → List Line → op.Value → Prop
  | updateConfig _, back, c => Settings.ReadsBack "configuration" cachedConfig back c
  | updateProfile _, back, c => Settings.ReadsBack "profile" batteryProfile back c
  | updateCharging _, back, c => Settings.ReadsBack "parameters" chargingParameters back c
  | setTime _, back, c => Settings.ReadsBack "time" currentTime back c
  | _, _, _ => True

lemma issued_of_quiet {es : List Line} (h : ∀ e ∈ es, e.quiet = true) : issued es = [] := by
  refine List.filterMap_eq_nil_iff.mpr fun e he => ?_
  have hwrites := Exchange.writes_of_quiet (h e he)
  obtain ⟨q, r⟩ := e
  cases q with
  | send request => exact if_neg (by rw [Bool.not_eq_true]; exact hwrites)
  | _ => rfl

lemma Stages.readsBack {s : Stages α} {es : List Line} {c : Confirmation α}
    (h : Tells s.procedure es (.ok c)) :
    ∃ front back, es = front ++ back ∧ issued back = [] ∧
      Settings.ReadsBack s.what s.read back c := by
  obtain ⟨-, front, back, rfl, hconfirm⟩ := succeeded h
  refine ⟨front, back, rfl, issued_of_quiet (s.read_quiet.confirm s.what _ _ hconfirm), ?_⟩
  rcases tells_confirm.mp hconfirm with ⟨value, hread, hok⟩ | ⟨fault, hread, hok⟩
  · exact .inl ⟨value, hread, Except.ok.inj hok⟩
  · exact .inr ⟨fault, hread, Except.ok.inj hok⟩

/-- **What has not failed ends by reading back.** -/
theorem Operation.readsBack {op : Operation} {es : List Line} {v : op.Value}
    (h : Tells op.procedure es (.ok v)) :
    ∃ front back, es = front ++ back ∧ issued back = [] ∧ op.ReadsBack back v := by
  cases op with
  | updateConfig p =>
      change Tells (Settings.updateConfig p) es (.ok v) at h
      rw [updateConfig_eq] at h
      exact Stages.readsBack h
  | updateProfile p =>
      change Tells (Settings.updateProfile p) es (.ok v) at h
      rw [updateProfile_eq] at h
      exact Stages.readsBack h
  | updateCharging p =>
      change Tells (Settings.updateCharging p) es (.ok v) at h
      rw [updateCharging_eq] at h
      exact Stages.readsBack h
  | setTime t => exact Stages.readsBack (s := timeStages t) h
  | _ => exact ⟨es, [], (List.append_nil es).symm, rfl, trivial⟩

/-! ## Counting -/

/-- Whether a refused write has ended an operation. -/
def Finished.writeFailed (f : Finished) : Bool :=
  match f.result with
  | .error fault => fault.isWriting
  | .ok _ => false

variable {D : Type} {device : Answering D} {ttl : Nat} {w w' : World D}

lemma writeFailures_of_answered {es : List Line}
    (h : Answered (World.Replies device ttl) w es w') :
    w'.writeFailures = w.writeFailures + failures es := by
  induction h with
  | nil w => rfl
  | @cons w w₁ w₂ e es first rest ih =>
      have hsum : failures (e :: es) = failures [e] + failures es := failures_append [e] es
      rw [ih, hsum, ← Nat.add_assoc]
      obtain ⟨q, r⟩ := e
      cases first with
      | count _ => rfl
      | _ => rfl

lemma Disciplined.failures_eq {f : Finished} (h : Disciplined f.op.plan f.account f.result) :
    failures f.account = if f.writeFailed then 1 else 0 := by
  by_cases hall : ∀ i ∈ issued f.account, i.2.isOk = true
  · obtain ⟨hnone, hkind⟩ := h.unrefused hall
    have hwriteFailed : f.writeFailed = false := by
      simp only [Finished.writeFailed]
      split
      · next fault hfault => exact hkind fault hfault
      · rfl
    rw [hnone, hwriteFailed]
    rfl
  · obtain ⟨⟨r, answer⟩, hi, hrefused⟩ : ∃ i ∈ issued f.account, ¬ i.2.isOk = true := by
      simpa using hall
    cases answer with
    | ok data => exact absurd rfl hrefused
    | error source =>
        obtain ⟨before, after, hcut⟩ := List.append_of_mem hi
        obtain ⟨-, hone, w, -, -, hresult⟩ := h.refused hcut
        have hwriteFailed : f.writeFailed = true := by
          simp only [Finished.writeFailed]
          rw [hresult]
          rfl
        rw [hone, hwriteFailed]
        rfl

/-- **Writing follows the plan.**  In a session over any device and with any cache, every operation
is disciplined: its writes are a beginning of its plan, end with the first one that is refused, and
are the whole plan exactly if the operation has not failed, which it then ends by reading back.  The
counter of failed writes is raised by one by each operation that a refused write has ended, and by
no other. -/
theorem writes_follow_plan {log : List Finished}
    (session : Session (World.Replies device ttl) w log w') :
    (∀ f ∈ log, Disciplined f.op.plan f.account f.result ∧
      ∀ v, f.result = .ok v → ∃ front back, f.account = front ++ back ∧ issued back = [] ∧
        f.op.ReadsBack back v) ∧
    (∀ f ∈ log, ∀ v v', Answered (World.Replies device ttl) v f.account v' →
      v'.writeFailures = v.writeFailures + if f.writeFailed then 1 else 0) ∧
    w'.writeFailures = w.writeFailures + log.countP (·.writeFailed) := by
  have hlog {f : Finished} (hf : f ∈ log) : Disciplined f.op.plan f.account f.result :=
    Operation.disciplined (session.tells hf)
  refine ⟨fun f hf => ⟨hlog hf, fun v hv => ?_⟩, fun f hf v v' hanswered => ?_, ?_⟩
  · have htells := session.tells hf
    rw [hv] at htells
    exact Operation.readsBack htells
  · rw [writeFailures_of_answered hanswered, (hlog hf).failures_eq]
  · clear hlog
    induction session with
    | start => rfl
    | next before tells answered ih =>
        rw [writeFailures_of_answered answered, ih, (Operation.disciplined tells).failures_eq,
          List.countP_append, List.countP_singleton, Nat.add_assoc]

/-- The capacity is refused after the battery type was accepted: the update ends with this fault,
and the counter says one. -/
theorem refused_write_counted :
    let played := playAll (World.serve refuses 60000) World.sample lookThenUpdate
    played.2.writeFailures = 1 ∧
      ∃ f ∈ played.1, f.writeFailed = true ∧ Disciplined f.op.plan f.account f.result := by
  intro played
  have hserve := World.serve_replies (fun r (_ : refuses r = true) => trivial) 60000
  obtain ⟨hlog, -, hcount⟩ :=
    writes_follow_plan (playAll_session hserve World.sample lookThenUpdate)
  have hone : played.1.countP (·.writeFailed) = 1 := by decide +kernel
  have hsum : played.2.writeFailures = 0 + played.1.countP (·.writeFailed) := hcount
  obtain ⟨f, hf, hfailed⟩ := List.countP_pos_iff.mp (show 0 < played.1.countP (·.writeFailed) by
    rw [hone]
    exact Nat.one_pos)
  exact ⟨by rw [hsum, hone], f, hf, hfailed, (hlog f hf).1⟩

end Settings

end ChargeController
