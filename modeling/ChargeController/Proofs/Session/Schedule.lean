import ChargeController.Proofs.Session.Flights

/-!
# The schedule

A controller that collects on its own asks for a collection at once, and then once per interval.
Neither what its tasks do nor how long that takes moves any of these times.  Its loop comes to an
end in the instant in which the last value on its channel says so or nobody is left to send one, and
for no other reason.

* `pollTimes`, `endTime?` — when collections were asked for, and when the loop came to its end.
* `saysStop` — whether what was done on the channel ends the collecting.
* `Beat`, **`Move.beat`** — what a move can mean for the schedule.
* `OnSchedule` — a history has kept to the schedule and to the channel, and its bench will.
* **`Move.onSchedule`**, **`Run.onSchedule`** — it does after any move, and in any run.
* **`Run.idle`** — without a loop nothing is asked for.
-/

namespace ChargeController

namespace Session

open Bench

/-! ## When collections are asked for -/

/-- When collections were asked for on the controller's own account. -/
def pollTimes (h : History) : List Nat :=
  h.filterMap fun
    | (time, .polled _) => some time
    | _ => none

/-- When the loop that asks for them came to its end. -/
def endTime? (h : History) : Option Nat :=
  h.findSome? fun
    | (time, .ended) => some time
    | _ => none

/-- The times of a schedule up to a time. -/
def timesUntil (start interval last : Nat) : List Nat :=
  (List.range ((last - start) / interval + 1)).map (start + · * interval)

/-! ## When the collecting is to end -/

/-- The value that was sent last. -/
def lastSent? (h : History) : Option Bool :=
  h.reverse.findSome? fun
    | (_, .signal (.value stop)) => some stop
    | _ => none

/-- Whether the last one who could send a value has gone. -/
def isAbandoned (h : History) : Bool :=
  h.any fun
    | (_, .signal .dropped) => true
    | _ => false

/-- Whether the collecting is to end: the last value says so, be it the one that was there at the
start, or nobody is left who could send another one. -/
def saysStop (c : Channel) (h : History) : Bool :=
  (lastSent? h).getD c.value || c.abandoned || isAbandoned h

/-- What has happened up to a time. -/
def upTo (time : Nat) (h : History) : History :=
  h.filter (·.1 ≤ time)

section

variable {c : Channel} {h h' : History} {b b' : Bench} {p : Poller}
  {start interval k n time last : Nat} {s : Signal}

@[simp] lemma pollTimes_append : pollTimes (h ++ h') = pollTimes h ++ pollTimes h' :=
  List.filterMap_append

@[simp] lemma pollTimes_polled : pollTimes [(time, .polled n)] = [time] :=
  rfl

@[simp] lemma pollTimes_signal : pollTimes [(time, .signal s)] = [] :=
  rfl

@[simp] lemma pollTimes_ended : pollTimes [(time, .ended)] = [] :=
  rfl

@[simp] lemma endTime?_append : endTime? (h ++ h') = (endTime? h).or (endTime? h') :=
  List.findSome?_append

@[simp] lemma endTime?_polled : endTime? [(time, .polled n)] = none :=
  rfl

@[simp] lemma endTime?_signal : endTime? [(time, .signal s)] = none :=
  rfl

@[simp] lemma endTime?_ended : endTime? [(time, .ended)] = some time :=
  rfl

@[simp] lemma lastSent?_append : lastSent? (h ++ h') = (lastSent? h').or (lastSent? h) := by
  rw [lastSent?, List.reverse_append, List.findSome?_append]
  rfl

@[simp] lemma isAbandoned_append : isAbandoned (h ++ h') = (isAbandoned h || isAbandoned h') :=
  List.any_append

lemma mem_pollTimes : time ∈ pollTimes h ↔ ∃ n, (time, .polled n) ∈ h := by
  simp only [pollTimes, List.mem_filterMap, Prod.exists]
  constructor
  · rintro ⟨time', x, hx, heq⟩
    cases x with
    | polled n =>
        cases heq
        exact ⟨n, hx⟩
    | _ => cases heq
  · rintro ⟨n, hn⟩
    exact ⟨time, .polled n, hn, rfl⟩

lemma upTo_append : upTo time (h ++ h') = upTo time h ++ upTo time h' :=
  List.filter_append ..

lemma upTo_of_le (hle : ∀ x ∈ h, x.1 ≤ time) : upTo time h = h :=
  List.filter_eq_self.mpr fun x hx => decide_eq_true (hle x hx)

lemma upTo_of_lt (hlt : ∀ x ∈ h, time < x.1) : upTo time h = [] :=
  List.filter_eq_nil_iff.mpr fun x hx hle => Nat.not_lt.mpr (of_decide_eq_true hle) (hlt x hx)

/-! ## What a move means for the schedule -/

/-- Nothing happens but what tasks ask, and that tasks are dropped. -/
def Aside (h : History) : Prop :=
  ∀ x ∈ h, (∃ n e, x.2 = .told n e) ∨ ∃ n, x.2 = .dropped n

namespace Aside

lemma pollTimes (ha : Aside h) : pollTimes h = [] := by
  simp only [Session.pollTimes, List.filterMap_eq_nil_iff]
  rintro ⟨time, x⟩ hx
  rcases ha _ hx with ⟨n, e, rfl⟩ | ⟨n, rfl⟩
  · rfl
  · rfl

lemma endTime? (ha : Aside h) : endTime? h = none := by
  simp only [Session.endTime?, List.findSome?_eq_none_iff]
  rintro ⟨time, x⟩ hx
  rcases ha _ hx with ⟨n, e, rfl⟩ | ⟨n, rfl⟩
  · rfl
  · rfl

lemma lastSent? (ha : Aside h) : lastSent? h = none := by
  simp only [Session.lastSent?, List.findSome?_eq_none_iff, List.mem_reverse]
  rintro ⟨time, x⟩ hx
  rcases ha _ hx with ⟨n, e, rfl⟩ | ⟨n, rfl⟩
  · rfl
  · rfl

lemma isAbandoned (ha : Aside h) : isAbandoned h = false := by
  simp only [Session.isAbandoned, List.any_eq_false]
  rintro ⟨time, x⟩ hx
  rcases ha _ hx with ⟨n, e, rfl⟩ | ⟨n, rfl⟩
  · exact Bool.false_ne_true
  · exact Bool.false_ne_true

end Aside

lemma aside_nil : Aside [] :=
  fun _ => nofun

lemma aside_dropped : Aside [(time, .dropped n)] := by
  intro x hx
  exact .inr ⟨n, congrArg Prod.snd (List.mem_singleton.mp hx)⟩

lemma aside_toldTo {rest : List Nat} : Aside (b.toldTo n rest) := by
  intro x hx
  unfold Bench.toldTo at hx
  split at hx
  · obtain ⟨e, -, rfl⟩ := List.mem_map.mp hx
    exact .inl ⟨n, e, rfl⟩
  · cases hx

/-- What a move can mean for the schedule. -/
inductive Beat : Bench → History → Bench → Prop
  /-- Tasks do something, and the loop nothing. -/
  | passes {b b' : Bench} {h : History} (aside : Aside h) (time : ∀ x ∈ h, x.1 = b.now)
      (now : b'.now = b.now) (poller : b'.poller = b.poller) : Beat b h b'
  /-- Time goes on while the loop waits. -/
  | waits {b b' : Bench} (turn : b.turn? = none) (later : b.now < b'.now)
      (poller : b'.poller = b.poller) : Beat b [] b'
  /-- Something is done on the channel. -/
  | heard {b : Bench} (s : Signal) : Beat b [(b.now, .signal s)] (b.signal s)
  /-- The loop goes on. -/
  | turns {b b' : Bench} (turned : b.Turned b') : Beat b (looped b b') b'

/-- **What a move means for the schedule.** -/
theorem Move.beat (move : Move b h b') (hsound : b.Sound) : Beat b h b' := by
  cases move with
  | @goOn n rest ready =>
      have hadvances := goOn_advances b n rest
      exact .passes aside_toldTo (fun x hx => (task?_of_mem_toldTo hx).2.1) hadvances.now
        hadvances.poller
  | turn turns => exact .turns (turns.cases hsound.loop)
  | jump ready turn jumps =>
      obtain ⟨-, hrouses, -⟩ := jump_cases jumps
      exact .waits turn (hsound.lt_jump turn jumps) hrouses.poller
  | spawn c => exact .passes aside_nil (fun _ => nofun) rfl rfl
  | forget named => exact .passes aside_nil (fun _ => nofun) rfl rfl
  | @cancel n named =>
      have hleaves := Rouses.cancel b n
      refine .passes aside_dropped (fun x hx => ?_) hleaves.now hleaves.poller
      rw [List.mem_singleton.mp hx]
  | signal s => exact .heard s

lemma controller_cancel : (b.cancel n).controller = b.controller :=
  (Rouses.cancel b n).controller

/-- Moves leave the controller as it is set up. -/
lemma Move.controller (move : Move b h b') (hsound : b.Sound) : b'.controller = b.controller := by
  cases move with
  | goOn ready => exact (goOn_advances ..).controller
  | turn turns => exact (turns.cases hsound.loop).controller
  | jump ready turn jumps =>
      obtain ⟨-, hrouses, -⟩ := jump_cases jumps
      exact hrouses.controller
  | spawn c => rfl
  | forget named => rfl
  | cancel named => exact controller_cancel
  | signal s => rfl

lemma Run.controller {h₀ : History} (run : Run b h b') (hf : Faithful h₀ b) :
    b'.controller = b.controller := by
  induction run with
  | start => rfl
  | next before move ih => exact (move.controller (before.faithful hf).sound).trans ih

/-! ## Keeping to the schedule -/

/-- A history with `k` collections at the first times of a schedule, none of them after a moment and
none missing before it, and in which nothing before that moment has ended the collecting. -/
structure Kept (c : Channel) (start k last : Nat) (h : History) (b : Bench) : Prop where
  begun : start ≤ b.now
  past : ∀ x ∈ h, x.1 ≤ b.now
  times : pollTimes h = (List.range k).map (start + · * b.controller.pollInterval)
  reached : ∀ time ∈ pollTimes h, time ≤ last
  due : last ≤ start + k * b.controller.pollInterval
  unstopped : ∀ time, start ≤ time → time < last → saysStop c (upTo time h) = false

/-- The loop goes on: it will ask for the next collection in time, and knows what was done on its
channel. -/
structure Going (c : Channel) (start k : Nat) (h : History) (b : Bench) (p : Poller) : Prop where
  poller : b.poller = some p
  due : p.ticker.due = start + k * b.controller.pollInterval
  value : p.channel.value = (lastSent? h).getD c.value
  abandoned : p.channel.abandoned = (c.abandoned || isAbandoned h)
  unended : endTime? h = none

/-- The loop has come to its end, for a reason, and has asked for nothing since. -/
structure Over (c : Channel) (last : Nat) (h : History) (b : Bench) : Prop where
  poller : b.poller = none
  past : last ≤ b.now
  ended : ∃ before after, h = before ++ (last, .ended) :: after ∧ saysStop c before = true ∧
    endTime? before = none ∧ pollTimes after = []

/-- A history has kept to the schedule and to the channel, and so will its bench. -/
inductive OnSchedule (c : Channel) (start : Nat) (h : History) (b : Bench) : Prop
  | going {k : Nat} {p : Poller} (kept : Kept c start k b.now h b)
      (goes : Going c start k h b p)
  | ended {k last : Nat} (kept : Kept c start k last h b) (isOver : Over c last h b)

/-- Things happen in the present, and no collection is asked for. -/
lemma Kept.pass (hk : Kept c start k last h b) (hlast : last ≤ b.now)
    (htime : ∀ x ∈ h', x.1 = b.now) (hnone : pollTimes h' = []) (hnow : b'.now = b.now)
    (hcontroller : b'.controller = b.controller) : Kept c start k last (h ++ h') b' where
  begun := hnow ▸ hk.begun
  past := by
    intro x hx
    rw [hnow]
    rcases List.mem_append.mp hx with hx | hx
    · exact hk.past x hx
    · exact Nat.le_of_eq (htime x hx)
  times := by rw [pollTimes_append, hnone, List.append_nil, hcontroller, hk.times]
  reached := by
    rw [pollTimes_append, hnone, List.append_nil]
    exact hk.reached
  due := by
    rw [hcontroller]
    exact hk.due
  unstopped := by
    intro time hstart htime'
    have hafter : upTo time h' = [] := upTo_of_lt fun x hx => by
      rw [htime x hx]
      omega
    rw [upTo_append, hafter, List.append_nil]
    exact hk.unstopped time hstart htime'

/-- The loop has moved. -/
lemma Kept.withPoller {poller : Option Poller} (hk : Kept c start k last h b) :
    Kept c start k last h { b with poller } :=
  ⟨hk.begun, hk.past, hk.times, hk.reached, hk.due, hk.unstopped⟩

/-- Time goes on after the moment. -/
lemma Kept.later (hk : Kept c start k last h b) (hlater : b.now ≤ b'.now)
    (hcontroller : b'.controller = b.controller) : Kept c start k last h b' where
  begun := Nat.le_trans hk.begun hlater
  past x hx := Nat.le_trans (hk.past x hx) hlater
  times := by
    rw [hcontroller]
    exact hk.times
  reached := hk.reached
  due := by
    rw [hcontroller]
    exact hk.due
  unstopped := hk.unstopped

/-- Time goes on, up to the next time of the schedule at most. -/
lemma Kept.wait (hk : Kept c start k b.now h b) (hsilent : saysStop c h = false)
    (hlater : b.now ≤ b'.now) (hdue : b'.now ≤ start + k * b.controller.pollInterval)
    (hcontroller : b'.controller = b.controller) : Kept c start k b'.now h b' where
  begun := Nat.le_trans hk.begun hlater
  past x hx := Nat.le_trans (hk.past x hx) hlater
  times := by
    rw [hcontroller]
    exact hk.times
  reached time ht := Nat.le_trans (hk.reached time ht) hlater
  due := by
    rw [hcontroller]
    exact hdue
  unstopped := by
    intro time hstart htime
    by_cases hbefore : time < b.now
    · exact hk.unstopped time hstart hbefore
    · rw [upTo_of_le fun x hx => Nat.le_trans (hk.past x hx) (Nat.le_of_not_lt hbefore)]
      exact hsilent

/-- The next time of the schedule has come, and a collection is asked for. -/
lemma Kept.poll (hk : Kept c start k b.now h b)
    (hdue : b.now = start + k * b.controller.pollInterval)
    (hnow : b'.now = b.now) (hcontroller : b'.controller = b.controller) :
    Kept c start (k + 1) b'.now (h ++ [(b.now, .polled n)]) b' where
  begun := hnow ▸ hk.begun
  past := by
    intro x hx
    rw [hnow]
    rcases List.mem_append.mp hx with hx | hx
    · exact hk.past x hx
    · cases List.mem_singleton.mp hx
      exact Nat.le_refl _
  times := by
    rw [pollTimes_append, pollTimes_polled, hk.times, List.range_succ, List.map_append, hcontroller,
      List.map_singleton, ← hdue]
  reached := by
    intro time ht
    rw [hnow]
    rw [pollTimes_append, pollTimes_polled] at ht
    rcases List.mem_append.mp ht with ht | ht
    · exact hk.reached time ht
    · exact Nat.le_of_eq (List.mem_singleton.mp ht)
  due := by
    rw [hnow, hcontroller, hdue, Nat.succ_mul]
    omega
  unstopped := by
    intro time hstart htime
    rw [hnow] at htime
    have hafter : upTo time [(b.now, .polled n)] = [] := upTo_of_lt fun x hx => by
      rw [List.mem_singleton.mp hx]
      exact htime
    rw [upTo_append, hafter, List.append_nil]
    exact hk.unstopped time hstart htime

/-- A loop that goes on knows whether it is to end. -/
lemma Going.saysStop_eq (hg : Going c start k h b p) :
    saysStop c h = (p.channel.value || p.channel.abandoned) := by
  rw [hg.value, hg.abandoned, saysStop, Bool.or_assoc]

/-- The loop has moved, with the same timer and what it knows. -/
lemma Going.moved {q : Poller} (hg : Going c start k h b p) (hticker : q.ticker = p.ticker)
    (hvalue : q.channel.value = p.channel.value)
    (habandoned : q.channel.abandoned = p.channel.abandoned) :
    Going c start k h { b with poller := some q } q :=
  ⟨rfl, (congrArg Ticker.due hticker).trans hg.due, hvalue.trans hg.value,
    habandoned.trans hg.abandoned, hg.unended⟩

/-- Tasks do something, or nothing happens. -/
lemma Going.aside (hg : Going c start k h b p) (ha : Aside h') (hpoller : b'.poller = b.poller)
    (hcontroller : b'.controller = b.controller) : Going c start k (h ++ h') b' p where
  poller := hpoller.trans hg.poller
  due := by
    rw [hcontroller]
    exact hg.due
  value := by
    rw [lastSent?_append, ha.lastSent?, Option.none_or]
    exact hg.value
  abandoned := by
    rw [isAbandoned_append, ha.isAbandoned, Bool.or_false]
    exact hg.abandoned
  unended := by
    rw [endTime?_append, ha.endTime?, Option.or_none]
    exact hg.unended

/-- The loop learns of everything that is done on its channel. -/
lemma Going.hear (hg : Going c start k h b p) (s : Signal) :
    Going c start k (h ++ [(b.now, .signal s)]) (b.signal s)
      { p with channel := p.channel.hear s } where
  poller := by simp [Bench.signal, hg.poller]
  due := hg.due
  value := by
    rw [lastSent?_append]
    cases s with
    | value stop => rfl
    | dropped => exact hg.value
  abandoned := by
    rw [isAbandoned_append, ← Bool.or_assoc, ← hg.abandoned]
    cases s with
    | value stop => exact (Bool.or_false _).symm
    | dropped => exact (Bool.or_true _).symm
  unended := by simp [hg.unended]

/-- A loop that has come to its end does not come back. -/
lemma Over.append (ho : Over c last h b) (hpoller : b'.poller = none) (hnow : b.now ≤ b'.now)
    (hnone : pollTimes h' = []) : Over c last (h ++ h') b' := by
  obtain ⟨before, after, rfl, hstop, hfirst, hafter⟩ := ho.ended
  refine ⟨hpoller, Nat.le_trans ho.past hnow, before, after ++ h', by simp, hstop, hfirst, ?_⟩
  rw [pollTimes_append, hafter, hnone]
  rfl

/-- **The loop goes on as the schedule and the channel want it to.** -/
lemma Going.turned (hg : Going c start k h b p) (hk : Kept c start k b.now h b)
    (hproper : p.Proper b) (hturned : b.Turned b') :
    OnSchedule c start (h ++ looped b b') b' := by
  have hpoller := hg.poller
  -- The loop comes to its end only after it was told to.
  have hends (hstop : saysStop c h = true) :
      OnSchedule c start (h ++ [(b.now, .ended)]) { b with poller := none } := by
    refine .ended (hk.pass (Nat.le_refl _) (fun x hx => ?_) rfl rfl rfl) ?_
    · rw [List.mem_singleton.mp hx]
    · exact ⟨rfl, Nat.le_refl _, h, [], rfl, hstop, hg.unended, rfl⟩
  cases hturned with
  | begins poller stand value =>
      cases poller.symm.trans hpoller
      rw [looped_poller, List.append_nil]
      exact .going hk.withPoller (hg.moved rfl rfl rfl)
  | stops poller stand value =>
      cases poller.symm.trans hpoller
      rw [looped_ended]
      refine hends ?_
      rw [hg.saysStop_eq, value, Bool.true_or]
  | ticks poller stand due =>
      cases poller.symm.trans hpoller
      rw [looped_spawn]
      refine .going (hk.poll (due.symm.trans hg.due) rfl rfl) ⟨rfl, ?_, ?_, ?_, ?_⟩
      · show (p.ticker.tick b.now).due = start + (k + 1) * b.controller.pollInterval
        rw [hproper.due_tick, hg.due, Nat.succ_mul, Nat.add_assoc]
      · simpa [lastSent?] using hg.value
      · simpa [isAbandoned] using hg.abandoned
      · simp [hg.unended]
  | notices poller stand news =>
      cases poller.symm.trans hpoller
      rw [looped_poller, List.append_nil]
      exact .going hk.withPoller (hg.moved rfl rfl rfl)
  | closes poller stand abandoned =>
      cases poller.symm.trans hpoller
      rw [looped_ended]
      refine hends ?_
      rw [hg.saysStop_eq, abandoned, Bool.or_true]

/-- While the loop goes on, a move keeps to the schedule. -/
lemma Going.beat (hg : Going c start k h b p) (hk : Kept c start k b.now h b) (hsound : b.Sound)
    (hsound' : b'.Sound) (hbeat : Beat b h' b') (hcontroller : b'.controller = b.controller) :
    OnSchedule c start (h ++ h') b' := by
  have hproper := hsound.loop p hg.poller
  cases hbeat with
  | passes aside time now poller =>
      refine .going ?_ (hg.aside aside poller hcontroller)
      rw [now]
      exact hk.pass (Nat.le_refl _) time aside.pollTimes now hcontroller
  | waits turn later poller =>
      obtain ⟨-, hvalue, habandoned⟩ := hproper.rests hg.poller turn
      have hsilent : saysStop c h = false := by
        rw [hg.saysStop_eq, hvalue, habandoned]
        rfl
      have hdue : b'.now ≤ start + k * b.controller.pollInterval := by
        rw [← hg.due]
        exact (hsound'.loop p (poller.trans hg.poller)).due
      refine .going ?_ (hg.aside aside_nil poller hcontroller)
      rw [List.append_nil]
      exact hk.wait hsilent (Nat.le_of_lt later) hdue hcontroller
  | heard s =>
      refine .going (hk.pass (Nat.le_refl _) (fun x hx => ?_) rfl rfl rfl) (hg.hear s)
      rw [List.mem_singleton.mp hx]
  | turns turned => exact hg.turned hk hproper turned

/-- Once the loop is over, a move asks for nothing. -/
lemma Over.beat (ho : Over c last h b) (hk : Kept c start k last h b) (hbeat : Beat b h' b')
    (hcontroller : b'.controller = b.controller) : OnSchedule c start (h ++ h') b' := by
  cases hbeat with
  | passes aside time now poller =>
      exact .ended (hk.pass ho.past time aside.pollTimes now hcontroller)
        (ho.append (poller.trans ho.poller) (Nat.le_of_eq now.symm) aside.pollTimes)
  | waits turn later poller =>
      have hover : Over c last (h ++ []) b' :=
        ho.append (poller.trans ho.poller) (Nat.le_of_lt later) rfl
      rw [List.append_nil] at hover ⊢
      exact .ended (hk.later (Nat.le_of_lt later) hcontroller) hover
  | heard s =>
      refine .ended (hk.pass ho.past (fun x hx => ?_) rfl rfl rfl)
        (ho.append ?_ (Nat.le_refl _) rfl)
      · rw [List.mem_singleton.mp hx]
      · simp [Bench.signal, ho.poller]
  | turns turned => exact absurd ho.poller turned.poller_ne

/-- **A move keeps to the schedule.** -/
theorem Move.onSchedule (move : Move b h' b') (hsound : b.Sound) (hsound' : b'.Sound)
    (hb : OnSchedule c start h b) : OnSchedule c start (h ++ h') b' := by
  have hbeat := move.beat hsound
  have hcontroller := move.controller hsound
  cases hb with
  | going kept goes => exact goes.beat kept hsound hsound' hbeat hcontroller
  | ended kept isOver => exact isOver.beat kept hbeat hcontroller

/-- **Any run keeps to the schedule.** -/
theorem Run.onSchedule {h₀ : History} (run : Run b h' b') (hf : Faithful h₀ b)
    (hb : OnSchedule c start h b) : OnSchedule c start (h ++ h') b' := by
  induction run with
  | start => rwa [List.append_nil]
  | next before move ih =>
      have hf' := before.faithful hf
      rw [← List.append_assoc]
      exact move.onSchedule hf'.sound (move.faithful hf').sound ih

/-! ## The start -/

/-- The loop begins with a look at its channel, and ends there if that says so. -/
lemma startPolling_of_stopped (hinterval : 0 < b.controller.pollInterval)
    (hvalue : c.value = true) : b.startPolling c = { b with poller := none } := by
  rw [startPolling, if_neg (Nat.ne_of_gt hinterval), follow_turn]
  exact if_pos hvalue

/-- Otherwise it waits for its timer, which is due at once. -/
lemma startPolling_of_going (hinterval : 0 < b.controller.pollInterval) (hvalue : c.value = false) :
    ∃ p : Poller, b.startPolling c = { b with poller := some p } ∧ p.ticker.due = b.now ∧
      p.channel = c := by
  let p := Poller.start b.controller.pollInterval b.now c
  refine ⟨{ p with stand := .selecting Poller.selected }, ?_, rfl, rfl⟩
  rw [startPolling, if_neg (Nat.ne_of_gt hinterval), follow_turn]
  exact if_neg (Bool.eq_false_iff.mp hvalue)

/-- The schedule begins with the loop. -/
lemma onSchedule_startPolling (hinterval : 0 < b.controller.pollInterval) (c : Channel) :
    OnSchedule c b.now (looped b (b.startPolling c)) (b.startPolling c) := by
  cases hvalue : c.value with
  | true =>
      rw [startPolling_of_stopped hinterval hvalue, looped_ended]
      have hkept : Kept c b.now 0 b.now [(b.now, .ended)] { b with poller := none } := by
        refine ⟨Nat.le_refl _, by simp, rfl, fun _ => nofun, Nat.le_add_right .., ?_⟩
        intro time hstart htime
        exact absurd htime (Nat.not_lt.mpr hstart)
      have hstop : saysStop c [] = true := by simp [saysStop, lastSent?, hvalue]
      exact .ended hkept ⟨rfl, Nat.le_refl _, [], [], rfl, hstop, rfl, rfl⟩
  | false =>
      obtain ⟨p, heq, hdue, rfl⟩ := startPolling_of_going hinterval hvalue
      rw [heq, looped_poller]
      have hkept : Kept p.channel b.now 0 b.now [] { b with poller := some p } := by
        refine ⟨Nat.le_refl _, fun _ => nofun, rfl, fun _ => nofun, Nat.le_add_right .., ?_⟩
        intro time hstart htime
        exact absurd htime (Nat.not_lt.mpr hstart)
      exact .going hkept ⟨rfl, by simp [hdue], rfl, (Bool.or_false _).symm, rfl⟩

/-- **Without a loop nothing is asked for.** -/
theorem Run.idle {h₀ : History} (run : Run b h b') (hf : Faithful h₀ b)
    (hoff : b.poller = none) : pollTimes h = [] ∧ b'.poller = none := by
  induction run with
  | start => exact ⟨rfl, hoff⟩
  | next before move ih =>
      obtain ⟨htimes, hoff'⟩ := ih
      rw [pollTimes_append, htimes, List.nil_append]
      cases move.beat (before.faithful hf).sound with
      | passes aside time now poller => exact ⟨aside.pollTimes, poller.trans hoff'⟩
      | waits turn later poller => exact ⟨rfl, poller.trans hoff'⟩
      | heard s => exact ⟨rfl, by simp [Bench.signal, hoff']⟩
      | turns turned => exact absurd hoff' turned.poller_ne

/-! ## The timetable -/

/-- How a loop that began at a time has asked for collections, and when it has come to its end. -/
structure Timetable (c : Channel) (start interval : Nat) (h : History) (b : Bench) : Prop where
  /-- It has asked at the first times of its schedule: at each that came before its end, and at none
  after it. -/
  times : ∃ k, pollTimes h = (List.range k).map (start + · * interval) ∧
    ∀ i, (i < k → start + i * interval ≤ (endTime? h).getD b.now) ∧
      (start + i * interval < (endTime? h).getD b.now → i < k)
  /-- While it goes on, and once nobody can go on in this instant, no time has been left out. -/
  settled : b.AtRest → b.poller ≠ none → pollTimes h = timesUntil start interval b.now
  /-- Whether it has come to its end is known. -/
  isOver : b.poller = none ↔ (endTime? h).isSome = true
  /-- It comes to its end only when it is told to, and asks for nothing afterwards. -/
  reason : ∀ last, endTime? h = some last → ∃ before after,
    h = before ++ (last, .ended) :: after ∧ saysStop c before = true ∧ pollTimes after = []
  /-- When it is told to, it comes to its end in that instant. -/
  prompt : ∀ time, start ≤ time → saysStop c (upTo time h) = true →
    (time < b.now ∨ time = b.now ∧ b.AtRest) → ∃ last ≤ time, endTime? h = some last
  /-- So it asks for nothing after that instant. -/
  last : ∀ time, start ≤ time → saysStop c (upTo time h) = true →
    ∀ asked ∈ pollTimes h, asked ≤ time
  /-- If it was told to in advance, it asks for nothing at all. -/
  never : c.value = true → pollTimes h = [] ∧ b.poller = none

/-- A time of the schedule that comes before another one is one of the first. -/
lemma Kept.lt_of_lt (hk : Kept c start k last h b) {i : Nat}
    (hlt : start + i * b.controller.pollInterval < last) : i < k := by
  have hdue := hk.due
  exact Nat.lt_of_mul_lt_mul_right (a := b.controller.pollInterval) (by omega)

lemma Kept.le_of_lt (hk : Kept c start k last h b) {i : Nat} (hi : i < k) :
    start + i * b.controller.pollInterval ≤ last := by
  refine hk.reached _ ?_
  rw [hk.times]
  exact List.mem_map.mpr ⟨i, List.mem_range.mpr hi, rfl⟩

/-- The loop was told to end no earlier than at the moment. -/
lemma Kept.last_le (hk : Kept c start k last h b) (hstart : start ≤ time)
    (hstop : saysStop c (upTo time h) = true) : last ≤ time := by
  refine Nat.le_of_not_lt fun hlt => ?_
  rw [hk.unstopped time hstart hlt] at hstop
  exact Bool.false_ne_true hstop

/-- A loop that rests has not been told to end, and its next time has not come. -/
lemma Going.rests (hg : Going c start k h b p) (hsound : b.Sound) (hrest : b.AtRest) :
    saysStop c h = false ∧ b.now < start + k * b.controller.pollInterval := by
  obtain ⟨hdue, hvalue, habandoned⟩ :=
    (hsound.loop p hg.poller).rests hg.poller (atRest_iff.mp hrest).2
  refine ⟨?_, hg.due ▸ hdue⟩
  rw [hg.saysStop_eq, hvalue, habandoned]
  rfl

/-- No time of the schedule has been left out when a loop rests. -/
lemma Kept.pollTimes_eq (hk : Kept c start k b.now h b)
    (hdue : b.now < start + k * b.controller.pollInterval) :
    pollTimes h = timesUntil start b.controller.pollInterval b.now := by
  have hbegun := hk.begun
  cases k with
  | zero => omega
  | succ m =>
      have hreached := hk.le_of_lt (Nat.lt_succ_self m)
      have hm : (b.now - start) / b.controller.pollInterval = m :=
        Nat.div_eq_of_lt_le (by omega) (by omega)
      rw [hk.times, timesUntil, hm]

/-- A loop that goes on, and has not been told to end, is on its way to the next time. -/
lemma OnSchedule.collects (hb : OnSchedule c start h b) (hgoes : b.poller ≠ none)
    (hstop : saysStop c h = false) : b.Collects := by
  cases hb with
  | @going k p kept goes =>
      rw [goes.saysStop_eq, Bool.or_eq_false_iff] at hstop
      exact ⟨p, goes.poller, hstop⟩
  | ended kept isOver => exact absurd isOver.poller hgoes

lemma Over.endTime?_eq (ho : Over c last h b) : endTime? h = some last := by
  obtain ⟨before, after, rfl, -, hfirst, -⟩ := ho.ended
  rw [endTime?_append, hfirst]
  rfl

/-- **Whoever keeps to the schedule and to the channel has kept to the timetable.** -/
theorem OnSchedule.timetable (hb : OnSchedule c start h b) (hsound : b.Sound)
    (hnever : c.value = true → pollTimes h = [] ∧ b.poller = none) :
    Timetable c start b.controller.pollInterval h b := by
  cases hb with
  | @going k p kept goes =>
      have hend : endTime? h = none := goes.unended
      have hgoes : b.poller ≠ none := by simp [goes.poller]
      refine ⟨⟨k, kept.times, fun i => ?_⟩, fun hrest _ => ?_, by simp [goes.poller, hend],
        fun last hlast => ?_, fun time hstart hstop htime => ?_,
        fun time hstart hstop asked hasked => ?_, hnever⟩
      · rw [hend]
        exact ⟨kept.le_of_lt, kept.lt_of_lt⟩
      · exact kept.pollTimes_eq (goes.rests hsound hrest).2
      · cases hend.symm.trans hlast
      · have hlast := kept.last_le hstart hstop
        rcases htime with hlt | ⟨rfl, hrest⟩
        · omega
        · rw [upTo_of_le kept.past, (goes.rests hsound hrest).1] at hstop
          cases hstop
      · exact Nat.le_trans (kept.reached asked hasked) (kept.last_le hstart hstop)
  | @ended k last kept isOver =>
      have hend : endTime? h = some last := isOver.endTime?_eq
      refine ⟨⟨k, kept.times, fun i => ?_⟩, fun _ hgoes => absurd isOver.poller hgoes,
        by simp [isOver.poller, hend], fun last' hlast => ?_, fun time hstart hstop _ => ?_,
        fun time hstart hstop asked hasked => ?_, hnever⟩
      · rw [hend]
        exact ⟨kept.le_of_lt, kept.lt_of_lt⟩
      · cases hend.symm.trans hlast
        obtain ⟨before, after, heq, hstop, -, hafter⟩ := isOver.ended
        exact ⟨before, after, heq, hstop, hafter⟩
      · exact ⟨last, kept.last_le hstart hstop, hend⟩
      · exact Nat.le_trans (kept.reached asked hasked) (kept.last_le hstart hstop)

lemma Timetable.le_end (ht : Timetable c start interval h b)
    (hpolled : (time, .polled n) ∈ h) : time ≤ (endTime? h).getD b.now := by
  obtain ⟨k, htimes, hbounds⟩ := ht.times
  have htime := mem_pollTimes.mpr ⟨n, hpolled⟩
  rw [htimes] at htime
  obtain ⟨i, hi, rfl⟩ := List.mem_map.mp htime
  exact (hbounds i).1 (List.mem_range.mp hi)

end

end Session

end ChargeController
