import ChargeController.Proofs.Dialogue.Crew
import ChargeController.Proofs.Settings.Operations
import ChargeController.Proofs.Settings.World
import Mathlib.Algebra.Group.Nat.Defs

/-!
# What the cache remembers

A reading takes six requests, and between any two of them anyone may write and forget.  What saves
the cache is the generation: a configuration is accepted only if the generation that was found
before its first read is still the current one, and then nobody has forgotten anything since.  So
whatever is kept was read after the last forgetting, however the operations interleave.

* `generation_of_answered`, `kept_of_answered` — the cache at the end of an account.
* `ReadIn` — all blocks of a configuration were read in a part of a history.
* **`kept_source`** — what is kept was kept at the start, or it was read by someone; and nothing
  was forgotten since.
-/

namespace ChargeController

open Settings Dialogue

namespace Settings

variable {D : Type} {device : Answering D} {ttl : Nat}

instance (q : Ask) : Nonempty (Reply q) :=
  match q with
  | .send _ => ⟨(.ok [] : Answer)⟩
  | .lookUp => ⟨(.stale 0 : Recall)⟩
  | .keep _ _ => ⟨()⟩
  | .forget => ⟨()⟩
  | .countWriteFailure => ⟨()⟩

/-! ## The cache along an account -/

/-- How often the cached configuration was forgotten. -/
def forgettings (es : List Line) : Nat :=
  es.countP (·.forgets)

@[simp] lemma forgettings_append (es es' : List Line) :
    forgettings (es ++ es') = forgettings es + forgettings es' :=
  List.countP_append

@[simp] lemma forgettings_cons (e : Line) (es : List Line) :
    forgettings (e :: es) = forgettings es + if e.forgets then 1 else 0 :=
  List.countP_cons

lemma forgettings_eq_zero {es : List Line} : forgettings es = 0 ↔ ∀ e ∈ es, e.forgets = false := by
  simp [forgettings]

/-- Forgetting, and nothing else, starts a new generation. -/
lemma replies_generation {w w' : World D} {q : Ask} {r : Reply q}
    (h : World.Replies device ttl w q r w') :
    w'.cache.generation =
      w.cache.generation + UInt64.ofNat (forgettings [(⟨q, r⟩ : Line)]) := by
  cases h with
  | forget _ => rfl
  | keep _ =>
      dsimp only [Cache.keep]
      split
      · exact (UInt64.add_zero _).symm
      · exact (UInt64.add_zero _).symm
  | send _ _ => exact (UInt64.add_zero _).symm
  | lookUp _ => exact (UInt64.add_zero _).symm
  | count _ => exact (UInt64.add_zero _).symm

/-- **The generation counts the forgettings.** -/
theorem generation_of_answered {w w' : World D} {es : List Line}
    (h : Answered (World.Replies device ttl) w es w') :
    w'.cache.generation = w.cache.generation + UInt64.ofNat (forgettings es) := by
  induction h with
  | nil w => exact (UInt64.add_zero _).symm
  | @cons w w₁ w₂ e es first rest ih =>
      have hsum : forgettings (e :: es) = forgettings [e] + forgettings es :=
        forgettings_append [e] es
      rw [ih, replies_generation first, hsum, UInt64.ofNat_add, UInt64.add_assoc]

lemma lookUp_of_answered {w w' : World D} {found : Recall} {es : List Line}
    (h : Answered (World.Replies device ttl) w (⟨.lookUp, found⟩ :: es) w') :
    ∃ t, found = w.cache.lookUp t ttl := by
  obtain ⟨w₁, hlookUp, -⟩ := answered_cons.mp h
  generalize hr : found = r at hlookUp
  cases hlookUp with
  | lookUp later => exact ⟨_, rfl⟩

lemma lookUp_fresh {cache : Cache} {now ttl : Nat} {c : DeviceConfig}
    (h : .fresh c = cache.lookUp now ttl) : ∃ since, cache.kept = some (c, since) := by
  simp only [Cache.lookUp] at h
  split at h
  · next config since hkept =>
      split at h
      · cases h
        exact ⟨since, hkept⟩
      · cases h
  · cases h

lemma lookUp_stale {cache : Cache} {now ttl : Nat} {g : UInt64}
    (h : .stale g = cache.lookUp now ttl) : g = cache.generation := by
  simp only [Cache.lookUp] at h
  split at h
  · split at h
    · cases h
    · cases h
      rfl
  · cases h
    rfl

/-- **Where a kept configuration comes from**: it was kept at the start, or it was offered under the
generation of that time; and nothing was forgotten since. -/
theorem kept_of_answered {w w' : World D} {es : List Line}
    (h : Answered (World.Replies device ttl) w es w') {c : DeviceConfig} {since : Nat}
    (hkept : w'.cache.kept = some (c, since)) :
    (w.cache.kept = some (c, since) ∧ forgettings es = 0) ∨
      ∃ before g after, es = before ++ ⟨.keep g c, ()⟩ :: after ∧ forgettings after = 0 ∧
        g = w.cache.generation + UInt64.ofNat (forgettings before) := by
  induction es using List.reverseRecOn generalizing w' with
  | nil =>
      obtain rfl := answered_nil.mp h
      exact .inl ⟨hkept, rfl⟩
  | append_singleton es last ih =>
      obtain ⟨w₁, hes, hlast⟩ := answered_append.mp h
      obtain ⟨w₂, hreply, hend⟩ := answered_cons.mp hlast
      obtain rfl := answered_nil.mp hend
      -- What came before the last line goes on if the last line leaves the kept one as it is.
      have hearlier (hsame : w₁.cache.kept = some (c, since)) (hnone : last.forgets = false) :
          (w.cache.kept = some (c, since) ∧ forgettings (es ++ [last]) = 0) ∨
            ∃ before g after, es ++ [last] = before ++ ⟨.keep g c, ()⟩ :: after ∧
              forgettings after = 0 ∧
              g = w.cache.generation + UInt64.ofNat (forgettings before) := by
        have hzero : forgettings [last] = 0 := forgettings_eq_zero.mpr (by simpa using hnone)
        rcases ih hes hsame with ⟨hstart, hes⟩ | ⟨before, g, after, rfl, hafter, hg⟩
        · exact .inl ⟨hstart, by rw [forgettings_append, hes, hzero]⟩
        · refine .inr ⟨before, g, after ++ [last], by simp, ?_, hg⟩
          rw [forgettings_append, hafter, hzero]
      obtain ⟨q, r⟩ := last
      cases hreply with
      | forget _ => cases hkept
      | @keep _ g c' t _ =>
          dsimp only [Cache.keep] at hkept
          split at hkept
          · next hg =>
              cases hkept
              exact .inr ⟨es, g, [], rfl, rfl, by rw [← hg, generation_of_answered hes]⟩
          · exact hearlier hkept rfl
      | send _ _ => exact hearlier hkept rfl
      | lookUp _ => exact hearlier hkept rfl
      | count _ => exact hearlier hkept rfl

/-- Fewer than all generations do not come back to one of them. -/
lemma eq_zero_of_same_generation {g : UInt64} {m n : Nat} (hfew : m + n < 2 ^ 64)
    (h : g + UInt64.ofNat m = g + UInt64.ofNat (m + n)) : n = 0 := by
  have hnat := congrArg UInt64.toNat ((UInt64.add_right_inj g).mp h)
  rw [UInt64.toNat_ofNat', UInt64.toNat_ofNat', Nat.mod_eq_of_lt (by omega),
    Nat.mod_eq_of_lt hfew] at hnat
  omega

/-! ## Operations that share a cache -/

/-- The operations of a crew around one device and one cache. -/
def crew {ι : Type} (w : World D) (op : ι → Operation) :
    Crew (World D) Ask Reply fun i => Except SettingsFault (op i).Value :=
  ⟨w, fun i => (op i).procedure.run⟩

variable {ι : Type} [DecidableEq ι] {w : World D} {op : ι → Operation}
  {h : List (Move ι Ask Reply)}
  {c' : Crew (World D) Ask Reply fun i => Except SettingsFault (op i).Value}

/-- One member has read all blocks of a configuration in a part of a history. -/
def ReadIn (h : List (Move ι Ask Reply)) (c : DeviceConfig) : Prop :=
  ∃ i data, Makes data c ∧ ∀ b : Block, (⟨i, b.line (data b)⟩ : Move ι Ask Reply) ∈ h

omit [DecidableEq ι] in
lemma ReadIn.mono {h h' : List (Move ι Ask Reply)} {c : DeviceConfig} (hread : ReadIn h c)
    (hsub : h ⊆ h') : ReadIn h' c := by
  obtain ⟨i, data, hmakes, hmem⟩ := hread
  exact ⟨i, data, hmakes, fun b => hsub (hmem b)⟩

lemma readIn_of_own {i : ι} {reads : List Line} {c : DeviceConfig}
    (hreads : Tells readConfig reads (.ok c)) (hown : reads ⊆ Crew.own i h) : ReadIn h c := by
  obtain ⟨data, rfl, hmakes⟩ := tells_readConfig_ok.mp hreads
  refine ⟨i, data, hmakes, fun b => Crew.mem_own.mp (hown ?_)⟩
  exact List.mem_map.mpr ⟨b, Listed.mem_all b, rfl⟩

lemma own_begins (run : Crew.Run (World.Replies device ttl) (crew w op) h c') (i : ι) :
    ∃ rest result, Tells (op i).procedure (Crew.own i h ++ rest) result := by
  obtain ⟨rest, result, hends⟩ := exists_ends (c'.talk i)
  exact ⟨rest, result, leads_append.mpr ⟨_, run.leads i, hends⟩⟩

lemma own_tells (run : Crew.Run (World.Replies device ttl) (crew w op) h c') {i : ι}
    {result : Except SettingsFault (op i).Value} (hdone : c'.talk i = .done result) :
    Tells (op i).procedure (Crew.own i h) result := by
  have hleads := run.leads i
  rwa [hdone] at hleads

lemma own_refreshed (run : Crew.Run (World.Replies device ttl) (crew w op) h c') (i : ι) :
    Refreshed (Crew.own i h) := by
  obtain ⟨rest, result, htells⟩ := own_begins run i
  exact ((op i).refreshed _ _ htells).begun

omit [DecidableEq ι] in
lemma said_eq_append_cons {before after : List Line} {e : Line}
    (heq : Crew.said h = before ++ e :: after) :
    ∃ h₁ i h₂, h = h₁ ++ ⟨i, e⟩ :: h₂ ∧ Crew.said h₁ = before ∧ Crew.said h₂ = after := by
  obtain ⟨h₁, rest, rfl, rfl, hrest⟩ := List.map_eq_append_iff.mp heq
  obtain ⟨⟨i, e'⟩, h₂, rfl, rfl, rfl⟩ := List.map_eq_cons_iff.mp hrest
  exact ⟨h₁, i, h₂, rfl, rfl, rfl⟩

/-- **How a configuration came to be kept**: nobody has forgotten anything since the start, or since
the look-up after which one member read what it then offered. -/
theorem kept_source (run : Crew.Run (World.Replies device ttl) (crew w op) h c')
    (hfew : forgettings (Crew.said h) < 2 ^ 64) {c : DeviceConfig} {since : Nat}
    (hkept : c'.shared.cache.kept = some (c, since)) :
    (w.cache.kept = some (c, since) ∧ forgettings (Crew.said h) = 0) ∨
      ∃ h₁ i g h₂ h₃, h = h₁ ++ ⟨i, ⟨.lookUp, .stale g⟩⟩ :: (h₂ ++ ⟨i, ⟨.keep g c, ()⟩⟩ :: h₃) ∧
        Tells readConfig (Crew.own i h₂) (.ok c) ∧
        forgettings (Crew.said (⟨i, ⟨.lookUp, .stale g⟩⟩ ::
          (h₂ ++ ⟨i, ⟨.keep g c, ()⟩⟩ :: h₃))) = 0 := by
  rcases kept_of_answered run.answered hkept with hstart | ⟨before, g, after, heq, hafter, hg⟩
  · exact .inl hstart
  obtain ⟨h₀, i, h₃, rfl, rfl, rfl⟩ := said_eq_append_cons heq
  have hown : Crew.own i (h₀ ++ ⟨i, ⟨.keep g c, ()⟩⟩ :: h₃) =
      Crew.own i h₀ ++ ⟨.keep g c, ()⟩ :: Crew.own i h₃ := by
    rw [Crew.own_append, Crew.own_cons_self]
  obtain ⟨earlier, reads, hcut, hreads⟩ := own_refreshed run i _ _ _ _ hown
  obtain ⟨h₁, h₂, rfl, -, rfl⟩ := Crew.own_eq_append_cons hcut
  -- The look-up found the generation under which the offer was accepted.
  have hanswered := run.answered
  rw [List.append_assoc, List.cons_append, Crew.said_append] at hanswered
  obtain ⟨w₁, hw₁, hafterwards⟩ := answered_append.mp hanswered
  obtain ⟨t, hrecall⟩ := lookUp_of_answered hafterwards
  have hsaid : forgettings (Crew.said (h₁ ++ ⟨i, ⟨.lookUp, .stale g⟩⟩ :: h₂)) =
      forgettings (Crew.said h₁) + forgettings (Crew.said h₂) := by
    simp [Exchange.forgets]
  have hsame : w.cache.generation + UInt64.ofNat (forgettings (Crew.said h₁)) =
      w.cache.generation +
        UInt64.ofNat (forgettings (Crew.said h₁) + forgettings (Crew.said h₂)) := by
    rw [← hsaid]
    exact (generation_of_answered hw₁).symm.trans ((lookUp_stale hrecall).symm.trans hg)
  have hlt : forgettings (Crew.said h₁) + forgettings (Crew.said h₂) < 2 ^ 64 := by
    rw [← hsaid]
    simp only [Crew.said_append, forgettings_append] at hfew ⊢
    omega
  have hnone := eq_zero_of_same_generation hlt hsame
  exact .inr ⟨h₁, i, g, h₂, h₃, by simp, hreads, by simp [Exchange.forgets, hnone, hafter]⟩

end Settings

end ChargeController
