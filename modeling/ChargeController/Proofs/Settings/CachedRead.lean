import ChargeController.Proofs.Settings.Blocks
import ChargeController.Proofs.Settings.Coherence

/-!
# What a look into the cache promises

Operations come one after the other, the device answers as it likes and takes as long as it likes,
and a diary is kept of all that was said and when.  The diary alone then tells what a look at the
configuration does: nothing is sent if a configuration was stored recently enough and not forgotten
since, and otherwise the six blocks are read, up to the first answer that is of no use.  Nobody
forgets anything during a reading that is not interrupted, so what is offered to the cache at its
end is always stored; and a reading that stops leaves the cache as it was, be its entry ever so old.

* `Diary`, `Noted` — what was said and when, and surroundings that note it down.
* `StoredAt` — the last that a diary tells of the cache is that a configuration was stored.
* `Told` — the cache is what the diary tells of it.
* **`cached_read_contract`** — requests, result and cache of a look at the configuration.
-/

namespace ChargeController

open Settings Dialogue

namespace Settings

variable {D : Type} {device : Answering D} {ttl : Nat}

/-! ## A diary -/

/-- A line and the time of its reply. -/
structure Dated where
  line : Line
  time : Nat

/-- What was said and when. -/
abbrev Diary := List Dated

/-- A world whose every reply is noted down. -/
def Noted (device : Answering D) (ttl : Nat) : Surroundings (World D × Diary) Ask Reply :=
  fun s q r s' =>
    World.Replies device ttl s.1 q r s'.1 ∧ s'.2 = s.2 ++ [⟨⟨q, r⟩, s'.1.now⟩]

/-- A world that has exactly one reply to each question, with its diary. -/
def noting (serve : World D → (q : Ask) → Reply q × World D) (s : World D × Diary) (q : Ask) :
    Reply q × World D × Diary :=
  ((serve s.1 q).1, (serve s.1 q).2, s.2 ++ [⟨⟨q, (serve s.1 q).1⟩, (serve s.1 q).2.now⟩])

lemma noting_noted {serve : World D → (q : Ask) → Reply q × World D}
    (hserve : ∀ w q, World.Replies device ttl w q (serve w q).1 (serve w q).2)
    (s : World D × Diary) (q : Ask) :
    Noted device ttl s q (noting serve s q).1 (noting serve s q).2 :=
  ⟨hserve s.1 q, rfl⟩

lemma answered_of_noted {s s' : World D × Diary} {es : List Line}
    (h : Answered (Noted device ttl) s es s') :
    Answered (World.Replies device ttl) s.1 es s'.1 := by
  induction h with
  | nil s => exact .nil s.1
  | cons first _ ih => exact .cons first.1 ih

/-- What is said is noted, line by line. -/
lemma diary_of_answered {s s' : World D × Diary} {es : List Line}
    (h : Answered (Noted device ttl) s es s') :
    ∃ new : Diary, s'.2 = s.2 ++ new ∧ new.map (·.line) = es := by
  induction h with
  | nil s => exact ⟨[], (List.append_nil _).symm, rfl⟩
  | @cons s s₁ s₂ e es first _ ih =>
      obtain ⟨new, hnew, hlines⟩ := ih
      refine ⟨⟨e, s₁.1.now⟩ :: new, ?_, congrArg (e :: ·) hlines⟩
      rw [hnew, first.2, List.append_assoc]
      rfl

/-! ## What a diary tells of the cache -/

/-- A configuration was stored at a time, and since then none was stored and none forgotten. -/
def StoredAt (diary : Diary) (c : DeviceConfig) (since : Nat) : Prop :=
  ∃ before g after, diary = before ++ ⟨⟨.keep g c, ()⟩, since⟩ :: after ∧
    ∀ x ∈ after, x.line.keeps = false ∧ x.line.forgets = false

lemma not_storedAt_nil {c : DeviceConfig} {since : Nat} : ¬ StoredAt [] c since := by
  rintro ⟨before, g, after, heq, -⟩
  exact List.append_ne_nil_of_right_ne_nil _ (List.cons_ne_nil _ _) heq.symm

/-- How the last line of a diary bears on what is stored. -/
lemma storedAt_concat {diary : Diary} {x : Dated} {c : DeviceConfig} {since : Nat} :
    StoredAt (diary ++ [x]) c since ↔
      (∃ g, x = ⟨⟨.keep g c, ()⟩, since⟩) ∨
        (x.line.keeps = false ∧ x.line.forgets = false ∧ StoredAt diary c since) := by
  constructor
  · rintro ⟨before, g, after, heq, hquiet⟩
    rcases List.eq_nil_or_concat after with rfl | ⟨init, last, rfl⟩
    · obtain ⟨-, hlast⟩ := List.append_inj' heq rfl
      exact .inl ⟨g, (List.cons.inj hlast).1⟩
    · rw [List.concat_eq_append, ← List.cons_append, ← List.append_assoc] at heq
      obtain ⟨rfl, hlast⟩ := List.append_inj' heq rfl
      cases hlast
      rw [List.concat_eq_append] at hquiet
      obtain ⟨hkeeps, hforgets⟩ := hquiet x (List.mem_append_right _ List.mem_cons_self)
      exact .inr ⟨hkeeps, hforgets, before, g, init, rfl,
        fun y hy => hquiet y (List.mem_append_left _ hy)⟩
  · rintro (⟨g, rfl⟩ | ⟨hkeeps, hforgets, before, g, after, rfl, hquiet⟩)
    · exact ⟨diary, g, [], rfl, fun y hy => absurd hy List.not_mem_nil⟩
    · refine ⟨before, g, after ++ [x], by rw [List.append_assoc, List.cons_append], ?_⟩
      intro y hy
      rcases List.mem_append.mp hy with hy | hy
      · exact hquiet y hy
      · rw [List.mem_singleton.mp hy]
        exact ⟨hkeeps, hforgets⟩

/-- The cache of a world is what its diary tells of it, and the diary is of the past. -/
structure Told (s : World D × Diary) : Prop where
  stored (c since) : s.1.cache.kept = some (c, since) ↔ StoredAt s.2 c since
  past (x) (hx : x ∈ s.2) : x.time ≤ s.1.now

lemma told_of_empty {w : World D} (h : w.cache = .empty) : Told (w, []) where
  stored c since := by
    rw [h]
    exact ⟨fun hkept => absurd hkept (Option.some_ne_none _).symm,
      fun hstored => absurd hstored not_storedAt_nil⟩
  past x hx := absurd hx List.not_mem_nil

lemma Told.le {s : World D × Diary} (h : Told s) {c : DeviceConfig} {since : Nat}
    (hstored : StoredAt s.2 c since) : since ≤ s.1.now := by
  obtain ⟨before, g, after, hdiary, -⟩ := hstored
  exact h.past ⟨⟨.keep g c, ()⟩, since⟩ (hdiary ▸ List.mem_append_cons_self)

lemma later_of_replies {w w' : World D} {q : Ask} {r : Reply q}
    (h : World.Replies device ttl w q r w') : w.now ≤ w'.now := by
  cases h with
  | send _ later => exact later
  | lookUp later => exact later
  | keep later => exact later
  | forget later => exact later
  | count later => exact later

/-- **The diary keeps telling of the cache** if what is offered is offered under the current
generation. -/
theorem Told.step {s s' : World D × Diary} (hs : Told s) {q : Ask} {r : Reply q}
    (h : Noted device ttl s q r s') (hoffer : ∀ g c, q = .keep g c → g = s.1.cache.generation) :
    Told s' := by
  obtain ⟨hreply, hdiary⟩ := h
  refine ⟨fun c since => ?_, fun x hx => ?_⟩
  · have hsame (hcache : s'.1.cache.kept = s.1.cache.kept) (hkeeps : (⟨q, r⟩ : Line).keeps = false)
        (hforgets : (⟨q, r⟩ : Line).forgets = false) :
        s'.1.cache.kept = some (c, since) ↔ StoredAt s'.2 c since := by
      rw [hdiary, storedAt_concat, hcache, hs.stored]
      constructor
      · exact fun hstored => .inr ⟨hkeeps, hforgets, hstored⟩
      · rintro (⟨g, hlast⟩ | ⟨-, -, hstored⟩)
        · obtain ⟨hline, -⟩ := Dated.mk.inj hlast
          rw [hline] at hkeeps
          cases hkeeps
        · exact hstored
    obtain ⟨w', diary⟩ := s'
    cases hreply with
    | send _ _ => exact hsame rfl rfl rfl
    | lookUp _ => exact hsame rfl rfl rfl
    | count _ => exact hsame rfl rfl rfl
    | forget _ =>
        rw [hdiary, storedAt_concat]
        constructor
        · exact fun hkept => absurd hkept (Option.some_ne_none _).symm
        · rintro (⟨g, hlast⟩ | ⟨-, hforgets, -⟩)
          · cases hlast
          · cases hforgets
    | @keep _ g c' t _ =>
        rw [hdiary, storedAt_concat, Cache.keep, if_pos (hoffer g c' rfl).symm]
        constructor
        · intro hkept
          cases hkept
          exact .inl ⟨g, rfl⟩
        · rintro (⟨g', hlast⟩ | ⟨hkeeps, -⟩)
          · cases hlast
            rfl
          · cases hkeeps
  · rw [hdiary, List.mem_append, List.mem_singleton] at hx
    rcases hx with hx | rfl
    · exact (hs.past x hx).trans (later_of_replies hreply)
    · exact Nat.le_refl _

/-- What was read without interruption is offered under the generation that was found before. -/
lemma generation_of_offer {w w' : World D} {g : UInt64} {earlier reads : List Line}
    {c : DeviceConfig} (hreads : Tells readConfig reads (.ok c))
    (h : Answered (World.Replies device ttl) w (earlier ++ ⟨.lookUp, .stale g⟩ :: reads) w') :
    g = w'.cache.generation := by
  obtain ⟨w₁, -, hrest⟩ := answered_append.mp h
  obtain ⟨t, hrecall⟩ := lookUp_of_answered hrest
  have hnone : forgettings (⟨.lookUp, .stale g⟩ :: reads) = 0 := by
    refine forgettings_eq_zero.mpr (List.forall_mem_cons.mpr ⟨rfl, fun e he => ?_⟩)
    exact Exchange.forgets_of_quiet (quiet_consults.readConfig _ _ hreads e he)
  rw [generation_of_answered hrest, hnone, lookUp_stale hrecall]
  exact (UInt64.add_zero _).symm

/-- **The diary tells of the cache**, whatever is said that offers only what it has just read. -/
theorem Told.answered {s s' : World D × Diary} (hs : Told s) {es : List Line}
    (h : Answered (Noted device ttl) s es s') (hes : Refreshed es) : Told s' := by
  induction es using List.reverseRecOn generalizing s' with
  | nil =>
      obtain rfl := answered_nil.mp h
      exact hs
  | append_singleton es last ih =>
      obtain ⟨s₁, hearlier, hlast⟩ := answered_append.mp h
      obtain ⟨s₂, hreply, hend⟩ := answered_cons.mp hlast
      obtain rfl := answered_nil.mp hend
      refine (ih hearlier hes.begun).step hreply fun g c hkeep => ?_
      obtain ⟨q, r⟩ := last
      cases hkeep
      obtain ⟨earlier, reads, rfl, hreads⟩ := hes es g c [] rfl
      exact generation_of_offer hreads (answered_of_noted hearlier)

lemma refreshed_lines {S : Type} {around : Surroundings S Ask Reply} {s s' : S}
    {log : List Finished} (session : Session around s log s') : Refreshed (lines log) := by
  induction session with
  | start => exact Refreshed.lasting.nil
  | @next log _ _ f _ tells _ ih =>
      rw [lines_concat]
      exact Refreshed.lasting.append ih (f.op.refreshed _ _ tells)

/-- **After operations one after the other** that began with nothing kept, the diary tells of the
cache. -/
theorem told_of_session {w : World D} {s : World D × Diary} {log : List Finished}
    (hstart : w.cache = .empty) (session : Session (Noted device ttl) (w, []) log s) : Told s :=
  (told_of_empty hstart).answered session.answered (refreshed_lines session)

/-! ## What is found -/

/-- **A look into the cache finds what the diary tells**: what was stored less than the given time
ago, or nothing fresh. -/
theorem Told.lookUp_cases {s : World D × Diary} (hs : Told s) {now : Nat}
    (hlater : s.1.now ≤ now) (ttl : Nat) :
    (∃ c since, StoredAt s.2 c since ∧ now < since + ttl ∧
        s.1.cache.lookUp now ttl = .fresh c) ∨
      ((∀ c since, StoredAt s.2 c since → since + ttl ≤ now) ∧
        s.1.cache.lookUp now ttl = .stale s.1.cache.generation) := by
  rw [Cache.lookUp]
  cases hkept : s.1.cache.kept with
  | none =>
      refine .inr ⟨fun c since hstored => ?_, rfl⟩
      rw [← hs.stored, hkept] at hstored
      cases hstored
  | some entry =>
      obtain ⟨c, since⟩ := entry
      have hstored := (hs.stored c since).mp hkept
      have hpast := (hs.le hstored).trans hlater
      by_cases hfresh : now - since < ttl
      · exact .inl ⟨c, since, hstored, by omega, if_pos hfresh⟩
      · refine .inr ⟨fun c' since' hstored' => ?_, if_neg hfresh⟩
        rw [← hs.stored, hkept] at hstored'
        cases hstored'
        omega

lemma Told.stored_unique {s : World D × Diary} (hs : Told s) {c c' : DeviceConfig}
    {since since' : Nat} (h : StoredAt s.2 c since) (h' : StoredAt s.2 c' since') :
    c' = c ∧ since' = since := by
  rw [← hs.stored] at h h'
  cases h.symm.trans h'
  exact ⟨rfl, rfl⟩

/-- What begins with a look into the cache finds what is there at that time. -/
lemma answered_lookUp {s s' : World D × Diary} {found : Recall} {rest : List Line}
    (h : Answered (Noted device ttl) s (⟨.lookUp, found⟩ :: rest) s') :
    ∃ (w₁ : World D) (new : Diary), s'.2 = s.2 ++ ⟨⟨.lookUp, found⟩, w₁.now⟩ :: new ∧
      s.1.now ≤ w₁.now ∧ w₁.cache = s.1.cache ∧ s.1.cache.lookUp w₁.now ttl = found ∧
      Answered (World.Replies device ttl) w₁ rest s'.1 := by
  obtain ⟨⟨w₁, diary⟩, ⟨hreply, hdiary⟩, hrest⟩ := answered_cons.mp h
  obtain ⟨new, hnew, -⟩ := diary_of_answered hrest
  refine ⟨w₁, new, ?_, later_of_replies hreply, ?_⟩
  · rw [hnew, hdiary, List.append_assoc]
    rfl
  · have hanswered := answered_of_noted hrest
    generalize hfound : found = r at hreply
    cases hreply with
    | lookUp _ =>
        subst hfound
        exact ⟨rfl, rfl, hanswered⟩

/-- Reading leaves the cache alone. -/
lemma cache_of_read {w w' : World D} {reads : List Line}
    {result : Except SettingsFault DeviceConfig} (hreads : Tells readConfig reads result)
    (h : Answered (World.Replies device ttl) w reads w') : w'.cache = w.cache := by
  have hkeeps := readConfig_keeps_nothing _ _ hreads
  have hquiet := quiet_consults.readConfig _ _ hreads
  clear hreads
  induction h with
  | nil w => rfl
  | @cons w w₁ w₂ e es first _ ih =>
      obtain ⟨hkeep, hkeeps⟩ := List.forall_mem_cons.mp hkeeps
      obtain ⟨hq, hquiet⟩ := List.forall_mem_cons.mp hquiet
      rw [ih hkeeps hquiet]
      obtain ⟨q, r⟩ := e
      cases first with
      | keep _ => cases hkeep
      | forget _ => cases hq
      | send _ _ => rfl
      | lookUp _ => rfl
      | count _ => rfl

/-- The reads of the six blocks: address and number of registers. -/
def blockReads : List Request :=
  [.read .holding 0x9000 3, .read .holding 0x9013 3, .read .holding 0x9003 12,
    .read .holding 0x9016 1, .read .holding 0x906B 2, .read .holding 0x9017 4]

/-- What a reading that stops has sent, and what it leaves. -/
lemma stopped_reading {w w' : World D} {reads : List Line} {fault : SettingsFault}
    (hreads : Tells readConfig reads (.error fault))
    (h : Answered (World.Replies device ttl) w reads w') :
    sent reads ≠ [] ∧ sent reads <+: blockReads ∧
      ReadThrough Listed.all (exchanged reads) (some fault) ∧ w'.cache = w.cache := by
  rcases tells_readConfig hreads with ⟨fault', hthrough, heq⟩ | ⟨_, -, -, hok⟩
  · obtain rfl := Except.error.inj heq
    rw [hthrough.exchanged_eq]
    exact ⟨hthrough.sent_ne_nil, hthrough.sent_prefix, hthrough, cache_of_read hreads h⟩
  · cases hok

/-- What a reading that is complete has found, and what the offer of it leaves. -/
lemma complete_reading {w w' : World D} {reads : List Line} {c : DeviceConfig} {g : UInt64}
    (hreads : Tells readConfig reads (.ok c)) (hg : g = w.cache.generation)
    (h : Answered (World.Replies device ttl) w (reads ++ [⟨.keep g c, ()⟩]) w') :
    ∃ data : Block → Bytes, (∀ b, b.register.byteLength ≤ (data b).length) ∧
      reads = readout data ∧ c = assembled data ∧
      w'.cache = { w.cache with kept := some (c, w'.now) } := by
  rcases tells_readConfig hreads with ⟨_, -, hfault⟩ | ⟨data, hdata, hlines, hc⟩
  · cases hfault
  refine ⟨data, hdata, hlines, Except.ok.inj hc, ?_⟩
  obtain ⟨w₁, hanswered, hlast⟩ := answered_append.mp h
  obtain ⟨w₂, hkeep, hend⟩ := answered_cons.mp hlast
  have hcache := cache_of_read hreads hanswered
  rw [answered_nil.mp hend]
  cases hkeep with
  | keep _ =>
      dsimp only
      rw [hcache, Cache.keep, if_pos hg.symm]

/-! ## The contract -/

/-- **The contract of a cached look.**  After any operations one after the other, with nothing kept
at their start, any device and any delays, a look at the configuration begins with a look into the
cache, and what the diary tells up to there decides the rest:

* no request is sent exactly if a configuration was stored less than `ttl` ago and neither replaced
  nor forgotten since; that one is the result, and the cache stays as it is;
* otherwise the six blocks are read, up to the first answer that is a fault or has too few bytes;
  the result is that fault, in the name and at the address of the block, and the cache stays as it
  is, whatever it holds;
* or all six answers have enough bytes, and the configuration that they hold is the result and is
  kept with the time of its completion; a clock that names no moment leaves it without a time. -/
theorem cached_read_contract {w : World D} {s s' : World D × Diary} {log : List Finished}
    {es : List Line} {result : Except SettingsFault DeviceConfig} (hstart : w.cache = .empty)
    (session : Session (Noted device ttl) (w, []) log s)
    (answered : Answered (Noted device ttl) s es s') (tells : Tells cachedConfig es result) :
    ∃ found now rest, s'.2 = s.2 ++ ⟨⟨.lookUp, found⟩, now⟩ :: rest ∧
      (sent es = [] ↔ ∃ c since, StoredAt s.2 c since ∧ now < since + ttl) ∧
      (∀ c since, StoredAt s.2 c since → now < since + ttl →
        result = .ok c ∧ s'.1.cache = s.1.cache) ∧
      ((∀ c since, StoredAt s.2 c since → since + ttl ≤ now) →
        sent es <+: blockReads ∧
          ((∃ fault, ReadThrough Listed.all (exchanged es) (some fault) ∧
              result = .error fault ∧ s'.1.cache = s.1.cache) ∨
            ∃ data : Block → Bytes, (∀ b, b.register.byteLength ≤ (data b).length) ∧
              exchanged es = readout data ∧ result = .ok (assembled data) ∧
              ((assembled data).time = none ↔ ¬ Register.NamesMoment (data .clock)) ∧
              s'.1.cache = { s.1.cache with kept := some (assembled data, s'.1.now) })) := by
  have told := told_of_session hstart session
  obtain ⟨found, rest, rfl, htells⟩ := ends_ask.mp tells
  obtain ⟨w₁, new, hdiary, hlater, hcache, hfound, hrest⟩ := answered_lookUp answered
  refine ⟨found, w₁.now, new, hdiary, ?_⟩
  rcases told.lookUp_cases hlater ttl with ⟨c, since, hstored, hfresh, hlookUp⟩ | ⟨hold, hlookUp⟩
  · obtain rfl := hfound.symm.trans hlookUp
    obtain ⟨rfl, rfl⟩ := tells_pure.mp htells
    rw [answered_nil.mp hrest]
    refine ⟨⟨fun _ => ⟨c, since, hstored, hfresh⟩, fun _ => rfl⟩, ?_, ?_⟩
    · intro c' since' hstored' _
      obtain ⟨rfl, -⟩ := told.stored_unique hstored hstored'
      exact ⟨rfl, hcache⟩
    · exact fun hold => absurd hfresh (Nat.not_lt.mpr (hold c since hstored))
  · obtain rfl := hfound.symm.trans hlookUp
    have hpast (c since) (hstored : StoredAt s.2 c since) : ¬ w₁.now < since + ttl :=
      Nat.not_lt.mpr (hold c since hstored)
    have hnever : ¬ ∃ c since, StoredAt s.2 c since ∧ w₁.now < since + ttl :=
      fun ⟨c, since, hstored, hfresh⟩ => hpast c since hstored hfresh
    rcases tells_bind.mp htells with ⟨fault, hfault, rfl⟩ | ⟨reads, c, last, rfl, hreads, hlast⟩
    · obtain ⟨hsent, hbegins, hthrough, hleft⟩ := stopped_reading hfault hrest
      refine ⟨iff_of_false hsent hnever, ?_, fun _ => ⟨hbegins, .inl ?_⟩⟩
      · exact fun c since hstored hfresh => absurd hfresh (hpast c since hstored)
      · exact ⟨fault, hthrough, rfl, hleft.trans hcache⟩
    · obtain ⟨_, last, rfl, hend⟩ := ends_ask.mp hlast
      obtain ⟨rfl, rfl⟩ := tells_pure.mp hend
      have hgeneration : s.1.cache.generation = w₁.cache.generation := by rw [hcache]
      obtain ⟨data, hdata, rfl, rfl, hkept⟩ := complete_reading hreads hgeneration hrest
      refine ⟨iff_of_false (List.cons_ne_nil _ _) hnever, ?_, fun _ => ⟨List.prefix_rfl, .inr ?_⟩⟩
      · exact fun c since hstored hfresh => absurd hfresh (hpast c since hstored)
      · exact ⟨data, hdata, rfl, rfl, assembled_time_eq_none (hdata .clock), hcache ▸ hkept⟩

/-- Registers behind an empty cache, with a diary. -/
def noted : World Bank × Diary → (q : Ask) → Reply q × World Bank × Diary :=
  noting (World.serve (fun _ => false) 60000)

/-- The second look sends nothing and finds what the first one has stored. -/
theorem second_look_sends_nothing :
    let first := playAll noted (World.sample, []) [.config]
    let again := play noted first.2 cachedConfig.run
    World.sample.cache = .empty ∧
      Session (Noted (Registers.Answers fun _ => False) 60000) (World.sample, []) first.1 first.2 ∧
      Answered (Noted (Registers.Answers fun _ => False) 60000) first.2 again.1 again.2.2 ∧
      Tells cachedConfig again.1 again.2.1 ∧
      sent again.1 = [] ∧ ∃ c since, StoredAt first.2.2 c since ∧ again.2.1 = .ok c := by
  intro first again
  have hserve := noting_noted (World.serve_all 60000)
  have session := playAll_session hserve (World.sample, []) [.config]
  obtain ⟨htells, hanswered⟩ := play_ends hserve first.2 cachedConfig.run
  have hkept : first.2.1.cache.kept.isSome = true := by decide +kernel
  have hsent : sent again.1 = [] := by decide +kernel
  obtain ⟨found, now, rest, -, hfresh, hresult, -⟩ :=
    cached_read_contract rfl session hanswered htells
  obtain ⟨c, since, hstored, hnow⟩ := hfresh.mp hsent
  obtain ⟨hsame, -⟩ := hresult c since hstored hnow
  exact ⟨rfl, session, hanswered, htells, hsent, c, since, hstored, hsame⟩

end Settings

end ChargeController
