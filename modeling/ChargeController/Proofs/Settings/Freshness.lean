import ChargeController.Proofs.Settings.Recollection

/-!
# Nothing stale after a write

An operation that writes forgets the cached configuration after its last write.  What anyone finds
after that was read after that: the cache holds nothing older, and a look-up that finds nothing
reads on its own.  This is so for every device, every number of operations and every order of
their steps, as long as the generations do not run out.

* `FreshSince` — every reading of the cached configuration in a part of a history is from there.
* **`no_stale_configuration`** — the kept configuration, every configuration that is found after a
  forgetting, and every confirmation of an update.
-/

namespace ChargeController

open Settings Dialogue

namespace Settings

variable {D : Type} {device : Answering D} {ttl : Nat}
  {ι : Type} [DecidableEq ι] {w : World D} {op : ι → Operation}
  {h : List (Move ι Ask Reply)}
  {c' : Crew (World D) Ask Reply fun i => Except SettingsFault (op i).Value}

/-! ## What is kept -/

/-- The configuration that is kept was read after the last forgetting. -/
lemma kept_readIn (run : Crew.Run (World.Replies device ttl) (crew w op) h c')
    (hstart : w.cache.kept = none) (hfew : forgettings (Crew.said h) < 2 ^ 64)
    {c : DeviceConfig} {since : Nat} (hkept : c'.shared.cache.kept = some (c, since)) :
    ∃ h₁ h₂, h = h₁ ++ h₂ ∧ forgettings (Crew.said h₂) = 0 ∧ ReadIn h₂ c := by
  rcases kept_source run hfew hkept with ⟨hkept, -⟩ | ⟨h₁, i, g, h₂, h₃, rfl, hreads, hnone⟩
  · rw [hstart] at hkept
    cases hkept
  refine ⟨h₁, _, rfl, hnone, (readIn_of_own hreads fun _ he => he).mono fun m hm => ?_⟩
  exact List.mem_cons_of_mem _ (List.mem_append_left _ hm)

/-! ## What is found after a forgetting -/

/-- Whatever any member finds as the cached configuration in a part of a history, with the whole
look into the cache in that part, was read in that part. -/
def FreshSince (h : List (Move ι Ask Reply)) : Prop :=
  ∀ i before call after c, Crew.own i h = before ++ (call ++ after) →
    Tells cachedConfig call (.ok c) → ReadIn h c

omit [DecidableEq ι] in
lemma suffix_of_no_forget {i : ι} {h₁ h₂ h₃ h₄ : List (Move ι Ask Reply)}
    (heq : h₁ ++ ⟨i, ⟨.forget, ()⟩⟩ :: h₂ = h₃ ++ h₄) (hnone : forgettings (Crew.said h₄) = 0) :
    h₄ ⊆ h₂ := by
  rcases append_eq_append_cons.mp heq.symm with ⟨rest, -, rfl⟩ | ⟨rest, -, rfl⟩
  · exact fun m hm => List.mem_append_right _ hm
  · have hforget := forgettings_eq_zero.mp hnone ⟨.forget, ()⟩
      (List.mem_map.mpr ⟨⟨i, ⟨.forget, ()⟩⟩, List.mem_append_cons_self, rfl⟩)
    cases hforget

/-- **After a forgetting, whatever is found was read after it.** -/
lemma freshSince_forget {j : ι} {h₁ h₂ : List (Move ι Ask Reply)}
    (run : Crew.Run (World.Replies device ttl) (crew w op) (h₁ ++ ⟨j, ⟨.forget, ()⟩⟩ :: h₂) c')
    (hstart : w.cache.kept = none)
    (hfew : forgettings (Crew.said (h₁ ++ ⟨j, ⟨.forget, ()⟩⟩ :: h₂)) < 2 ^ 64) :
    FreshSince h₂ := by
  intro i before call after c hown hcall
  rcases tells_cachedConfig.mp hcall with ⟨c₀, rfl, hc⟩ | ⟨_, _, _, -, -, hc⟩ |
    ⟨g, reads, c₀, rfl, hreads, hc⟩
  · -- What the look-up found was kept at that moment.
    obtain rfl := Except.ok.inj hc
    obtain ⟨k₁, k₂, rfl, -, -⟩ := Crew.own_eq_append_cons hown
    have hcut : h₁ ++ ⟨j, ⟨.forget, ()⟩⟩ :: (k₁ ++ ⟨i, ⟨.lookUp, .fresh c⟩⟩ :: k₂) =
        (h₁ ++ ⟨j, ⟨.forget, ()⟩⟩ :: k₁) ++ ⟨i, ⟨.lookUp, .fresh c⟩⟩ :: k₂ := by
      rw [List.append_assoc, List.cons_append]
    rw [hcut] at run hfew
    obtain ⟨middle, hbefore, hafter⟩ := run.cut
    obtain ⟨t, hrecall⟩ := lookUp_of_answered hafter.answered
    obtain ⟨since, hkept⟩ := lookUp_fresh hrecall
    have hfew' : forgettings (Crew.said (h₁ ++ ⟨j, ⟨.forget, ()⟩⟩ :: k₁)) < 2 ^ 64 := by
      simp only [Crew.said_append, forgettings_append] at hfew ⊢
      omega
    obtain ⟨h₃, h₄, heq, hnone, hread⟩ := kept_readIn hbefore hstart hfew' hkept
    refine hread.mono fun m hm => List.mem_append_left _ ?_
    exact suffix_of_no_forget heq hnone hm
  · cases hc
  · -- Nothing was kept, so the member has read it on its own.
    obtain rfl := Except.ok.inj hc
    refine readIn_of_own (i := i) hreads fun e he => ?_
    rw [hown]
    refine List.mem_append_right _ (List.mem_append_left _ ?_)
    exact List.mem_cons_of_mem _ (List.mem_append_left _ he)

/-! ## Nothing stale -/

/-- **No stale configuration after a write.**  At any point of any run of any operations, with the
cache empty at the start:

* the configuration that is kept was read after the last forgetting;
* after any forgetting, whatever anyone finds was read after it;
* an operation that has ended after it wrote something, and whose writes were all accepted, has
  forgotten after its last write, and what it confirms was read after that — unless it has failed
  because the clock registers cannot hold its moment. -/
theorem no_stale_configuration
    (run : Crew.Run (World.Replies device ttl) (crew w op) h c') (hstart : w.cache = .empty)
    (hfew : forgettings (Crew.said h) < 2 ^ 64) :
    (∀ c since, c'.shared.cache.kept = some (c, since) →
      ∃ h₁ h₂, h = h₁ ++ h₂ ∧ forgettings (Crew.said h₂) = 0 ∧ ReadIn h₂ c) ∧
    (∀ j h₁ h₂, h = h₁ ++ ⟨j, ⟨.forget, ()⟩⟩ :: h₂ → FreshSince h₂) ∧
    ∀ j result, c'.talk j = .done result → (∃ e ∈ Crew.own j h, e.writes = true) →
      (∀ e ∈ Crew.own j h, e.writes = true → e.stores = true) →
      (∃ h₁ h₂, h = h₁ ++ ⟨j, ⟨.forget, ()⟩⟩ :: h₂ ∧
        (∀ e ∈ Crew.own j h₂, e.writes = false) ∧
        ∀ v, result = .ok v → (op j).isConfirmed v = true →
          ∃ c, (op j).Confirms v c ∧ ReadIn h₂ c) ∨
      ((op j).Unencodable ∧ ∃ fault, result = .error fault) := by
  have hempty : w.cache.kept = none := by rw [hstart, Cache.empty]
  refine ⟨fun c since => kept_readIn run hempty hfew, ?_, ?_⟩
  · rintro j h₁ h₂ rfl
    exact freshSince_forget run hempty hfew
  · intro j result hdone hwrites haccepted
    have htells := own_tells run hdone
    by_cases hunsettled : Unsettled (Crew.own j h)
    · obtain ⟨hfault, ⟨e, he, hw, hrefused⟩ | hunencodable⟩ := Operation.unsettled htells hunsettled
      · rw [haccepted e he hw] at hrefused
        cases hrefused
      · exact .inr ⟨hunencodable, hfault⟩
    left
    obtain ⟨e, he, hw⟩ := hwrites
    obtain ⟨before, after, hown, hquiet, hnone⟩ :=
      exists_forget_of_settled hunsettled ⟨e, he, haccepted e he hw⟩
    obtain ⟨h₁, h₂, rfl, -, rfl⟩ := Crew.own_eq_append_cons hown
    refine ⟨h₁, h₂, rfl, ?_, ?_⟩
    · intro e he
      rw [Bool.eq_false_iff]
      intro hw
      have hstores := haccepted e (hown ▸ List.mem_append_right _ (List.mem_cons_of_mem _ he)) hw
      rw [hnone e he] at hstores
      cases hstores
    · rintro v rfl hconfirmed
      obtain ⟨-, front, back, hcut, hback, hconfirms⟩ := Operation.succeeded htells
      obtain ⟨c, hc, hcall⟩ := hconfirms hconfirmed
      refine ⟨c, hc, ?_⟩
      -- The account ends with reading back, which comes after the last forgetting.
      rcases append_eq_append_cons.mp (hcut.symm.trans hown) with ⟨rest, -, hrest⟩ | ⟨rest, -, rfl⟩
      · exact freshSince_forget run hempty hfew j rest back [] c (by rw [List.append_nil, hrest])
          hcall
      · have hforget := hback ⟨.forget, ()⟩ List.mem_append_cons_self
        cases hforget

/-- One member looks for the configuration while another one updates the battery profile. -/
def lookAndUpdate : Bool → Operation
  | true => .config
  | false => .updateProfile ⟨some .gel, some 150⟩

/-- The whole update falls between two reads of the other member. -/
def updateDuringReading : List Bool :=
  List.replicate 4 true ++ List.replicate 20 false ++ List.replicate 5 true

/-- What the interrupted reading offers is not kept: the configuration that is kept was read after
the last forgetting, and what the update has confirmed was read after its own. -/
theorem kept_after_interrupted_reading :
    let played := Crew.perform (World.serve (fun _ => false) 60000) updateDuringReading
      (crew World.sample lookAndUpdate)
    (∃ c since h₁ h₂, played.2.shared.cache.kept = some (c, since) ∧ played.1 = h₁ ++ h₂ ∧
        forgettings (Crew.said h₂) = 0 ∧ ReadIn h₂ c) ∧
      ∃ profile c h₁ h₂, played.2.talk false = .done (.ok (.confirmed profile)) ∧
        profile = c.profile ∧ played.1 = h₁ ++ ⟨false, ⟨.forget, ()⟩⟩ :: h₂ ∧ ReadIn h₂ c := by
  intro played
  have run := Crew.perform_run (World.serve_all 60000) updateDuringReading
    (crew World.sample lookAndUpdate)
  have hkept : played.2.shared.cache.kept.isSome = true := by decide +kernel
  have hconfirmed : (valueOf (played.2.talk false)).any (Operation.isConfirmed _) = true := by
    decide +kernel
  have hwrites : ∃ e ∈ Crew.own false played.1, e.writes = true := by decide +kernel
  have haccepted : ∀ e ∈ Crew.own false played.1, e.writes = true → e.stores = true := by
    decide +kernel
  obtain ⟨⟨c, since⟩, hkept⟩ := Option.isSome_iff_exists.mp hkept
  obtain ⟨v, hv, hconfirmed⟩ := (Option.any_eq_true _ _).mp hconfirmed
  have hdone := valueOf_eq_some.mp hv
  obtain ⟨hcache, -, hupdates⟩ := no_stale_configuration run rfl (by decide +kernel)
  obtain ⟨h₁, h₂, hcut, hnone, hread⟩ := hcache c since hkept
  refine ⟨⟨c, since, h₁, h₂, hkept, hcut, hnone, hread⟩, ?_⟩
  rcases hupdates false _ hdone hwrites haccepted with
    ⟨h₁, h₂, hcut, -, hconfirms⟩ | ⟨hunencodable, -⟩
  · obtain ⟨c, hc, hread⟩ := hconfirms v rfl hconfirmed
    cases v with
    | confirmed profile => exact ⟨profile, c, h₁, h₂, hdone, hc, hcut, hread⟩
    | unconfirmed what => cases hconfirmed
  · exact hunencodable.elim

end Settings

end ChargeController
