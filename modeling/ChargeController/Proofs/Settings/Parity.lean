import ChargeController.Proofs.Settings.Account
import ChargeController.Proofs.Settings.World

/-!
# Two ways to update charging parameters

Charging parameters can be updated on their own or as a part of the whole configuration.  The two
procedures are written separately, and the second one has more to look after; but an update with
charging parameters and nothing else passes all of that by, and what is left is the first one up to
what it returns.

* `Confirmation.charging` — the part of an outcome that is about charging.
* **`charging_updateConfig`** — the two procedures are one.
* **`update_paths_agree`** — so they do the same in every world.
-/

namespace ChargeController

namespace ConfigUpdate

/-- The update of charging parameters and of nothing else. -/
def ofCharging (c : ChargingUpdate) : ConfigUpdate :=
  ⟨none, none, none, none, c⟩

end ConfigUpdate

namespace Settings

/-- The part of an outcome that is about charging; what could not be read back has another name. -/
def Confirmation.charging : Confirmation DeviceConfig → Confirmation ChargingParameters
  | confirmed config => confirmed config.charging
  | unconfirmed _ => unconfirmed "parameters"

/-- The two outcomes are the same fault, or a configuration and its charging parameters, or in both
cases nothing could be read back. -/
inductive Alike : Except SettingsFault (Confirmation DeviceConfig) →
    Except SettingsFault (Confirmation ChargingParameters) → Prop
  | fault (f) : Alike (.error f) (.error f)
  | confirmed (config : DeviceConfig) :
      Alike (.ok (.confirmed config)) (.ok (.confirmed config.charging))
  | unconfirmed (what what') : Alike (.ok (.unconfirmed what)) (.ok (.unconfirmed what'))

lemma alike_charging (result : Except SettingsFault (Confirmation DeviceConfig)) :
    Alike result (result.map Confirmation.charging) := by
  cases result with
  | error f => exact .fault f
  | ok outcome =>
      cases outcome with
      | confirmed config => exact .confirmed config
      | unconfirmed what => exact .unconfirmed what _

/-! ## The same procedure -/

lemma charging_confirm :
    Confirmation.charging <$> confirm "configuration" cachedConfig =
      confirm "parameters" chargingParameters := by
  apply ExceptT.ext
  simp only [ExceptT.run_map, run_confirm, chargingParameters, ExceptT.run_bind, map_bind,
    bind_assoc]
  refine bind_congr fun result => ?_
  cases result with
  | ok config => rfl
  | error fault => rfl

/-- **An update with charging parameters only is their update**, up to what it returns. -/
theorem charging_updateConfig {c : ChargingUpdate} (hpresent : c.isEmpty = false) :
    Confirmation.charging <$> updateConfig (.ofCharging c) = updateCharging c := by
  have htouches : (ConfigUpdate.ofCharging c).touchesCharging = true := by
    simp [ConfigUpdate.touchesCharging, ConfigUpdate.ofCharging, hpresent]
  have hwrites : updateWrites (.ofCharging c) = c.writes := by
    simp [updateWrites, ConfigUpdate.ofCharging]
  have hcheck : checkCharging (.ofCharging c) =
      currentBatteryType >>= fun t => requireUserDefined t >>= fun _ => checkProposal c := by
    rw [checkCharging, htouches]
    simp [ConfigUpdate.ofCharging]
  simp only [updateConfig, hcheck, hwrites]
  simp only [ConfigUpdate.ofCharging, updateBatteryType, updateCharging]
  simp [bind_assoc, charging_confirm]

/-! ## The same runs -/

/-- A world with a device that gives exactly one answer to each request, in which every reply takes
a time of its own. -/
def World.reply {D : Type} (device : D → Request → Answer × D) (delay : World D → Ask → Nat)
    (ttl : Nat) (w : World D) (q : Ask) : Reply q × World D :=
  let now := w.now + delay w q
  match q with
  | .send r => ((device w.device r).1, { w with device := (device w.device r).2, now })
  | .lookUp => (w.cache.lookUp now ttl, { w with now })
  | .keep generation config => ((), { w with cache := w.cache.keep generation config now, now })
  | .forget => ((), { w with cache := w.cache.forget, now })
  | .countWriteFailure => ((), { w with writeFailures := w.writeFailures + 1, now })

/-- **The two updates of charging parameters do the same.**  In any world, with whatever device,
delays and cache, the update that has charging parameters only and their own update come to an end
with the same account, so with the same requests in the same order, leave the same world, with its
device, its cache and its counter, and end alike. -/
theorem update_paths_agree {D : Type} (device : D → Request → Answer × D)
    (delay : World D → Ask → Nat) (ttl : Nat) (w : World D) {c : ChargingUpdate}
    (hpresent : c.isEmpty = false) :
    let whole := Dialogue.play (World.reply device delay ttl) w (updateConfig (.ofCharging c)).run
    let part := Dialogue.play (World.reply device delay ttl) w (updateCharging c).run
    part.1 = whole.1 ∧ part.2.2 = whole.2.2 ∧ Alike whole.2.1 part.2.1 := by
  intro whole part
  have hpart : part = (whole.1, whole.2.1.map Confirmation.charging, whole.2.2) := by
    simp only [part, whole]
    rw [← charging_updateConfig hpresent, ExceptT.run_map, Dialogue.play_map]
  rw [hpart]
  exact ⟨rfl, rfl, alike_charging _⟩

/-- The sample registers, which give up after the first write. -/
def tiring (written : Bool) (r : Request) : Answer × Bool :=
  if r.isWrite && written then (.error .closed, true)
  else ((Registers.answer (fun _ => false) Registers.sample r).1, written || r.isWrite)

/-- A boost voltage of 14.2 and a float voltage of 13.9. -/
def closeVoltages : ChargingUpdate where
  period _ := none
  threshold
    | .boost => some (Register.scaled 1420)
    | .float => some (Register.scaled 1390)
    | _ => none
  limit _ := none

/-- The second of two writes is refused, which is the same fault in both cases, with the same
counter and the same cache after it. -/
theorem refused_write_agrees :
    let w : World Bool := ⟨false, .empty, 0, 0⟩
    let whole := Dialogue.play (World.reply tiring (fun _ _ => 5) 60000) w
      (updateConfig (.ofCharging closeVoltages)).run
    let part := Dialogue.play (World.reply tiring (fun _ _ => 5) 60000) w
      (updateCharging closeVoltages).run
    closeVoltages.isEmpty = false ∧ part.2.2.writeFailures = 1 ∧
      part.1 = whole.1 ∧ part.2.2 = whole.2.2 ∧ Alike whole.2.1 part.2.1 := by
  intro w whole part
  have hpresent : closeVoltages.isEmpty = false := by decide
  exact ⟨hpresent, by decide +kernel, update_paths_agree tiring (fun _ _ => 5) 60000 w hpresent⟩

end Settings

end ChargeController
