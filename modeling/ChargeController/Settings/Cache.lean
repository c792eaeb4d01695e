import ChargeController.Settings.Device

/-!
# The cached configuration

A configuration that was read from the device is kept for a while.  Every write forgets it and
starts a new generation, and a configuration is kept only if no generation has started since its
read began; so what is kept was read after the last write.
-/

namespace ChargeController

/-- The configuration that is kept, with the time in milliseconds when it was, and the number of
the current generation. -/
structure Cache where
  kept : Option (DeviceConfig × Nat)
  generation : UInt64

/-- What a look into the cache finds. -/
inductive Recall where
  | fresh (config : DeviceConfig)
  /-- Nothing recent: the generation in which a read now begins. -/
  | stale (generation : UInt64)

namespace Cache

/-- Nothing kept. -/
def empty : Cache := ⟨none, 0⟩

/-- The configuration, if it was kept less than `ttl` ago. -/
def lookUp (c : Cache) (now ttl : Nat) : Recall :=
  match c.kept with
  | some (config, since) => if now - since < ttl then .fresh config else .stale c.generation
  | none => .stale c.generation

/-- Keeps a configuration, if the generation in which its read began has not ended. -/
def keep (c : Cache) (generation : UInt64) (config : DeviceConfig) (now : Nat) : Cache :=
  if c.generation = generation then { c with kept := some (config, now) } else c

/-- Forgets the configuration and starts a new generation. -/
def forget (c : Cache) : Cache :=
  ⟨none, c.generation + 1⟩

end Cache

end ChargeController
