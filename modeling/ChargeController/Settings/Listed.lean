/-!
# Kinds that can be listed

The settings of a charge controller come in a few kinds with a few members each.  A group of
settings is a function on its kind, and whatever is to be done with all of them is done along the
list of its members, so no group is ever spelled out twice.
-/

namespace ChargeController

/-- A type whose members stand in a list. -/
class Listed (α : Type) where
  all : List α
  mem_all : ∀ a : α, a ∈ all

namespace Listed

variable {α β : Type} [Listed α]

instance (p : α → Prop) [DecidablePred p] : Decidable (∀ a, p a) :=
  decidable_of_iff (∀ a ∈ (all : List α), p a)
    ⟨fun h a => h a (mem_all a), fun h a _ => h a⟩

/-- A function whose every value is there. -/
def sequence (f : α → Option β) : Option (α → β) :=
  if h : ∀ a, (f a).isSome then some fun a => (f a).get (h a) else none

/-- Whether a function has no value anywhere. -/
def absent (f : α → Option β) : Bool :=
  (all : List α).all fun a => (f a).isNone

/-- The values of a function that are there, along the list. -/
def present (f : α → Option β) : List (α × β) :=
  (all : List α).filterMap fun a => (f a).map (a, ·)

end Listed

end ChargeController
