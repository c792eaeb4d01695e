import ChargeController.Service.Startup
import Mathlib.Tactic.Lemma

/-!
# The flag that decides

The configuration file is named by flags of two forms: one holds the file, the other announces that
the next argument does.  All arguments are looked at, also one that a flag before it has announced,
and each flag puts aside what was named so far, even if it names nothing.  So the last flag alone
decides.

* `IsFlag`, `afterEquals` — the two forms, and the file that is held by a flag.
* `LastFlag` — what the last flag of some arguments names.
* **`configFlag?_eq_iff`** — the scan of the arguments finds it.
* **`last_flag_decides`** — what is found, also for arguments that are put together of two parts.
-/

namespace ChargeController

/-! ## Flags -/

/-- An argument that holds the name of a configuration file, or announces it. -/
def IsFlag (arg : String) : Prop :=
  arg = "--config" ∨ "--config=".toList <+: arg.toList

instance : DecidablePred IsFlag :=
  fun arg => inferInstanceAs (Decidable (arg = "--config" ∨ "--config=".toList <+: arg.toList))

/-- What stands in a text after its first equals sign. -/
def afterEquals (text : String) : String :=
  String.ofList (text.toList.dropWhile (· ≠ '=')).tail

lemma flagValue?_of_isPrefix {arg : String} (h : "--config=".toList <+: arg.toList) :
    flagValue? arg = some (afterEquals arg) := by
  have hprefix := List.isPrefixOf_iff_prefix.mpr h
  obtain ⟨value, hvalue⟩ := h
  -- the first equals sign is the one that ends the flag
  have hfirst : ("--config=".toList ++ value).dropWhile (· ≠ '=') = '=' :: value := rfl
  rw [flagValue?, if_pos hprefix, afterEquals, ← hvalue, List.drop_left, hfirst]
  rfl

lemma flagValue?_of_not_isPrefix {arg : String} (h : ¬ "--config=".toList <+: arg.toList) :
    flagValue? arg = none := by
  rw [flagValue?]
  exact if_neg (mt List.isPrefixOf_iff_prefix.mp h)

/-! ## Scanning -/

lemma scanFlags_holding (named : Option String) {arg : String} (rest : List String)
    (h : "--config=".toList <+: arg.toList) :
    scanFlags named (arg :: rest) = scanFlags (some (afterEquals arg)) rest := by
  simp only [scanFlags, flagValue?_of_isPrefix h]

lemma scanFlags_announcing (named : Option String) (rest : List String) :
    scanFlags named ("--config" :: rest) = scanFlags rest.head? rest := by
  have hannounces : flagValue? "--config" = none := flagValue?_of_not_isPrefix (by decide)
  simp only [scanFlags, hannounces, if_true]

lemma scanFlags_other (named : Option String) {arg : String} (rest : List String)
    (h : ¬ IsFlag arg) : scanFlags named (arg :: rest) = scanFlags named rest := by
  obtain ⟨hannounce, hhold⟩ := not_or.mp h
  simp only [scanFlags, flagValue?_of_not_isPrefix hhold, if_neg hannounce]

/-- Without a flag, what was named stays. -/
lemma scanFlags_of_no_flag {args : List String} (hnone : ∀ arg ∈ args, ¬ IsFlag arg)
    (named : Option String) : scanFlags named args = named := by
  induction args with
  | nil => rfl
  | cons arg rest ih =>
      rw [List.forall_mem_cons] at hnone
      rw [scanFlags_other named rest hnone.1, ih hnone.2]

/-- After some arguments, the scan goes on with what they have named. -/
lemma exists_scanFlags_append (before after : List String) (named : Option String) :
    ∃ named', scanFlags named (before ++ after) = scanFlags named' after := by
  induction before generalizing named with
  | nil => exact ⟨named, rfl⟩
  | cons arg before ih =>
      simp only [List.cons_append, scanFlags]
      split
      · exact ih _
      · exact ih _

/-! ## The last one -/

/-- What the last flag of some arguments names: nothing if there is none; what it holds; or the
argument behind it, if there is one. -/
inductive LastFlag : List String → Option String → Prop
  | absent {args : List String} (hnone : ∀ arg ∈ args, ¬ IsFlag arg) : LastFlag args none
  | holding (before : List String) {arg : String} {after : List String}
      (hholds : "--config=".toList <+: arg.toList) (hlast : ∀ arg ∈ after, ¬ IsFlag arg) :
      LastFlag (before ++ arg :: after) (some (afterEquals arg))
  | announcing (before : List String) {after : List String}
      (hlast : ∀ arg ∈ after, ¬ IsFlag arg) : LastFlag (before ++ "--config" :: after) after.head?

namespace LastFlag

variable {args rest : List String} {named : Option String}

/-- What the last flag names is found. -/
lemma configFlag?_eq (h : LastFlag args named) : configFlag? args = named := by
  cases h with
  | absent hnone => exact scanFlags_of_no_flag hnone none
  | holding before hholds hlast =>
      obtain ⟨named', hscan⟩ := exists_scanFlags_append before (_ :: _) none
      rw [configFlag?, hscan, scanFlags_holding named' _ hholds, scanFlags_of_no_flag hlast]
  | announcing before hlast =>
      obtain ⟨named', hscan⟩ := exists_scanFlags_append before (_ :: _) none
      rw [configFlag?, hscan, scanFlags_announcing, scanFlags_of_no_flag hlast]

/-- Arguments before the last flag are of no account. -/
lemma prepend (h : LastFlag rest named) (hflag : ∃ arg ∈ rest, IsFlag arg) (args : List String) :
    LastFlag (args ++ rest) named := by
  cases h with
  | absent hnone =>
      obtain ⟨flag, hmem, hflag⟩ := hflag
      exact absurd hflag (hnone flag hmem)
  | holding before hholds hlast =>
      rw [← List.append_assoc]
      exact .holding (args ++ before) hholds hlast
  | announcing before hlast =>
      rw [← List.append_assoc]
      exact .announcing (args ++ before) hlast

/-- Arguments that are no flags are of no account, unless one of them has been announced. -/
lemma append (h : LastFlag args named) (hnone : ∀ arg ∈ rest, ¬ IsFlag arg)
    (hend : args.getLast? ≠ some "--config") : LastFlag (args ++ rest) named := by
  have hboth {after : List String} (hlast : ∀ arg ∈ after, ¬ IsFlag arg) :
      ∀ arg ∈ after ++ rest, ¬ IsFlag arg :=
    List.forall_mem_append.mpr ⟨hlast, hnone⟩
  cases h with
  | absent hnone' => exact .absent (hboth hnone')
  | holding before hholds hlast =>
      rw [List.append_assoc]
      exact .holding before hholds (hboth hlast)
  | @announcing before after hlast =>
      rw [List.append_assoc]
      cases after with
      | nil => exact absurd (List.getLast?_concat ..) hend
      | cons arg after => exact .announcing before (hboth hlast)

end LastFlag

/-- All arguments have a last flag or none. -/
lemma exists_lastFlag (args : List String) : ∃ named, LastFlag args named := by
  induction args with
  | nil => exact ⟨none, .absent nofun⟩
  | cons arg rest ih =>
      by_cases hrest : ∃ arg ∈ rest, IsFlag arg
      · obtain ⟨named, hnamed⟩ := ih
        exact ⟨named, hnamed.prepend hrest [arg]⟩
      · have hlast : ∀ arg ∈ rest, ¬ IsFlag arg := fun arg hmem hflag => hrest ⟨arg, hmem, hflag⟩
        by_cases hflag : IsFlag arg
        · rcases hflag with rfl | hholds
          · exact ⟨rest.head?, .announcing [] hlast⟩
          · exact ⟨some (afterEquals arg), .holding [] hholds hlast⟩
        · exact ⟨none, .absent (List.forall_mem_cons.mpr ⟨hflag, hlast⟩)⟩

/-- **What is found is what the last flag names.** -/
theorem configFlag?_eq_iff {args : List String} {named : Option String} :
    configFlag? args = named ↔ LastFlag args named := by
  constructor
  · rintro rfl
    obtain ⟨named, h⟩ := exists_lastFlag args
    rwa [h.configFlag?_eq]
  · exact LastFlag.configFlag?_eq

/-- **The last flag decides.**

* The file that the arguments name is the one that their last flag names: the text after its first
  equals sign, or the argument behind it; there is none without a flag, or without that argument.
* If some arguments have a flag, others before them are of no account.
* If some have none, they are of no account themselves, unless the one before them announces a
  file. -/
theorem last_flag_decides :
    (∀ (args : List String) (named : Option String),
      configFlag? args = named ↔ LastFlag args named) ∧
    ∀ args rest : List String,
      ((∃ arg ∈ rest, IsFlag arg) → configFlag? (args ++ rest) = configFlag? rest) ∧
      ((∀ arg ∈ rest, ¬ IsFlag arg) → args.getLast? ≠ some "--config" →
        configFlag? (args ++ rest) = configFlag? args) := by
  refine ⟨fun args named => configFlag?_eq_iff, fun args rest => ⟨fun hflag => ?_, ?_⟩⟩
  · exact ((configFlag?_eq_iff.mp rfl).prepend hflag args).configFlag?_eq
  · intro hnone hend
    exact ((configFlag?_eq_iff.mp rfl).append hnone hend).configFlag?_eq

/-- A flag that a flag before it has announced is one itself, its file may have equals signs in its
name, and a flag that announces nothing puts it aside. -/
theorem announced_flag_decides :
    let args := ["--config", "--config=site=north.toml"]
    configFlag? args = some "site=north.toml" ∧ LastFlag args (some "site=north.toml") ∧
      (∀ arg ∈ ["--verbose"], ¬ IsFlag arg) ∧ args.getLast? ≠ some "--config" ∧
      configFlag? (args ++ ["--verbose"]) = configFlag? args ∧
      (∃ arg ∈ ["--config"], IsFlag arg) ∧
      configFlag? (args ++ ["--config"]) = configFlag? ["--config"] ∧
      configFlag? ["--config"] = none := by
  intro args
  obtain ⟨hdecides, hparts⟩ := last_flag_decides
  have hnamed : configFlag? args = some "site=north.toml" := by decide
  have hnone : ∀ arg ∈ ["--verbose"], ¬ IsFlag arg := by decide
  have hend : args.getLast? ≠ some "--config" := by decide
  have hflag : ∃ arg ∈ ["--config"], IsFlag arg := by decide
  exact ⟨hnamed, (hdecides args _).mp hnamed, hnone, hend, (hparts args _).2 hnone hend, hflag,
    (hparts args _).1 hflag, by decide⟩

end ChargeController
