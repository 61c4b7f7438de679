/-!
# Checklists

A checklist is everything that one validation needs: the files that must be there, the one among
them in which the features are looked for, the features, and the rules for the structure of the
files.

A *draft* is what someone wrote down. It becomes a checklist if it lists at least one file, lists
none twice, and lists its primary file. `Draft.problems` names everything that stands against it,
and the three conditions are part of the type of checklists, so that whoever holds one may rely on
them: the primary file is found in the manifest, at exactly one place.
-/

namespace PackageGate

/-- The words that the structural checks look for. -/
structure Rules where
  /-- The word that introduces the definition of a type. -/
  typeKeyword : String := "class"
  /-- A symbol whose use calls for the directive. -/
  sentinelSymbol : String := "UnityEngine"
  /-- The directive that makes the symbol known. -/
  requiredDirective : String := "using UnityEngine;"
deriving Repr, DecidableEq, Inhabited

/-- A feature: the marker that shows it in the primary file, and the label it is reported by. -/
structure Feature where
  marker : String
  label : String
deriving Repr, DecidableEq, Inhabited

/-- A checklist as written down. -/
structure Draft where
  name : String
  manifest : List String
  primaryFile : String
  features : List Feature
  rules : Rules := {}
deriving Repr, DecidableEq, Inhabited

/-- What keeps a draft from being a checklist. -/
inductive Draft.Problem where
  /-- The manifest is empty. -/
  | noFiles
  /-- An entry of the manifest has occurred before. -/
  | duplicate (entry : String)
  /-- The primary file is not in the manifest. -/
  | primaryNotListed (file : String)
deriving Repr, DecidableEq

namespace Draft

/-- The wording of a problem with the checklist of a name. -/
def Problem.message (name : String) : Problem → String
  | .noFiles => s!"{name}: manifest must list at least one file"
  | .duplicate entry => s!"{name}: duplicate manifest entry: {entry}"
  | .primaryNotListed file => s!"{name}: primary file '{file}' is not in the manifest"

/-- The entries that are the same as one in `seen` or one earlier in the list, once for each time
they come up again. -/
def repeated {α : Type} (same : α → α → Bool) (seen : List α) : List α → List α
  | [] => []
  | entry :: rest =>
    if seen.any (same · entry) then entry :: repeated same seen rest
    else repeated same (entry :: seen) rest

/-- Everything that stands against a manifest and a primary file, where `same` tells which entries
are the same, and `text` shows an entry. -/
def problemsOf {α : Type} (same : α → α → Bool) (text : α → String) (manifest : List α)
    (primaryFile : α) : List Problem :=
  (if manifest.isEmpty then [.noFiles] else []) ++
    (repeated same [] manifest).map (fun entry => .duplicate (text entry)) ++
    (if manifest.any (same · primaryFile) then [] else [.primaryNotListed (text primaryFile)])

/-- Everything that keeps a draft from being a checklist. -/
def problems (d : Draft) : List Problem := problemsOf (· == ·) id d.manifest d.primaryFile

/-- Nothing is repeated exactly if no entry was seen before and none occurs twice. -/
theorem repeated_eq_nil_iff (seen entries : List String) :
    repeated (· == ·) seen entries = [] ↔ entries.Nodup ∧ ∀ e ∈ entries, e ∉ seen := by
  induction entries generalizing seen with
  | nil => simp [repeated]
  | cons e rest ih =>
    by_cases h : e ∈ seen
    · simp [repeated, h]
    · simp only [repeated, List.any_beq', List.contains_eq_mem, h, decide_false,
        Bool.false_eq_true, if_false, ih, List.nodup_cons, List.mem_cons, not_or,
        forall_eq_or_imp, not_false_eq_true, true_and]
      constructor
      · rintro ⟨nodup, fresh⟩
        exact ⟨⟨fun he => (fresh e he).1 rfl, nodup⟩, fun x hx => (fresh x hx).2⟩
      · rintro ⟨⟨he, nodup⟩, fresh⟩
        exact ⟨nodup, fun x hx => ⟨fun hxe => he (hxe ▸ hx), fresh x hx⟩⟩

/-- A draft has no problems exactly if it meets the three conditions. -/
theorem problems_eq_nil_iff (d : Draft) :
    d.problems = [] ↔ d.manifest ≠ [] ∧ d.manifest.Nodup ∧ d.primaryFile ∈ d.manifest := by
  simp only [problems, problemsOf, List.append_eq_nil_iff, List.map_eq_nil_iff,
    repeated_eq_nil_iff, List.isEmpty_iff, List.any_beq', List.contains_eq_mem, decide_eq_true_eq]
  constructor
  · rintro ⟨⟨files, nodup, -⟩, primary⟩
    exact ⟨fun h => by simp [h] at files, nodup, Classical.byContradiction fun h => by
      simp [h] at primary⟩
  · rintro ⟨files, nodup, primary⟩
    simp [files, nodup, primary]

end Draft

/-- A draft that lists files, none twice, and its primary file among them. -/
structure Checklist extends Draft where
  manifest_ne_nil : manifest ≠ []
  manifest_nodup : manifest.Nodup
  primaryFile_mem : primaryFile ∈ manifest
deriving Repr, DecidableEq

/-- The checklist of a draft, or everything that keeps the draft from being one. -/
def Draft.check (d : Draft) : Except (List Draft.Problem) Checklist :=
  if h : d.problems = [] then
    have facts := d.problems_eq_nil_iff.1 h
    .ok { d with
      manifest_ne_nil := facts.1
      manifest_nodup := facts.2.1
      primaryFile_mem := facts.2.2 }
  else .error d.problems

/-- The wordings of a draft's problems. -/
def Draft.messages (d : Draft) : List String := d.problems.map (·.message d.name)

namespace Checklist

/-- The features of the package that the built-in checklist is for. -/
def builtInFeatures : List Feature :=
  [⟨"class Stat", "Stat class definition"⟩,
   ⟨"public float Value", "Value property"⟩,
   ⟨"public string Formula", "Formula property"⟩,
   ⟨"AddModifier", "Modifier support"⟩,
   ⟨"OnValueChanged", "Event system"⟩,
   ⟨"implicit operator float", "Implicit conversion"⟩]

/-- The checklist that is used when no other is given. -/
def builtIn : Checklist where
  name := "StatForge"
  manifest :=
    ["Runtime/Core/Stat.cs",
     "Runtime/Core/IndividualStatFormulaEvaluator.cs",
     "Runtime/Core/StatExtensions.cs",
     "Runtime/Core/StatAttribute.cs",
     "Tests/Runtime/StatForgeNewAPITests.cs",
     "Editor/StatPropertyDrawer.cs",
     "Samples~/Basic/NewAPIPlayerExample.cs"]
  primaryFile := "Runtime/Core/Stat.cs"
  features := builtInFeatures
  rules := {}
  manifest_ne_nil := by simp
  manifest_nodup := by decide
  primaryFile_mem := by simp

end Checklist

end PackageGate
