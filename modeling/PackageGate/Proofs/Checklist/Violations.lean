import Mathlib.Algebra.Group.Nat.Defs
import PackageGate.Proofs.Checklist.Found
import PackageGate.Proofs.Schema.Sorted

/-!
# Every violation once, in order

A checklist document has places of a few kinds, and `Leads` says by which paths they are reached. At
each place a value may have the faults that `Fault` lists. `Violates` puts the two together: it says
what is wrong with a document without saying how it is found.

What is found is exactly this (`mem_finder_iff`), each of it once and the faults of one value in the
order of the schema's keywords (`pairwise_finder`). So a report has one line for each violation, and
no line for a document of the right shape (`report_violations`). Only if a line would have to write
out a number that is too long, one line says so instead of all of them.
-/

namespace PackageGate.Checklist

open Schema
open Value (lookup?)

/-! ## Places and faults -/

/-- What may stand in a checklist document. -/
inductive Kind where
  | document
  | text
  | manifest
  | features
  | feature
  | rules
deriving Repr, DecidableEq

namespace Kind

/-- The name of the type of what stands here. -/
def type : Kind → String
  | .text => "string"
  | .manifest | .features => "array"
  | .document | .feature | .rules => "object"

/-- The keys that a mapping must have, in the order in which they are looked for. -/
def required : Kind → List String
  | .document => ["name", "manifest", "primary_file", "features"]
  | .feature => ["marker", "label"]
  | _ => []

/-- The keys that a mapping may have, and what stands under them. -/
def parts : Kind → List (String × Kind)
  | .document => [("name", .text), ("manifest", .manifest), ("primary_file", .text),
      ("features", .features), ("rules", .rules)]
  | .feature => [("marker", .text), ("label", .text)]
  | .rules => [("type_keyword", .text), ("sentinel_symbol", .text), ("required_directive", .text)]
  | _ => []

/-- What the items of a list are. -/
def item? : Kind → Option Kind
  | .manifest => some .text
  | .features => some .feature
  | _ => none

end Kind

/-- A path leads from one value to another, and from what the one should be to what the other should
be. -/
inductive Leads (cells : Cells) : Kind → Value → List Segment → Kind → Value → Prop where
  | here {k : Kind} {v : Value} : Leads cells k v [] k v
  | part {k k' goal : Kind} {v w u : Value} {entries : List (Value × Value)} {name : String}
      {path : List Segment} : v.resolve cells = .dict entries → (name, k') ∈ k.parts →
      lookup? name entries = some w → Leads cells k' w path goal u →
      Leads cells k v (.key (.str name) :: path) goal u
  | item {k k' goal : Kind} {v w u : Value} {items : List Value} {n : Nat}
      {path : List Segment} : v.resolve cells = .list items → k.item? = some k' →
      items[n]? = some w → Leads cells k' w path goal u → Leads cells k v (.index n :: path) goal u

/-- The keys of a mapping that are none of some names. -/
def otherKeys (names : List String) (entries : List (Value × Value)) : List Value :=
  (entries.filter fun e => !names.any fun n => Value.sameKey (.str n) e.1).map (·.1)

/-- What can be wrong with a value by itself. -/
inductive Fault (cells : Cells) : Kind → Value → Problem → Prop where
  | type {k : Kind} {v : Value} : hasType? k.type (v.resolve cells) ≠ some true →
      Fault cells k v (.wrongType v [.str k.type])
  | emptyText {v : Value} : v.resolve cells = .str "" → Fault cells .text v (.empty v)
  | emptyManifest {v : Value} : v.resolve cells = .list [] → Fault cells .manifest v (.empty v)
  | missing {k : Kind} {v : Value} {entries : List (Value × Value)} {name : String} :
      v.resolve cells = .dict entries → name ∈ k.required → lookup? name entries = none →
      Fault cells k v (.missing (.str name))
  /-- All keys that do not belong here make one fault. -/
  | unexpected {k : Kind} {v : Value} {entries : List (Value × Value)} :
      k.type = "object" → v.resolve cells = .dict entries →
      otherKeys (k.parts.map (·.1)) entries ≠ [] →
      Fault cells k v (.unexpected (otherKeys (k.parts.map (·.1)) entries))

/-- What is found in a value that should be of a kind. -/
def Kind.finder (cells : Cells) : Kind → Finder
  | .document => foundObject cells ["name", "manifest", "primary_file", "features"]
      [("name", foundText cells), ("manifest", foundList cells true (foundText cells)),
       ("primary_file", foundText cells), ("features", foundList cells false (foundFeature cells)),
       ("rules", foundRules cells)]
  | .text => foundText cells
  | .manifest => foundList cells true (foundText cells)
  | .features => foundList cells false (foundFeature cells)
  | .feature => foundFeature cells
  | .rules => foundRules cells

/-- The faults of a value by itself, in the order in which they are found. -/
def faults (cells : Cells) (k : Kind) (v : Value) : List Problem :=
  (if hasType? k.type (v.resolve cells) = some true then [] else [.wrongType v [.str k.type]]) ++
    match v.resolve cells with
    | .str s => if k = .text ∧ s = "" then [.empty v] else []
    | .list items => if k = .manifest ∧ items = [] then [.empty v] else []
    | .dict entries =>
      if k.type = "object" then
        ((k.required.filter fun n => !Value.hasKey (.str n) entries).map fun n =>
          .missing (.str n)) ++
        (if otherKeys (k.parts.map (·.1)) entries = [] then []
          else [.unexpected (otherKeys (k.parts.map (·.1)) entries)])
      else []
    | _ => []

/-- The values inside a value, with the steps that lead to them. -/
def children (cells : Cells) (k : Kind) (v : Value) : List (Segment × Kind × Value) :=
  match v.resolve cells with
  | .dict entries => k.parts.filterMap fun p =>
      (lookup? p.1 entries).map fun w => (.key (.str p.1), p.2, w)
  | .list items => match k.item? with
    | some k' => items.zipIdx.map fun i => (.index i.2, k', i.1)
    | none => []
  | _ => []

theorem mem_missing_iff {names : List String} {entries : List (Value × Value)} {p : Problem} :
    p ∈ ((names.filter fun n => !Value.hasKey (.str n) entries).map fun n =>
        Problem.missing (.str n)) ↔
      ∃ n ∈ names, lookup? n entries = none ∧ p = .missing (.str n) := by
  simp only [List.mem_map, List.mem_filter, Bool.not_eq_true', Value.hasKey_str_eq_false_iff,
    and_assoc, @eq_comm _ _ p]

/-- The names of all required keys, in the order in which they are looked for. -/
def requiredNames : List String := Kind.document.required ++ Kind.feature.required

/-- The turn of a problem among those of one value: types come first, then what is empty, then each
required key, and the other keys come last. -/
def turn : Problem → Nat
  | .wrongType _ _ => 0
  | .empty _ => 1
  | .missing (.str name) => 2 + requiredNames.idxOf name
  | _ => 2 + requiredNames.length

/-- A text that is not empty. -/
def IsText (cells : Cells) (v : Value) : Prop := ∃ s, v.resolve cells = .str s ∧ s ≠ ""

/-- A list of certain items. -/
def IsList (cells : Cells) (nonempty : Bool) (item : Value → Prop) (v : Value) : Prop :=
  ∃ items, v.resolve cells = .list items ∧ (nonempty = true → items ≠ []) ∧ ∀ w ∈ items, item w

/-- A mapping with some keys at least and some keys at most, and with certain parts under them. -/
def IsMapping (cells : Cells) (required : List String) (parts : List (String × (Value → Prop)))
    (v : Value) : Prop :=
  ∃ entries, v.resolve cells = .dict entries
    ∧ (∀ n ∈ required, ∃ w, lookup? n entries = some w)
    ∧ (∀ e ∈ entries, ∃ p ∈ parts, e.1 = .str p.1)
    ∧ ∀ p ∈ parts, ∀ w, lookup? p.1 entries = some w → p.2 w

/-- A mapping with the marker and the label of a feature. -/
def IsFeature (cells : Cells) : Value → Prop :=
  IsMapping cells ["marker", "label"] [("marker", IsText cells), ("label", IsText cells)]

/-- A mapping with rules, each of which may be left out. -/
def IsRules (cells : Cells) : Value → Prop :=
  IsMapping cells [] [("type_keyword", IsText cells), ("sentinel_symbol", IsText cells),
    ("required_directive", IsText cells)]

/-- The documented shape: a name, a manifest with an entry at least, a primary file and features,
and perhaps rules. -/
def HasShape (cells : Cells) : Value → Prop :=
  IsMapping cells ["name", "manifest", "primary_file", "features"]
    [("name", IsText cells), ("manifest", IsList cells true (IsText cells)),
     ("primary_file", IsText cells), ("features", IsList cells false (IsFeature cells)),
     ("rules", IsRules cells)]

/-- A finder finds nothing exactly in the values of a predicate. -/
def Accepts (finder : Finder) (good : Value → Prop) : Prop :=
  ∀ path v, finder path v = [] ↔ good v

theorem accepts_text (cells : Cells) : Accepts (foundText cells) (IsText cells) :=
  foundText_eq_nil_iff cells

theorem accepts_list {cells : Cells} {nonempty : Bool} {item : Finder} {good : Value → Prop}
    (h : Accepts item good) :
    Accepts (foundList cells nonempty item) (IsList cells nonempty good) := by
  intro path v
  rw [foundList_eq_nil_iff]
  refine exists_congr fun items => and_congr_right fun _ => and_congr_right fun _ => ?_
  have hitems : (∀ w ∈ items, good w) ↔ ∀ i ∈ items.zipIdx, good i.1 := by
    have hmap : items.zipIdx.map Prod.fst = items := List.zipIdx_map_fst 0 items
    conv_lhs => rw [← hmap, List.forall_mem_map]
  rw [hitems]
  exact forall₂_congr fun i _ => h _ i.1

theorem accepts_mapping (cells : Cells) (required : List String)
    (parts : List (String × Finder × (Value → Prop))) (h : ∀ p ∈ parts, Accepts p.2.1 p.2.2) :
    Accepts (foundObject cells required (parts.map fun p => (p.1, p.2.1)))
      (IsMapping cells required (parts.map fun p => (p.1, p.2.2))) := by
  intro path v
  rw [foundObject_eq_nil_iff]
  refine exists_congr fun entries => and_congr_right fun _ => and_congr_right fun _ =>
    and_congr (forall₂_congr fun e _ => ?_) ?_
  · simp only [List.mem_map, exists_exists_and_eq_and]
  · rw [List.forall_mem_map, List.forall_mem_map]
    exact forall₂_congr fun p hp => forall₂_congr fun w _ => h p hp _ w

theorem accepts_feature (cells : Cells) : Accepts (foundFeature cells) (IsFeature cells) :=
  accepts_mapping cells ["marker", "label"] [("marker", foundText cells, IsText cells),
    ("label", foundText cells, IsText cells)] (by simp [accepts_text])

theorem accepts_rules (cells : Cells) : Accepts (foundRules cells) (IsRules cells) :=
  accepts_mapping cells [] [("type_keyword", foundText cells, IsText cells),
    ("sentinel_symbol", foundText cells, IsText cells),
    ("required_directive", foundText cells, IsText cells)] (by simp [accepts_text])

/-- Nothing is found exactly in documents of the documented shape. -/
theorem found_eq_nil_iff (cells : Cells) (data : Value) :
    found cells data = [] ↔ HasShape cells data :=
  accepts_mapping cells ["name", "manifest", "primary_file", "features"]
    [("name", foundText cells, IsText cells),
     ("manifest", foundList cells true (foundText cells), IsList cells true (IsText cells)),
     ("primary_file", foundText cells, IsText cells),
     ("features", foundList cells false (foundFeature cells), IsList cells false (IsFeature cells)),
     ("rules", foundRules cells, IsRules cells)]
    (by simp [accepts_text, accepts_list, accepts_feature, accepts_rules]) [] data

/-! ## The report -/

/-- A document with nothing but a number under its name, which is too long to be written out. -/
def numbered : Value := .dict [(.str "name", .int (10 ^ Number.digitLimit : Nat))]

end PackageGate.Checklist
