import PackageGate.Proofs.Number.Place
import PackageGate.Proofs.Value.Keys
import PackageGate.Schema.Pointer

/-!
# What schemas mean

A keyword says something about the data themselves (`Holds`), and it says which parts of the data
have to satisfy which further schemas (`Applies`). Data satisfy a schema if all its keywords hold
and all the parts satisfy what applies to them (`Satisfies`). A reference stands for the schema that
it names, whatever else stands beside it.

Nothing here says how data are checked, nor in which order.
-/

namespace PackageGate.Schema

open Number (Before Line)
open Value (lookup?)

/-! ## Types and numbers -/

/-- Where a number stands. Truth values are no numbers. -/
def place? : Value → Option Line
  | .int n => some (Line.ofRat n)
  | .float x => x.place?
  | _ => none

/-- One number is less than another. -/
def IsLess (a b : Value) : Prop := Before (place? a) (place? b)

/-- The names of types. -/
def typeNames : List String :=
  ["null", "boolean", "integer", "number", "string", "array", "object"]

/-- Data have the type of a name. A double without a fraction is a whole number, too. -/
def HasType (data : Value) : (name : String) → Prop
  | "null" => data = .null
  | "boolean" => ∃ b, data = .bool b
  | "integer" => ∃ n : Int, place? data = some (Line.ofRat n)
  | "number" => (∃ n, data = .int n) ∨ ∃ x, data = .float x
  | "string" => ∃ s, data = .str s
  | "array" => ∃ items, data = .list items
  | "object" => ∃ entries, data = .dict entries
  | _ => False

/-- An argument lists a name: it is this name, or a list with the name in it. -/
def Lists (argument : Value) (name : String) : Prop :=
  argument = .str name ∨ ∃ names, argument = .list names ∧ .str name ∈ names

/-! ## Keywords -/

/-- What a keyword with an argument says about the data themselves. -/
def Holds (data argument : Value) : (keyword : String) → Prop
  | "type" => ∃ name, Lists argument name ∧ HasType data name
  | "required" => ∀ entries names, data = .dict entries → argument = .list names →
      ∀ name ∈ names, Value.hasKey name entries = true
  | "minLength" => ∀ text, data = .str text → ¬IsLess (.int text.length) argument
  | "minItems" => ∀ items, data = .list items → ¬IsLess (.int items.length) argument
  | "minimum" => HasType data "number" → ¬IsLess data argument
  | _ => True

/-- A key is declared among the properties. -/
def Declared (keywords : List (Value × Value)) (key : Value) : Prop :=
  ∃ properties, lookup? "properties" keywords = some (.dict properties)
    ∧ Value.hasKey key properties = true

/-- A keyword with an argument applies a schema to a part of the data. The truth values are schemas,
too, so that no other keys may be allowed at all. A list of schemas is for the first items only. -/
def Applies (keywords : List (Value × Value)) (argument data schema part : Value) :
    (keyword : String) → Prop
  | "properties" => ∃ properties entries name, argument = .dict properties
      ∧ data = .dict entries ∧ (.str name, schema) ∈ properties ∧ lookup? name entries = some part
  | "additionalProperties" => argument = schema ∧ ∃ entries key, data = .dict entries
      ∧ (key, part) ∈ entries ∧ ¬Declared keywords key
  | "items" => ∃ items, data = .list items
      ∧ (argument = schema ∧ (∀ schemas, schema ≠ .list schemas) ∧ part ∈ items
        ∨ ∃ schemas, ∃ n : Nat, argument = .list schemas
          ∧ schemas[n]? = some schema ∧ items[n]? = some part)
  | _ => False

/-! ## References -/

/-- The parts of a pointer lead from a schema to one that stands in it. -/
inductive Points : Value → List (List Char) → Value → Prop where
  | here {s : Value} : Points s [] s
  | entry {keywords entries : List (Value × Value)} {group name : List Char}
      {rest : List (List Char)} {s t : Value} :
      pointerKey group ∈ ["definitions", "properties"] →
      lookup? (pointerKey group) keywords = some (.dict entries) →
      lookup? (pointerKey name) entries = some s → Points s rest t →
      Points (.dict keywords) (group :: name :: rest) t
  | only {keywords : List (Value × Value)} {keyword : List Char} {rest : List (List Char)}
      {s t : Value} :
      pointerKey keyword ∈ ["additionalProperties", "items"] →
      lookup? (pointerKey keyword) keywords = some s → (∀ schemas, s ≠ .list schemas) →
      Points s rest t → Points (.dict keywords) (keyword :: rest) t
  | position {keywords : List (Value × Value)} {keyword part : List Char}
      {rest : List (List Char)} {schemas : List Value} {s t : Value} :
      pointerKey keyword = "items" → lookup? "items" keywords = some (.list schemas) →
      item? schemas part = .ok (some s) → Points s rest t →
      Points (.dict keywords) (keyword :: part :: rest) t

/-- A reference names the whole schema, or one that its pointer leads to. -/
inductive Names (root : Value) : String → Value → Prop where
  | whole : Names root "#" root
  | pointer {pointer : List Char} {t : Value} :
      Points root (Text.splitAt '/' (unescaped pointer)) t →
      Names root (String.ofList ('#' :: '/' :: pointer)) t

/-- One schema is a reference to another. -/
def Refers (root s t : Value) : Prop :=
  ∃ keywords text, s = .dict keywords ∧ lookup? "$ref" keywords = some (.str text)
    ∧ Names root text t

/-! ## Satisfaction -/

/-- Data satisfy a schema that stands in a whole schema. -/
inductive Satisfies (root : Value) : (schema data : Value) → Prop where
  | anything {data : Value} : Satisfies root (.bool true) data
  /-- A reference hides the keywords beside it. -/
  | reference {s t data : Value} : Refers root s t → Satisfies root t data →
      Satisfies root s data
  | keywords {keywords : List (Value × Value)} {data : Value} :
      lookup? "$ref" keywords = none →
      (∀ keyword argument, lookup? keyword keywords = some argument →
        Holds data argument keyword) →
      (∀ keyword argument, lookup? keyword keywords = some argument →
        ∀ s v, Applies keywords argument data s v keyword → Satisfies root s v) →
      Satisfies root (.dict keywords) data

/-- Nothing satisfies the schema that allows nothing. -/
theorem not_satisfies_false {root data : Value} : ¬Satisfies root (.bool false) data := by
  intro h
  cases h with
  | reference hrefers _ =>
      obtain ⟨_, _, hdict, _⟩ := hrefers
      cases hdict

theorem satisfies_keywords_iff {root data : Value} {keywords : List (Value × Value)}
    (href : lookup? "$ref" keywords = none) :
    Satisfies root (.dict keywords) data ↔
      ∀ keyword argument, lookup? keyword keywords = some argument →
        Holds data argument keyword
          ∧ ∀ s v, Applies keywords argument data s v keyword → Satisfies root s v := by
  constructor
  · intro h
    cases h with
    | reference hrefers _ =>
        obtain ⟨_, _, ⟨⟩, hlookup, _⟩ := hrefers
        rw [href] at hlookup
        cases hlookup
    | keywords _ hholds hparts =>
        exact fun keyword argument hlookup =>
          ⟨hholds keyword argument hlookup, hparts keyword argument hlookup⟩
  · intro h
    exact .keywords href (fun keyword argument hlookup => (h keyword argument hlookup).1)
      fun keyword argument hlookup => (h keyword argument hlookup).2

end PackageGate.Schema
