import PackageGate.Checklist.Shape
import PackageGate.Proofs.Outcome
import PackageGate.Proofs.Value.Keys

/-!
# What is found in a checklist document

The check of a document against the shape of checklists is never aborted, and finds exactly what
`found` lists (`violations_shape`). `found` says for each part of the shape, in the order of the
schema's keywords, what is wrong with the data in its place.

Nothing is found exactly in data that have the documented parts; the lemmas at the end say so for
texts, lists and mappings.
-/

namespace PackageGate.Checklist

open Schema

/-- What is wrong with data at a path. -/
abbrev Finder := List Segment → Value → List Violation

/-! ## What is listed -/

/-- Data of another type. -/
def foundType (cells : Cells) (type : String) : Finder := fun path data =>
  if hasType? type (data.resolve cells) = some true then []
  else here path [.wrongType data [.str type]]

/-- Data in the place of a text that is not empty. -/
def foundText (cells : Cells) : Finder := fun path data =>
  foundType cells "string" path data ++
    match data.resolve cells with
    | .str s => if s.length = 0 then here path [.empty data] else []
    | _ => []

/-- Data in the place of a list, which perhaps has to have an item. -/
def foundList (cells : Cells) (nonempty : Bool) (item : Finder) : Finder := fun path data =>
  foundType cells "array" path data ++
    match data.resolve cells with
    | .list items =>
      (if nonempty && items.isEmpty then here path [.empty data] else []) ++
        items.zipIdx.flatMap fun i => item (path ++ [.index i.2]) i.1
    | _ => []

/-- The names that are missing in a mapping. -/
def foundMissing (names : List String) (path : List Segment)
    (entries : List (Value × Value)) : List Violation :=
  here path ((names.filter fun n => !Value.hasKey (.str n) entries).map fun n => .missing (.str n))

/-- The keys of a mapping that are none of its parts, all in one. -/
def foundExtra (names : List String) (path : List Segment)
    (entries : List (Value × Value)) : List Violation :=
  let extra := entries.filter fun e => !names.any fun n => Value.sameKey (.str n) e.1
  if extra.isEmpty then [] else here path [.unexpected (extra.map (·.1))]

/-- What is wrong with the parts of a mapping. -/
def foundParts (parts : List (String × Finder)) (path : List Segment)
    (entries : List (Value × Value)) : List Violation :=
  parts.flatMap fun p =>
    match Value.lookup? p.1 entries with
    | some v => p.2 (path ++ [.key (.str p.1)]) v
    | none => []

/-- Data in the place of a mapping with certain parts, some of which have to be there. -/
def foundObject (cells : Cells) (required : List String) (parts : List (String × Finder)) :
    Finder := fun path data =>
  foundType cells "object" path data ++
    match data.resolve cells with
    | .dict entries =>
      foundMissing required path entries ++ foundExtra (parts.map (·.1)) path entries ++
        foundParts parts path entries
    | _ => []

/-- Data in the place of a feature. -/
def foundFeature (cells : Cells) : Finder :=
  foundObject cells ["marker", "label"] [("marker", foundText cells), ("label", foundText cells)]

/-- Data in the place of the rules. -/
def foundRules (cells : Cells) : Finder :=
  foundObject cells [] [("type_keyword", foundText cells), ("sentinel_symbol", foundText cells),
    ("required_directive", foundText cells)]

/-- What is wrong with the data of a document. -/
def found (cells : Cells) (data : Value) : List Violation :=
  foundObject cells ["name", "manifest", "primary_file", "features"]
    [("name", foundText cells), ("manifest", foundList cells true (foundText cells)),
     ("primary_file", foundText cells), ("features", foundList cells false (foundFeature cells)),
     ("rules", foundRules cells)] [] data

/-! ## Keywords -/

theorem checkType_eq (cells : Cells) (schema data : Value) {type : String}
    (htype : ∃ b, hasType? type (data.resolve cells) = some b) (path : List Segment) :
    (checkType cells schema data (.str type)).map (here path) =
      .ok (foundType cells type path data) := by
  obtain ⟨b, hb⟩ := htype
  have hone : hasOneOf schema (data.resolve cells) [.str type] = .ok b := by
    unfold hasOneOf
    dsimp only
    rw [hb]
    cases b <;> rfl
  rw [checkType, foundType, hb]
  dsimp only
  rw [bind_ok, hone, bind_ok]
  cases b with
  | true => rfl
  | false => rfl

theorem hasType?_string (v : Value) : ∃ b, hasType? "string" v = some b := ⟨_, rfl⟩

theorem hasType?_array (v : Value) : ∃ b, hasType? "array" v = some b := ⟨_, rfl⟩

theorem hasType?_object (v : Value) : ∃ b, hasType? "object" v = some b := ⟨_, rfl⟩

/-- A length that has to be one at least. -/
theorem checkLength_one (data : Value) (length : Nat) :
    checkLength data length (.int 1) = .ok (if length = 0 then [.empty data] else []) := by
  show (if decide ((length : Int) < 1) = true then Except.ok [Problem.empty data]
    else Except.ok []) = _
  by_cases hlength : length = 0
  · rw [if_pos (decide_eq_true (by omega)), if_pos hlength]
  · rw [if_neg, if_neg hlength]
    intro hlt
    exact hlength (by have := of_decide_eq_true hlt; omega)

theorem missingNames_eq (entries : List (Value × Value)) (names : List String) :
    missingNames entries (names.map .str) =
      .ok ((names.filter fun n => !Value.hasKey (.str n) entries).map fun n =>
        .missing (.str n)) := by
  induction names with
  | nil => rfl
  | cons n names ih =>
      rw [List.map_cons, missingNames, show (!(Value.str n).isHashable) = false from rfl,
        if_neg Bool.false_ne_true, ih, bind_ok, List.filter_cons]
      cases Value.hasKey (.str n) entries with
      | true => rfl
      | false => rfl

theorem undeclared_eq (properties : List (Value × Value)) (names : List String)
    (hnames : properties.map (·.1) = names.map .str) (entries : List (Value × Value)) :
    undeclared (.dict properties) entries =
      .ok (entries.filter fun e => !names.any fun n => Value.sameKey (.str n) e.1) := by
  -- only the keys of the declared parts count
  have hkey : ∀ k, Value.hasKey k properties = names.any fun n => Value.sameKey (.str n) k := by
    intro k
    have hany : Value.hasKey k properties = (properties.map (·.1)).any (Value.sameKey · k) := by
      rw [List.any_map]
      rfl
    rw [hany, hnames, List.any_map]
    rfl
  induction entries with
  | nil => rfl
  | cons e entries ih =>
      obtain ⟨k, v⟩ := e
      rw [undeclared, holds, hkey, bind_ok, ih, bind_ok, List.filter_cons]
      cases names.any fun n => Value.sameKey (.str n) k with
      | true => rfl
      | false => rfl

theorem checkItems_eq (check : Value → Nat → Value → Except Abort (List Violation))
    (schema : Value) (item : Nat → Value → List Violation)
    (h : ∀ n v, check schema n v = .ok (item n v)) (n : Nat) (items : List Value) :
    checkItems check schema n items =
      .ok ((items.zipIdx n).flatMap fun i => item i.2 i.1) := by
  induction items generalizing n with
  | nil => rfl
  | cons v items ih =>
      rw [checkItems, h, bind_ok, ih, bind_ok, List.zipIdx_cons, List.flatMap_cons]

/-- A schema with what it finds in data, wherever they stand. -/
def Finds (cells : Cells) (root : Value) (fuel : Nat) (schema : Value) (finder : Finder) : Prop :=
  ∀ path data, check cells root fuel path schema data = .ok (finder path data)

theorem foundParts_cons (p : String × Finder) (parts : List (String × Finder))
    (path : List Segment) (entries : List (Value × Value)) :
    foundParts (p :: parts) path entries =
      (match Value.lookup? p.1 entries with
        | some v => p.2 (path ++ [.key (.str p.1)]) v
        | none => []) ++ foundParts parts path entries := List.flatMap_cons

theorem checkProperties_eq {cells : Cells} {root : Value} {fuel : Nat}
    {parts : List (String × Value × Finder)}
    (h : ∀ p ∈ parts, Finds cells root fuel p.2.1 p.2.2) (path : List Segment)
    (entries : List (Value × Value)) :
    checkProperties (fun s k v => check cells root fuel (path ++ [.key k]) s v) entries
        (parts.map fun p => (.str p.1, p.2.1)) =
      .ok (foundParts (parts.map fun p => (p.1, p.2.2)) path entries) := by
  induction parts with
  | nil => rfl
  | cons p parts ih =>
      have hp := h p List.mem_cons_self
      have hparts := ih fun q hq => h q (List.mem_cons_of_mem p hq)
      rw [List.map_cons, checkProperties, hparts, List.map_cons, foundParts_cons,
        Value.lookup?_eq_find?]
      cases entries.find? fun e => Value.sameKey e.1 (.str p.1) with
      | none => rfl
      | some e =>
          dsimp only [Option.map_some]
          rw [hp, bind_ok, bind_ok]

/-- A keyword that finds nothing may be left out. -/
theorem checkKeywords_skip {one : Value → Value → Except Abort (List Violation)}
    {keyword argument : Value} {rest : List (Value × Value)} (h : one keyword argument = .ok []) :
    checkKeywords one ((keyword, argument) :: rest) = checkKeywords one rest := by
  rw [checkKeywords, h, bind_ok]
  cases checkKeywords one rest <;> rfl

/-! ## Schemas -/

section Keywords

variable {cells : Cells} {root : Value} {fuel : Nat} (path : List Segment) (schema : Value)
  (keywords : List (Value × Value)) (data : Value)

/-- The check of data by one keyword of a schema. -/
abbrev keywordCheck (cells : Cells) (root : Value) (fuel : Nat) (path : List Segment)
    (schema : Value) (keywords : List (Value × Value)) (data : Value) :
    Value → Value → Except Abort (List Violation) :=
  checkKeyword cells (fun s segment v => check cells root fuel (path ++ [segment]) s v) path schema
    keywords data

theorem check_dict (href : Value.lookup? "$ref" keywords = none) :
    check cells root (fuel + 1) path (.dict keywords) data =
      checkKeywords (keywordCheck cells root fuel path (.dict keywords) keywords data)
        keywords := by
  rw [check, href]

theorem keyword_object :
    keywordCheck cells root fuel path schema keywords data (.str "type") (.str "object") =
      .ok (foundType cells "object" path data) :=
  checkType_eq cells schema data (hasType?_object _) path

theorem keyword_array :
    keywordCheck cells root fuel path schema keywords data (.str "type") (.str "array") =
      .ok (foundType cells "array" path data) :=
  checkType_eq cells schema data (hasType?_array _) path

theorem keyword_string :
    keywordCheck cells root fuel path schema keywords data (.str "type") (.str "string") =
      .ok (foundType cells "string" path data) :=
  checkType_eq cells schema data (hasType?_string _) path

theorem keyword_minLength :
    keywordCheck cells root fuel path schema keywords data (.str "minLength") (.int 1) =
      .ok (match data.resolve cells with
        | .str s => if s.length = 0 then here path [.empty data] else []
        | _ => []) := by
  show (checkMinLength cells data (.int 1)).map (here path) = _
  rw [checkMinLength]
  cases data.resolve cells with
  | str s =>
      dsimp only
      rw [checkLength_one]
      split <;> rfl
  | _ => rfl

theorem keyword_minItems :
    keywordCheck cells root fuel path schema keywords data (.str "minItems") (.int 1) =
      .ok (match data.resolve cells with
        | .list items => if items.isEmpty then here path [.empty data] else []
        | _ => []) := by
  show (checkMinItems cells data (.int 1)).map (here path) = _
  rw [checkMinItems]
  cases data.resolve cells with
  | list items =>
      dsimp only
      rw [checkLength_one]
      cases items with
      | nil => rfl
      | cons v items => rfl
  | _ => rfl

theorem keyword_required (names : List String) :
    keywordCheck cells root fuel path schema keywords data (.str "required")
        (.list (names.map .str)) =
      .ok (match data.resolve cells with
        | .dict entries => foundMissing names path entries
        | _ => []) := by
  show (checkRequired cells data (.list (names.map .str))).map (here path) = _
  rw [checkRequired]
  cases data.resolve cells with
  | dict entries =>
      dsimp only
      rw [iterate, bind_ok, missingNames_eq]
      rfl
  | _ => rfl

theorem keyword_additional {parts : List (String × Value × Finder)}
    (hparts : Value.lookup? "properties" keywords =
      some (.dict (parts.map fun p => (.str p.1, p.2.1)))) :
    keywordCheck cells root fuel path schema keywords data (.str "additionalProperties")
        (.bool false) =
      .ok (match data.resolve cells with
        | .dict entries => foundExtra (parts.map (·.1)) path entries
        | _ => []) := by
  have hnames : (parts.map fun p => (Value.str p.1, p.2.1)).map (·.1) =
      (parts.map (·.1)).map .str := by
    rw [List.map_map, List.map_map]
    rfl
  rw [keywordCheck, checkKeyword]
  cases data.resolve cells with
  | dict entries =>
      dsimp only
      rw [hparts, Option.getD_some, undeclared_eq _ _ hnames, bind_ok, foundExtra]
      cases List.isEmpty (entries.filter _) with
      | true => rfl
      | false => rfl
  | _ => rfl

theorem keyword_properties {parts : List (String × Value × Finder)}
    (h : ∀ p ∈ parts, Finds cells root fuel p.2.1 p.2.2) :
    keywordCheck cells root fuel path schema keywords data (.str "properties")
        (.dict (parts.map fun p => (.str p.1, p.2.1))) =
      .ok (match data.resolve cells with
        | .dict entries => foundParts (parts.map fun p => (p.1, p.2.2)) path entries
        | _ => []) := by
  rw [keywordCheck, checkKeyword]
  cases data.resolve cells with
  | dict entries => exact checkProperties_eq h path entries
  | _ => rfl

theorem keyword_items {entries : List (Value × Value)} {item : Finder}
    (h : Finds cells root fuel (.dict entries) item) :
    keywordCheck cells root fuel path schema keywords data (.str "items") (.dict entries) =
      .ok (match data.resolve cells with
        | .list items => items.zipIdx.flatMap fun i => item (path ++ [.index i.2]) i.1
        | _ => []) := by
  rw [keywordCheck, checkKeyword]
  cases data.resolve cells with
  | list items =>
      exact checkItems_eq (fun s n v => check cells root fuel (path ++ [.index n]) s v)
        (.dict entries) (fun n v => item (path ++ [.index n]) v) (fun n v => h _ v) 0 items
  | _ => rfl

end Keywords

section Shapes

variable (cells : Cells) (root : Value) (fuel : Nat)

theorem finds_text : Finds cells root (fuel + 1) nonEmptyText (foundText cells) := by
  intro path data
  rw [show nonEmptyText = .dict [(.str "type", .str "string"), (.str "minLength", .int 1)] from rfl,
    check_dict path _ data rfl]
  simp only [checkKeywords, keyword_string, keyword_minLength, bind_ok, List.append_nil]
  rfl

/-- No other parts than the declared ones, and what is wrong with these. -/
theorem keywords_closed {schema : Value} {keywords : List (Value × Value)}
    {parts : List (String × Value × Finder)}
    (hparts : Value.lookup? "properties" keywords =
      some (.dict (parts.map fun p => (.str p.1, p.2.1))))
    (h : ∀ p ∈ parts, Finds cells root fuel p.2.1 p.2.2) (path : List Segment) (data : Value) :
    checkKeywords (keywordCheck cells root fuel path schema keywords data)
        [(.str "additionalProperties", .bool false),
         (.str "properties", .dict (parts.map fun p => (.str p.1, p.2.1)))] =
      .ok (match data.resolve cells with
        | .dict entries => foundExtra (parts.map (·.1)) path entries ++
            foundParts (parts.map fun p => (p.1, p.2.2)) path entries
        | _ => []) := by
  simp only [checkKeywords]
  rw [keyword_additional path _ _ data hparts, keyword_properties path _ _ data h]
  simp only [bind_ok, List.append_nil]
  cases data.resolve cells <;> rfl

/-- The keywords of a mapping some parts of which have to be there. -/
theorem keywords_object (names : List String) {schema : Value} {keywords : List (Value × Value)}
    (parts : List (String × Value × Finder))
    (hparts : Value.lookup? "properties" keywords =
      some (.dict (parts.map fun p => (.str p.1, p.2.1))))
    (h : ∀ p ∈ parts, Finds cells root fuel p.2.1 p.2.2) (path : List Segment) (data : Value) :
    checkKeywords (keywordCheck cells root fuel path schema keywords data)
        [(.str "type", .str "object"), (.str "required", .list (names.map .str)),
         (.str "additionalProperties", .bool false),
         (.str "properties", .dict (parts.map fun p => (.str p.1, p.2.1)))] =
      .ok (foundObject cells names (parts.map fun p => (p.1, p.2.2)) path data) := by
  rw [checkKeywords, keyword_object, bind_ok, checkKeywords, keyword_required, bind_ok,
    keywords_closed cells root fuel hparts h, bind_ok, bind_ok, foundObject]
  simp only [List.map_map]
  cases data.resolve cells with
  | dict entries => simp [Function.comp_def]
  | _ => rfl

/-- The schema of a mapping all parts of which may be left out. -/
theorem finds_open_object (parts : List (String × Value × Finder))
    (h : ∀ p ∈ parts, Finds cells root fuel p.2.1 p.2.2) :
    Finds cells root (fuel + 1)
      (.dict [(.str "type", .str "object"), (.str "additionalProperties", .bool false),
        (.str "properties", .dict (parts.map fun p => (.str p.1, p.2.1)))])
      (foundObject cells [] (parts.map fun p => (p.1, p.2.2))) := by
  intro path data
  rw [check_dict path _ data rfl, checkKeywords, keyword_object, bind_ok,
    keywords_closed cells root fuel rfl h, bind_ok, foundObject]
  simp only [List.map_map]
  cases data.resolve cells with
  | dict entries => rfl
  | _ => rfl

/-- The schema of a list. -/
theorem finds_list {entries : List (Value × Value)} {item : Finder}
    (h : Finds cells root fuel (.dict entries) item) :
    Finds cells root (fuel + 1)
      (.dict [(.str "type", .str "array"), (.str "items", .dict entries)])
      (foundList cells false item) := by
  intro path data
  rw [check_dict path _ data rfl, checkKeywords, keyword_array, bind_ok, checkKeywords,
    keyword_items path _ _ data h, bind_ok, checkKeywords, bind_ok, bind_ok, List.append_nil,
    foundList]
  rfl

/-- The schema of a list with an item at least. -/
theorem finds_nonempty_list {entries : List (Value × Value)} {item : Finder}
    (h : Finds cells root fuel (.dict entries) item) :
    Finds cells root (fuel + 1)
      (.dict [(.str "type", .str "array"), (.str "minItems", .int 1),
        (.str "items", .dict entries)])
      (foundList cells true item) := by
  intro path data
  rw [check_dict path _ data rfl, checkKeywords, keyword_array, bind_ok, checkKeywords,
    keyword_minItems, bind_ok, checkKeywords, keyword_items path _ _ data h, bind_ok,
    checkKeywords, bind_ok, bind_ok, bind_ok, List.append_nil, foundList]
  cases data.resolve cells with
  | list items => rfl
  | _ => rfl

theorem finds_feature : Finds cells root (fuel + 2) featureShape (foundFeature cells) := by
  intro path data
  have htext := finds_text cells root fuel
  rw [featureShape, check_dict path _ data rfl]
  exact keywords_object cells root (fuel + 1) ["marker", "label"]
    [("marker", nonEmptyText, foundText cells), ("label", nonEmptyText, foundText cells)]
    rfl (by simp [htext]) path data

theorem finds_rules : Finds cells root (fuel + 2) rulesShape (foundRules cells) := by
  have htext := finds_text cells root fuel
  exact finds_open_object cells root (fuel + 1)
    [("type_keyword", nonEmptyText, foundText cells),
     ("sentinel_symbol", nonEmptyText, foundText cells),
     ("required_directive", nonEmptyText, foundText cells)] (by simp [htext])

/-- The schema of the manifest. -/
def manifestShape : Value :=
  .dict [(.str "type", .str "array"), (.str "minItems", .int 1), (.str "items", nonEmptyText)]

/-- The schema of the features. -/
def featuresShape : Value :=
  .dict [(.str "type", .str "array"), (.str "items", featureShape)]

theorem finds_manifest :
    Finds cells root (fuel + 2) manifestShape (foundList cells true (foundText cells)) :=
  finds_nonempty_list cells root (fuel + 1) (finds_text cells root fuel)

theorem finds_features :
    Finds cells root (fuel + 3) featuresShape (foundList cells false (foundFeature cells)) :=
  finds_list cells root (fuel + 2) (finds_feature cells root fuel)

/-- The check of a whole document. -/
theorem check_shape (data : Value) :
    check cells root (fuel + 4) [] shape data = .ok (found cells data) := by
  have htext := finds_text cells root (fuel + 2)
  have hmanifest := finds_manifest cells root (fuel + 1)
  have hfeatures := finds_features cells root fuel
  have hrules := finds_rules cells root (fuel + 1)
  rw [shape, check_dict [] _ data rfl]
  -- the first keyword has no meaning
  refine (checkKeywords_skip rfl).trans ?_
  exact keywords_object cells root (fuel + 3) ["name", "manifest", "primary_file", "features"]
    [("name", nonEmptyText, foundText cells),
     ("manifest", manifestShape, foundList cells true (foundText cells)),
     ("primary_file", nonEmptyText, foundText cells),
     ("features", featuresShape, foundList cells false (foundFeature cells)),
     ("rules", rulesShape, foundRules cells)] rfl
    (by simp [htext, hmanifest, hfeatures, hrules]) [] data

end Shapes

/-- Enough fuel for the check of a whole document. -/
theorem fuelFor_shape (data : Value) : ∃ fuel, fuelFor shape data = fuel + 4 := by
  have hweight : 4 ≤ shape.weight := by decide
  have hle : shape.weight + 2 ≤ fuelFor shape data :=
    Nat.le_mul_of_pos_left _ (Nat.succ_pos _)
  exact ⟨fuelFor shape data - 4, by omega⟩

/-- **The check of a document is never aborted**, and finds what is listed. -/
theorem violations_shape (cells : Cells) (data : Value) :
    violations cells shape data = .ok (found cells data) := by
  obtain ⟨fuel, hfuel⟩ := fuelFor_shape data
  rw [← check_shape cells shape fuel data, ← hfuel]
  rfl

/-! ## Data in which nothing is found -/

theorem foundType_eq_nil_iff (cells : Cells) (type : String) (path : List Segment)
    (data : Value) :
    foundType cells type path data = [] ↔ hasType? type (data.resolve cells) = some true := by
  unfold foundType
  split
  · rename_i h
    exact ⟨fun _ => h, fun _ => rfl⟩
  · rename_i h
    exact ⟨fun hnil => absurd hnil (List.cons_ne_nil _ _), fun htype => absurd htype h⟩

theorem foundText_eq_nil_iff (cells : Cells) (path : List Segment) (data : Value) :
    foundText cells path data = [] ↔ ∃ s, data.resolve cells = .str s ∧ s ≠ "" := by
  rw [foundText, List.append_eq_nil_iff, foundType_eq_nil_iff]
  cases data.resolve cells with
  | str s => simp [hasType?, here]
  | _ => simp [hasType?]

theorem foundList_eq_nil_iff (cells : Cells) (nonempty : Bool) (item : Finder)
    (path : List Segment) (data : Value) :
    foundList cells nonempty item path data = [] ↔
      ∃ items, data.resolve cells = .list items ∧ (nonempty = true → items ≠ [])
        ∧ ∀ i ∈ items.zipIdx, item (path ++ [.index i.2]) i.1 = [] := by
  rw [foundList, List.append_eq_nil_iff, foundType_eq_nil_iff]
  cases data.resolve cells with
  | list items =>
      simp only [hasType?, List.append_eq_nil_iff, List.flatMap_eq_nil_iff, true_and,
        Value.list.injEq, exists_eq_left', ite_eq_right_iff, Bool.and_eq_true, List.isEmpty_iff]
      simp [here]
  | _ => simp [hasType?]

theorem foundMissing_eq_nil_iff (names : List String) (path : List Segment)
    (entries : List (Value × Value)) :
    foundMissing names path entries = [] ↔
      ∀ n ∈ names, ∃ v, Value.lookup? n entries = some v := by
  rw [foundMissing, here, List.map_eq_nil_iff, List.map_eq_nil_iff, List.filter_eq_nil_iff]
  refine forall_congr' fun n => imp_congr_right fun _ => ?_
  rw [← Value.hasKey_str_iff, Bool.not_eq_true', Bool.not_eq_false]

theorem foundExtra_eq_nil_iff (names : List String) (path : List Segment)
    (entries : List (Value × Value)) :
    foundExtra names path entries = [] ↔ ∀ e ∈ entries, ∃ n ∈ names, e.1 = .str n := by
  have hnil : foundExtra names path entries = [] ↔
      (entries.filter fun e => !names.any fun n => Value.sameKey (.str n) e.1) = [] := by
    unfold foundExtra
    dsimp only
    split
    · rename_i h
      rw [List.isEmpty_iff] at h
      exact ⟨fun _ => h, fun _ => rfl⟩
    · rename_i h
      rw [List.isEmpty_iff] at h
      exact ⟨fun hcons => absurd hcons (List.cons_ne_nil _ _), fun hfilter => absurd hfilter h⟩
  rw [hnil, List.filter_eq_nil_iff]
  refine forall_congr' fun e => imp_congr_right fun _ => ?_
  rw [Bool.not_eq_true', Bool.not_eq_false, List.any_eq_true]
  refine exists_congr fun n => and_congr_right fun _ => ?_
  exact Value.str_sameKey_iff n e.1

theorem foundParts_eq_nil_iff (parts : List (String × Finder)) (path : List Segment)
    (entries : List (Value × Value)) :
    foundParts parts path entries = [] ↔ ∀ p ∈ parts, ∀ v,
      Value.lookup? p.1 entries = some v → p.2 (path ++ [.key (.str p.1)]) v = [] := by
  rw [foundParts, List.flatMap_eq_nil_iff]
  refine forall_congr' fun p => imp_congr_right fun _ => ?_
  cases Value.lookup? p.1 entries with
  | none => simp
  | some v => simp

theorem foundObject_eq_nil_iff (cells : Cells) (required : List String)
    (parts : List (String × Finder)) (path : List Segment) (data : Value) :
    foundObject cells required parts path data = [] ↔
      ∃ entries, data.resolve cells = .dict entries
        ∧ (∀ n ∈ required, ∃ v, Value.lookup? n entries = some v)
        ∧ (∀ e ∈ entries, ∃ n ∈ parts.map (·.1), e.1 = .str n)
        ∧ ∀ p ∈ parts, ∀ v, Value.lookup? p.1 entries = some v →
            p.2 (path ++ [.key (.str p.1)]) v = [] := by
  rw [foundObject, List.append_eq_nil_iff, foundType_eq_nil_iff]
  cases data.resolve cells with
  | dict entries =>
      dsimp only
      rw [List.append_eq_nil_iff, List.append_eq_nil_iff, foundMissing_eq_nil_iff,
        foundExtra_eq_nil_iff, foundParts_eq_nil_iff]
      simp [hasType?, and_assoc]
  | _ => simp [hasType?]

/-! ## The report -/

/-- **A document always gets a report**, which is empty exactly if nothing is found. -/
theorem report_shape (context : String) (cells : Cells) (data : Value) :
    ∃ ls, report context cells shape data = .ok ls ∧ (ls = [] ↔ found cells data = []) := by
  unfold report
  rw [violations_shape]
  dsimp only
  split
  · rename_i htoo
    refine ⟨_, rfl, fun hnil => absurd hnil (List.cons_ne_nil _ _), fun hfound => ?_⟩
    rw [hfound] at htoo
    cases htoo
  · refine ⟨_, rfl, ?_⟩
    rw [List.map_eq_nil_iff, ← List.length_eq_zero_iff, sorted, List.length_mergeSort,
      List.length_eq_zero_iff]

end PackageGate.Checklist
