import Mathlib.Logic.Relation
import PackageGate.Proofs.Outcome
import PackageGate.Proofs.Schema.Meaning
import PackageGate.Proofs.Text.Utf8
import PackageGate.Proofs.Value.Parts

/-!
# Sound schemas

A schema is *sound* if the arguments of its keywords fit them, everywhere in it, and if its
references lead to schemas in it without running in a circle among themselves. A reference to a
schema around itself is no such circle: a step into the data lies between.

A reference that names a schema is followed to this very schema (`target_of_names`). The survey of
the whole schema, and everything that can be amiss on the way, is for other references.
-/

namespace PackageGate.Text

/-- A text of ASCII characters. -/
def IsAscii (text : List Char) : Prop := ∀ c ∈ text, c.toNat < 0x80

theorem isAscii_iff_all {text : List Char} :
    IsAscii text ↔ text.all (·.toNat < 0x80) = true := by
  simp [IsAscii]

end PackageGate.Text

namespace PackageGate.Schema

open Value (lookup?)

/-! ## Fitting arguments -/

/-- Keywords that mean something and are not spoken of here. -/
def foreignKeywords : List String :=
  ["$id", "additionalItems", "allOf", "anyOf", "const", "contains", "dependencies", "enum",
    "exclusiveMaximum", "exclusiveMinimum", "if", "maxItems", "maxLength", "maxProperties",
    "maximum", "minProperties", "multipleOf", "not", "oneOf", "pattern", "patternProperties",
    "propertyNames", "uniqueItems"]

/-- The names of the schema language, with and without the mark of an empty fragment. -/
def dialects : List String :=
  ["http://json-schema.org/draft-07/schema#", "http://json-schema.org/draft-07/schema"]

/-- An argument fits a keyword. What else stands in a schema has no meaning. -/
def Fits (root argument : Value) : (keyword : String) → Prop
  | "$schema" => ∃ name ∈ dialects, argument = .str name
  | "$ref" => ∃ text t, argument = .str text ∧ Names root text t
  | "type" => (∃ name ∈ typeNames, argument = .str name)
      ∨ ∃ names : List String, argument = .list (names.map .str) ∧ ∀ name ∈ names, name ∈ typeNames
  | "required" => ∃ names : List String, argument = .list (names.map .str)
  | "minLength" | "minItems" | "minimum" => HasType argument "number"
  | "properties" | "definitions" => ∃ entries, argument = .dict entries
      ∧ ∀ e ∈ entries, ∃ name, e.1 = .str name
  | keyword => keyword ∉ foreignKeywords

/-- A schema stands in the argument of a keyword. -/
inductive Subschema : (keyword : String) → (argument schema : Value) → Prop where
  | entry {keyword : String} {entries : List (Value × Value)} {k s : Value} :
      keyword ∈ ["definitions", "properties"] → (k, s) ∈ entries →
      Subschema keyword (.dict entries) s
  | additional {s : Value} : Subschema "additionalProperties" s s
  | item {s : Value} : (∀ schemas, s ≠ .list schemas) → Subschema "items" s s
  | position {schemas : List Value} {s : Value} : s ∈ schemas →
      Subschema "items" (.list schemas) s

/-- Arguments fit their keywords, in a schema and in all that stand in it. -/
inductive WellTyped (root : Value) : Value → Prop where
  | bool (b : Bool) : WellTyped root (.bool b)
  | dict {keywords : List (Value × Value)} : Value.DistinctKeys keywords →
      (∀ keyword argument, lookup? keyword keywords = some argument →
        Fits root argument keyword) →
      (∀ keyword argument s, lookup? keyword keywords = some argument →
        Subschema keyword argument s → WellTyped root s) →
      WellTyped root (.dict keywords)

/-- A schema that can be checked against. -/
structure IsSound (root : Value) : Prop where
  wellTyped : WellTyped root root
  /-- No chain of references comes back to where it began. -/
  guarded : ∀ s, ¬Relation.TransGen (Refers root) s s

theorem WellTyped.subschema {root s : Value} {keywords : List (Value × Value)}
    (h : WellTyped root (.dict keywords)) {keyword : String} {argument : Value}
    (hlookup : lookup? keyword keywords = some argument) (hs : Subschema keyword argument s) :
    WellTyped root s := by
  cases h with
  | dict _ _ hparts => exact hparts keyword argument s hlookup hs

theorem WellTyped.distinctKeys {root : Value} {keywords : List (Value × Value)}
    (h : WellTyped root (.dict keywords)) : Value.DistinctKeys keywords := by
  cases h with
  | dict hdistinct _ _ => exact hdistinct

theorem WellTyped.fits {root : Value} {keywords : List (Value × Value)}
    (h : WellTyped root (.dict keywords)) {keyword : String} {argument : Value}
    (hlookup : lookup? keyword keywords = some argument) : Fits root argument keyword := by
  cases h with
  | dict _ hfits _ => exact hfits keyword argument hlookup

/-- A schema that a schema holds is a part of it. -/
theorem Subschema.mem_parts {keywords : List (Value × Value)} {keyword : String}
    {argument s : Value} (hlookup : lookup? keyword keywords = some argument)
    (hs : Subschema keyword argument s) : s ∈ (Value.dict keywords).parts := by
  have hargument : argument ∈ (Value.dict keywords).parts :=
    Value.mem_parts_dict (Value.mem_of_lookup? hlookup)
  refine Value.parts_subset _ hargument ?_
  cases hs with
  | @entry _ _ k _ _ hmem => exact Value.mem_parts_dict hmem
  | additional => exact Value.self_mem_parts _
  | item => exact Value.self_mem_parts _
  | position hmem => exact Value.mem_parts_list hmem

theorem subschema_iff {keyword : String} {argument s : Value} :
    Subschema keyword argument s ↔
      (keyword = "definitions" ∨ keyword = "properties")
          ∧ (∃ entries k, argument = .dict entries ∧ (k, s) ∈ entries)
        ∨ keyword = "additionalProperties" ∧ argument = s
        ∨ keyword = "items" ∧ (argument = s ∧ (∀ schemas, s ≠ .list schemas)
          ∨ ∃ schemas, argument = .list schemas ∧ s ∈ schemas) := by
  constructor
  · rintro (⟨hkeyword, hmem⟩ | _ | hlist | hmem)
    · exact .inl ⟨by simpa using hkeyword, _, _, rfl, hmem⟩
    · exact .inr (.inl ⟨rfl, rfl⟩)
    · exact .inr (.inr ⟨rfl, .inl ⟨rfl, hlist⟩⟩)
    · exact .inr (.inr ⟨rfl, .inr ⟨_, rfl, hmem⟩⟩)
  · rintro (⟨hkeyword, _, _, rfl, hmem⟩ | ⟨rfl, rfl⟩ | ⟨rfl, ⟨rfl, hlist⟩ | ⟨_, rfl, hmem⟩⟩)
    · exact .entry (by simpa using hkeyword) hmem
    · exact .additional
    · exact .item hlist
    · exact .position hmem

theorem subschema_entries_iff {keyword : String} (h : keyword ∈ ["definitions", "properties"])
    {entries : List (Value × Value)} {s : Value} :
    Subschema keyword (.dict entries) s ↔ ∃ k, (k, s) ∈ entries := by
  refine ⟨fun hs => ?_, fun ⟨_, hmem⟩ => .entry h hmem⟩
  cases hs with
  | entry _ hmem => exact ⟨_, hmem⟩
  | additional => exact absurd h (by simp)
  | item => exact absurd h (by simp)

/-- What a keyword applies to a part of the data stands in its argument. -/
theorem Applies.subschema {keywords : List (Value × Value)} {argument data s v : Value}
    {keyword : String} (h : Applies keywords argument data s v keyword) :
    Subschema keyword argument s := by
  unfold Applies at h
  split at h
  · obtain ⟨properties, entries, name, rfl, rfl, hmem, _⟩ := h
    exact .entry (by simp) hmem
  · obtain ⟨rfl, _⟩ := h
    exact .additional
  · obtain ⟨items, rfl, ⟨rfl, hlist, _⟩ | ⟨schemas, n, rfl, hs, _⟩⟩ := h
    · exact .item hlist
    · exact .position (List.mem_of_getElem? hs)
  · exact h.elim

/-- A part of the data is finite, too, and nested less deeply. -/
theorem Applies.part_lt {keywords : List (Value × Value)} {argument data s v : Value}
    {keyword : String} (h : Applies keywords argument data s v keyword)
    (hdata : Value.IsFinite data) : Value.IsFinite v ∧ v.depth < data.depth := by
  unfold Applies at h
  split at h
  · obtain ⟨properties, entries, name, rfl, rfl, _, hv⟩ := h
    have hmem := Value.mem_of_lookup? hv
    exact ⟨hdata.entry hmem, Value.depth_entry_lt hmem⟩
  · obtain ⟨_, entries, key, rfl, hmem, _⟩ := h
    exact ⟨hdata.entry hmem, Value.depth_entry_lt hmem⟩
  · obtain ⟨items, rfl, hitem⟩ := h
    have hmem : v ∈ items := by
      rcases hitem with ⟨_, _, hmem⟩ | ⟨schemas, n, _, _, hv⟩
      · exact hmem
      · exact List.mem_of_getElem? hv
    exact ⟨hdata.item hmem, Value.depth_item_lt hmem⟩
  · exact h.elim

/-! ## Pointers -/

theorem mem_of_item? {items : List Value} {part : List Char} {v : Value}
    (h : item? items part = .ok (some v)) : v ∈ items := by
  obtain ⟨n, _, hn⟩ := bind_eq_ok_iff.1 h
  obtain ⟨_, hn⟩ := Option.ite_none_left_eq_some.1 (Except.ok.inj hn)
  exact List.mem_of_getElem? hn

/-- One step of a pointer, over one or two of its parts, leads to a schema that stands in the
first. -/
theorem Points.induction {motive : Value → Value → Prop} (here : ∀ s, motive s s)
    (step : ∀ keywords keyword argument s t, lookup? keyword keywords = some argument →
      Subschema keyword argument s → motive s t → motive (.dict keywords) t)
    {s t : Value} {parts : List (List Char)} (h : Points s parts t) : motive s t := by
  induction h with
  | here => exact here _
  | entry hgroup hentries hs _ ih =>
      exact step _ _ _ _ _ hentries (.entry hgroup (Value.mem_of_lookup? hs)) ih
  | @only _ keyword _ s _ hkeyword hs hlist _ ih =>
      rcases List.mem_cons.1 hkeyword with hkey | hkey
      · rw [hkey] at hs
        exact step _ _ _ _ _ hs .additional ih
      · rw [List.mem_singleton.1 hkey] at hs
        exact step _ _ _ _ _ hs (.item hlist) ih
  | position _ hschemas hitem _ ih =>
      exact step _ _ _ _ _ hschemas (.position (mem_of_item? hitem)) ih

theorem WellTyped.points {root s t : Value} {parts : List (List Char)} (hs : WellTyped root s)
    (h : Points s parts t) : WellTyped root t := by
  revert hs
  refine Points.induction (motive := fun s t => WellTyped root s → WellTyped root t)
    (fun _ hs => hs) ?_ h
  intro keywords keyword argument s t hlookup hsub ih hs
  exact ih (hs.subschema hlookup hsub)

theorem Points.mem_parts {s t : Value} {parts : List (List Char)} (h : Points s parts t) :
    t ∈ s.parts := by
  refine Points.induction (motive := fun s t => t ∈ s.parts) Value.self_mem_parts ?_ h
  intro keywords keyword argument s t hlookup hsub ih
  exact Value.parts_subset _ (hsub.mem_parts hlookup) ih

theorem WellTyped.names {root t : Value} (h : WellTyped root root) {text : String}
    (ht : Names root text t) : WellTyped root t := by
  cases ht with
  | whole => exact h
  | pointer hpoints => exact h.points hpoints

theorem Names.mem_parts {root t : Value} {text : String} (h : Names root text t) :
    t ∈ root.parts := by
  cases h with
  | whole => exact Value.self_mem_parts _
  | pointer hpoints => exact hpoints.mem_parts

/-! ## Following a pointer -/

theorem askIdentifier_eq {root s : Value} (h : WellTyped root s) : askIdentifier s = .ok () := by
  cases h with
  | bool b => rfl
  | dict _ _ _ => rfl

theorem follow_dict (fragment : String) (whole : Value) (steps : List (Option String))
    {part : List Char} (rest : List (List Char)) {entries : List (Value × Value)} {next : Value}
    (hlookup : lookup? (pointerKey part) entries = some next)
    (hask : askIdentifier next = .ok ()) :
    follow fragment whole steps (part :: rest) (.dict entries) =
      follow fragment whole (steps ++ [some (pointerKey part)]) rest next := by
  rw [follow]
  simp only [hlookup, hask, bind_ok, ite_self]

/-- Steps that lead to a schema: they do not make a place for schemas of a list behind them. -/
def LeadsOn (steps : List (Option String)) : Prop :=
  ∀ more, isSchemaPlace false more = false → isSchemaPlace false (steps ++ more) = false

theorem LeadsOn.append {steps last : List (Option String)} (h : LeadsOn steps)
    (hlast : LeadsOn last) : LeadsOn (steps ++ last) := by
  intro more hmore
  rw [List.append_assoc]
  exact h _ (hlast more hmore)

theorem leadsOn_entry {group : String} (h : group ∈ ["definitions", "properties"])
    (name : String) : LeadsOn [some group, some name] := by
  intro more hmore
  rcases List.mem_cons.1 h with rfl | h
  · exact hmore
  · rw [List.mem_singleton.1 h]
    exact hmore

theorem leadsOn_only {keyword : String} (h : keyword ∈ ["additionalProperties", "items"]) :
    LeadsOn [some keyword] := by
  intro more hmore
  rcases List.mem_cons.1 h with rfl | h
  · rw [List.singleton_append, isSchemaPlace.eq_def]
    exact hmore
  · rw [List.mem_singleton.1 h, List.singleton_append, isSchemaPlace.eq_def]
    rfl

/-- A pointer that leads to a schema is followed to it. -/
theorem follow_points {root s t : Value} {parts : List (List Char)} (h : Points s parts t)
    (hs : WellTyped root s) (fragment : String) (whole : Value) {steps : List (Option String)}
    (hsteps : LeadsOn steps) : follow fragment whole steps parts s = .ok t := by
  induction h generalizing steps with
  | here => rfl
  | @entry _ entries group name rest s t hgroup hentries hname _ ih =>
      have hsub := hs.subschema hentries (.entry hgroup (Value.mem_of_lookup? hname))
      rw [follow_dict fragment whole steps (name :: rest) hentries rfl,
        follow_dict fragment whole _ rest hname (askIdentifier_eq hsub), List.append_assoc]
      exact ih hsub (hsteps.append (leadsOn_entry hgroup _))
  | @only keywords keyword rest s t hkeyword hlookup hlist hpoints ih =>
      have hsub : WellTyped root s := by
        refine hs.points (.only hkeyword hlookup hlist .here)
      rw [follow_dict fragment whole steps rest hlookup (askIdentifier_eq hsub)]
      exact ih hsub (hsteps.append (leadsOn_only hkeyword))
  | @position keywords keyword part rest schemas s t hkeyword hschemas hitem hpoints ih =>
      have hsub : WellTyped root s := hs.points (.position hkeyword hschemas hitem .here)
      have hon : LeadsOn (steps ++ [some "items", none]) := hsteps.append fun more _ => rfl
      -- the list itself does not stand at a place for a schema
      have hplace := hsteps [some "items"] rfl
      rw [follow]
      simp only [hkeyword, hschemas, hplace, bind_ok, Bool.false_eq_true, if_false]
      rw [follow]
      simp only [hitem, askIdentifier_eq hsub, bind_ok, List.append_assoc, ite_self]
      exact ih hsub hon

/-- **A reference is followed to the schema that it names.** -/
theorem target_of_names {root t : Value} (h : WellTyped root root) {text : String}
    (ht : Names root text t) : target root (.str text) = .ok t := by
  cases ht with
  | whole => rfl
  | @pointer pointer _ hpoints =>
      have hstart : LeadsOn [] := fun more hmore => hmore
      rw [target, Reference.ofString_hash, bind_ok]
      exact follow_points hpoints h (String.ofList ('/' :: pointer)) root hstart

/-- A reference names one schema only. -/
theorem Names.unique {root s t : Value} {text : String} (hs : Names root text s)
    (h : WellTyped root root) (ht : Names root text t) : s = t := by
  have heq := (target_of_names h hs).symm.trans (target_of_names h ht)
  exact Except.ok.inj heq

/-! ## Definitions -/

/-- A text that stands for itself in a pointer. -/
def IsPlainName (name : List Char) : Prop :=
  Text.IsAscii name ∧ '%' ∉ name ∧ '~' ∉ name ∧ '/' ∉ name

theorem bytes_eq_encode {text : List Char} (h : '%' ∉ text) :
    unescaped.bytes text = Text.Utf8.encode text := by
  induction text with
  | nil => rfl
  | cons c text ih =>
      obtain ⟨hne, hrest⟩ := List.ne_and_not_mem_of_not_mem_cons h
      rw [Text.Utf8.encode, List.flatMap_cons, ← Text.Utf8.encode, ← ih hrest,
        unescaped.bytes.eq_2 _ _ fun _ _ _ hc => absurd hc.symm hne]

theorem tilde_eq {code meaning : Char} {text : List Char} (h : '~' ∉ text) :
    pointerKey.tilde code meaning text = text := by
  induction text with
  | nil => rfl
  | cons c text ih =>
      obtain ⟨hne, hrest⟩ := List.ne_and_not_mem_of_not_mem_cons h
      rw [pointerKey.tilde.eq_2 _ _ _ _ fun _ _ hc => absurd hc.symm hne, ih hrest]

/-- A definition can be referred to by its name. -/
theorem names_definition {keywords definitions : List (Value × Value)} {name : List Char}
    {s : Value} (hname : IsPlainName name)
    (hdefinitions : lookup? "definitions" keywords = some (.dict definitions))
    (hs : lookup? (String.ofList name) definitions = some s) :
    Names (.dict keywords) (String.ofList ("#/definitions/".toList ++ name)) s := by
  obtain ⟨_, hpercent, htilde, hslash⟩ := hname
  have hparts : Text.splitAt '/' (unescaped ("definitions/".toList ++ name)) =
      ["definitions".toList, name] := by
    have hdecode : Text.Utf8.decode (unescaped.bytes ("definitions/".toList ++ name)) =
        .ok ("definitions/".toList ++ name) := by
      rw [bytes_eq_encode (by simpa using hpercent)]
      exact Text.Utf8.decode_encode _
    rw [unescaped, Text.Utf8.decodeReplacing_of_decode hdecode]
    simp [Text.splitAt, Text.splitAt_eq_singleton hslash]
  have hpoints : Points (.dict keywords)
      (Text.splitAt '/' (unescaped ("definitions/".toList ++ name))) s := by
    rw [hparts]
    refine .entry (by decide) hdefinitions ?_ .here
    rw [pointerKey, tilde_eq htilde, tilde_eq htilde, hs]
  exact .pointer hpoints

/-! ## Soundness -/

/-- A mapping is well typed if each of its entries is. -/
theorem WellTyped.of_entries {root : Value} {keywords : List (Value × Value)}
    (hdistinct : Value.DistinctKeys keywords)
    (h : ∀ e ∈ keywords, ∀ keyword, e.1 = .str keyword →
      Fits root e.2 keyword ∧ ∀ s, Subschema keyword e.2 s → WellTyped root s) :
    WellTyped root (.dict keywords) := by
  have hentry {keyword : String} {argument : Value}
      (hlookup : lookup? keyword keywords = some argument) :=
    h _ (Value.mem_of_lookup? hlookup) keyword rfl
  exact .dict hdistinct (fun _ _ hlookup => (hentry hlookup).1)
    fun _ _ s hlookup => (hentry hlookup).2 s

/-- A schema is sound if its references lead to schemas that are no references. -/
theorem WellTyped.isSound {root : Value} (h : WellTyped root root)
    (hdirect : ∀ keywords text, .dict keywords ∈ root.parts →
      lookup? "$ref" keywords = some (.str text) →
      ∃ others, Names root text (.dict others) ∧ lookup? "$ref" others = none) :
    IsSound root := by
  refine ⟨h, fun s hcycle => ?_⟩
  obtain ⟨t, hst, hback⟩ := Relation.TransGen.head'_iff.1 hcycle
  obtain ⟨_, _, hlast⟩ := Relation.TransGen.tail'_iff.1 hcycle
  obtain ⟨_, _, _, _, hnames⟩ := hlast
  obtain ⟨keywords, text, rfl, hlookup, ht⟩ := hst
  obtain ⟨others, hothers, hnone⟩ := hdirect keywords text hnames.mem_parts hlookup
  rw [ht.unique h hothers] at hback
  rcases hback.cases_head with heq | ⟨_, ⟨_, _, hother, hon, _⟩, _⟩
  · cases heq
    rw [hnone] at hlookup
    cases hlookup
  · cases hother
    rw [hnone] at hon
    cases hon

/-! ## Satisfaction -/

theorem satisfies_reference_iff {root s t data : Value} (h : WellTyped root root)
    (hst : Refers root s t) : Satisfies root s data ↔ Satisfies root t data := by
  obtain ⟨keywords, text, rfl, hlookup, hnames⟩ := hst
  refine ⟨fun hs => ?_, .reference ⟨keywords, text, rfl, hlookup, hnames⟩⟩
  cases hs with
  | reference hrefers ht =>
      obtain ⟨_, other, ⟨⟩, hother, hothers⟩ := hrefers
      rw [hlookup] at hother
      cases hother
      rwa [hnames.unique h hothers]
  | keywords href _ _ =>
      rw [hlookup] at href
      cases href

end PackageGate.Schema
