import Mathlib.Data.List.Forall2
import PackageGate.Checklist.Load
import PackageGate.Proofs.Checklist.Found

/-!
# Values that write down a draft

`Writes cells v d` says that a value has the parts of a checklist document, and that the draft `d`
is what stands in them. A value in which the check finds nothing writes down some draft
(`exists_writes`), and a value that writes down a draft is read as this draft (`ofValue_of_writes`).

The second needs that no rule is named twice, since the check looks at the first of them only, while
all are read.
-/

namespace PackageGate

open Value (lookup? DistinctKeys)

/-! ## What is written -/

/-- A value is a text. -/
def WritesText (cells : Cells) (v : Value) (text : String) : Prop := v.resolve cells = .str text

/-- A value is a list of what the items write. -/
def WritesList {α : Type} (cells : Cells) (item : Value → α → Prop) (v : Value) (l : List α) :
    Prop :=
  ∃ items, v.resolve cells = .list items ∧ List.Forall₂ item items l

/-- A mapping has a part. -/
def HasPart {α : Type} (entries : List (Value × Value)) (key : String) (part : Value → α → Prop)
    (a : α) : Prop :=
  ∃ v, lookup? key entries = some v ∧ part v a

/-- A value is a mapping with the marker and the label of a feature. -/
def WritesFeature (cells : Cells) (v : Value) (f : Feature) : Prop :=
  ∃ entries, v.resolve cells = .dict entries
    ∧ HasPart entries "marker" (WritesText cells) f.marker
    ∧ HasPart entries "label" (WritesText cells) f.label

namespace Rules

/-- The names of the rules in a document. -/
def names : List String := ["type_keyword", "sentinel_symbol", "required_directive"]

/-- The word of the rule with a name. -/
def word (r : Rules) : String → String
  | "type_keyword" => r.typeKeyword
  | "sentinel_symbol" => r.sentinelSymbol
  | _ => r.requiredDirective

theorem ext_word {r s : Rules} (h : ∀ n ∈ names, r.word n = s.word n) : r = s := by
  have hkeyword : r.typeKeyword = s.typeKeyword := h "type_keyword" (by decide)
  have hsymbol : r.sentinelSymbol = s.sentinelSymbol := h "sentinel_symbol" (by decide)
  have hdirective : r.requiredDirective = s.requiredDirective :=
    h "required_directive" (by decide)
  cases r
  cases s
  simp_all

end Rules

/-- A mapping has the words of the rules that it names, and the others have their usual ones. -/
def WritesRules (cells : Cells) (v : Value) (r : Rules) : Prop :=
  ∃ named, v.resolve cells = .dict named
    ∧ (∀ e ∈ named, ∃ n ∈ Rules.names, e.1 = .str n)
    ∧ ∀ n ∈ Rules.names,
        (lookup? n named = none → r.word n = ({} : Rules).word n)
        ∧ ∀ w, lookup? n named = some w → WritesText cells w (r.word n)

/-- A value has the parts of a checklist document, in which a draft stands. -/
structure WritesParts (cells : Cells) (entries : List (Value × Value)) (d : Draft) : Prop where
  name : HasPart entries "name" (WritesText cells) d.name
  manifest : HasPart entries "manifest" (WritesList cells (WritesText cells)) d.manifest
  primaryFile : HasPart entries "primary_file" (WritesText cells) d.primaryFile
  features : HasPart entries "features" (WritesList cells (WritesFeature cells)) d.features
  /-- The rules may be left out. -/
  noRules : lookup? "rules" entries = none → d.rules = {}
  rules : ∀ v, lookup? "rules" entries = some v → WritesRules cells v d.rules

/-- A value writes down a draft. -/
def Writes (cells : Cells) (v : Value) (d : Draft) : Prop :=
  ∃ entries, v.resolve cells = .dict entries ∧ WritesParts cells entries d

/-! ## Values in which nothing is found -/

namespace Checklist

theorem exists_forall₂ {α β : Type} {related : α → β → Prop} {l : List α}
    (h : ∀ a ∈ l, ∃ b, related a b) : ∃ l', List.Forall₂ related l l' := by
  induction l with
  | nil => exact ⟨[], .nil⟩
  | cons a l ih =>
      obtain ⟨b, hb⟩ := h a List.mem_cons_self
      obtain ⟨l', hl'⟩ := ih fun x hx => h x (List.mem_cons_of_mem a hx)
      exact ⟨b :: l', .cons hb hl'⟩

theorem exists_text {cells : Cells} {path : List Schema.Segment} {v : Value}
    (h : foundText cells path v = []) : ∃ text, WritesText cells v text := by
  obtain ⟨text, htext, _⟩ := (foundText_eq_nil_iff cells path v).1 h
  exact ⟨text, htext⟩

theorem exists_list {α : Type} (cells : Cells) (nonempty : Bool) (item : Finder)
    (writes : Value → α → Prop) (hitem : ∀ {path v}, item path v = [] → ∃ a, writes v a)
    {path : List Schema.Segment} {v : Value} (h : foundList cells nonempty item path v = []) :
    ∃ l, WritesList cells writes v l := by
  obtain ⟨items, hitems, _, hfound⟩ := (foundList_eq_nil_iff cells nonempty item path v).1 h
  have hwrites : ∀ w ∈ items, ∃ a, writes w a := by
    intro w hw
    obtain ⟨n, hn, hget⟩ := List.getElem_of_mem hw
    refine hitem (hfound (w, n) ?_)
    rw [← hget]
    exact List.mk_mem_zipIdx_iff_getElem?.2 (List.getElem?_eq_getElem hn)
  obtain ⟨l, hl⟩ := exists_forall₂ hwrites
  exact ⟨l, items, hitems, hl⟩

/-- A part that has to be there and in which nothing is found. -/
theorem exists_part {α : Type} {entries : List (Value × Value)} {required : List String}
    {parts : List (String × Finder)} {path : List Schema.Segment}
    (hrequired : ∀ n ∈ required, ∃ v, lookup? n entries = some v)
    (hparts : ∀ p ∈ parts, ∀ v, lookup? p.1 entries = some v →
      p.2 (path ++ [.key (.str p.1)]) v = [])
    (key : String) (finder : Finder) (hkey : key ∈ required) (hmem : (key, finder) ∈ parts)
    (part : Value → α → Prop) (hpart : ∀ {path v}, finder path v = [] → ∃ a, part v a) :
    ∃ a, HasPart entries key part a := by
  obtain ⟨v, hv⟩ := hrequired key hkey
  obtain ⟨a, ha⟩ := hpart (hparts (key, finder) hmem v hv)
  exact ⟨a, v, hv, ha⟩

theorem exists_feature {cells : Cells} {path : List Schema.Segment} {v : Value}
    (h : foundFeature cells path v = []) : ∃ f, WritesFeature cells v f := by
  obtain ⟨entries, hentries, hrequired, _, hparts⟩ := (foundObject_eq_nil_iff _ _ _ _ _).1 h
  obtain ⟨marker, hmarker⟩ := exists_part hrequired hparts "marker" (foundText cells) (by simp)
    (by simp) (WritesText cells) exists_text
  obtain ⟨label, hlabel⟩ := exists_part hrequired hparts "label" (foundText cells) (by simp)
    (by simp) (WritesText cells) exists_text
  exact ⟨⟨marker, label⟩, entries, hentries, hmarker, hlabel⟩

theorem exists_rules {cells : Cells} {path : List Schema.Segment} {v : Value}
    (h : foundRules cells path v = []) : ∃ r, WritesRules cells v r := by
  obtain ⟨named, hnamed, _, hnames, hparts⟩ := (foundObject_eq_nil_iff _ _ _ _ _).1 h
  have hword : ∀ n, (n, foundText cells) ∈ [("type_keyword", foundText cells),
      ("sentinel_symbol", foundText cells), ("required_directive", foundText cells)] →
      ∃ word, (lookup? n named = none → word = ({} : Rules).word n)
        ∧ ∀ w, lookup? n named = some w → WritesText cells w word := by
    intro n hn
    cases hlookup : lookup? n named with
    | none =>
        -- a rule that is not named has its usual word
        exact ⟨_, fun _ => rfl, fun w hw => by cases hw⟩
    | some w =>
        obtain ⟨text, htext⟩ := exists_text (hparts _ hn w hlookup)
        refine ⟨text, fun hnone => (by cases hnone), fun u hu => ?_⟩
        cases hu
        exact htext
  obtain ⟨keyword, hkeyword⟩ := hword "type_keyword" (by simp)
  obtain ⟨symbol, hsymbol⟩ := hword "sentinel_symbol" (by simp)
  obtain ⟨directive, hdirective⟩ := hword "required_directive" (by simp)
  refine ⟨⟨keyword, symbol, directive⟩, named, hnamed, hnames, fun n hn => ?_⟩
  simp only [Rules.names, List.mem_cons, List.not_mem_nil, or_false] at hn
  rcases hn with rfl | rfl | rfl
  · exact hkeyword
  · exact hsymbol
  · exact hdirective

/-- **A value in which nothing is found writes down a draft.** -/
theorem exists_writes {cells : Cells} {v : Value} (h : found cells v = []) :
    ∃ d, Writes cells v d := by
  obtain ⟨entries, hentries, hrequired, _, hparts⟩ := (foundObject_eq_nil_iff _ _ _ _ _).1 h
  obtain ⟨name, hname⟩ := exists_part hrequired hparts "name" (foundText cells) (by simp)
    (by simp) (WritesText cells) exists_text
  obtain ⟨manifest, hmanifest⟩ := exists_part hrequired hparts "manifest"
    (foundList cells true (foundText cells)) (by simp) (by simp)
    (WritesList cells (WritesText cells))
    (exists_list cells true (foundText cells) (WritesText cells) exists_text)
  obtain ⟨primaryFile, hprimaryFile⟩ := exists_part hrequired hparts "primary_file"
    (foundText cells) (by simp) (by simp) (WritesText cells) exists_text
  obtain ⟨features, hfeatures⟩ := exists_part hrequired hparts "features"
    (foundList cells false (foundFeature cells)) (by simp) (by simp)
    (WritesList cells (WritesFeature cells))
    (exists_list cells false (foundFeature cells) (WritesFeature cells) exists_feature)
  obtain ⟨rules, hnone, hsome⟩ : ∃ r, (lookup? "rules" entries = none → r = ({} : Rules))
      ∧ ∀ w, lookup? "rules" entries = some w → WritesRules cells w r := by
    cases hlookup : lookup? "rules" entries with
    | none => exact ⟨{}, fun _ => rfl, fun w hw => by cases hw⟩
    | some w =>
        have hw : foundRules cells ([] ++ [.key (.str "rules")]) w = [] :=
          hparts ("rules", foundRules cells) (by simp) w hlookup
        obtain ⟨r, hr⟩ := exists_rules hw
        refine ⟨r, fun hnone => (by cases hnone), fun u hu => ?_⟩
        cases hu
        exact hr
  exact ⟨⟨name, manifest, primaryFile, features, rules⟩, entries, hentries, hname, hmanifest,
    hprimaryFile, hfeatures, hnone, hsome⟩

/-! ## Reading -/

theorem mapM_eq_ok {ε α β : Type} {f : α → Except ε β} {l : List α} {l' : List β}
    (h : List.Forall₂ (fun a b => f a = .ok b) l l') : l.mapM f = .ok l' := by
  induction h with
  | nil => rfl
  | cons hab _ ih =>
      rw [List.mapM_cons, hab, ih]
      rfl

theorem mapM_map_eq_ok {ε α β : Type} {f : β → Except ε α} {g : α → β}
    (h : ∀ a, f (g a) = .ok a) (l : List α) : (l.map g).mapM f = .ok l := by
  induction l with
  | nil => rfl
  | cons a l ih =>
      rw [List.map_cons, List.mapM_cons, h, ih]
      rfl

theorem part_eq_ok {entries : List (Value × Value)} {key : String} {v : Value}
    (h : lookup? key entries = some v) : Description.part entries key = .ok v := by
  rw [Description.part, h]

/-- The texts of a list, seen through references. -/
theorem resolve_texts {cells : Cells} {items : List Value} {texts : List String}
    (h : List.Forall₂ (WritesText cells) items texts) :
    items.map (Value.resolve cells) = texts.map .str := by
  induction h with
  | nil => rfl
  | cons htext _ ih =>
      rw [List.map_cons, List.map_cons, htext, ih]

/-- The pair that a feature is read as. -/
def pairOf (f : Feature) : Value × Value := (.str f.marker, .str f.label)

theorem describedFeature_eq {cells : Cells} {v : Value} {f : Feature}
    (h : WritesFeature cells v f) :
    Description.describedFeature cells (v.resolve cells) = .ok (pairOf f) := by
  obtain ⟨entries, hentries, ⟨marker, hmarker, hm⟩, label, hlabel, hl⟩ := h
  rw [hentries, Description.describedFeature, part_eq_ok hmarker, part_eq_ok hlabel, bind_ok,
    bind_ok, hm, hl]
  rfl

theorem mapM_describedFeature {cells : Cells} {items : List Value} {features : List Feature}
    (h : List.Forall₂ (WritesFeature cells) items features) :
    (items.map (Value.resolve cells)).mapM (Description.describedFeature cells) =
      .ok (features.map pairOf) := by
  refine mapM_eq_ok ?_
  induction h with
  | nil => exact .nil
  | cons hf _ ih => exact .cons (describedFeature_eq hf) ih

theorem toldApart_texts (texts : List String) :
    Description.toldApart (texts.map .str) = .ok () := by
  induction texts with
  | nil => rfl
  | cons text texts ih => exact ih

/-- Setting the word of a rule changes that word only. -/
theorem setAll_cons (start : Rules) {name : String} (hname : name ∈ Rules.names) (word : String) :
    ∃ next : Rules, (∀ n ∈ Rules.names, next.word n = if n = name then word else start.word n)
      ∧ ∀ rest, start.setAll ((name, word) :: rest) = next.setAll rest := by
  simp only [Rules.names, List.mem_cons, List.not_mem_nil, or_false] at hname
  rcases hname with rfl | rfl | rfl
  · exact ⟨{ start with typeKeyword := word }, by simp [Rules.names, Rules.word], fun _ => rfl⟩
  · exact ⟨{ start with sentinelSymbol := word }, by simp [Rules.names, Rules.word],
      fun _ => rfl⟩
  · exact ⟨{ start with requiredDirective := word }, by simp [Rules.names, Rules.word],
      fun _ => rfl⟩

/-- Words under the names of rules can be set. -/
theorem setAll_ok (words : List (String × String)) (h : ∀ w ∈ words, w.1 ∈ Rules.names)
    (start : Rules) : ∃ r, start.setAll words = .ok r := by
  induction words generalizing start with
  | nil => exact ⟨start, rfl⟩
  | cons w words ih =>
      obtain ⟨next, _, hset⟩ := setAll_cons start (h w List.mem_cons_self) w.2
      rw [hset]
      exact ih (fun x hx => h x (List.mem_cons_of_mem w hx)) next

/-- The words of some rules are set, and the others have been the same before. -/
theorem setAll_eq {r : Rules} {words : List (String × String)}
    (h : ∀ w ∈ words, w.1 ∈ Rules.names ∧ w.2 = r.word w.1) (start : Rules)
    (hstart : ∀ n ∈ Rules.names, n ∉ words.map (·.1) → start.word n = r.word n) :
    start.setAll words = .ok r := by
  induction words generalizing start with
  | nil =>
      rw [Rules.setAll, Rules.ext_word fun n hn => hstart n hn List.not_mem_nil]
  | cons w words ih =>
      obtain ⟨hname, hword⟩ := h w List.mem_cons_self
      obtain ⟨next, hnext, hset⟩ := setAll_cons start hname w.2
      rw [hset]
      refine ih (fun x hx => h x (List.mem_cons_of_mem w hx)) next fun n hn hrest => ?_
      rw [hnext n hn]
      -- the word that has just been set is the right one, so it need not be set again
      by_cases heq : n = w.1
      · rw [if_pos heq, hword, heq]
      · rw [if_neg heq]
        refine hstart n hn fun hmem => ?_
        rw [List.map_cons, List.mem_cons] at hmem
        exact hmem.elim heq hrest

/-- An entry of a mapping names a rule and its word. -/
structure NamesRule (cells : Cells) (r : Rules) (e : Value × Value) (w : String × String) :
    Prop where
  key : e.1 = .str w.1
  text : WritesText cells e.2 w.2
  mem : w.1 ∈ Rules.names
  word : w.2 = r.word w.1

/-- The entries of a mapping that names rules, each once. -/
theorem exists_words {cells : Cells} {r : Rules} {named : List (Value × Value)}
    (hnames : ∀ e ∈ named, ∃ n ∈ Rules.names, e.1 = .str n)
    (hwords : ∀ n ∈ Rules.names, ∀ w, lookup? n named = some w → WritesText cells w (r.word n))
    (hkeys : DistinctKeys named) :
    ∃ words, List.Forall₂ (NamesRule cells r) named words := by
  refine exists_forall₂ fun e he => ?_
  obtain ⟨n, hn, hkey⟩ := hnames e he
  have hentry : lookup? n named = some e.2 := by
    refine Value.lookup?_of_mem hkeys ?_
    rw [← hkey]
    exact he
  exact ⟨(n, r.word n), hkey, hwords n hn e.2 hentry, hn, rfl⟩

theorem ruleNames_eq {cells : Cells} {r : Rules} {named : List (Value × Value)}
    {words : List (String × String)} (h : List.Forall₂ (NamesRule cells r) named words) :
    ∃ l, Description.ruleNames named = .ok l
      ∧ (l.map fun x => (x.1, x.2.resolve cells)) = words.map (fun w => (w.1, .str w.2))
      ∧ l.map (fun x => (x.1, "")) = words.map fun w => (w.1, "") := by
  induction h with
  | nil => exact ⟨[], rfl, rfl, rfl⟩
  | @cons e w named words hew _ ih =>
      obtain ⟨l, hl, hresolve, hblank⟩ := ih
      obtain ⟨k, v⟩ := e
      have hkey : k = .str w.1 := hew.key
      have htext : v.resolve cells = .str w.2 := hew.text
      rw [hkey, Description.ruleNames, hl]
      refine ⟨(w.1, v) :: l, rfl, ?_, ?_⟩
      · rw [List.map_cons, List.map_cons, hresolve, htext]
      · rw [List.map_cons, List.map_cons, hblank]

theorem forall₂_right {α β : Type} {related : α → β → Prop} {l : List α} {l' : List β}
    (h : List.Forall₂ related l l') : ∀ b ∈ l', ∃ a ∈ l, related a b := by
  induction h with
  | nil => exact fun b hb => absurd hb List.not_mem_nil
  | @cons a b l l' hab _ ih =>
      intro x hx
      rcases List.mem_cons.1 hx with rfl | hx
      · exact ⟨a, List.mem_cons_self, hab⟩
      · obtain ⟨y, hy, hyx⟩ := ih x hx
        exact ⟨y, List.mem_cons_of_mem a hy, hyx⟩

/-- Rules that are named once each are read with their words. -/
theorem ofWords_eq {cells : Cells} {r : Rules} {named : List (Value × Value)}
    {words : List (String × String)} (h : List.Forall₂ (NamesRule cells r) named words)
    (husual : ∀ n ∈ Rules.names, lookup? n named = none → r.word n = ({} : Rules).word n) :
    Rules.ofWords words = .ok r := by
  refine setAll_eq (fun w hw => ?_) {} fun n hn hout => ?_
  · obtain ⟨e, _, hew⟩ := forall₂_right h w hw
    exact ⟨hew.mem, hew.word⟩
  · cases hlookup : lookup? n named with
    | none => exact (husual n hn hlookup).symm
    | some v =>
        -- a rule that is named is among those whose words are set
        exfalso
        obtain ⟨w, hw, hew⟩ := forall₂_right h.flip _ (Value.mem_of_lookup? hlookup)
        refine hout (List.mem_map.2 ⟨w, hw, ?_⟩)
        have hkey : Value.str n = .str w.1 := hew.key
        exact (Value.str.inj hkey).symm

theorem describedRules_eq {cells : Cells} {entries : List (Value × Value)} {r : Rules}
    (hnone : lookup? "rules" entries = none → r = {})
    (hsome : ∀ v, lookup? "rules" entries = some v → WritesRules cells v r)
    (hdistinct : ∀ v named, lookup? "rules" entries = some v → v.resolve cells = .dict named →
      DistinctKeys named) :
    ∃ words, Description.describedRules cells entries =
        .ok (words.map fun w => (w.1, .str w.2))
      ∧ Rules.ofWords words = .ok r := by
  unfold Description.describedRules
  cases hlookup : lookup? "rules" entries with
  | none =>
      rw [hnone hlookup]
      exact ⟨[], rfl, rfl⟩
  | some v =>
      obtain ⟨named, hnamed, hnames, hwords⟩ := hsome v hlookup
      obtain ⟨words, hpairs⟩ := exists_words hnames (fun n hn => (hwords n hn).2)
        (hdistinct v named hlookup hnamed)
      obtain ⟨l, hl, hresolve, hblank⟩ := ruleNames_eq hpairs
      refine ⟨words, ?_, ofWords_eq hpairs fun n hn => (hwords n hn).1⟩
      -- the names are looked at first, without their words
      have hblanks : ∀ x ∈ words.map (fun w => (w.1, "")), x.1 ∈ Rules.names := by
        intro x hx
        obtain ⟨w, hw, rfl⟩ := List.mem_map.1 hx
        obtain ⟨e, _, hew⟩ := forall₂_right hpairs w hw
        exact hew.mem
      obtain ⟨_, hset⟩ := setAll_ok _ hblanks {}
      rw [Option.map_some, hnamed]
      dsimp only
      rw [hl, bind_ok, hblank, Rules.ofWords, hset]
      dsimp only
      rw [hresolve]

/-- The description of a draft whose rules are named by some words. -/
def descriptionOf (d : Draft) (words : List (String × String)) : Description where
  name := .str d.name
  manifest := d.manifest.map .str
  primaryFile := .str d.primaryFile
  features := d.features.map pairOf
  rules := words.map fun w => (w.1, .str w.2)

/-- What is read of a value that writes down a draft. -/
theorem description_eq {cells : Cells} {v : Value} {entries : List (Value × Value)} {d : Draft}
    (hentries : v.resolve cells = .dict entries) (hparts : WritesParts cells entries d)
    {words : List (String × String)}
    (hrules : Description.describedRules cells entries =
      .ok (words.map fun w => (w.1, .str w.2))) :
    Description.ofValue cells v = .ok (descriptionOf d words) := by
  obtain ⟨name, hname, htext⟩ := hparts.name
  obtain ⟨manifest, hmanifest, items, hitems, hfiles⟩ := hparts.manifest
  obtain ⟨primaryFile, hprimaryFile, hprimary⟩ := hparts.primaryFile
  obtain ⟨features, hfeatures, marked, hmarked, hmarks⟩ := hparts.features
  rw [Description.ofValue, hentries]
  dsimp only
  rw [hrules, bind_ok, part_eq_ok hname, bind_ok, part_eq_ok hmanifest, bind_ok, hitems,
    Description.itemsOf, resolve_texts hfiles, bind_ok, part_eq_ok hprimaryFile, bind_ok,
    part_eq_ok hfeatures, bind_ok, hmarked, Description.itemsOf, bind_ok,
    mapM_describedFeature hmarks, bind_ok, toldApart_texts, bind_ok, htext, hprimary]
  rfl

/-- The description of a draft is that draft. -/
theorem toDraft_eq {d : Draft} {words : List (String × String)}
    (hwords : Rules.ofWords words = .ok d.rules) : (descriptionOf d words).toDraft = .ok d := by
  rw [Description.toDraft, descriptionOf]
  dsimp only
  rw [mapM_map_eq_ok, Description.textOf, bind_ok, bind_ok, Description.textOf, bind_ok,
    mapM_map_eq_ok, bind_ok, mapM_map_eq_ok, bind_ok, hwords]
  · rfl
  · exact fun _ => rfl
  · exact fun _ => rfl
  · exact fun _ => rfl

/-- A value that writes down a draft is described as this draft, if no key in it occurs twice. -/
theorem exists_words_of_writes {cells : Cells} {v : Value} {d : Draft} (h : Writes cells v d)
    (hv : v.WellKeyed) (hcells : ∀ c ∈ cells, c.WellKeyed) :
    ∃ words, Description.ofValue cells v = .ok (descriptionOf d words)
      ∧ Rules.ofWords words = .ok d.rules := by
  obtain ⟨entries, hentries, hparts⟩ := h
  have hkeyed : (Value.dict entries).WellKeyed := by
    rw [← hentries]
    exact hv.resolve hcells
  -- the rules are a mapping of the document, wherever the part refers to
  have hdistinct : ∀ w named, lookup? "rules" entries = some w →
      w.resolve cells = .dict named → DistinctKeys named := by
    intro w named hw hnamed
    have hrules := (hkeyed.entry (Value.mem_of_lookup? hw)).resolve hcells
    rw [hnamed] at hrules
    exact hrules.distinctKeys
  obtain ⟨words, hrules, hwords⟩ := describedRules_eq hparts.noRules hparts.rules hdistinct
  exact ⟨words, description_eq hentries hparts hrules, hwords⟩

/-- **A value that writes down a draft is read as this draft**, if no key in it occurs twice. -/
theorem ofValue_of_writes {cells : Cells} {v : Value} {d : Draft} (h : Writes cells v d)
    (hv : v.WellKeyed) (hcells : ∀ c ∈ cells, c.WellKeyed) : Draft.ofValue cells v = .ok d := by
  obtain ⟨words, he, hwords⟩ := exists_words_of_writes h hv hcells
  rw [Draft.ofValue, he, bind_ok, toDraft_eq hwords]

end Checklist

end PackageGate
