import PackageGate.Proofs.Checklist.Load

/-!
# Shape and reading agree

The shape of checklist documents and the reading of them are written apart from each other. They
agree: a document that the check says nothing about is always read, and what is read is the one
draft that it writes down (`reading_agrees`). Only a manifest with an entry twice or without the
primary file can still keep the draft from being a checklist.

The problems of a description, whose entries are values, are those of the draft, whose entries are
texts.
-/

namespace PackageGate

open Value (lookup?)
open Relator (RightUnique)

/-! ## One draft only -/

theorem rightUnique_text (cells : Cells) : RightUnique (WritesText cells) := by
  intro v s t hs ht
  rw [WritesText] at hs ht
  rw [hs] at ht
  exact Value.str.inj ht

theorem rightUnique_list {α : Type} {cells : Cells} {item : Value → α → Prop}
    (h : RightUnique item) : RightUnique (WritesList cells item) := by
  rintro v l m ⟨items, hitems, hl⟩ ⟨others, hothers, hm⟩
  rw [hitems] at hothers
  cases hothers
  exact h.forall₂ hl hm

theorem HasPart.unique {α : Type} {entries : List (Value × Value)} {key : String}
    {part : Value → α → Prop} (h : RightUnique part) {a b : α} (ha : HasPart entries key part a)
    (hb : HasPart entries key part b) : a = b := by
  obtain ⟨v, hv, hva⟩ := ha
  obtain ⟨w, hw, hwb⟩ := hb
  rw [hv] at hw
  cases hw
  exact h hva hwb

theorem rightUnique_feature (cells : Cells) : RightUnique (WritesFeature cells) := by
  rintro v ⟨marker, label⟩ ⟨marker', label'⟩ ⟨entries, hentries, hmarker, hlabel⟩
    ⟨others, hothers, hmarker', hlabel'⟩
  rw [hentries] at hothers
  cases hothers
  congr
  · exact hmarker.unique (rightUnique_text cells) hmarker'
  · exact hlabel.unique (rightUnique_text cells) hlabel'

theorem rightUnique_rules (cells : Cells) : RightUnique (WritesRules cells) := by
  rintro v r s ⟨named, hnamed, _, hr⟩ ⟨others, hothers, _, hs⟩
  rw [hnamed] at hothers
  cases hothers
  refine Rules.ext_word fun n hn => ?_
  cases hlookup : lookup? n named with
  | none => rw [(hr n hn).1 hlookup, (hs n hn).1 hlookup]
  | some w => exact rightUnique_text cells ((hr n hn).2 w hlookup) ((hs n hn).2 w hlookup)

/-- A value writes down one draft only. -/
theorem Writes.unique {cells : Cells} {v : Value} {d e : Draft} (hd : Writes cells v d)
    (he : Writes cells v e) : d = e := by
  obtain ⟨entries, hentries, hd⟩ := hd
  obtain ⟨others, hothers, he⟩ := he
  rw [hentries] at hothers
  cases hothers
  have htext := rightUnique_text cells
  have hrules : d.rules = e.rules := by
    cases hlookup : lookup? "rules" entries with
    | none => rw [hd.noRules hlookup, he.noRules hlookup]
    | some v => exact rightUnique_rules cells (hd.rules v hlookup) (he.rules v hlookup)
  have hname := hd.name.unique htext he.name
  have hmanifest := hd.manifest.unique (rightUnique_list htext) he.manifest
  have hprimary := hd.primaryFile.unique htext he.primaryFile
  have hfeatures := hd.features.unique (rightUnique_list (rightUnique_feature cells)) he.features
  cases d
  cases e
  dsimp only at hname hmanifest hprimary hfeatures hrules
  rw [hname, hmanifest, hprimary, hfeatures, hrules]

/-! ## Problems -/

namespace Draft

/-- Entries that are spelled differently are repeated where they are. -/
theorem repeated_map {α β : Type} {same : α → α → Bool} {same' : β → β → Bool} {f : α → β}
    (h : ∀ a b, same' (f a) (f b) = same a b) (seen entries : List α) :
    repeated same' (seen.map f) (entries.map f) = (repeated same seen entries).map f := by
  induction entries generalizing seen with
  | nil => rfl
  | cons a entries ih =>
      have hany : (seen.map f).any (same' · (f a)) = seen.any (same · a) := by
        simp only [List.any_map, Function.comp_def, h]
      rw [List.map_cons, repeated, repeated, hany]
      split
      · rw [ih, List.map_cons]
      · exact ih (a :: seen)

theorem problemsOf_map {α β : Type} {same : α → α → Bool} {same' : β → β → Bool} {f : α → β}
    (h : ∀ a b, same' (f a) (f b) = same a b) {text : α → String} {text' : β → String}
    (htext : ∀ a, text' (f a) = text a) (manifest : List α) (primaryFile : α) :
    problemsOf same' text' (manifest.map f) (f primaryFile) =
      problemsOf same text manifest primaryFile := by
  have hrepeated := repeated_map h [] manifest
  have hany : (manifest.map f).any (same' · (f primaryFile)) =
      manifest.any (same · primaryFile) := by
    simp only [List.any_map, Function.comp_def, h]
  rw [List.map_nil] at hrepeated
  rw [problemsOf, problemsOf, hrepeated, hany, List.map_map, List.isEmpty_map, htext]
  simp only [Function.comp_def, htext]

end Draft

namespace Checklist

/-- The messages about a description of texts are those about the draft. -/
theorem messages_descriptionOf (cells : Cells) (d : Draft) (words : List (String × String)) :
    (descriptionOf d words).messages cells = d.messages := by
  have hproblems : (descriptionOf d words).problems cells = d.problems :=
    Draft.problemsOf_map Value.sameKey_str_str (fun _ => rfl) d.manifest d.primaryFile
  rw [Description.messages, hproblems]
  rfl

/-- The check of a draft fails for what is wrong with its files only. -/
theorem check_eq (d : Draft) (hfiles : d.manifest ≠ []) :
    (d.manifest.Nodup ∧ d.primaryFile ∈ d.manifest → ∃ c, d.check = .ok c ∧ c.toDraft = d)
      ∧ (¬(d.manifest.Nodup ∧ d.primaryFile ∈ d.manifest) →
          d.check = .error d.problems ∧ d.problems ≠ []) := by
  have hiff := d.problems_eq_nil_iff
  refine ⟨fun h => ?_, fun h => ?_⟩
  · rw [Draft.check, dif_pos (hiff.2 ⟨hfiles, h⟩)]
    exact ⟨_, rfl, rfl⟩
  · have hproblems : d.problems ≠ [] := fun hnil => h (hiff.1 hnil).2
    rw [Draft.check, dif_neg hproblems]
    exact ⟨rfl, hproblems⟩

/-- A checklist is made of its draft. -/
theorem check_toDraft (c : Checklist) : c.toDraft.check = .ok c := by
  obtain ⟨d, hne, hnodup, hmem⟩ := c
  obtain ⟨e, hcheck, he⟩ := (check_eq d hne).1 ⟨hnodup, hmem⟩
  obtain ⟨_, _, _, _⟩ := e
  cases he
  exact hcheck

/-- A manifest in which nothing is found has an entry. -/
theorem manifest_ne_nil_of_found {cells : Cells} {v : Value} {d : Draft}
    (hfound : found cells v = []) (h : Writes cells v d) : d.manifest ≠ [] := by
  obtain ⟨entries, hentries, hparts⟩ := h
  obtain ⟨others, hothers, _, _, hall⟩ := (foundObject_eq_nil_iff _ _ _ _ _).1 hfound
  rw [hentries] at hothers
  cases hothers
  obtain ⟨manifest, hlookup, items, hitems, htexts⟩ := hparts.manifest
  obtain ⟨others, hothers, hne, _⟩ := (foundList_eq_nil_iff _ _ _ _ _).1
    (hall ("manifest", foundList cells true (foundText cells)) (by simp) manifest hlookup)
  rw [hitems] at hothers
  cases hothers
  intro hnil
  rw [hnil] at htexts
  cases htexts
  exact hne rfl rfl

/-- A value that writes down a draft is described, and its description is that draft with all its
problems. -/
theorem exists_description {cells : Cells} {v : Value} {d : Draft} (h : Writes cells v d)
    (hv : v.WellKeyed) (hcells : ∀ c ∈ cells, c.WellKeyed) :
    ∃ e, Description.ofValue cells v = .ok e ∧ e.toDraft = .ok d
      ∧ e.messages cells = d.messages := by
  obtain ⟨words, he, hwords⟩ := exists_words_of_writes h hv hcells
  exact ⟨descriptionOf d words, he, toDraft_eq hwords, messages_descriptionOf cells d words⟩

/-- **What has the shape of a checklist document is read**, as the one draft that it writes down.
The draft is a checklist if no entry of its manifest occurs twice and its primary file is among
them, and has problems otherwise. Every document of a text is well keyed
(`Yaml.wellKeyed_load`). -/
theorem reading_agrees (context : String) {document : Yaml.Document} (h : document.WellKeyed)
    (hshape : Schema.report context document.cells shape document.root = .ok []) :
    ∃ (e : Description) (d : Draft),
      (∀ d', Writes document.cells document.root d' ↔ d' = d)
        ∧ Description.ofValue document.cells document.root = .ok e
        ∧ e.toDraft = .ok d
        ∧ e.messages document.cells = d.messages
        ∧ (d.manifest.Nodup ∧ d.primaryFile ∈ d.manifest → ∃ c, d.check = .ok c ∧ c.toDraft = d)
        ∧ (¬(d.manifest.Nodup ∧ d.primaryFile ∈ d.manifest) →
            d.check = .error d.problems ∧ d.problems ≠ []) := by
  obtain ⟨lines, hreport, hnil⟩ := report_shape context document.cells document.root
  rw [hshape] at hreport
  cases hreport
  have hfound := hnil.1 rfl
  obtain ⟨d, hwrites⟩ := exists_writes hfound
  obtain ⟨e, he, hdraft, hmessages⟩ :=
    exists_description hwrites h.root fun c hc => h.cells c hc
  obtain ⟨hgood, hbad⟩ := check_eq d (manifest_ne_nil_of_found hfound hwrites)
  refine ⟨e, d, fun d' => ⟨fun h' => h'.unique hwrites, ?_⟩, he, hdraft, hmessages, hgood, hbad⟩
  rintro rfl
  exact hwrites

/-- A document with two files, one feature and one of the rules. -/
def twoFiles : Yaml.Document where
  cells := #[]
  root := .dict
    [(.str "primary_file", .str "A.cs"), (.str "name", .str "N"),
     (.str "rules", .dict [(.str "sentinel_symbol", .str "Engine")]),
     (.str "features", .list [.dict [(.str "label", .str "l"), (.str "marker", .str "m")]]),
     (.str "manifest", .list [.str "B.cs", .str "A.cs"])]

/-- The draft in that document. -/
def twoFilesDraft : Draft where
  name := "N"
  manifest := ["B.cs", "A.cs"]
  primaryFile := "A.cs"
  features := [⟨"m", "l"⟩]
  rules := { sentinelSymbol := "Engine" }

theorem twoFiles_wellKeyed : twoFiles.WellKeyed where
  root := by simp [twoFiles, Value.DistinctKeys]
  cells := by simp [twoFiles]

theorem twoFiles_read :
    Schema.report "c.yaml" twoFiles.cells shape twoFiles.root = .ok []
      ∧ Draft.ofValue twoFiles.cells twoFiles.root = .ok twoFilesDraft
      ∧ ∃ c, twoFilesDraft.check = .ok c ∧ c.toDraft = twoFilesDraft := by
  have hreport : Schema.report "c.yaml" twoFiles.cells shape twoFiles.root = .ok [] := by
    obtain ⟨lines, hlines, hnil⟩ := report_shape "c.yaml" twoFiles.cells twoFiles.root
    rw [hlines, hnil.2 rfl]
  have hdraft : Draft.ofValue twoFiles.cells twoFiles.root = .ok twoFilesDraft := rfl
  obtain ⟨e, d, _, he, hd, _, hgood, _⟩ := reading_agrees "c.yaml" twoFiles_wellKeyed hreport
  have heq : Draft.ofValue twoFiles.cells twoFiles.root = .ok d := by
    rw [Draft.ofValue, he]
    exact hd
  rw [hdraft] at heq
  cases heq
  exact ⟨hreport, hdraft, hgood (by decide)⟩

end Checklist

end PackageGate
