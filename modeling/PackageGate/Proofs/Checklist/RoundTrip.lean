import PackageGate.Proofs.Checklist.Agree
import PackageGate.Proofs.Checklist.Violations
import PackageGate.Proofs.Text.LineEnds
import PackageGate.Proofs.Text.Utf8
import PackageGate.Proofs.Yaml.TreeText

/-!
# Checklists that are written to files

A checklist can be written down as a tree of texts, and the tree to a file. If none of its texts is
empty, the file is loaded as the same checklist (`load_file`), whatever characters the texts are
made of and however many there are.

The argument follows the file through the steps of loading. The bytes are decoded as the characters
that were written, these are read as the value of the tree, the value has the documented shape
(`hasShape_tree`), and what stands in it is the draft (`writes_tree`).
-/

namespace PackageGate

open Value (lookup?)
open Yaml (Spelling)

/-! ## What is written -/

/-- A feature as a tree. -/
def Feature.tree (f : Feature) : Yaml.Tree :=
  .mapping [("marker", .text f.marker), ("label", .text f.label)]

/-- Rules as a tree, in which each is named. -/
def Rules.tree (r : Rules) : Yaml.Tree :=
  .mapping (Rules.names.map fun n => (n, .text (r.word n)))

namespace Draft

/-- The parts of a draft in the order in which they are written. -/
def parts (d : Draft) : List (String × Yaml.Tree) :=
  [("name", .text d.name),
   ("primary_file", .text d.primaryFile),
   ("manifest", .list (d.manifest.map .text)),
   ("features", .list (d.features.map Feature.tree)),
   ("rules", d.rules.tree)]

/-- A draft as a tree. -/
def tree (d : Draft) : Yaml.Tree := .mapping d.parts

/-- The bytes of a file in which a draft is written. -/
def file (sp : Spelling) (d : Draft) : List UInt8 := Text.Utf8.encode (d.tree.document sp)

/-- The texts in a draft. -/
def strings (d : Draft) : List String :=
  d.name :: d.primaryFile :: d.manifest ++ d.features.flatMap (fun f => [f.marker, f.label])
    ++ Rules.names.map d.rules.word

end Draft

namespace Checklist

/-! ## Trees that can be written -/

theorem sound_feature (f : Feature) : f.tree.Sound :=
  Yaml.Tree.sound_mapping ["marker", "label"] rfl (by decide) (by simp [Yaml.Tree.Sound.text])

theorem sound_rules (r : Rules) : r.tree.Sound :=
  Yaml.Tree.sound_mapping Rules.names rfl (by decide) (by simp [Rules.names, Yaml.Tree.Sound.text])

theorem sound_tree (d : Draft) : d.tree.Sound := by
  have hmanifest : (Yaml.Tree.list (d.manifest.map .text)).Sound :=
    .list (List.forall_mem_map.2 fun s _ => .text s)
  have hfeatures : (Yaml.Tree.list (d.features.map Feature.tree)).Sound :=
    .list (List.forall_mem_map.2 fun f _ => sound_feature f)
  refine Yaml.Tree.sound_mapping ["name", "primary_file", "manifest", "features", "rules"] rfl
    (by decide) ?_
  simp [Draft.parts, Yaml.Tree.Sound.text, hmanifest, hfeatures, sound_rules]

/-- The features are lists of mappings inside a mapping, and nothing is nested deeper. -/
theorem depth_tree_le (d : Draft) : d.tree.depth ≤ 3 := by
  have htext : ∀ s, (Yaml.Tree.text s).depth = 0 := fun s => by rw [Yaml.Tree.depth]
  have hfeature : ∀ f : Feature, f.tree.depth ≤ 1 := fun f =>
    Yaml.Tree.depth_mapping_le (by simp [htext])
  have hrules : d.rules.tree.depth ≤ 1 := Yaml.Tree.depth_mapping_le (by simp [htext])
  have hmanifest : (Yaml.Tree.list (d.manifest.map .text)).depth ≤ 1 :=
    Yaml.Tree.depth_list_le (List.forall_mem_map.2 fun s _ => Nat.le_of_eq (htext s))
  have hfeatures : (Yaml.Tree.list (d.features.map Feature.tree)).depth ≤ 2 :=
    Yaml.Tree.depth_list_le (List.forall_mem_map.2 fun f _ => hfeature f)
  refine Yaml.Tree.depth_mapping_le ?_
  simp only [Draft.parts, List.forall_mem_cons, htext]
  exact ⟨by omega, by omega, by omega, hfeatures, by omega, fun _ h => absurd h List.not_mem_nil⟩

/-! ## Their values -/

theorem value_feature (f : Feature) :
    f.tree.value = .dict [(.str "marker", .str f.marker), (.str "label", .str f.label)] := by
  simp [Feature.tree, Yaml.Tree.value]

theorem value_rules (r : Rules) :
    r.tree.value = .dict (Rules.names.map fun n => (.str n, .str (r.word n))) := by
  simp [Rules.tree, Yaml.Tree.value]

theorem value_tree (d : Draft) : d.tree.value = .dict
    [(.str "name", .str d.name),
     (.str "primary_file", .str d.primaryFile),
     (.str "manifest", .list (d.manifest.map .str)),
     (.str "features", .list (d.features.map fun f => f.tree.value)),
     (.str "rules", d.rules.tree.value)] := by
  simp [Draft.tree, Draft.parts, Yaml.Tree.value, Function.comp_def]

theorem lookup?_words (r : Rules) {n : String} (hn : n ∈ Rules.names) :
    lookup? n (Rules.names.map fun n => (.str n, .str (r.word n))) = some (.str (r.word n)) := by
  have hdistinct : Value.DistinctKeys
      (Rules.names.map fun n => (Value.str n, Value.str (r.word n))) := by
    simp [Rules.names, Value.DistinctKeys]
  exact Value.lookup?_of_mem hdistinct (List.mem_map_of_mem hn)

theorem writes_feature (cells : Cells) (f : Feature) : WritesFeature cells f.tree.value f := by
  rw [value_feature]
  exact ⟨_, rfl, ⟨_, rfl, rfl⟩, ⟨_, rfl, rfl⟩⟩

theorem writes_rules (cells : Cells) (r : Rules) : WritesRules cells r.tree.value r := by
  rw [value_rules]
  refine ⟨_, rfl, fun e he => ?_, fun n hn => ?_⟩
  · obtain ⟨n, hn, rfl⟩ := List.mem_map.1 he
    exact ⟨n, hn, rfl⟩
  · rw [lookup?_words r hn]
    refine ⟨fun h => ?_, fun w hw => ?_⟩
    · cases h
    · cases hw
      rfl

/-- **The value of a draft's tree writes down the draft.** -/
theorem writes_tree (cells : Cells) (d : Draft) : Writes cells d.tree.value d := by
  have hmanifest : List.Forall₂ (WritesText cells) (d.manifest.map .str) d.manifest := by
    rw [List.forall₂_map_left_iff]
    exact List.forall₂_same.2 fun s _ => rfl
  have hfeatures : List.Forall₂ (WritesFeature cells) (d.features.map fun f => f.tree.value)
      d.features := by
    rw [List.forall₂_map_left_iff]
    exact List.forall₂_same.2 fun f _ => writes_feature cells f
  rw [value_tree]
  refine ⟨_, rfl, ?_⟩
  exact {
    name := ⟨_, rfl, rfl⟩
    manifest := ⟨_, rfl, _, rfl, hmanifest⟩
    primaryFile := ⟨_, rfl, rfl⟩
    features := ⟨_, rfl, _, rfl, hfeatures⟩
    noRules := fun h => by cases h
    rules := fun v hv => by
      cases hv
      exact writes_rules cells d.rules }

/-! ## Their shape -/

theorem isFeature_tree {cells : Cells} {f : Feature} (hmarker : IsText cells (.str f.marker))
    (hlabel : IsText cells (.str f.label)) : IsFeature cells f.tree.value := by
  rw [value_feature]
  exact ⟨_, rfl, by simp [lookup?], by simp, by simp [lookup?, hmarker, hlabel]⟩

theorem isRules_tree {cells : Cells} {r : Rules}
    (h : ∀ n ∈ Rules.names, IsText cells (.str (r.word n))) : IsRules cells r.tree.value := by
  have hpart : ∀ n ∈ Rules.names, ∀ w,
      lookup? n (Rules.names.map fun n => (.str n, .str (r.word n))) = some w → IsText cells w := by
    intro n hn w hw
    rw [lookup?_words r hn, Option.some.injEq] at hw
    rw [← hw]
    exact h n hn
  rw [value_rules]
  refine ⟨_, rfl, fun n hn => absurd hn List.not_mem_nil, ?_, ?_⟩
  · simp [Rules.names]
  · simpa [Rules.names] using hpart

/-- **The value of a draft's tree has the documented shape** if the draft lists a file and has no
empty text. -/
theorem hasShape_tree (cells : Cells) {d : Draft} (hfiles : d.manifest ≠ [])
    (htexts : "" ∉ d.strings) : HasShape cells d.tree.value := by
  have htext : ∀ s ∈ d.strings, IsText cells (.str s) := by
    intro s hs
    refine ⟨s, rfl, ?_⟩
    rintro rfl
    exact htexts hs
  simp only [Draft.strings, List.cons_append, List.forall_mem_cons, List.forall_mem_append,
    List.forall_mem_flatMap, List.forall_mem_map] at htext
  obtain ⟨hname, hprimary, ⟨hmanifest, hfeatures⟩, hrules⟩ := htext
  have hfiles' : IsList cells true (IsText cells) (.list (d.manifest.map .str)) :=
    ⟨_, rfl, fun _ => by simpa using hfiles, List.forall_mem_map.2 hmanifest⟩
  have hfeatures' : IsList cells false (IsFeature cells)
      (.list (d.features.map fun f => f.tree.value)) := by
    refine ⟨_, rfl, fun h => (by cases h), List.forall_mem_map.2 fun f hf => ?_⟩
    exact isFeature_tree (hfeatures f hf).1 (hfeatures f hf).2.1
  rw [value_tree]
  refine ⟨_, rfl, ?_, ?_, ?_⟩
  · simp [lookup?]
  · simp
  · simp [lookup?, hname, hprimary, hfiles', hfeatures', isRules_tree hrules]

/-! ## Loading -/

/-- The text of a file in which a draft is written. -/
theorem readText_file (sp : Spelling) {disk : Disk} {path : Disk.Path} {d : Draft}
    (hread : disk.read path = .ok (d.file sp)) : readText disk path = .ok (d.tree.document sp) := by
  have hwritten := Yaml.isWritten_document sp (sound_tree d)
  -- a line feed is the only line end that is written, so that none is replaced
  have hreturn : '\r' ∉ d.tree.document sp := by
    intro hc
    exact absurd (hwritten '\r' hc) (by decide)
  rw [readText, hread, Draft.file]
  dsimp only
  rw [Text.Utf8.decode_encode]
  dsimp only
  rw [Text.unifyNewlines_of_not_mem hreturn]

/-- The document in that text. -/
theorem load_tree (sp : Spelling) (d : Draft) :
    Yaml.load (d.tree.document sp) = .ok ⟨d.tree.value, #[]⟩ := by
  have hdepth : d.tree.depth ≤ Yaml.depthLimit := Nat.le_trans (depth_tree_le d) (by decide)
  exact Yaml.load_document sp (sound_tree d) hdepth

/-- The checklist in the document of its draft. -/
theorem ofDocument_tree (context : String) (c : Checklist) (htexts : "" ∉ c.strings)
    (hkeyed : Yaml.Document.WellKeyed ⟨c.tree.value, #[]⟩) :
    ofDocument context ⟨c.tree.value, #[]⟩ = .ok c := by
  have hshape := (found_eq_nil_iff #[] c.tree.value).2 (hasShape_tree #[] c.manifest_ne_nil htexts)
  have hreport : Schema.report context #[] shape c.tree.value = .ok [] := by
    obtain ⟨lines, hlines, hnil⟩ := report_shape context #[] c.tree.value
    rw [hlines, hnil.2 hshape]
  have hdraft : Draft.ofValue #[] c.tree.value = .ok c.toDraft :=
    ofValue_of_writes (writes_tree #[] c.toDraft) hkeyed.root fun v hv => hkeyed.cells v hv
  rw [ofDocument, hreport]
  dsimp only
  rw [hdraft]
  dsimp only
  rw [check_toDraft]

/-- The checklist in a text that writes it down. -/
theorem load_document (sp : Spelling) {disk : Disk} {path : Disk.Path}
    (hpath : path.hasNull = false) {c : Checklist} (htexts : "" ∉ c.strings)
    (hread : readText disk path = .ok (c.tree.document sp)) : load disk path = .ok c := by
  have hdocument := load_tree sp c.toDraft
  have hkeyed := Yaml.wellKeyed_load hdocument
  rw [load_of_readText hpath, hread]
  dsimp only
  rw [readDocument, hdocument, bind_ok, ofDocument_tree path.name c htexts hkeyed]

/-- **A checklist without empty texts that is written to a file is loaded from it unchanged.** -/
theorem load_file (sp : Spelling) (disk : Disk) {path : Disk.Path} (hpath : path.hasNull = false)
    (c : Checklist) (htexts : "" ∉ c.strings) (hread : disk.read path = .ok (c.file sp)) :
    load disk path = .ok c :=
  load_document sp hpath htexts (readText_file sp hread)

/-- A checklist with texts that are nothing or something else if they stand without quotes. -/
def awkward : Checklist where
  name := " null\r\n\x00"
  manifest := ["~", "a: \"b\" # c\\", "\u2028𝄞"]
  primaryFile := "~"
  features := [⟨"- [x]", "'"⟩]
  manifest_ne_nil := by simp
  manifest_nodup := by decide
  primaryFile_mem := by simp

/-- A disk on which every file holds that checklist. -/
def awkwardDisk : Disk where
  stat _ := .ok ()
  read _ := .ok (awkward.file .lower)
  canonical p := .ok p
  intercepts _ _ := false

theorem load_awkward : "" ∉ awkward.strings ∧ load awkwardDisk ⟨0, ["c.yaml"]⟩ = .ok awkward := by
  have htexts : "" ∉ awkward.strings := by decide
  exact ⟨htexts, load_file .lower awkwardDisk (by decide) awkward htexts rfl⟩

end Checklist

end PackageGate
