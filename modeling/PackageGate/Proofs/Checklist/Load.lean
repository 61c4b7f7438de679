import PackageGate.Proofs.Checklist.Written
import PackageGate.Proofs.Yaml.Document

/-!
# What comes of a checklist file

A file is loaded or rejected, and a rejection says why. The only other outcome is a scalar without a
value, which ends the program (`load_outcome`). In particular the check against the shape never
fails to come to an end, and what passes it can always be read.
-/

namespace PackageGate.Checklist

open Disk (Path)

/-- A checklist is loaded, or its file is rejected with a message at least. -/
def LoadedOrRejected (disk : Disk) (path : Path) : Prop :=
  (∃ c, load disk path = .ok c ∧ c.manifest ≠ [] ∧ c.manifest.Nodup
    ∧ c.primaryFile ∈ c.manifest)
  ∨ ∃ r, load disk path = .error (.rejected r) ∧ r.messages path ≠ []

/-- A text is read in which a scalar has no value. -/
def Faults (disk : Disk) (path : Path) (f : Yaml.Fault) : Prop :=
  ∃ text, readText disk path = .ok text ∧ Yaml.load text = .error (.stopped (.fault f))

/-! ## Documents -/

/-- The draft of a document is a checklist, or has problems. -/
theorem check_outcome (d : Draft) :
    (∃ c, d.check = .ok c) ∨ d.problems ≠ [] ∧ ∃ problems, d.check = .error problems := by
  unfold Draft.check
  split
  · exact .inl ⟨_, rfl⟩
  · rename_i h
    exact .inr ⟨h, _, rfl⟩

/-- **A document is a checklist, or is rejected** for its shape or for the draft that it writes
down. -/
theorem ofDocument_outcome (context : String) {document : Yaml.Document}
    (h : document.WellKeyed) :
    (∃ c, ofDocument context document = .ok c)
      ∨ (∃ lines, lines ≠ [] ∧ ofDocument context document = .error (.rejected (.misshapen lines)))
      ∨ ∃ d : Draft, d.problems ≠ []
          ∧ ofDocument context document = .error (.rejected (.flawed d)) := by
  obtain ⟨lines, hreport, hnil⟩ := report_shape context document.cells document.root
  unfold ofDocument
  rw [hreport]
  cases lines with
  | cons line lines => exact .inr (.inl ⟨line :: lines, List.cons_ne_nil _ _, rfl⟩)
  | nil =>
      obtain ⟨d, hwrites⟩ := exists_writes (hnil.1 rfl)
      dsimp only
      rw [ofValue_of_writes hwrites h.root fun c hc => h.cells c hc]
      dsimp only
      rcases check_outcome d with ⟨c, hc⟩ | ⟨hproblems, problems, hcheck⟩
      · rw [hc]
        exact .inl ⟨c, rfl⟩
      · rw [hcheck]
        exact .inr (.inr ⟨d, hproblems, rfl⟩)

/-! ## Files -/

/-- A file whose text cannot be read is rejected with a message. -/
theorem messages_readText {disk : Disk} {path : Path} {r : Rejection}
    (h : readText disk path = .error r) : r.messages path ≠ [] := by
  unfold readText at h
  split at h
  · split at h
    · cases h
      exact List.cons_ne_nil _ _
    · cases h
      exact List.cons_ne_nil _ _
  · split at h
    · cases h
      exact List.cons_ne_nil _ _
    · cases h

theorem load_of_readText {disk : Disk} {path : Path} (hpath : path.hasNull = false) :
    load disk path = match readText disk path with
      | .error r => .error (.rejected r)
      | .ok text => readDocument text >>= ofDocument path.name := by
  rw [load, Disk.atPath_eq_ok disk .read _ hpath]
  cases readText disk path with
  | error r => rfl
  | ok text => rfl

theorem load_of_fault {disk : Disk} {path : Path} (hpath : path.hasNull = false) {f : Yaml.Fault}
    (h : Faults disk path f) : load disk path = .error (.valueless f) := by
  obtain ⟨text, htext, hyaml⟩ := h
  rw [load_of_readText hpath, htext]
  dsimp only
  rw [readDocument, hyaml]
  rfl

/-- What comes of a text in which all scalars have values. -/
theorem loadedOrRejected_of_text {disk : Disk} {path : Path} (hpath : path.hasNull = false)
    {text : List Char} (htext : readText disk path = .ok text)
    (hvalues : ∀ f, Yaml.load text ≠ .error (.stopped (.fault f))) :
    LoadedOrRejected disk path := by
  have hload : load disk path = readDocument text >>= ofDocument path.name := by
    rw [load_of_readText hpath, htext]
  unfold readDocument at hload
  cases hyaml : Yaml.load text with
  | error refusal =>
      rw [hyaml] at hload
      cases refusal with
      | unacceptable c position => exact .inr ⟨_, hload, List.cons_ne_nil _ _⟩
      | stopped stop =>
          cases stop with
          | malformed e => exact .inr ⟨_, hload, List.cons_ne_nil _ _⟩
          | tooDeep => exact .inr ⟨_, hload, List.cons_ne_nil _ _⟩
          | fault f => exact absurd hyaml (hvalues f)
  | ok document =>
      -- no rule is named twice in it, so that its rules are read as they are checked
      rw [hyaml, bind_ok] at hload
      rcases ofDocument_outcome path.name (Yaml.wellKeyed_load hyaml) with
        ⟨c, hc⟩ | ⟨lines, hlines, hc⟩ | ⟨d, hproblems, hc⟩
      · exact .inl ⟨c, hload.trans hc, c.manifest_ne_nil, c.manifest_nodup, c.primaryFile_mem⟩
      · exact .inr ⟨_, hload.trans hc, hlines⟩
      · refine .inr ⟨_, hload.trans hc, ?_⟩
        rw [Rejection.messages, Draft.messages, ne_eq, List.map_eq_nil_iff]
        exact hproblems

theorem loadedOrRejected_of_no_fault {disk : Disk} {path : Path} (hpath : path.hasNull = false)
    (h : ∀ f, ¬Faults disk path f) : LoadedOrRejected disk path := by
  cases htext : readText disk path with
  | error r =>
      refine .inr ⟨r, ?_, messages_readText htext⟩
      rw [load_of_readText hpath, htext]
  | ok text =>
      exact loadedOrRejected_of_text hpath htext fun f hf => h f ⟨text, htext, hf⟩

/-- A file that ends the program is neither loaded nor rejected. -/
theorem not_valueless {disk : Disk} {path : Path} (h : LoadedOrRejected disk path)
    (f : Yaml.Fault) : load disk path ≠ .error (.valueless f) := by
  intro hf
  rcases h with ⟨c, hc, _⟩ | ⟨r, hr, _⟩
  · rw [hf] at hc
    cases hc
  · rw [hf] at hr
    cases hr

theorem faults_of_load {disk : Disk} {path : Path} (hpath : path.hasNull = false) {f : Yaml.Fault}
    (h : load disk path = .error (.valueless f)) : Faults disk path f := by
  by_cases hfaults : ∃ f', Faults disk path f'
  · obtain ⟨f', hf'⟩ := hfaults
    have hload := load_of_fault hpath hf'
    rw [h] at hload
    cases hload
    exact hf'
  · -- without a fault there is another outcome
    have hgood := loadedOrRejected_of_no_fault hpath fun f' hf' => hfaults ⟨f', hf'⟩
    exact absurd h (not_valueless hgood f)

/-- **A file is loaded or rejected with a message, except exactly if a scalar in it has no value.**
Then this is the outcome: the characters cannot be cut into tokens, for an escape that names no
character or a version with too many digits, or a node of the text's graph has no value. -/
theorem load_outcome (disk : Disk) {path : Path} (hpath : path.hasNull = false) :
    (LoadedOrRejected disk path ↔ ∀ f, ¬Faults disk path f)
      ∧ (∀ f, load disk path = .error (.valueless f) ↔ Faults disk path f)
      ∧ ∀ f, Faults disk path f → ∃ text, readText disk path = .ok text
          ∧ ((Yaml.tokens text).2 = some (.fault f)
            ∨ ∃ g, Yaml.graphOf text = .ok (some g) ∧ Yaml.Valueless g f) := by
  refine ⟨⟨fun h f hf => ?_, loadedOrRejected_of_no_fault hpath⟩,
    fun f => ⟨faults_of_load hpath, load_of_fault hpath⟩, fun f hf => ?_⟩
  · exact not_valueless h f (load_of_fault hpath hf)
  · obtain ⟨text, htext, hyaml⟩ := hf
    exact ⟨text, htext, Yaml.cause_of_fault hyaml⟩

/-- A scalar that is written like a day in a month that does not exist. -/
def misdated : List Char := "2020-13-01".toList

/-- A disk on which every file holds that scalar. -/
def misdatedDisk : Disk where
  stat _ := .ok ()
  read _ := .ok [50, 48, 50, 48, 45, 49, 51, 45, 48, 49]
  canonical p := .ok p
  intercepts _ _ := false

theorem not_loadedOrRejected_misdated : ¬LoadedOrRejected misdatedDisk ⟨0, ["c.yaml"]⟩ := by
  have hpath : Path.hasNull ⟨0, ["c.yaml"]⟩ = false := by decide
  have hbytes : Text.Utf8.decode [50, 48, 50, 48, 45, 49, 51, 45, 48, 49] = .ok misdated := rfl
  have hlines : Text.unifyNewlines misdated = misdated := by decide
  have htext : readText misdatedDisk ⟨0, ["c.yaml"]⟩ = .ok misdated := by
    rw [readText, misdatedDisk]
    dsimp only
    rw [hbytes]
    dsimp only
    rw [hlines]
  have hyaml : Yaml.load misdated = .error (.stopped (.fault .monthRange)) := rfl
  intro h
  exact (load_outcome misdatedDisk hpath).1.1 h _ ⟨misdated, htext, hyaml⟩

end PackageGate.Checklist
