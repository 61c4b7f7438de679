import Mathlib.Data.Finset.Card
import Mathlib.Data.Finset.Dedup
import PackageGate.Proofs.Checklist.Agree
import PackageGate.Proofs.Validation.Run

/-!
# What every checklist keeps

A checklist can be made of fields, be changed in some of them, and be read from a value or a file.
However it has come about, its manifest lists files, none of them twice, and among them the primary
one (`Obtained.isSound`). A run relies on this when it looks for the outcome of the primary file:
there is exactly one (`exists_primary_outcome`).

What is said about a draft that is no checklist is exact (`messages_eq`): it names each entry of the
manifest that has occurred before it, as often as it comes up again and in order. The check goes
through the manifest once and remembers what it has seen; that it has seen neither more nor less
than the entries in front is what carries the induction (`repeated_eq_recurrences`).
-/

namespace PackageGate

open Disk (Path)

namespace Draft

/-! ## Entries that come up again -/

/-- The entries that have occurred before, each with its position. -/
def recurrences (entries : List String) : List (String × Nat) :=
  entries.zipIdx.filter fun entry => entry.1 ∈ entries.take entry.2

/-- What comes up again in the rest of a list, if `seen` holds the entries in front of it. -/
theorem repeated_eq_recurrences {seen front : List String} (hseen : ∀ e, e ∈ seen ↔ e ∈ front)
    (rest : List String) :
    repeated (· == ·) seen rest =
      ((rest.zipIdx front.length).filter fun entry => entry.1 ∈ (front ++ rest).take entry.2).map
        (·.1) := by
  induction rest generalizing seen front with
  | nil => rfl
  | cons e rest ih =>
      have hfront : (front ++ e :: rest).take front.length = front := List.take_left
      have hsplit : front ++ e :: rest = (front ++ [e]) ++ rest := by simp
      have hlength : front.length + 1 = (front ++ [e]).length := by simp
      rw [List.zipIdx_cons, List.filter_cons, hfront, repeated, List.any_beq', List.contains_eq_mem]
      -- the entries in front grow by `e`, and those that are seen do if it is new
      by_cases he : e ∈ seen
      · have hagain : ∀ x, x ∈ seen ↔ x ∈ front ++ [e] := by
          intro x
          rw [List.mem_append, List.mem_singleton, ← hseen]
          constructor
          · exact .inl
          · rintro (hx | rfl)
            · exact hx
            · exact he
        rw [if_pos (decide_eq_true he), if_pos (decide_eq_true ((hseen e).1 he)), List.map_cons,
          hlength, hsplit, ← ih hagain]
      · have hnew : ∀ x, x ∈ e :: seen ↔ x ∈ front ++ [e] := by
          intro x
          rw [List.mem_append, List.mem_singleton, ← hseen, List.mem_cons, or_comm]
        have hfresh : e ∉ front := fun h => he ((hseen e).2 h)
        rw [if_neg (by simpa using he), if_neg (by simpa using hfresh), hlength, hsplit, ← ih hnew]

/-- The check of a draft finds what comes up again. -/
theorem repeated_nil_eq (entries : List String) :
    repeated (· == ·) [] entries = (recurrences entries).map (·.1) :=
  repeated_eq_recurrences (fun e => (Iff.rfl : e ∈ [] ↔ e ∈ [])) entries

/-- What comes up again is what there is beyond the different entries that are new. -/
theorem length_repeated_add_card (seen entries : List String) :
    (repeated (· == ·) seen entries).length + (entries.toFinset \ seen.toFinset).card =
      entries.length := by
  induction entries generalizing seen with
  | nil => simp [repeated]
  | cons e entries ih =>
      rw [repeated, List.any_beq', List.contains_eq_mem, List.toFinset_cons]
      by_cases he : e ∈ seen
      · have hold : e ∈ seen.toFinset := List.mem_toFinset.2 he
        rw [if_pos (decide_eq_true he), Finset.insert_sdiff_of_mem _ hold, List.length_cons,
          List.length_cons, ← ih seen]
        omega
      · have hnew : e ∉ seen.toFinset := fun h => he (List.mem_toFinset.1 h)
        -- the different entries that are new are `e` and those that are new behind it
        have hcard : (insert e entries.toFinset \ seen.toFinset).card =
            (entries.toFinset \ (e :: seen).toFinset).card + 1 := by
          have hsplit : insert e entries.toFinset \ seen.toFinset =
              insert e (entries.toFinset \ (e :: seen).toFinset) := by
            ext x
            by_cases hx : x = e
            · subst hx
              simp [he]
            · simp [hx]
          rw [hsplit, Finset.card_insert_of_notMem (by simp)]
        rw [if_neg (by simpa using he), hcard, List.length_cons, ← ih (e :: seen)]
        omega

theorem length_recurrences (entries : List String) :
    (recurrences entries).length = entries.length - entries.toFinset.card := by
  have hsum := length_repeated_add_card [] entries
  rw [repeated_nil_eq, List.length_map, List.toFinset_nil, Finset.sdiff_empty] at hsum
  omega

/-! ## What is said about a draft -/

/-- A draft with an entry, with no entry twice, and with its primary file among them. -/
structure IsSound (d : Draft) : Prop where
  manifest_ne_nil : d.manifest ≠ []
  manifest_nodup : d.manifest.Nodup
  primaryFile_mem : d.primaryFile ∈ d.manifest

theorem isSound_iff_problems {d : Draft} : d.IsSound ↔ d.problems = [] := by
  rw [problems_eq_nil_iff]
  constructor
  · rintro ⟨hfiles, hnodup, hprimary⟩
    exact ⟨hfiles, hnodup, hprimary⟩
  · rintro ⟨hfiles, hnodup, hprimary⟩
    exact ⟨hfiles, hnodup, hprimary⟩

/-- What is to be said against a draft: that its manifest is empty, then each entry that comes up
again, at each of its positions but the first, and then that the primary file is not listed. -/
def objections (d : Draft) : List String :=
  (if d.manifest = [] then [d.name ++ ": manifest must list at least one file"] else []) ++
    (recurrences d.manifest).map
      (fun entry => d.name ++ ": duplicate manifest entry: " ++ entry.1) ++
    (if d.primaryFile ∈ d.manifest then [] else
      [d.name ++ ": primary file '" ++ d.primaryFile ++ "' is not in the manifest"])

/-- **The messages about a draft are what is to be said against it.** -/
theorem messages_eq (d : Draft) : d.messages = d.objections := by
  rw [objections, messages, problems, problemsOf, repeated_nil_eq, List.map_append, List.map_append,
    List.map_map, List.map_map]
  congr 1
  · congr 1
    cases d.manifest with
    | nil => rfl
    | cons e manifest => rfl
  · by_cases hprimary : d.primaryFile ∈ d.manifest
    · have hany : d.manifest.any (· == d.primaryFile) = true := by simpa using hprimary
      rw [if_pos hany, if_pos hprimary, List.map_nil]
    · have hany : ¬d.manifest.any (· == d.primaryFile) = true := by simpa using hprimary
      rw [if_neg hany, if_neg hprimary]
      rfl

/-- What the check of a draft comes to. -/
structure Judged (d : Draft) : Prop where
  rejected_iff : (∃ problems, d.check = .error problems) ↔
    d.manifest = [] ∨ ¬d.manifest.Nodup ∨ d.primaryFile ∉ d.manifest
  /-- A checklist is the draft as it was written down. -/
  accepted : ∀ c, d.check = .ok c → c.toDraft = d
  messages : ∀ problems, d.check = .error problems →
    problems.map (·.message d.name) = d.objections
  /-- Of the entries that are the same, all but one come up again. -/
  length_recurrences :
    (recurrences d.manifest).length = d.manifest.length - d.manifest.toFinset.card

theorem check_eq_error_iff {d : Draft} {problems : List Problem} :
    d.check = .error problems ↔ problems = d.problems ∧ ¬d.IsSound := by
  rw [isSound_iff_problems, check]
  by_cases hnil : d.problems = []
  · rw [dif_pos hnil]
    constructor
    · intro h
      cases h
    · rintro ⟨_, hne⟩
      exact absurd hnil hne
  · rw [dif_neg hnil, Except.error.injEq]
    constructor
    · rintro rfl
      exact ⟨rfl, hnil⟩
    · rintro ⟨rfl, _⟩
      rfl

theorem toDraft_of_check {d : Draft} {c : Checklist} (h : d.check = .ok c) : c.toDraft = d := by
  rw [check] at h
  by_cases hnil : d.problems = []
  · rw [dif_pos hnil] at h
    cases h
    rfl
  · rw [dif_neg hnil] at h
    cases h

theorem isSound_toDraft (c : Checklist) : c.toDraft.IsSound :=
  ⟨c.manifest_ne_nil, c.manifest_nodup, c.primaryFile_mem⟩

/-- What is accepted is sound, since a checklist is. -/
theorem isSound_of_check {d : Draft} {c : Checklist} (h : d.check = .ok c) : d.IsSound := by
  rw [← toDraft_of_check h]
  exact isSound_toDraft c

/-- **Every draft is judged by the three conditions**, and told all that stands against it. -/
theorem judged (d : Draft) : d.Judged where
  rejected_iff := by
    constructor
    · rintro ⟨problems, h⟩
      obtain ⟨_, hnot⟩ := check_eq_error_iff.1 h
      by_contra hall
      rw [not_or, not_or, not_not, not_not] at hall
      exact hnot ⟨hall.1, hall.2.1, hall.2.2⟩
    · intro h
      refine ⟨d.problems, check_eq_error_iff.2 ⟨rfl, fun hsound => ?_⟩⟩
      rcases h with h | h | h
      · exact hsound.manifest_ne_nil h
      · exact h hsound.manifest_nodup
      · exact h hsound.primaryFile_mem
  accepted _ := toDraft_of_check
  messages problems h := by
    rw [(check_eq_error_iff.1 h).1]
    exact messages_eq d
  length_recurrences := Draft.length_recurrences d.manifest

end Draft

/-! ## Where checklists come from -/

namespace Description

theorem eq_of_textOf {v : Value} {text : String} (h : textOf v = .ok text) : v = .str text := by
  cases v with
  | str s =>
      cases h
      rfl
  | _ => cases h

theorem eq_map_of_mapM_textOf {values : List Value} {texts : List String}
    (h : values.mapM textOf = .ok texts) : values = texts.map .str := by
  induction values generalizing texts with
  | nil =>
      rw [List.mapM_nil] at h
      cases h
      rfl
  | cons v values ih =>
      rw [List.mapM_cons] at h
      obtain ⟨text, htext, h⟩ := bind_eq_ok_iff.1 h
      obtain ⟨rest, hrest, h⟩ := bind_eq_ok_iff.1 h
      cases h
      rw [eq_of_textOf htext, ih hrest, List.map_cons]

/-- The problems of a description are those of the draft that it is. -/
theorem problems_of_toDraft {e : Description} {d : Draft} (cells : Cells)
    (h : e.toDraft = .ok d) : e.problems cells = d.problems := by
  rw [toDraft] at h
  obtain ⟨name, _, h⟩ := bind_eq_ok_iff.1 h
  obtain ⟨manifest, hmanifest, h⟩ := bind_eq_ok_iff.1 h
  obtain ⟨primaryFile, hprimary, h⟩ := bind_eq_ok_iff.1 h
  obtain ⟨features, _, h⟩ := bind_eq_ok_iff.1 h
  obtain ⟨words, _, h⟩ := bind_eq_ok_iff.1 h
  obtain ⟨rules, _, h⟩ := bind_eq_ok_iff.1 h
  cases h
  rw [problems, eq_map_of_mapM_textOf hmanifest, eq_of_textOf hprimary]
  exact Draft.problemsOf_map Value.sameKey_str_str (fun _ => rfl) manifest primaryFile

end Description

/-- The drafts that checklists are made of, in any number of steps. -/
inductive Obtained : Draft → Prop where
  /-- All fields are given. -/
  | ofFields {f : Fields} {d : Draft} {c : Checklist} (hdraft : f.draft = .ok d)
    (haccepted : d.check = .ok c) : Obtained d
  /-- Some fields of a checklist are changed. -/
  | changed {f : Fields} {d d' : Draft} {c : Checklist} (h : Obtained d)
    (hdraft : (f.fill d).draft = .ok d') (haccepted : d'.check = .ok c) : Obtained d'
  /-- A value is read that describes the draft. -/
  | ofValue {cells : Cells} {v : Value} {e : Description} {d : Draft}
    (hvalue : Description.ofValue cells v = .ok e) (haccepted : e.problems cells = [])
    (hdraft : e.toDraft = .ok d) : Obtained d
  /-- A file is loaded. -/
  | loaded {disk : Disk} {path : Path} {c : Checklist} (h : Checklist.load disk path = .ok c) :
    Obtained c.toDraft

/-- **However a checklist has come about, its draft is sound.** -/
theorem Obtained.isSound {d : Draft} (h : Obtained d) : d.IsSound := by
  cases h with
  | ofFields hdraft haccepted => exact Draft.isSound_of_check haccepted
  | changed h hdraft haccepted => exact Draft.isSound_of_check haccepted
  | ofValue hvalue haccepted hdraft =>
      rw [Description.problems_of_toDraft _ hdraft] at haccepted
      exact Draft.isSound_iff_problems.2 haccepted
  | @loaded _ _ c _ => exact Draft.isSound_toDraft c

/-! ## The primary file -/

/-- A run finds the outcome for the primary file, and there is no other. -/
theorem exists_primary_outcome {disk : Disk} {c : Checklist} {base : Path} {r : Result}
    {notes : List Note} (hrun : run disk c base = .ok (r, notes)) :
    ∃ file, r.files.filter (·.path = c.primaryFile) = [file]
      ∧ r.files.find? (·.path = c.primaryFile) = some file := by
  obtain ⟨_, heq⟩ := (run_eq_ok_iff disk c base _).1 hrun
  have hfiles : r.files = (c.manifest.map (outcomeAt disk base c.rules)).map (·.1) :=
    congrArg (fun outcome : Result × List Note => outcome.1.files) heq
  rw [hfiles]
  exact ⟨_, filter_outcome c.manifest_nodup c.primaryFile_mem, find?_outcome c.primaryFile_mem⟩

/-- **Drafts are judged by three conditions, and every checklist meets them**, so that a run finds
the outcome for its primary file. -/
theorem obtained_checklists_sound :
    (∀ d : Draft, d.Judged)
      ∧ ∀ d : Draft, Obtained d → d.IsSound
        ∧ ∃ c, d.check = .ok c ∧ c.toDraft = d
          ∧ ∀ disk base r notes, run disk c base = .ok (r, notes) →
            ∃ file, r.files.filter (·.path = d.primaryFile) = [file]
              ∧ r.files.find? (·.path = d.primaryFile) = some file := by
  refine ⟨Draft.judged, fun d hd => ?_⟩
  have hsound := hd.isSound
  obtain ⟨c, hcheck, rfl⟩ := (Checklist.check_eq d hsound.manifest_ne_nil).1
    ⟨hsound.manifest_nodup, hsound.primaryFile_mem⟩
  exact ⟨hsound, c, hcheck, rfl, fun disk base r notes hrun => exists_primary_outcome hrun⟩

/-- The fields of a checklist of two files. -/
def pairFields : Fields where
  name? := some "N"
  manifest? := some ["A.cs", "B.cs"]
  primaryFile? := some "A.cs"
  features? := some []

/-- A change of the primary file. -/
def pairChange : Fields where
  primaryFile? := some "B.cs"

/-- A draft that fails two of the conditions, and one of them three times. -/
def crowded : Draft where
  name := "N"
  manifest := ["B.cs", "A.cs", "B.cs", "B.cs", "A.cs"]
  primaryFile := "C.cs"
  features := []

theorem obtained_checklists_sound_pair :
    (∃ problems, crowded.check = .error problems
        ∧ problems.map (·.message "N") =
          ["N: duplicate manifest entry: B.cs", "N: duplicate manifest entry: B.cs",
            "N: duplicate manifest entry: A.cs", "N: primary file 'C.cs' is not in the manifest"])
      ∧ ∃ d d', pairFields.draft = .ok d ∧ (pairChange.fill d).draft = .ok d'
        ∧ Obtained d' ∧ d'.IsSound ∧ d'.primaryFile = "B.cs" := by
  obtain ⟨hjudged, hobtained⟩ := obtained_checklists_sound
  have hcrowded : crowded.objections =
      ["N: duplicate manifest entry: B.cs", "N: duplicate manifest entry: B.cs",
        "N: duplicate manifest entry: A.cs", "N: primary file 'C.cs' is not in the manifest"] := by
    decide
  obtain ⟨problems, hproblems⟩ := (hjudged crowded).rejected_iff.2 (.inr (.inr (by decide)))
  have hmessages := (hjudged crowded).messages problems hproblems
  have hpair : Obtained ⟨"N", ["A.cs", "B.cs"], "A.cs", [], {}⟩ :=
    .ofFields (f := pairFields) rfl rfl
  have hchanged : Obtained ⟨"N", ["A.cs", "B.cs"], "B.cs", [], {}⟩ :=
    .changed (f := pairChange) hpair rfl rfl
  exact ⟨⟨problems, hproblems, hmessages.trans hcrowded⟩, _, _, rfl, rfl, hchanged,
    (hobtained _ hchanged).1, rfl⟩

end PackageGate
