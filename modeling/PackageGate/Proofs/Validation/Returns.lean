import PackageGate.Proofs.Markup.Shown
import PackageGate.Proofs.Validation.Survey
import PackageGate.Validation.Diagnostics

/-!
# When a run returns

A run ends without a result only if the path of an entry is refused and nobody answers in place of
the operating system. In a checklist, whose entries are texts, a path is refused if it holds a null
character. A document can name surrogates, too, which are in no text: a survey is refused them
unless they stand for bytes (`survey_returns_iff`).

Nothing else ends either: no answer of the disk, and none of the diagnostics that are printed on the
way, since whatever they tell is escaped.
-/

namespace PackageGate

open Disk (Path)

namespace Diagnostics

open Markup

/-! ## Diagnostics -/

/-- Marked-up texts in which nothing is mistaken. -/
def Fine (texts : List (List Char)) : Prop := ∀ text ∈ texts, ∃ shown, glyphs text = .ok shown

theorem printAll_fine (colours : Bool) {texts : List (List Char)} (h : Fine texts) :
    ∃ ls, printAll colours texts = .ok ls := by
  induction texts with
  | nil => exact ⟨[], rfl⟩
  | cons text texts ih =>
      obtain ⟨shown, hshown⟩ := h text List.mem_cons_self
      obtain ⟨rest, hrest⟩ := ih fun t ht => h t (List.mem_cons_of_mem text ht)
      rw [printAll, print, hshown, hrest]
      exact ⟨_, rfl⟩

theorem faint_fine {text : List Char} {ps : List Piece} {k : Nat} (h : Cut 0 text ps k)
    (htext : ∀ p ∈ ps, p.IsText) : ∃ shown, glyphs (faint text) = .ok shown :=
  ⟨_, glyphs_line .faint h htext⟩

/-- The marker is text, with a backslash in front of a bracket that opens no tag. -/
theorem cut_marker {part : List Char} {ps : List Piece} {k : Nat} (h : Cut 0 part ps k) :
    Cut 0 (marker.toList ++ part)
      (.bracket 1 :: ("DEBUG] ".toList.map .char ++ ps)) k := by
  have hwords : ∀ c ∈ "DEBUG] ".toList, c ≠ '\\' ∧ c ≠ '[' := by simp
  have htag : tagBody? ("DEBUG] ".toList ++ part) = none := by
    have hb : beginsTag 'D' = false := by decide
    simp [tagBody?, hb]
  exact .slash (.bracket htag (.words hwords h))

theorem isText_marker {ps : List Piece} (h : ∀ p ∈ ps, p.IsText) :
    ∀ p ∈ .bracket 1 :: ("DEBUG] ".toList.map Piece.char ++ ps), p.IsText := by
  intro p hp
  rcases List.mem_cons.1 hp with rfl | hp
  · trivial
  · exact isText_of_mem_append (fun p => isText_chars) h p hp

theorem markSentence_fine (text : String) : ∃ shown, glyphs (markSentence text) = .ok shown := by
  obtain ⟨ps, k, h⟩ := exists_cut 0 text.toList
  exact faint_fine (cut_marker (cut_escape h)) (isText_marker fun p => isText_mapEscaped)

/-- Words without brackets and backslashes are escaped to themselves. -/
theorem escape_words {words : List Char} (h : ∀ c ∈ words, c ≠ '\\' ∧ c ≠ '[') :
    escape words = words := by
  have hcut := cut_words h
  have hjoin := join_cut (cut_escape hcut)
  have hsame : (words.map Piece.char).map Piece.escaped = words.map Piece.char := by
    rw [List.map_map]
    rfl
  have hwords := join_cut hcut
  -- the escaped words and the words are cut into the same pieces
  rw [hsame, show lastSlashes 0 = 0 from rfl, hwords] at hjoin
  exact hjoin.symm

theorem markHeading_fine {label : String} (h : ∀ c ∈ label.toList, c ≠ '\\' ∧ c ≠ '[') :
    ∃ shown, glyphs (markHeading label) = .ok shown := by
  have hwords : ∀ c ∈ label.toList ++ [':'], c ≠ '\\' ∧ c ≠ '[' := by
    intro c hc
    rcases List.mem_append.1 hc with hc | hc
    · exact h c hc
    · rw [List.mem_singleton.1 hc]
      decide
  have hcut := cut_words hwords
  rw [markHeading, escape_words h, List.append_assoc]
  exact faint_fine (cut_marker hcut) (isText_marker fun p => isText_chars)

/-- A value may be any text, while a key of the program holds neither brackets nor backslashes. -/
theorem markEntry_fine {key : String} (value : String)
    (h : ∀ c ∈ key.toList, c ≠ '\\' ∧ c ≠ '[') :
    ∃ shown, glyphs (markEntry key value) = .ok shown := by
  have hwords : ∀ c ∈ List.replicate 8 ' ' ++ key.toList ++ [':', ' '], c ≠ '\\' ∧ c ≠ '[' := by
    intro c hc
    rw [List.mem_append, List.mem_append] at hc
    rcases hc with (hc | hc) | hc
    · rw [List.eq_of_mem_replicate hc]
      decide
    · exact h c hc
    · revert c
      simp
  obtain ⟨ps, k, hcut⟩ := exists_cut 0 value.toList
  rw [markEntry, escape_words h]
  exact faint_fine (Cut.words hwords (cut_escape hcut)) <|
    isText_of_mem_append (fun p => isText_chars) fun p => isText_mapEscaped

theorem markNote_fine (note : Note) : Fine (markNote note) := by
  have hone : ∀ text, Fine [markSentence text] := by
    intro text t ht
    rw [List.mem_singleton.1 ht]
    exact markSentence_fine text
  cases note with
  | begun c base =>
      have hkeys : ∀ key ∈ ["checklist", "base_dir", "files", "features"],
          ∀ c ∈ key.toList, c ≠ '\\' ∧ c ≠ '[' := by simp
      intro text htext
      rw [markNote, markTable] at htext
      rcases List.mem_cons.1 htext with rfl | htext
      · exact markHeading_fine (by simp)
      · obtain ⟨entry, hentry, rfl⟩ := List.mem_map.1 htext
        refine markEntry_fine entry.2 (hkeys entry.1 ?_)
        exact List.mem_map_of_mem (f := Prod.fst) hentry
  | absent entry path => exact hone _
  | unreadable entry problem => exact hone _
  | checked entry characters defects => exact hone _
  | skipped file status => exact hone _

/-- **Diagnostics never meet a mistake**, whatever the names, paths and texts in them are. -/
theorem lines_fine (enabled : Bool) (notes : List Note) :
    ∃ ls, lines enabled notes = .ok ls := by
  rw [lines]
  cases enabled with
  | false => exact ⟨[], rfl⟩
  | true =>
      refine printAll_fine false fun text htext => ?_
      obtain ⟨note, _, hnote⟩ := List.mem_flatMap.1 htext
      exact markNote_fine note text hnote

end Diagnostics

/-! ## Surveys and runs -/

/-- An entry leads to a file that is a text. -/
def Outlook.IsSource (o : Outlook) (entry : Points) : Prop :=
  o.look entry = .ok ()
    ∧ ∃ bytes text, o.read entry = .ok bytes ∧ Text.Utf8.decode bytes = .ok text

theorem stat_of_isThere {disk : Disk} {path : Path} (h : Source.isThere disk path = .ok true) :
    disk.stat path = .ok () := by
  cases hstat : disk.stat path with
  | ok u => rfl
  | error failure =>
      rw [isThere_of_error hstat] at h
      split at h <;> cases h

theorem exists_readsAs_of_read {disk : Disk} {path : Path} {text : List Char}
    (h : Source.read disk path = .ok text) : ∃ raw, ReadsAs disk path raw := by
  cases hread : disk.read path with
  | error failure =>
      rw [Source.read, hread] at h
      cases h
  | ok bytes =>
      rw [Source.read, hread] at h
      cases hraw : Text.Utf8.decode bytes with
      | error flaw => simp [Source.textOf, hraw] at h
      | ok raw => exact ⟨raw, bytes, hread, hraw⟩

/-- Where there is no source, something is missing or cannot be read. -/
theorem Outlook.find_of_not_isSource {o : Outlook} {entry : Points} (h : ¬o.IsSource entry)
    (defectsIn : List Char → List String) :
    o.find defectsIn entry = .missing
      ∨ ∃ problem, o.find defectsIn entry = .unreadable problem := by
  rw [find]
  split
  · exact .inr ⟨_, rfl⟩
  · exact .inl rfl
  · rename_i hthere
    split
    · exact .inr ⟨_, rfl⟩
    · rename_i text hread
      obtain ⟨raw, bytes, hbytes, hraw⟩ := exists_readsAs_of_read hread
      exact absurd ⟨stat_of_isThere hthere, bytes, raw, hbytes, hraw⟩ h

/-- **A survey returns exactly if a failure is injected at each entry whose path is refused**: one
that holds a null character, or that is spelled with a code point without bytes. Then each entry has
a finding of its own, and one that leads to no source file is missing or unreadable.

A run returns what the survey of its plan returns, with all its diagnostics. -/
theorem survey_returns_iff {φ : Type} (o : Outlook) (plan : Plan φ)
    (hbase : .char '\x00' ∉ o.base) :
    ((∃ found, o.survey plan = .ok found) ↔
      ∀ entry ∈ plan.entries,
        (.char '\x00' ∈ entry ∨ ∃ point ∈ o.pathOf entry, point.isEncodable = false) →
          (o.injected entry).isSome = true)
    ∧ (∀ found, o.survey plan = .ok found →
        found.files = plan.entries.map (fun entry => (entry, o.find plan.defectsIn entry))
        ∧ ∀ file ∈ found.files, ¬o.IsSource file.1 →
            file.2 = .missing ∨ ∃ problem, file.2 = .unreadable problem)
    ∧ ∀ (disk : Disk) (c : Checklist) (base : Path), disk.InjectsFailures → base.hasNull = false →
        (run disk c base).map (·.1) =
            (((disk.outlook base).survey c.plan).map (·.result c)).mapError (fun _ => ⟨⟩)
        ∧ ∀ result notes, run disk c base = .ok (result, notes) →
            ∀ enabled, ∃ ls, Diagnostics.lines enabled notes = .ok ls := by
  have hfree : (∀ entry ∈ plan.entries, ¬o.Refuses entry) ↔
      ∀ entry ∈ plan.entries,
        (.char '\x00' ∈ entry ∨ ∃ point ∈ o.pathOf entry, point.isEncodable = false) →
          (o.injected entry).isSome = true := by
    refine forall_congr' fun entry => imp_congr_right fun _ => ?_
    rw [Outlook.Refuses, refusal_ne_none_iff, Outlook.null_mem_pathOf_iff hbase, or_comm, not_and,
      Option.isSome_iff_ne_none]
  refine ⟨?_, ?_, ?_⟩
  · rw [← hfree]
    constructor
    · rintro ⟨found, hfound⟩
      exact ((o.survey_eq_ok_iff plan found).1 hfound).1
    · intro h
      exact ⟨_, (o.survey_eq_ok_iff plan _).2 ⟨h, rfl⟩⟩
  · intro found hfound
    obtain ⟨_, rfl⟩ := (o.survey_eq_ok_iff plan found).1 hfound
    refine ⟨rfl, fun file hfile hsource => ?_⟩
    obtain ⟨entry, _, rfl⟩ := List.mem_map.1 hfile
    exact Outlook.find_of_not_isSource hsource plan.defectsIn
  · intro disk c base hinjects hnull
    exact ⟨run_eq_survey hinjects hnull c, fun _ notes _ enabled =>
      Diagnostics.lines_fine enabled notes⟩

/-- A checklist with an entry that holds a null character. -/
def nulled : Checklist where
  name := "Nulled"
  manifest := ["B.cs", "a\x00b"]
  primaryFile := "B.cs"
  features := []
  manifest_ne_nil := by simp
  manifest_nodup := by simp
  primaryFile_mem := by simp

/-- A plan with an entry that begins with a surrogate. -/
def surrogated (n : Fin 0x800) : Plan Unit where
  entries := [Points.ofString "B.cs", .surrogate n :: Points.ofString ".cs"]
  primary := Points.ofString "B.cs"
  defectsIn _ := []
  featuresIn _ := ()
  primary_mem := List.mem_cons_self

/-- The disk of an empty directory, without faults. -/
def emptyDisk : Disk := Disk.assemble (.directory []) [] []

/-- A null character ends the run, and a surrogate the survey if it stands for no byte. -/
theorem refused_entries_do_not_return :
    (¬∃ outcome, run emptyDisk nulled ⟨0, []⟩ = .ok outcome)
    ∧ (¬∃ found, (emptyDisk.outlook ⟨0, []⟩).survey (surrogated 0) = .ok found)
    ∧ ∃ found, (emptyDisk.outlook ⟨0, []⟩).survey (surrogated 0x480) = .ok found := by
  have hbase : .char '\x00' ∉ (emptyDisk.outlook ⟨0, []⟩).base := by decide
  have hinjects : emptyDisk.InjectsFailures := injectsFailures_assemble (.directory []) [] []
  refine ⟨?_, ?_, ?_⟩
  · rintro ⟨outcome, hrun⟩
    have hreturns := survey_returns_iff (emptyDisk.outlook ⟨0, []⟩) nulled.plan hbase
    have hsurvey := (hreturns.2.2 emptyDisk nulled ⟨0, []⟩ hinjects rfl).1
    rw [hrun] at hsurvey
    obtain ⟨found, hfound, _⟩ := map_eq_ok_iff.1 (mapError_eq_ok_iff.1 hsurvey.symm)
    have hentry : Points.ofString "a\x00b" ∈ nulled.plan.entries := by decide
    exact absurd (hreturns.1.1 ⟨found, hfound⟩ _ hentry (.inl (by decide))) (by decide)
  · rw [(survey_returns_iff (emptyDisk.outlook ⟨0, []⟩) (surrogated 0) hbase).1]
    intro h
    have hpoint : .surrogate 0 ∈ (emptyDisk.outlook ⟨0, []⟩).pathOf
        (.surrogate 0 :: Points.ofString ".cs") := by decide
    exact absurd (h _ (List.mem_cons_of_mem _ List.mem_cons_self) (.inr ⟨_, hpoint, rfl⟩))
      (by decide)
  · rw [(survey_returns_iff (emptyDisk.outlook ⟨0, []⟩) (surrogated 0x480) hbase).1]
    decide

end PackageGate
