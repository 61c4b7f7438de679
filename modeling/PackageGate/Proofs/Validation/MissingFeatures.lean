import Mathlib.Data.List.Basic
import PackageGate.Proofs.Validation.Run

/-!
# Features that are missing

Labels may be repeated, and so may markers, so that the labels of what is missing do not tell which
features these are. Their positions do (`MissesAt`): they are listed in order, and the labels are
those of the features at these positions. Around a text more may be added. This takes positions from
the list, those of the markers that occur now and did not before, and leaves all others as they
stand (`missing_surrounded`).

A run looks for the features in the text of the primary file, and keeps for each of them whether it
was found. What it reports as missing is what is missing from that text.
-/

namespace PackageGate

namespace Source

/-- The features that are not present in a text, each with its position. -/
def missing (text : List Char) (features : List Feature) : List (Feature × Nat) :=
  features.zipIdx.filter fun f => !isPresent text f.1

/-- The positions of the features whose markers do not occur, in order. -/
structure MissesAt (text : List Char) (features : List Feature) (positions : List Nat) : Prop where
  sorted : positions.Pairwise (· < ·)
  mem_iff (i : Nat) : i ∈ positions ↔ ∃ f, features[i]? = some f ∧ ¬f.marker.toList <:+: text

/-- The labels of the features at some positions. -/
def labelsAt (features : List Feature) (positions : List Nat) : List String :=
  positions.filterMap fun i => features[i]?.map (·.label)

variable {text : List Char} {features : List Feature}

theorem mem_missing_iff {f : Feature} {i : Nat} :
    (f, i) ∈ missing text features ↔ features[i]? = some f ∧ ¬f.marker.toList <:+: text := by
  rw [missing, List.mem_filter, List.mem_zipIdx_iff_getElem?, Bool.not_eq_true',
    ← Bool.not_eq_true, isPresent_iff]

theorem missesAt_missing (text : List Char) (features : List Feature) :
    MissesAt text features ((missing text features).map (·.2)) where
  sorted := by
    have hall : (features.zipIdx.map (·.2)).Pairwise (· < ·) := by
      rw [List.zipIdx_map_snd]
      exact List.pairwise_lt_range'
    exact hall.sublist (List.filter_sublist.map _)
  mem_iff i := by
    rw [List.mem_map]
    constructor
    · rintro ⟨⟨f, i⟩, hf, rfl⟩
      exact ⟨f, mem_missing_iff.1 hf⟩
    · rintro ⟨f, hf⟩
      exact ⟨(f, i), mem_missing_iff.2 hf, rfl⟩

/-- The labels of the features that are missing, by their positions. -/
theorem labelsAt_missing (text : List Char) (features : List Feature) :
    labelsAt features ((missing text features).map (·.2)) = missingLabels text features := by
  have hlabels : missingLabels text features = (missing text features).map (·.1.label) := by
    have hfilter : (features.zipIdx.map (·.1)).filter (fun f => !isPresent text f) =
        (missing text features).map (·.1) := by
      rw [List.filter_map]
      rfl
    rw [List.zipIdx_map_fst] at hfilter
    rw [missingLabels, hfilter, List.map_map]
    rfl
  rw [hlabels, labelsAt, List.filterMap_map, ← List.filterMap_eq_map]
  refine List.filterMap_congr fun f hf => ?_
  have hat : features[f.2]? = some f.1 := (mem_missing_iff.1 hf).1
  simp only [Function.comp, hat, Option.map_some]

/-! ## Adding text -/

/-- What is missing with text around is what was missing before, without what is present now. -/
theorem missing_append (before after : List Char) :
    missing (before ++ text ++ after) features =
      (missing text features).filter fun f => !isPresent (before ++ text ++ after) f.1 := by
  rw [missing, missing, List.filter_filter]
  refine List.filter_congr fun f _ => ?_
  cases hwhole : isPresent (before ++ text ++ after) f.1 with
  | true => rfl
  | false =>
      -- a marker that does not occur in the whole does not occur in the text
      cases hpresent : isPresent text f.1 with
      | false => rfl
      | true => exact absurd (isPresent_append before after hpresent) (Bool.not_eq_true _ ▸ hwhole)

theorem missing_append_sublist (before text after : List Char) (features : List Feature) :
    (missing (before ++ text ++ after) features).Sublist (missing text features) := by
  rw [missing_append]
  exact List.filter_sublist

end Source

/-! ## Runs -/

open Disk (Path)

/-- The outcome for a file that is there and can be read as a text. -/
theorem examine_of_text {disk : Disk} {path : Path} {text : List Char}
    (hstat : disk.stat path = .ok ()) (hread : Source.read disk path = .ok text) (rules : Rules)
    (entry : String) : (examine disk rules entry path).1 = .ofText rules entry text := by
  rw [examine, isThere_of_ok hstat]
  dsimp only
  rw [hread]

/-- What was found in a text is what is not missing from it. -/
theorem missingFeatures_of_presence {r : Result} {text : List Char} {features : List Feature}
    (h : r.features = Source.presence text features) :
    r.missingFeatures = Source.missingLabels text features := by
  rw [Result.missingFeatures, h, Source.presence, List.filter_map, List.map_map,
    Source.missingLabels]
  rfl

theorem missingFeatures_run {disk : Disk} {c : Checklist} {base : Path} {result : Result}
    {notes : List Note} {text : List Char} (hrun : run disk c base = .ok (result, notes))
    (hstat : disk.stat (pathOf base c.primaryFile) = .ok ())
    (hread : Source.read disk (pathOf base c.primaryFile) = .ok text) :
    result.missingFeatures = Source.missingLabels text c.features := by
  obtain ⟨_, htold⟩ := (run_eq_ok_iff disk c base _).1 hrun
  have hresult : result = (told disk c base).1 := congrArg Prod.fst htold
  have hprimary : primaryOf disk c base = .ofText c.rules c.primaryFile text :=
    examine_of_text hstat hread c.rules c.primaryFile
  refine missingFeatures_of_presence ?_
  rw [hresult, told, hprimary]
  rfl

/-- **Adding text around takes away missing features and leaves the others in their order**, namely
those whose markers occur now and did not before. **And a run misses what is missing from the text
of the primary file.** -/
theorem missing_surrounded :
    (∀ (before text after : List Char) (features : List Feature), ∃ positions remaining,
      Source.MissesAt text features positions
        ∧ Source.MissesAt (before ++ text ++ after) features remaining
        ∧ Source.missingLabels text features = Source.labelsAt features positions
        ∧ Source.missingLabels (before ++ text ++ after) features =
          Source.labelsAt features remaining
        ∧ remaining.Sublist positions
        ∧ (∀ i, i ∈ positions ∧ i ∉ remaining ↔ ∃ f, features[i]? = some f
            ∧ f.marker.toList <:+: before ++ text ++ after ∧ ¬f.marker.toList <:+: text)
        ∧ (Source.missingLabels (before ++ text ++ after) features).Sublist
            (Source.missingLabels text features))
      ∧ ∀ (disk : Disk) (c : Checklist) (base : Path) (result : Result) (notes : List Note)
          (text : List Char), run disk c base = .ok (result, notes) →
          disk.stat (pathOf base c.primaryFile) = .ok () →
          Source.read disk (pathOf base c.primaryFile) = .ok text →
          result.missingFeatures = Source.missingLabels text c.features := by
  refine ⟨fun before text after features => ?_, fun disk c base result notes text =>
    missingFeatures_run⟩
  have hbefore := Source.missesAt_missing text features
  have hafter := Source.missesAt_missing (before ++ text ++ after) features
  have hsublist := (Source.missing_append_sublist before text after features).map (·.2)
  refine ⟨_, _, hbefore, hafter, (Source.labelsAt_missing _ _).symm,
    (Source.labelsAt_missing _ _).symm, hsublist, fun i => ?_, ?_⟩
  · rw [hbefore.mem_iff, hafter.mem_iff]
    constructor
    · rintro ⟨⟨f, hf, hmissing⟩, hnot⟩
      exact ⟨f, hf, Classical.not_not.1 fun hwhole => hnot ⟨f, hf, hwhole⟩, hmissing⟩
    · rintro ⟨f, hf, hwhole, hmissing⟩
      refine ⟨⟨f, hf, hmissing⟩, ?_⟩
      -- there is one feature at a position
      rintro ⟨g, hg, hnot⟩
      cases hf.symm.trans hg
      exact hnot hwhole
  · rw [← Source.labelsAt_missing, ← Source.labelsAt_missing]
    exact hsublist.filterMap _

/-- Features with a label that is repeated, and with markers of which one is in the other. -/
def likeFeatures : List Feature :=
  [⟨"{}", "Braces"⟩, ⟨"a\x7b", "Same"⟩, ⟨"a.*", "Same"⟩, ⟨"", "All"⟩]

/-- A checklist with them. -/
def likeChecklist : Checklist := { twoFiles with features := likeFeatures }

/-- The marker of the first feature is in the text, the next goes over the seam, and the third
misses its label still. -/
theorem missing_surrounded_like :
    Source.missingLabels "{}".toList likeFeatures = ["Same", "Same"]
      ∧ Source.missingLabels ("a".toList ++ "{}".toList ++ "*".toList) likeFeatures = ["Same"]
      ∧ (Source.missingLabels ("a".toList ++ "{}".toList ++ "*".toList) likeFeatures).Sublist
          (Source.missingLabels "{}".toList likeFeatures)
      ∧ ∃ result notes, run oneFile likeChecklist ⟨0, []⟩ = .ok (result, notes)
        ∧ oneFile.stat (pathOf ⟨0, []⟩ likeChecklist.primaryFile) = .ok ()
        ∧ Source.read oneFile (pathOf ⟨0, []⟩ likeChecklist.primaryFile) = .ok "{}".toList
        ∧ result.missingFeatures = ["Same", "Same"] := by
  have hmissing : Source.missingLabels "{}".toList likeFeatures = ["Same", "Same"] := by decide
  have hrun := (run_eq_ok_iff oneFile likeChecklist ⟨0, []⟩ _).2 ⟨twoFiles_free, rfl⟩
  have hstat : oneFile.stat (pathOf ⟨0, []⟩ likeChecklist.primaryFile) = .ok () := rfl
  have hread : Source.read oneFile (pathOf ⟨0, []⟩ likeChecklist.primaryFile) =
      .ok "{}".toList := rfl
  obtain ⟨_, _, _, _, _, _, _, _, hsublist⟩ :=
    missing_surrounded.1 "a".toList "{}".toList "*".toList likeFeatures
  refine ⟨hmissing, by decide, hsublist, _, _, hrun, hstat, hread, ?_⟩
  exact (missing_surrounded.2 _ _ _ _ _ _ hrun hstat hread).trans hmissing

end PackageGate
