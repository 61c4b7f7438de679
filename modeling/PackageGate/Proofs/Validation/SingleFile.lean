import PackageGate.Proofs.Source.Stored
import PackageGate.Proofs.Validation.Returns

/-!
# A run and the check of a single file

A run looks at a file before it reads it; the check of a single file reads it at once. On the disk
of a tree both questions follow the same path, so that what cannot be looked at cannot be read for
the same reason (`readAt_of_statAt_error`), and the two ways have the same to say of a file
(`checkFile_agrees`). They differ in two respects. What is missing in a run is a reading problem for
the single file. And if a path cannot be followed to its end while reading at it is faulty as well,
the run words the first failure and the single file the second (`IsFaultyBehind`).
-/

namespace PackageGate

open Disk (Path Failure Fault Node Place Code assemble faultAt locate statAt readAt)
open Source (ReadProblem checkFile isThere readFailure)

/-! ## Paths of entries -/

/-- A name is a path of one step. -/
theorem ofString_name {name : String} (hslash : '/' ∉ name.toList)
    (hstep : Disk.isStep name = true) : Path.ofString name = ⟨0, [name]⟩ := by
  have hfront : name.toList.takeWhile (· = '/') = [] := by
    cases hname : name.toList with
    | nil => rfl
    | cons c rest =>
        rw [hname, List.mem_cons, not_or] at hslash
        rw [List.takeWhile_cons_of_neg]
        rw [decide_eq_true_eq]
        exact fun hc => hslash.1 hc.symm
  have hsteps : Disk.rawSteps name = [name] := by
    rw [Disk.rawSteps, Text.splitAt_eq_singleton hslash, List.map_singleton, String.ofList_toList]
  rw [Path.ofString, hfront, hsteps, List.filter_cons_of_pos hstep]
  rfl

theorem hasNull_pathOf_eq_false {base : Path} (hbase : base.hasNull = false) {entry : String}
    (hentry : '\x00' ∉ entry.toList) : (pathOf base entry).hasNull = false := by
  rw [← Bool.not_eq_true, hasNull_pathOf_iff hbase]
  exact hentry

/-! ## Looking and reading -/

/-- What cannot be looked at cannot be read either, for the same reason. -/
theorem readAt_of_statAt_error {top : Node} {cwd : Place} {p : Path} {code : Code}
    (h : statAt top cwd p = .error code) : readAt top cwd p = .error code := by
  rw [statAt] at h
  rw [readAt]
  cases hplace : locate top cwd p with
  | error other =>
      rw [hplace] at h
      cases h
      rfl
  | ok place =>
      rw [hplace] at h
      cases h

theorem stat_assemble {faults : List Fault} (h : ∀ fault ∈ faults, fault.question ≠ .stat)
    (top : Node) (cwd : Place) (p : Path) :
    (assemble top cwd faults).stat p = (statAt top cwd p).mapError .code := by
  have hnone : faultAt faults .stat p = none :=
    Source.faultAt_eq_none fun fault hfault => .inr (h fault hfault)
  rw [assemble]
  dsimp only
  rw [hnone]

theorem read_assemble_of_fault {faults : List Fault} {p : Path} {failure : Failure}
    (h : faultAt faults .read p = some failure) (top : Node) (cwd : Place) :
    (assemble top cwd faults).read p = .error failure := by
  rw [assemble]
  dsimp only
  rw [h]

theorem read_assemble_of_error {faults : List Fault} {p : Path} (h : faultAt faults .read p = none)
    {top : Node} {cwd : Place} {code : Code} (hstat : statAt top cwd p = .error code) :
    (assemble top cwd faults).read p = .error (.code code) := by
  rw [assemble]
  dsimp only
  rw [h, readAt_of_statAt_error hstat]
  rfl

theorem read_assemble_error (faults : List Fault) {top : Node} {cwd : Place} {p : Path}
    {code : Code} (hstat : statAt top cwd p = .error code) :
    ∃ failure, (assemble top cwd faults).read p = .error failure := by
  cases h : faultAt faults .read p with
  | some failure => exact ⟨failure, read_assemble_of_fault h top cwd⟩
  | none => exact ⟨_, read_assemble_of_error h hstat⟩

/-! ## One file, in two ways -/

section File

variable {disk : Disk} {path : Path}

theorem validateFile_of_hasNoNull (disk : Disk) {base : Path} {entry : String} (rules : Rules)
    (h : (pathOf base entry).hasNull = false) :
    validateFile disk base rules entry =
      .ok ((examine disk rules entry (pathOf base entry)).1,
        (examine disk rules entry (pathOf base entry)).2) :=
  Disk.atPath_eq_ok _ _ _ h

theorem checkFile_of_error {f : Failure} (h : disk.read path = .error f) (rules : Rules) :
    checkFile disk rules path = [readFailure (ReadProblem.ofFailure f).message] := by
  rw [checkFile, Source.read, h]

/-- A file that is there has the same defects in both ways. -/
theorem examine_of_there (h : disk.stat path = .ok ()) (rules : Rules) (entry : String) :
    (examine disk rules entry path).1.status ≠ .missing
      ∧ (examine disk rules entry path).1.defects = checkFile disk rules path := by
  rw [examine, isThere_of_ok h, checkFile]
  dsimp only
  cases Source.read disk path with
  | error problem => exact ⟨fun hmissing => (by cases hmissing), rfl⟩
  | ok text =>
      refine ⟨?_, rfl⟩
      dsimp only [FileResult.ofText]
      split <;> exact fun hmissing => (by cases hmissing)

theorem examine_of_absence {f : Failure} (h : disk.stat path = .error f)
    (hf : f.isAbsence = true) (rules : Rules) (entry : String) :
    (examine disk rules entry path).1 = .absent entry := by
  rw [examine, isThere_of_error h, if_pos hf]

theorem examine_of_failure {f : Failure} (h : disk.stat path = .error f)
    (hf : f.isAbsence = false) (rules : Rules) (entry : String) :
    (examine disk rules entry path).1 = .ofProblem entry (.ofFailure f) := by
  rw [examine, isThere_of_error h, if_neg (Bool.not_eq_true _ ▸ hf)]

end File

/-! ## On the disk of a tree -/

/-- Reading at a path is faulty, and the path cannot be followed to its end in the first place,
though not because nothing is there. -/
def IsFaultyBehind (top : Node) (cwd : Place) (faults : List Fault) (p : Path) (code : Code)
    (failure : Failure) : Prop :=
  statAt top cwd p = .error code ∧ code.isAbsence = false ∧ faultAt faults .read p = some failure

/-- **A file has the same defects in a run and by itself.** If it is missing in the run, reading it
by itself fails. Where reading is faulty behind a path that cannot be followed, each of the two
words its own failure. -/
theorem checkFile_agrees (top : Node) (cwd : Place) {faults : List Fault}
    (hfaults : ∀ fault ∈ faults, fault.question ≠ .stat) {base : Path}
    (hbase : base.hasNull = false) {entry : String} (hentry : '\x00' ∉ entry.toList)
    (rules : Rules) :
    ∃ (result : FileResult) (note : Note) (messages : List String),
      validateFile (assemble top cwd faults) base rules entry = .ok (result, note)
        ∧ (assemble top cwd faults).atPath .read (pathOf base entry)
            (checkFile (assemble top cwd faults) rules (pathOf base entry)) = .ok messages
        ∧ (result.status = .missing →
            ∃ reason : String, messages = [s!"Failed to read file: {reason}"])
        ∧ (result.status ≠ .missing →
            (∀ code failure, ¬IsFaultyBehind top cwd faults (pathOf base entry) code failure) →
            messages = result.defects)
        ∧ ∀ code failure, IsFaultyBehind top cwd faults (pathOf base entry) code failure →
            result.status = .unreadable
              ∧ result.defects = [readFailure (ReadProblem.ofFailure (.code code)).message]
              ∧ messages = [readFailure (ReadProblem.ofFailure failure).message] := by
  have hnull := hasNull_pathOf_eq_false hbase hentry
  refine ⟨_, _, _, validateFile_of_hasNoNull _ rules hnull, Disk.atPath_eq_ok _ _ _ hnull, ?_⟩
  have hstat := stat_assemble hfaults top cwd (pathOf base entry)
  cases hlookup : statAt top cwd (pathOf base entry) with
  | ok _ =>
      rw [hlookup] at hstat
      obtain ⟨hstatus, hdefects⟩ := examine_of_there hstat rules entry
      refine ⟨fun hmissing => absurd hmissing hstatus, fun _ _ => hdefects.symm, ?_⟩
      rintro code failure ⟨hcode, _⟩
      cases hlookup.symm.trans hcode
  | error code =>
      rw [hlookup] at hstat
      cases habsence : code.isAbsence with
      | true =>
          have hresult := examine_of_absence hstat habsence rules entry
          have hmissing : (examine (assemble top cwd faults) rules entry
              (pathOf base entry)).1.status = .missing := by rw [hresult]; rfl
          refine ⟨fun _ => ?_, fun hother => absurd hmissing hother, ?_⟩
          · obtain ⟨failure, hread⟩ := read_assemble_error faults hlookup
            exact ⟨_, checkFile_of_error hread rules⟩
          · rintro other failure ⟨hcode, hpresent, _⟩
            cases hlookup.symm.trans hcode
            cases habsence.symm.trans hpresent
      | false =>
          have hresult := examine_of_failure hstat habsence rules entry
          have hstatus : (examine (assemble top cwd faults) rules entry
              (pathOf base entry)).1.status = .unreadable := by rw [hresult]; rfl
          refine ⟨fun hmissing => ?_, fun _ hplain => ?_, ?_⟩
          · cases hstatus.symm.trans hmissing
          · have hnone : faultAt faults .read (pathOf base entry) = none :=
              Option.eq_none_iff_forall_ne_some.2 fun failure hfault =>
                hplain code failure ⟨hlookup, habsence, hfault⟩
            rw [hresult, checkFile_of_error (read_assemble_of_error hnone hlookup)]
            rfl
          · rintro other failure ⟨hcode, _, hfault⟩
            cases hlookup.symm.trans hcode
            refine ⟨hstatus, ?_, ?_⟩
            · rw [hresult]
              rfl
            · exact checkFile_of_error (read_assemble_of_fault hfault top cwd) rules

/-- A tree with a file that must not be read. -/
def closedTree : Node := .directory [("A.cs", .file [0x61])]

/-- What is in the way of reading it. -/
def closedFaults : List Fault := [⟨Path.ofString "A.cs", .read, .code .accessDenied⟩]

theorem statAt_closed : statAt closedTree [] (Path.ofString "A.cs") = .ok () := by
  have hplace : locate closedTree [] (Path.ofString "A.cs") = .ok ["A.cs"] :=
    Source.locate_name (by decide) (by decide) (show _ = ["A.cs"] by decide) rfl
  rw [statAt, hplace]
  rfl

theorem checkFile_agrees_closed :
    (∀ fault ∈ closedFaults, fault.question ≠ .stat)
      ∧ ∃ (result : FileResult) (note : Note) (messages : List String),
        validateFile (assemble closedTree [] closedFaults) (Path.ofString ".") {} "A.cs" =
            .ok (result, note)
          ∧ (assemble closedTree [] closedFaults).atPath .read (pathOf (Path.ofString ".") "A.cs")
              (checkFile (assemble closedTree [] closedFaults) {}
                (pathOf (Path.ofString ".") "A.cs")) = .ok messages
          ∧ result.status ≠ .missing
          ∧ messages = result.defects
          ∧ messages = ["Failed to read file: Permission denied reading file"] := by
  have hfaults : ∀ fault ∈ closedFaults, fault.question ≠ .stat := by decide
  have hpath : pathOf (Path.ofString ".") "A.cs" = Path.ofString "A.cs" := by decide
  have hstat : (assemble closedTree [] closedFaults).stat (pathOf (Path.ofString ".") "A.cs") =
      .ok () := by
    rw [hpath, stat_assemble hfaults, statAt_closed]
    rfl
  have hread : (assemble closedTree [] closedFaults).read (pathOf (Path.ofString ".") "A.cs") =
      .error (.code .accessDenied) := read_assemble_of_fault (by decide) _ _
  obtain ⟨result, note, messages, hresult, hmessages, -, hsame, -⟩ := checkFile_agrees closedTree []
    hfaults (show (Path.ofString ".").hasNull = false by decide)
    (show '\x00' ∉ "A.cs".toList by decide) {}
  have hstatus : result.status ≠ .missing := by
    cases hresult.symm.trans (validateFile_of_hasNoNull _ _ (by decide))
    exact (examine_of_there hstat {} "A.cs").1
  have hplain : ∀ code failure,
      ¬IsFaultyBehind closedTree [] closedFaults (pathOf (Path.ofString ".") "A.cs") code
        failure := by
    rintro code failure ⟨hcode, -⟩
    cases (hpath ▸ hcode).symm.trans statAt_closed
  refine ⟨hfaults, result, note, messages, hresult, hmessages, hstatus, hsame hstatus hplain, ?_⟩
  cases hmessages.symm.trans (Disk.atPath_eq_ok _ _ _ (by decide))
  exact checkFile_of_error hread {}

/-- A name that no file has, since it is too long. -/
def overlong : String := String.ofList (List.replicate 256 'a')

/-- What else is in the way of reading there. -/
def overlongFaults : List Fault := [⟨⟨0, [overlong]⟩, .read, .code .accessDenied⟩]

theorem toList_overlong : overlong.toList = List.replicate 256 'a' := String.toList_ofList

theorem not_mem_overlong {c : Char} (h : c ≠ 'a') : c ∉ overlong.toList := by
  rw [toList_overlong]
  exact fun hmem => h (List.eq_of_mem_replicate hmem)

/-- A short text is another one. -/
theorem overlong_ne {text : String} (h : text.toList.length < 256) : overlong ≠ text := by
  rintro rfl
  rw [toList_overlong, List.length_replicate] at h
  exact absurd h (Nat.lt_irrefl _)

theorem isStep_overlong : Disk.isStep overlong = true := by
  rw [Disk.isStep, Bool.and_eq_true, decide_eq_true_eq, decide_eq_true_eq]
  exact ⟨overlong_ne (by decide), overlong_ne (by decide)⟩

theorem pathOf_overlong : pathOf (Path.ofString ".") overlong = ⟨0, [overlong]⟩ := by
  have hpath := ofString_name (not_mem_overlong (by decide)) isStep_overlong
  rw [pathOf, hpath, Path.join, if_neg (by decide)]
  rfl

theorem statAt_overlong :
    statAt (.directory []) [] (pathOf (Path.ofString ".") overlong) = .error .nameTooLong := by
  have hbytes : Text.Utf8.size overlong.toList = 256 := by
    rw [toList_overlong]
    decide +kernel
  have hsize : ¬Disk.pathLimit ≤ (⟨0, [overlong]⟩ : Path).size := by
    rw [Path.size, Path.toString, if_neg (by decide), List.replicate_zero, String.ofList_nil,
      String.empty_append, String.intercalate_singleton, hbytes]
    decide
  have hstep : Disk.step (.directory []) [] overlong = .error .nameTooLong := by
    rw [Disk.step, if_neg (by decide), if_neg (overlong_ne (by decide)),
      if_neg (overlong_ne (by decide)), hbytes, if_pos (by decide)]
  rw [pathOf_overlong, statAt, locate, if_neg hsize, if_neg (by decide), Disk.walk, hstep]
  rfl

/-- In the run, the name is too long to be looked at; by itself, the file must not be read. -/
theorem overlong_words_differ :
    (∀ fault ∈ overlongFaults, fault.question ≠ .stat)
      ∧ (Path.ofString ".").hasNull = false
      ∧ '\x00' ∉ overlong.toList
      ∧ ∃ (result : FileResult) (note : Note) (messages : List String),
        validateFile (assemble (.directory []) [] overlongFaults) (Path.ofString ".") {} overlong =
            .ok (result, note)
          ∧ (assemble (.directory []) [] overlongFaults).atPath .read
              (pathOf (Path.ofString ".") overlong)
              (checkFile (assemble (.directory []) [] overlongFaults) {}
                (pathOf (Path.ofString ".") overlong)) = .ok messages
          ∧ result.status ≠ .missing
          ∧ result.defects = ["Failed to read file: Cannot read file: File name too long"]
          ∧ messages = ["Failed to read file: Permission denied reading file"]
          ∧ messages ≠ result.defects := by
  have hfaults : ∀ fault ∈ overlongFaults, fault.question ≠ .stat := by
    rw [overlongFaults, List.forall_mem_singleton]
    decide
  have hbase : (Path.ofString ".").hasNull = false := by decide
  have hentry : '\x00' ∉ overlong.toList := not_mem_overlong (by decide)
  have hnull := hasNull_pathOf_eq_false hbase hentry
  have hstat : (assemble (.directory []) [] overlongFaults).stat
      (pathOf (Path.ofString ".") overlong) = .error (.code .nameTooLong) := by
    rw [stat_assemble hfaults, statAt_overlong]
    rfl
  have hread : (assemble (.directory []) [] overlongFaults).read
      (pathOf (Path.ofString ".") overlong) = .error (.code .accessDenied) := by
    refine read_assemble_of_fault ?_ _ _
    rw [pathOf_overlong]
    simp [faultAt, overlongFaults]
  have hresult := examine_of_failure hstat (by decide) {} overlong
  have hmessages := checkFile_of_error hread {}
  refine ⟨hfaults, hbase, hentry, _, _, _, validateFile_of_hasNoNull _ {} hnull,
    Disk.atPath_eq_ok _ _ _ hnull, ?_⟩
  rw [hresult, hmessages]
  decide

end PackageGate
