import Mathlib.Data.List.Forall2
import PackageGate.Proofs.Outcome
import PackageGate.Proofs.Validation.Banner

/-!
# How the program ends

Unless a fault that nobody catches ends it, the program ends in one of four ways: with help, with a
mistake in the arguments, with the problems of the checklist, or with the report of a run. Which of
them it is, and everything in it, follows from what was printed: no two of them go together
(`Ending.unique`). Only the report of a run in which all is good ends in the banner of a success,
and apart from help only such a run ends with the exit code zero (`program_ends`).
-/

namespace PackageGate.CommandLine

open Disk (Path)
open Markup (EndsIn painted print printAll)

/-- How the program ends, with what it ends with. -/
inductive Ending where
  | help
  | refused (m : Mistake)
  | rejected (file : Path) (problems : List String)
  | validated (checklist : Checklist) (base : Path) (result : Result)

/-- A request names a checklist: the built-in one, or the one in a file. -/
def Names (disk : Disk) (choice : Choice) (checklist : Checklist) : Prop :=
  choice = .usual ∧ checklist = .builtIn
    ∨ ∃ text, choice = .path text ∧ Checklist.load disk (Path.ofString text) = .ok checklist

/-- A request names a base directory: the current one, or another that is made canonical. -/
def Locates (disk : Disk) (choice : Choice) (base : Path) : Prop :=
  choice = .usual ∧ base = Path.ofString "."
    ∨ ∃ text, choice = .path text ∧ disk.canonical (Path.ofString text) = .ok base

/-- A problem in the list, as marked-up text. -/
def bullet (problem : String) : List Char :=
  "  [red]• ".toList ++ Markup.escape problem.toList ++ "[/red]".toList

/-- The list of problems: a heading, a bullet for each, and a banner. -/
def Lists (colours : Bool) (problems lines : List String) : Prop :=
  ∃ bullets, List.Forall₂ (fun problem shown => print colours (bullet problem) = .ok shown)
      problems bullets
    ∧ lines = [painted colours .failure "Checklist Errors:", ""] ++ bullets.flatten ++
        ["", painted colours .failure "💥 Validation not run: invalid checklist"]

/-- What is printed at an ending, and why it comes to it. -/
def Ending.Explains (disk : Disk) (colours : Bool) (arguments : List String) (printed : Printed) :
    Ending → Prop
  | .help => read arguments = .ok .help ∧ printed = ⟨0, CommandLine.help, []⟩
  | .refused m => read arguments = .error m
      ∧ printed = ⟨1, [], [usage, s!"{programName}: error: {m.message}"]⟩
      ∧ ∀ before, debugAfter before arguments = before
  | .rejected file problems => ∃ r text reason,
      read arguments = .ok (.request r) ∧ r.checklist = .path text ∧ file = Path.ofString text
        ∧ Checklist.load disk file = .error (.rejected reason) ∧ problems = reason.messages file
        ∧ printed.exitCode = 1 ∧ Lists colours problems printed.output ∧ printed.errors = []
        -- nothing but the checklist file is looked at
        ∧ ∀ disk', Checklist.load disk' file = Checklist.load disk file →
          program disk' colours arguments = .ok printed
  | .validated checklist base result => ∃ r notes,
      read arguments = .ok (.request r) ∧ Names disk r.checklist checklist
        ∧ Locates disk r.baseDir base ∧ run disk checklist base = .ok (result, notes)
        ∧ (printed.exitCode = 0 ↔ result.allGood = true) ∧ printed.exitCode ≤ 1
        ∧ Report.lines colours result = .ok printed.output
        ∧ Diagnostics.lines r.debug notes = .ok printed.errors

/-- The last that is printed is the banner of a success. -/
def EndsWithSuccess (colours : Bool) (output : List String) : Prop :=
  ∃ above shown name, output = above ++ shown
    ∧ print colours (Report.mark (some (Report.success name))) = .ok shown

/-! ## Endings are told apart -/

theorem Names.unique {disk : Disk} {choice : Choice} {c c' : Checklist}
    (h : Names disk choice c) (h' : Names disk choice c') : c = c' := by
  rcases h with ⟨rfl, rfl⟩ | ⟨text, rfl, hload⟩
  · rcases h' with ⟨_, rfl⟩ | ⟨_, hchoice, _⟩
    · rfl
    · cases hchoice
  · rcases h' with ⟨hchoice, _⟩ | ⟨_, hchoice, hload'⟩
    · cases hchoice
    · cases hchoice
      exact Except.ok.inj (hload.symm.trans hload')

theorem Locates.unique {disk : Disk} {choice : Choice} {base base' : Path}
    (h : Locates disk choice base) (h' : Locates disk choice base') : base = base' := by
  rcases h with ⟨rfl, rfl⟩ | ⟨text, rfl, hbase⟩
  · rcases h' with ⟨_, rfl⟩ | ⟨_, hchoice, _⟩
    · rfl
    · cases hchoice
  · rcases h' with ⟨hchoice, _⟩ | ⟨_, hchoice, hbase'⟩
    · cases hchoice
    · cases hchoice
      exact Except.ok.inj (hbase.symm.trans hbase')

/-- A file that is rejected names no checklist. -/
theorem Names.not_rejected {disk : Disk} {text : String} {c : Checklist}
    {reason : Checklist.Rejection} (h : Names disk (.path text) c) :
    Checklist.load disk (Path.ofString text) ≠ .error (.rejected reason) := by
  obtain ⟨hchoice, _⟩ | ⟨_, hchoice, hload⟩ := h
  · cases hchoice
  · cases hchoice
    rw [hload]
    exact nofun

/-- How the arguments were read is known from the ending. -/
theorem Ending.Explains.reading {disk : Disk} {colours : Bool} {arguments : List String}
    {printed : Printed} {e : Ending} (h : e.Explains disk colours arguments printed) :
    match e with
    | .help => read arguments = .ok .help
    | .refused m => read arguments = .error m
    | .rejected _ _ | .validated _ _ _ => ∃ r, read arguments = .ok (.request r) := by
  cases e with
  | help => exact h.1
  | refused m => exact h.1
  | rejected file problems =>
      obtain ⟨r, _, _, hread, _⟩ := h
      exact ⟨r, hread⟩
  | validated checklist base result =>
      obtain ⟨r, _, hread, _⟩ := h
      exact ⟨r, hread⟩

/-- A checklist that is rejected is not checked. -/
theorem Ending.Explains.not_validated {disk : Disk} {colours : Bool} {arguments : List String}
    {printed : Printed} {file base : Path} {problems : List String} {c : Checklist}
    {result : Result}
    (h : (Ending.rejected file problems).Explains disk colours arguments printed) :
    ¬(Ending.validated c base result).Explains disk colours arguments printed := by
  obtain ⟨r, text, reason, hread, hchoice, rfl, hload, _⟩ := h
  rintro ⟨r', notes, hread', hnames, _⟩
  cases hread.symm.trans hread'
  rw [hchoice] at hnames
  exact hnames.not_rejected hload

/-- **No two endings go together.** -/
theorem Ending.unique {disk : Disk} {colours : Bool} {arguments : List String} {printed : Printed}
    {e e' : Ending} (h : e.Explains disk colours arguments printed)
    (h' : e'.Explains disk colours arguments printed) : e = e' := by
  have hreading := h.reading
  have hreading' := h'.reading
  cases e with
  | help => cases e' <;> simp_all
  | refused m => cases e' <;> simp_all
  | rejected file problems =>
      cases e' with
      | help => simp_all
      | refused m => simp_all
      | rejected file' problems' =>
          obtain ⟨r, text, reason, hread, hchoice, rfl, hload, rfl, _⟩ := h
          obtain ⟨r', text', reason', hread', hchoice', rfl, hload', rfl, _⟩ := h'
          cases hread.symm.trans hread'
          cases hchoice.symm.trans hchoice'
          cases hload.symm.trans hload'
          rfl
      | validated c base result => exact absurd h' h.not_validated
  | validated c base result =>
      cases e' with
      | help => simp_all
      | refused m => simp_all
      | rejected file problems => exact absurd h h'.not_validated
      | validated c' base' result' =>
          obtain ⟨r, notes, hread, hnames, hlocates, hrun, _⟩ := h
          obtain ⟨r', notes', hread', hnames', hlocates', hrun', _⟩ := h'
          cases hread.symm.trans hread'
          cases hnames.unique hnames'
          cases hlocates.unique hlocates'
          cases hrun.symm.trans hrun'
          rfl

/-! ## The list of problems -/

theorem printAll_bullets {colours : Bool} {problems lines : List String}
    (h : printAll colours (problems.map bullet) = .ok lines) :
    ∃ bullets, List.Forall₂ (fun problem shown => print colours (bullet problem) = .ok shown)
      problems bullets ∧ lines = bullets.flatten := by
  induction problems generalizing lines with
  | nil =>
      cases h
      exact ⟨[], .nil, rfl⟩
  | cons problem problems ih =>
      rw [List.map_cons, ← List.singleton_append, Markup.printAll_append_eq_ok_iff] at h
      obtain ⟨shown, below, hshown, hbelow, rfl⟩ := h
      obtain ⟨bullets, hbullets, rfl⟩ := ih hbelow
      exact ⟨shown :: bullets, .cons (Markup.printAll_singleton.1 hshown) hbullets, rfl⟩

theorem print_heading (colours : Bool) :
    print colours "[bold red]Checklist Errors:[/bold red]\n".toList =
      .ok [painted colours .failure "Checklist Errors:", ""] := by
  cases colours <;> decide +kernel

theorem print_empty (colours : Bool) : print colours [] = .ok [""] := by
  cases colours <;> decide +kernel

theorem print_notRun (colours : Bool) :
    print colours "[bold red]💥 Validation not run: invalid checklist[/bold red]".toList =
      .ok [painted colours .failure "💥 Validation not run: invalid checklist"] := by
  cases colours <;> decide +kernel

/-- The problems are listed in their order. -/
theorem lists_of_problemLines {colours : Bool} {problems lines : List String}
    (h : problemLines colours problems = .ok lines) : Lists colours problems lines := by
  have hmarks : markProblems problems =
      ["[bold red]Checklist Errors:[/bold red]\n".toList] ++ (problems.map bullet ++
        ([[]] ++ ["[bold red]💥 Validation not run: invalid checklist[/bold red]".toList])) := rfl
  rw [problemLines, hmarks, Markup.printAll_append_eq_ok_iff] at h
  obtain ⟨heading, _, hheading, hrest, rfl⟩ := h
  obtain ⟨shown, _, hshown, hend, rfl⟩ := Markup.printAll_append_eq_ok_iff.1 hrest
  obtain ⟨empty, banner, hempty, hbanner, rfl⟩ := Markup.printAll_append_eq_ok_iff.1 hend
  rw [Markup.printAll_singleton] at hheading hempty hbanner
  cases (print_heading colours).symm.trans hheading
  cases (print_empty colours).symm.trans hempty
  cases (print_notRun colours).symm.trans hbanner
  obtain ⟨bullets, hbullets, rfl⟩ := printAll_bullets hshown
  refine ⟨bullets, hbullets, ?_⟩
  rw [List.append_assoc]
  rfl

/-! ## Success is told by the last line -/

/-- The banner of a success ends in an exclamation mark, and nothing else does. -/
theorem not_endsWithSuccess {colours : Bool} {above : List String} {line : String} {c : Char}
    (hne : c ≠ '!') (hc : EndsIn colours c line) :
    ¬EndsWithSuccess colours (above ++ [line]) := by
  rintro ⟨front, shown, name, houtput, hprint⟩
  obtain ⟨rest, last, rfl, hlast⟩ := Report.exists_last_line_success hprint
  rw [← List.append_assoc] at houtput
  obtain rfl := List.singleton_inj.1 (List.append_inj' houtput rfl).2
  exact hne (hc.unique hlast)

/-- A list of problems does not end with the banner of a success. -/
theorem Lists.not_endsWithSuccess {colours : Bool} {problems lines : List String}
    (h : Lists colours problems lines) : ¬EndsWithSuccess colours lines := by
  obtain ⟨bullets, _, rfl⟩ := h
  have hlast : EndsIn colours 't'
      (painted colours .failure "💥 Validation not run: invalid checklist") :=
    Markup.endsIn_painted colours .failure (by decide)
  rw [show ["", painted colours .failure "💥 Validation not run: invalid checklist"] =
    [""] ++ [painted colours .failure "💥 Validation not run: invalid checklist"] from rfl,
    ← List.append_assoc]
  exact CommandLine.not_endsWithSuccess (by decide) hlast

/-- A report ends with the banner of a success exactly if all is good. -/
theorem endsWithSuccess_iff {colours : Bool} {result : Result} {lines : List String}
    (h : Report.lines colours result = .ok lines) :
    EndsWithSuccess colours lines ↔ result.allGood = true := by
  obtain ⟨above, shown, rfl, hshown⟩ := Report.exists_lines_banner h
  cases hgood : result.allGood with
  | true =>
      refine iff_of_true ⟨above, shown, result.checklist.name, rfl, ?_⟩ rfl
      rwa [← Report.banner_of_allGood hgood]
  | false =>
      rw [Report.print_failure colours hgood] at hshown
      cases hshown
      obtain ⟨c, hne, hc⟩ := Report.endsIn_failure colours result
      exact iff_of_false (not_endsWithSuccess hne hc) Bool.false_ne_true

/-- Nothing printed is no success. -/
theorem not_endsWithSuccess_nil {colours : Bool} : ¬EndsWithSuccess colours [] := by
  rintro ⟨above, shown, name, houtput, hprint⟩
  obtain ⟨rest, last, rfl, _⟩ := Report.exists_last_line_success hprint
  simp at houtput

/-! ## Requests -/

theorem chooseBase_eq_ok {disk : Disk} {choice : Choice} {base : Path}
    (h : chooseBase disk choice = .ok base) : Locates disk choice base := by
  cases choice with
  | usual =>
      cases h
      exact .inl ⟨rfl, rfl⟩
  | nothing => cases h
  | path text =>
      simp only [chooseBase] at h
      split at h
      · cases h
      · exact .inr ⟨text, rfl, mapError_eq_ok_iff.1 h⟩

theorem chooseChecklist_eq_ok {disk : Disk} {choice : Choice} {c : Checklist}
    (h : chooseChecklist disk choice = .ok (.ok c)) : Names disk choice c := by
  cases choice with
  | usual =>
      cases h
      exact .inl ⟨rfl, rfl⟩
  | nothing => cases h
  | path text =>
      simp only [chooseChecklist] at h
      split at h <;> cases h
      exact .inr ⟨text, rfl, ‹_›⟩

theorem chooseChecklist_eq_rejected {disk : Disk} {choice : Choice} {problems : List String}
    (h : chooseChecklist disk choice = .ok (.error problems)) :
    ∃ text reason, choice = .path text
      ∧ Checklist.load disk (Path.ofString text) = .error (.rejected reason)
      ∧ problems = reason.messages (Path.ofString text) := by
  cases choice with
  | usual => cases h
  | nothing => cases h
  | path text =>
      simp only [chooseChecklist] at h
      split at h <;> cases h
      exact ⟨text, _, rfl, ‹_›, rfl⟩

/-- The report of a run. -/
theorem report_eq_ok_iff {disk : Disk} {colours debug : Bool} {c : Checklist} {base : Path}
    {printed : Printed} :
    report disk colours debug c base = .ok printed ↔
      ∃ result notes, run disk c base = .ok (result, notes) ∧ printed.exitCode = result.exitCode
        ∧ Report.lines colours result = .ok printed.output
        ∧ Diagnostics.lines debug notes = .ok printed.errors := by
  constructor
  · intro h
    obtain ⟨⟨result, notes⟩, hrun, h⟩ := bind_eq_ok_iff.1 h
    obtain ⟨errors, herrors, h⟩ := bind_eq_ok_iff.1 h
    obtain ⟨output, houtput, h⟩ := bind_eq_ok_iff.1 h
    cases h
    exact ⟨result, notes, mapError_eq_ok_iff.1 hrun, rfl, mapError_eq_ok_iff.1 houtput,
      mapError_eq_ok_iff.1 herrors⟩
  · rintro ⟨result, notes, hrun, hcode, houtput, herrors⟩
    rw [report, hrun]
    simp only [mapError_ok, bind_ok, herrors, houtput, ← hcode]

/-- A run that comes to its end is reported. -/
theorem exists_report {disk : Disk} {c : Checklist} {base : Path} (colours debug : Bool)
    (h : ∀ e ∈ c.manifest, ¬Blocks disk base e) :
    ∃ printed, report disk colours debug c base = .ok printed
      ∧ printed.exitCode = (told disk c base).1.exitCode := by
  obtain ⟨output, houtput⟩ : ∃ ls, Report.lines colours (told disk c base).1 = .ok ls :=
    exists_printAll colours fun _ => ownTags_report
  obtain ⟨errors, herrors⟩ := Diagnostics.lines_fine debug (told disk c base).2
  refine ⟨⟨(told disk c base).1.exitCode, output, errors⟩, report_eq_ok_iff.2 ?_, rfl⟩
  exact ⟨_, _, (run_eq_ok_iff disk c base _).2 ⟨h, rfl⟩, rfl, houtput, herrors⟩

/-- A request is performed. -/
theorem program_request {disk : Disk} {colours : Bool} {arguments : List String} {r : Request}
    (h : read arguments = .ok (.request r)) :
    program disk colours arguments = perform disk colours r := by
  rw [program, h]

/-- Without arguments, the built-in checklist is checked in the current directory. -/
theorem program_nil (disk : Disk) (colours : Bool) :
    program disk colours [] = report disk colours false .builtIn (Path.ofString ".") := by
  have hread : read [] = .ok (.request ⟨.usual, .usual, false⟩) := rfl
  rw [program_request hread, perform]
  simp only [chooseChecklist, chooseBase, bind_ok]

/-- What is requested ends with the problems of the checklist or with the report of a run. -/
theorem exists_ending_of_perform {disk : Disk} {colours : Bool} {arguments : List String}
    {printed : Printed} {r : Request} (hread : read arguments = .ok (.request r))
    (h : perform disk colours r = .ok printed) :
    ∃ e : Ending, e.Explains disk colours arguments printed
      ∧ (printed.exitCode = 0 ↔ EndsWithSuccess colours printed.output) := by
  obtain ⟨choice, hchoice, hprinted⟩ := bind_eq_ok_iff.1 h
  cases choice with
  | error problems =>
      obtain ⟨text, reason, hpath, hload, rfl⟩ := chooseChecklist_eq_rejected hchoice
      obtain ⟨output, houtput, hlast⟩ := bind_eq_ok_iff.1 hprinted
      cases hlast
      have hlists := lists_of_problemLines (mapError_eq_ok_iff.1 houtput)
      refine ⟨.rejected (Path.ofString text) _, ⟨r, text, reason, hread, hpath, rfl, hload, rfl,
        rfl, hlists, rfl, fun disk' hsame => ?_⟩,
        iff_of_false Nat.one_ne_zero hlists.not_endsWithSuccess⟩
      -- the run is not even looked for
      rw [program_request hread, perform, hpath, chooseChecklist, hsame, hload]
      simp only [bind_ok, houtput]
  | ok c =>
      obtain ⟨base, hbase, hreport⟩ := bind_eq_ok_iff.1 hprinted
      obtain ⟨result, notes, hrun, hcode, houtput, herrors⟩ := report_eq_ok_iff.1 hreport
      have hgood : printed.exitCode = 0 ↔ result.allGood = true := by
        rw [hcode, Result.exitCode_eq_zero_iff]
      have hle : printed.exitCode ≤ 1 := by
        rw [hcode, Result.exitCode]
        split <;> decide
      refine ⟨.validated c base result, ⟨r, notes, hread, chooseChecklist_eq_ok hchoice,
        chooseBase_eq_ok hbase, hrun, hgood, hle, houtput, herrors⟩, ?_⟩
      rw [hgood, endsWithSuccess_iff houtput]

theorem Ending.Explains.exitCode_le {disk : Disk} {colours : Bool} {arguments : List String}
    {printed : Printed} {e : Ending} (h : e.Explains disk colours arguments printed) :
    printed.exitCode ≤ 1 := by
  cases e with
  | help =>
      obtain ⟨_, rfl⟩ := h
      exact Nat.zero_le 1
  | refused m =>
      obtain ⟨_, rfl, _⟩ := h
      exact Nat.le_refl 1
  | rejected file problems =>
      obtain ⟨_, _, _, _, _, _, _, _, hcode, _⟩ := h
      exact Nat.le_of_eq hcode
  | validated c base result =>
      obtain ⟨_, _, _, _, _, _, _, hle, _⟩ := h
      exact hle

/-- **The program ends in exactly one way**, and with the exit code zero or one. Unless help is
asked for, the exit code is zero exactly if the last that is printed is the banner of a success. -/
theorem program_ends {disk : Disk} {colours : Bool} {arguments : List String} {printed : Printed}
    (h : program disk colours arguments = .ok printed) :
    (∃! e : Ending, e.Explains disk colours arguments printed)
      ∧ printed.exitCode ≤ 1
      ∧ (read arguments ≠ .ok .help →
        (printed.exitCode = 0 ↔ EndsWithSuccess colours printed.output)) := by
  obtain ⟨e, he, hsuccess⟩ : ∃ e : Ending, e.Explains disk colours arguments printed
      ∧ (read arguments ≠ .ok .help →
        (printed.exitCode = 0 ↔ EndsWithSuccess colours printed.output)) := by
    rw [program] at h
    cases hread : read arguments with
    | error m =>
        rw [hread] at h
        cases h
        refine ⟨.refused m, ⟨hread, rfl, fun before => by rw [debugAfter, hread]⟩, fun _ => ?_⟩
        exact iff_of_false Nat.one_ne_zero not_endsWithSuccess_nil
    | ok reading =>
        rw [hread] at h
        cases reading with
        | help =>
            cases h
            exact ⟨.help, ⟨hread, rfl⟩, fun hno => absurd rfl hno⟩
        | request r =>
            obtain ⟨e, he, hsuccess⟩ := exists_ending_of_perform hread h
            exact ⟨e, he, fun _ => hsuccess⟩
  exact ⟨⟨e, he, fun e' he' => Ending.unique he' he⟩, he.exitCode_le, hsuccess⟩

/-- Without arguments, and without the files of the built-in checklist. -/
theorem program_nil_ends : ∃ printed, program oneFile false [] = .ok printed
    ∧ printed.exitCode = 1 ∧ ¬EndsWithSuccess false printed.output
    ∧ ∃! e : Ending, e.Explains oneFile false [] printed := by
  have hfree : ∀ e ∈ Checklist.builtIn.manifest, ¬Blocks oneFile (Path.ofString ".") e := by
    intro e he hblocks
    have hnull : ∀ e ∈ Checklist.builtIn.manifest,
        (pathOf (Path.ofString ".") e).hasNull = false := by decide +kernel
    rw [Blocks, hnull e he] at hblocks
    exact Bool.false_ne_true hblocks.1
  obtain ⟨printed, hreport, htold⟩ := exists_report false false hfree
  have hprogram : program oneFile false [] = .ok printed := by
    rw [program_nil]
    exact hreport
  obtain ⟨hends, _, hsuccess⟩ := program_ends hprogram
  have hcode : printed.exitCode = 1 := by
    rw [htold]
    decide +kernel
  refine ⟨_, hprogram, hcode, fun hend => ?_, hends⟩
  have hzero := (hsuccess nofun).2 hend
  rw [hcode] at hzero
  cases hzero

end PackageGate.CommandLine
