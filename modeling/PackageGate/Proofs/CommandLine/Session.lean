import PackageGate.CommandLine.Session
import PackageGate.Proofs.CommandLine.Ending
import PackageGate.Proofs.Markup.Literal
import PackageGate.Proofs.Validation.OwnTags
import PackageGate.Proofs.Validation.Returns

/-!
# What a session prints

A run that prints as it goes along comes to what a run comes to that gives its notes in the end. The
two are written apart from each other, and agree (`validate_eq`): every note is printed without a
mistake, so that only a path that is no path ends the run before its end, and by then the notes of
the trail have been printed. The program in a session is the program by itself, on the disk of the
session, and leaves the switch as its arguments say (`main_eq`).
-/

namespace PackageGate.CommandLine

open Disk (Path)

/-! ## One computation after the other -/

namespace Printing

variable {α β : Type}

theorem bind_of_ok {p : Printing α} {a : α} (h : p.ending = .ok a) (f : α → Printing β) :
    (p >>= f) = ⟨p.output ++ (f a).output, p.errors ++ (f a).errors, (f a).ending⟩ := by
  show p.andThen f = _
  rw [andThen, h]

theorem bind_of_error {p : Printing α} {crash : Crash} (h : p.ending = .error crash)
    (f : α → Printing β) : (p >>= f) = ⟨p.output, p.errors, .error crash⟩ := by
  show p.andThen f = _
  rw [andThen, h]

/-- A step that prints nothing. -/
theorem silent_ok_bind (a : α) (f : α → Printing β) : (silent (.ok a) >>= f) = f a := rfl

theorem pure_eq (a : α) : (pure a : Printing α) = ⟨[], [], .ok a⟩ := rfl

/-- A result that is put into another form prints nothing more. -/
theorem bind_pure_eq (p : Printing α) (f : α → β) :
    (p >>= fun a => pure (f a)) = ⟨p.output, p.errors, p.ending.map f⟩ := by
  cases hp : p.ending with
  | error crash =>
      rw [bind_of_error hp]
      rfl
  | ok a =>
      rw [bind_of_ok hp, pure_eq, List.append_nil, List.append_nil]
      rfl

/-- Three computations in a row may be put together from either end. -/
theorem andThen_assoc {γ : Type} (p : Printing α) (f : α → Printing β) (g : β → Printing γ) :
    (p >>= f) >>= g = p >>= fun a => f a >>= g := by
  cases hp : p.ending with
  | error crash =>
      have hf : (p >>= f).ending = .error crash := by rw [bind_of_error hp]
      rw [bind_of_error hf, bind_of_error hp, bind_of_error hp]
  | ok a =>
      rw [bind_of_ok hp fun a => f a >>= g]
      have hending : (p >>= f).ending = (f a).ending := by rw [bind_of_ok hp]
      cases hf : (f a).ending with
      | error crash =>
          rw [bind_of_error (hending.trans hf), bind_of_ok hp, bind_of_error hf]
      | ok b =>
          rw [bind_of_ok (hending.trans hf), bind_of_ok hp, bind_of_ok hf]
          simp only [List.append_assoc]

instance : LawfulMonad Printing :=
  LawfulMonad.mk' Printing
    (by
      intro α p
      have hmap : p.ending.map id = p.ending := by
        cases p.ending with
        | error crash => rfl
        | ok a => rfl
      show (p >>= fun a => pure (id a)) = p
      rw [bind_pure_eq, hmap])
    (fun _ _ => rfl)
    (fun p f g => andThen_assoc p f g)

end Printing

/-! ## Notes -/

/-- The lines that notes are printed as. -/
def noted (enabled : Bool) (notes : List Note) : List String :=
  (Diagnostics.lines enabled notes).toOption.getD []

theorem lines_eq_noted (enabled : Bool) (notes : List Note) :
    Diagnostics.lines enabled notes = .ok (noted enabled notes) := by
  obtain ⟨lines, hlines⟩ := Diagnostics.lines_fine enabled notes
  rw [noted, hlines]
  rfl

theorem noted_nil (enabled : Bool) : noted enabled [] = [] := by
  cases enabled with
  | true => rfl
  | false => rfl

/-- Nothing is printed if diagnostics are not asked for. -/
theorem noted_false (notes : List Note) : noted false notes = [] := rfl

/-- Notes are printed one below the other. -/
theorem noted_append (enabled : Bool) (notes more : List Note) :
    noted enabled (notes ++ more) = noted enabled notes ++ noted enabled more := by
  cases enabled with
  | false => rfl
  | true =>
      have hall := lines_eq_noted true (notes ++ more)
      rw [Diagnostics.lines, if_pos rfl, List.flatMap_append,
        Markup.printAll_append_eq_ok_iff] at hall
      obtain ⟨above, below, habove, hbelow, hlines⟩ := hall
      have hnotes := lines_eq_noted true notes
      have hmore := lines_eq_noted true more
      rw [Diagnostics.lines, if_pos rfl] at hnotes hmore
      rw [hlines, Except.ok.inj (habove.symm.trans hnotes), Except.ok.inj (hbelow.symm.trans hmore)]

/-- Texts without a mistake are all printed, one after the other. -/
theorem printout_of_printAll {colours : Bool} {texts : List (List Char)} {lines : List String}
    (h : Markup.printAll colours texts = .ok lines) :
    Markup.printout colours texts = (lines, none) := by
  rw [Markup.printAll_eq] at h
  cases hprintout : Markup.printout colours texts with
  | mk shown mistake =>
      rw [hprintout] at h
      cases mistake with
      | none => rw [Except.ok.inj h]
      | some mistake => cases h

theorem say_of_printAll {colours : Bool} {texts : List (List Char)} {lines : List String}
    (h : Markup.printAll colours texts = .ok lines) :
    Printing.say colours texts = ⟨lines, [], .ok ()⟩ := by
  rw [Printing.say, printout_of_printAll h]
  rfl

namespace Session

variable (s : Session)

/-- A note is printed without a mistake. -/
theorem note_eq (n : Note) : s.note n = ⟨[], noted s.debug [n], .ok ()⟩ := by
  rw [note, Printing.diagnose]
  cases s.debug with
  | false => rfl
  | true =>
      have hlines := lines_eq_noted true [n]
      rw [Diagnostics.lines, if_pos rfl, List.flatMap_singleton] at hlines
      rw [if_pos rfl, printout_of_printAll hlines]
      rfl

theorem forM_note_eq (notes : List Note) :
    notes.forM s.note = ⟨[], noted s.debug notes, .ok ()⟩ := by
  induction notes with
  | nil =>
      rw [noted_nil]
      rfl
  | cons n notes ih =>
      have hn : (s.note n).ending = .ok () := by rw [note_eq]
      have hall : noted s.debug (n :: notes) = noted s.debug [n] ++ noted s.debug notes :=
        noted_append s.debug [n] notes
      show (s.note n >>= fun _ => notes.forM s.note) = _
      rw [Printing.bind_of_ok hn, ih, note_eq, hall]
      rfl

/-! ## Runs -/

theorem validateFile_of_error {base : Path} {rules : Rules} {entry : String}
    {fault : Disk.NullInPath}
    (h : PackageGate.validateFile s.disk base rules entry = .error fault) :
    s.validateFile base rules entry = ⟨[], [], .error .nullInPath⟩ := by
  rw [validateFile, h]
  rfl

theorem validateFile_of_ok {base : Path} {rules : Rules} {entry : String} {file : FileResult}
    {n : Note} (h : PackageGate.validateFile s.disk base rules entry = .ok (file, n)) :
    s.validateFile base rules entry = ⟨[], noted s.debug [n], .ok file⟩ := by
  have hn : (s.note n).ending = .ok () := by rw [note_eq]
  rw [validateFile, h]
  dsimp only
  rw [Printing.bind_of_ok hn, note_eq, Printing.pure_eq, List.append_nil, List.append_nil]

/-- The files are looked at up to the first whose path is no path, and each leaves its note. -/
theorem mapM_validateFile_eq (base : Path) (rules : Rules) (entries : List String) :
    entries.mapM (s.validateFile base rules) =
      ⟨[], noted s.debug (notesBefore s.disk base rules entries),
        ((entries.mapM (PackageGate.validateFile s.disk base rules)).map
          (·.map (·.1))).mapError fun _ => .nullInPath⟩ := by
  induction entries with
  | nil =>
      rw [notesBefore, noted_nil]
      rfl
  | cons entry entries ih =>
      rw [List.mapM_cons, List.mapM_cons, notesBefore]
      cases hfile : PackageGate.validateFile s.disk base rules entry with
      | error fault =>
          -- of the entries behind this one nothing is printed, and there are no notes
          have hending : (s.validateFile base rules entry).ending = .error .nullInPath := by
            rw [validateFile_of_error s hfile]
          rw [Printing.bind_of_error hending, validateFile_of_error s hfile]
          dsimp only
          rw [noted_nil]
          rfl
      | ok outcome =>
          obtain ⟨file, n⟩ := outcome
          have hending : (s.validateFile base rules entry).ending = .ok file := by
            rw [validateFile_of_ok s hfile]
          have hnotes : noted s.debug (n :: notesBefore s.disk base rules entries) =
              noted s.debug [n] ++ noted s.debug (notesBefore s.disk base rules entries) :=
            noted_append s.debug [n] _
          rw [Printing.bind_of_ok hending, validateFile_of_ok s hfile, ih]
          dsimp only
          rw [hnotes, bind_ok, Printing.bind_pure_eq]
          cases entries.mapM (PackageGate.validateFile s.disk base rules) with
          | error fault => rfl
          | ok files => rfl

/-- Where no path ends the run, the notes are those on all files. -/
theorem notesBefore_of_ok {disk : Disk} {base : Path} {rules : Rules} {entries : List String}
    {files : List (FileResult × Note)}
    (h : entries.mapM (PackageGate.validateFile disk base rules) = .ok files) :
    notesBefore disk base rules entries = files.map (·.2) := by
  induction entries generalizing files with
  | nil =>
      cases h
      rfl
  | cons entry entries ih =>
      rw [List.mapM_cons] at h
      obtain ⟨⟨file, n⟩, hfile, h⟩ := bind_eq_ok_iff.1 h
      obtain ⟨rest, hrest, h⟩ := bind_eq_ok_iff.1 h
      cases h
      rw [notesBefore, hfile]
      dsimp only
      rw [ih hrest, List.map_cons]

/-- **A run that prints its notes on the way is the run that gives them in the end.** -/
theorem validate_eq (c : Checklist) (base : Path) :
    s.validate c base =
      ⟨[], noted s.debug (trail s.disk c base),
        ((run s.disk c base).map (·.1)).mapError fun _ => .nullInPath⟩ := by
  have hbegun : (s.note (.begun c base)).ending = .ok () := by rw [note_eq]
  have hmap := mapM_validateFile_eq s base c.rules c.manifest
  rw [validate, Printing.bind_of_ok hbegun, note_eq]
  cases hfiles : c.manifest.mapM (PackageGate.validateFile s.disk base c.rules) with
  | error fault =>
      have hrun : run s.disk c base = .error fault := by
        rw [run, hfiles]
        rfl
      have htrail : trail s.disk c base =
          [.begun c base] ++ notesBefore s.disk base c.rules c.manifest := by
        rw [trail, hrun]
        rfl
      have hending : (c.manifest.mapM (s.validateFile base c.rules)).ending =
          .error .nullInPath := by
        rw [hmap, hfiles]
        rfl
      rw [Printing.bind_of_error hending, hmap, hrun, htrail, noted_append]
      rfl
  | ok files =>
      have hending : (c.manifest.mapM (s.validateFile base c.rules)).ending =
          .ok (files.map (·.1)) := by
        rw [hmap, hfiles]
        rfl
      cases hfeatures : checkFeatures c.features
          ((files.map (·.1)).find? (·.path = c.primaryFile)) with
      | mk features rest =>
          obtain ⟨checked, notes⟩ := rest
          have hrun : run s.disk c base = .ok (⟨c, files.map (·.1), features, checked⟩,
              .begun c base :: files.map (·.2) ++ notes) := by
            rw [run, hfiles, bind_ok]
            dsimp only
            rw [hfeatures]
          have hall : noted s.debug (.begun c base :: files.map (·.2) ++ notes) =
              noted s.debug [.begun c base] ++
                (noted s.debug (files.map (·.2)) ++ noted s.debug notes) := by
            rw [← noted_append, ← noted_append]
            rfl
          rw [Printing.bind_of_ok hending, hmap, notesBefore_of_ok hfiles, trail_of_run hrun, hrun,
            hall]
          dsimp only
          rw [hfeatures]
          dsimp only
          rw [Printing.bind_pure_eq, forM_note_eq]
          rfl

end Session

/-! ## The program -/

/-- What a computation with an exit code prints, unless a fault ends it. -/
def Printing.printed (p : Printing Nat) : Except Crash Printed :=
  p.ending.map fun code => ⟨code, p.output, p.errors⟩

/-- The report of a result is printed to its end. -/
theorem say_report_eq (colours : Bool) (r : Result) :
    ∃ lines, Report.lines colours r = .ok lines
      ∧ Printing.say colours ((Report.sentences r).map Report.mark) = ⟨lines, [], .ok ()⟩ := by
  obtain ⟨lines, hlines⟩ := exists_printAll colours
    fun line (hline : line ∈ (Report.sentences r).map Report.mark) => ownTags_report hline
  exact ⟨lines, hlines, say_of_printAll hlines⟩

/-- The problems of a checklist are printed to their end. -/
theorem say_problems_eq (colours : Bool) (problems : List String) :
    ∃ lines, problemLines colours problems = .ok lines
      ∧ Printing.say colours (markProblems problems) = ⟨lines, [], .ok ()⟩ := by
  obtain ⟨lines, hlines⟩ := exists_printAll colours
    fun line (hline : line ∈ markProblems problems) => ownTags_markProblems hline
  exact ⟨lines, hlines, say_of_printAll hlines⟩

namespace Session

/-- A validation and its report, printed on the way. -/
theorem validate_report_printed (s : Session) (c : Checklist) (base : Path) :
    (s.validate c base >>= fun result => do
      Printing.say s.colours ((Report.sentences result).map Report.mark)
      return result.exitCode).printed = report s.disk s.colours s.debug c base := by
  have hvalidate := validate_eq s c base
  cases hrun : run s.disk c base with
  | error fault =>
      have hending : (s.validate c base).ending = .error .nullInPath := by
        rw [hvalidate, hrun]
        rfl
      rw [Printing.bind_of_error hending, report, hrun]
      rfl
  | ok outcome =>
      obtain ⟨result, notes⟩ := outcome
      have hending : (s.validate c base).ending = .ok result := by
        rw [hvalidate, hrun]
        rfl
      obtain ⟨lines, hlines, hsay⟩ := say_report_eq s.colours result
      have hreport : report s.disk s.colours s.debug c base =
          .ok ⟨result.exitCode, lines, noted s.debug notes⟩ :=
        report_eq_ok_iff.2 ⟨result, notes, hrun, rfl, hlines, lines_eq_noted s.debug notes⟩
      rw [hreport, Printing.bind_of_ok hending, hvalidate, trail_of_run hrun, hsay,
        Printing.bind_pure_eq]
      dsimp only
      rw [List.append_nil]
      rfl

/-- **What is requested of a session is done as it is done by itself**, with the switch of the
session. -/
theorem perform_printed (s : Session) (r : Request) :
    (s.perform r).printed = CommandLine.perform s.disk s.colours { r with debug := s.debug } := by
  rw [perform, CommandLine.perform]
  cases chooseChecklist s.disk r.checklist with
  | error crash => rfl
  | ok choice =>
      rw [Printing.silent_ok_bind, bind_ok]
      cases choice with
      | error problems =>
          obtain ⟨lines, hlines, hsay⟩ := say_problems_eq s.colours problems
          dsimp only
          rw [hsay, Printing.bind_pure_eq, hlines]
          rfl
      | ok c =>
          dsimp only
          cases chooseBase s.disk r.baseDir with
          | error crash => rfl
          | ok base =>
              rw [Printing.silent_ok_bind, bind_ok]
              exact validate_report_printed s c base

/-- **The program in a session is the program by itself.** -/
theorem main_eq (s : Session) (arguments : List String) :
    (s.main arguments).1 = { s with debug := debugAfter s.debug arguments }
      ∧ (s.main arguments).2.printed = program s.disk s.colours arguments := by
  rw [main, debugAfter, program]
  cases read arguments with
  | error mistake => exact ⟨rfl, rfl⟩
  | ok reading =>
      cases reading with
      | help => exact ⟨rfl, rfl⟩
      | request r => exact ⟨rfl, perform_printed { s with debug := r.debug } r⟩

end Session

end PackageGate.CommandLine
