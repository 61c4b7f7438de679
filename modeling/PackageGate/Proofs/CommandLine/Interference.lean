import PackageGate.Proofs.CommandLine.Session

/-!
# Diagnostics do not interfere

Whether diagnostics are asked for is seen in the diagnostics and nowhere else: what is printed to
the output, and how a computation ends, is the same with them and without them
(`diagnostics_do_not_interfere`). If they are not asked for, none are printed.

The two runs are compared operation by operation. Sessions that differ in the switch only stay so if
alike operations are done in them, and each operation gives the same (`step_alike`); by induction,
so do all operations of a history, whenever the switch is set in it and to what (`trace_alike`).
-/

namespace PackageGate.CommandLine

open Disk (Path)

/-! ## The same output -/

/-- Two computations print the same output and end the same way. Their diagnostics may differ. -/
structure SameOutput {α : Type} (p q : Printing α) : Prop where
  output : p.output = q.output
  ending : p.ending = q.ending

section Same

variable {α β : Type} {p q : Printing α}

theorem SameOutput.refl (p : Printing α) : SameOutput p p := ⟨rfl, rfl⟩

/-- Computations that go on the same way from the same results have the same output. -/
theorem SameOutput.bind (h : SameOutput p q) {f g : α → Printing β}
    (hf : ∀ a, SameOutput (f a) (g a)) : SameOutput (p >>= f) (q >>= g) := by
  cases hq : q.ending with
  | error crash =>
      have hp := h.ending.trans hq
      rw [Printing.bind_of_error hp, Printing.bind_of_error hq]
      exact ⟨h.output, rfl⟩
  | ok a =>
      have hp := h.ending.trans hq
      rw [Printing.bind_of_ok hp, Printing.bind_of_ok hq]
      refine ⟨?_, (hf a).ending⟩
      dsimp only
      rw [h.output, (hf a).output]

/-- A computation that prints no diagnostics. -/
def IsQuiet (p : Printing α) : Prop := p.errors = []

theorem IsQuiet.bind (h : IsQuiet p) {f : α → Printing β} (hf : ∀ a, IsQuiet (f a)) :
    IsQuiet (p >>= f) := by
  cases hp : p.ending with
  | error crash =>
      rw [Printing.bind_of_error hp]
      exact h
  | ok a =>
      rw [Printing.bind_of_ok hp, IsQuiet]
      dsimp only
      rw [h, hf a, List.append_nil]

end Same

theorem isQuiet_say (colours : Bool) (texts : List (List Char)) :
    IsQuiet (Printing.say colours texts) := rfl

theorem isQuiet_pure {α : Type} (a : α) : IsQuiet (pure a : Printing α) := rfl

namespace Session

/-- Two sessions that differ in the switch for diagnostics only. -/
structure Alike (s s' : Session) : Prop where
  disk : s.disk = s'.disk
  colours : s.colours = s'.colours

variable {s s' : Session}

theorem Alike.setDebug (h : s.Alike s') (enabled enabled' : Bool) :
    Alike { s with debug := enabled } { s' with debug := enabled' } := ⟨h.disk, h.colours⟩

/-! ## Files, runs and requests -/

theorem validateFile_alike (h : s.Alike s') (base : Path) (rules : Rules) (entry : String) :
    SameOutput (s.validateFile base rules entry) (s'.validateFile base rules entry) := by
  cases hfile : PackageGate.validateFile s.disk base rules entry with
  | error fault =>
      have hfile' := h.disk ▸ hfile
      rw [validateFile_of_error s hfile, validateFile_of_error s' hfile']
      exact .refl _
  | ok outcome =>
      obtain ⟨file, n⟩ := outcome
      have hfile' := h.disk ▸ hfile
      rw [validateFile_of_ok s hfile, validateFile_of_ok s' hfile']
      exact ⟨rfl, rfl⟩

theorem validate_alike (h : s.Alike s') (c : Checklist) (base : Path) :
    SameOutput (s.validate c base) (s'.validate c base) := by
  rw [validate_eq, validate_eq, h.disk]
  exact ⟨rfl, rfl⟩

/-- A run prints to the output nothing at all, and diagnostics only if they are asked for. -/
theorem validate_quiet (hdebug : s.debug = false) (c : Checklist) (base : Path) :
    (s.validate c base).output = [] ∧ IsQuiet (s.validate c base) := by
  rw [validate_eq, hdebug, noted_false]
  exact ⟨rfl, rfl⟩

theorem perform_alike (h : s.Alike s') {r r' : Request} (hchecklist : r.checklist = r'.checklist)
    (hbase : r.baseDir = r'.baseDir) : SameOutput (s.perform r) (s'.perform r') := by
  rw [perform, perform, h.disk, h.colours, hchecklist, hbase]
  refine (SameOutput.refl _).bind fun choice => ?_
  cases choice with
  | error problems => exact .refl _
  | ok c =>
      refine (SameOutput.refl _).bind fun base => ?_
      exact (validate_alike h c base).bind fun result => .refl _

theorem perform_quiet (hdebug : s.debug = false) (r : Request) : IsQuiet (s.perform r) := by
  have hsilent : ∀ {α : Type} (ending : Except Crash α), IsQuiet (.silent ending) :=
    fun _ => rfl
  rw [perform]
  refine (hsilent _).bind fun choice => ?_
  cases choice with
  | error problems => exact (isQuiet_say _ _).bind fun _ => isQuiet_pure _
  | ok c =>
      refine (hsilent _).bind fun base => ?_
      refine (validate_quiet hdebug c base).2.bind fun result => ?_
      exact (isQuiet_say _ _).bind fun _ => isQuiet_pure _

end Session

/-! ## Arguments -/

/-- Arguments that are read alike: with the same mistake, as a call for help, or as requests for the
same, perhaps one with diagnostics and the other without. -/
def AskAlike (arguments arguments' : List String) : Prop :=
  read arguments = read arguments' ∨ ∃ r r', read arguments = .ok (.request r)
    ∧ read arguments' = .ok (.request r') ∧ r.checklist = r'.checklist ∧ r.baseDir = r'.baseDir

/-- A reading with diagnostics asked for. -/
def Reading.withDebug : Reading → Reading
  | .help => .help
  | .request r => .request { r with debug := true }

theorem set_debug (r : Request) (s : Switch) (value : String) :
    Request.set { r with debug := true } s value = { r.set s value with debug := true } := by
  cases s with
  | help => rfl
  | checklist => rfl
  | baseDir => rfl
  | debug => rfl

/-- Letters ask for nothing but help. -/
theorem readLetters_map (letters : List Char) :
    (readLetters letters).map Reading.withDebug = readLetters letters := by
  induction letters with
  | nil => rfl
  | cons c rest ih =>
      rw [readLetters]
      by_cases hc : c = 'h'
      · rw [if_pos hc, ih]
      · rw [if_neg hc]
        rfl

/-- A switch lacks its value if no value follows. -/
theorem readWords_noValue {r : Request} {left : List String} {s : Switch} {name : String}
    {rest : List Word} (hrest : ∀ text more, rest = .value text :: more → False)
    (hs : s = .checklist ∨ s = .baseDir) :
    readWords r left (.switch s name none :: rest) = .error (.noValue s) := by
  cases rest with
  | nil => rcases hs with rfl | rfl <;> rfl
  | cons word rest =>
      cases word with
      | value text => exact (hrest text rest rfl).elim
      | separator => rcases hs with rfl | rfl <;> rfl
      | switch s' name' value => rcases hs with rfl | rfl <;> rfl
      | unknown text => rcases hs with rfl | rfl <;> rfl

/-- To ask for diagnostics first does not change how the other words are read. -/
theorem readWords_debug (r : Request) (left : List String) (words : List Word) :
    readWords { r with debug := true } left words =
      (readWords r left words).map Reading.withDebug := by
  -- the words are read in the same order; a value that is missing is missed in both readings
  fun_induction readWords r left words with
  | case1 r left hleft =>
      rw [readWords, if_pos hleft]
      rfl
  | case2 r left hleft =>
      rw [readWords, if_neg hleft]
      rfl
  | case3 r left text rest ih => rw [readWords, ih]
  | case4 r left rest ih => rw [readWords, ih]
  | case5 r left text rest ih => rw [readWords, ih]
  | case6 r left s name value rest hvalue ih => rw [readWords, if_pos hvalue, set_debug, ih]
  | case7 r left s name value rest hvalue hletters =>
      rw [readWords, if_neg hvalue, if_pos hletters, readLetters_map]
  | case8 r left s name value rest hvalue hletters =>
      rw [readWords, if_neg hvalue, if_neg hletters]
      rfl
  | case9 r left name rest =>
      rw [readWords]
      rfl
  | case10 r left name rest ih =>
      rw [readWords]
      exact ih
  | case11 r left name text rest ih =>
      rw [readWords]
      exact ih
  | case12 r left name rest hrest =>
      rw [readWords_noValue hrest (.inl rfl)]
      rfl
  | case13 r left name text rest ih =>
      rw [readWords]
      exact ih
  | case14 r left name rest hrest =>
      rw [readWords_noValue hrest (.inr rfl)]
      rfl

/-- **To ask for diagnostics in front changes the request in this only.** -/
theorem read_debug (arguments : List String) :
    read ("--debug" :: arguments) = (read arguments).map Reading.withDebug := by
  have hword : classify "--debug" = .ok (.switch .debug "--debug" none) := by decide
  have hfirst : ¬"--debug" = "--" := by decide
  rw [read, read, classifyAll, if_neg hfirst, hword, bind_ok]
  cases classifyAll arguments with
  | error mistake => rfl
  | ok words =>
      rw [bind_ok, bind_ok, bind_ok, readWords]
      exact readWords_debug {} [] words

/-- Arguments are read alike with diagnostics asked for in front, and without. -/
theorem askAlike_debug (arguments : List String) : AskAlike ("--debug" :: arguments) arguments := by
  have hdebug := read_debug arguments
  cases hread : read arguments with
  | error mistake =>
      rw [hread] at hdebug
      exact .inl (hdebug.trans hread.symm)
  | ok reading =>
      rw [hread] at hdebug
      cases reading with
      | help => exact .inl (hdebug.trans hread.symm)
      | request r => exact .inr ⟨_, r, hdebug, hread, rfl, rfl⟩

/-! ## Operations -/

/-- Operations that differ in what they ask of diagnostics only. -/
inductive Operation.Alike : Operation → Operation → Prop where
  | setDisk (disk : Disk) : Alike (.setDisk disk) (.setDisk disk)
  | setDebug (enabled enabled' : Bool) : Alike (.setDebug enabled) (.setDebug enabled')
  | validateFile (base : Path) (rules : Rules) (entry : String) :
    Alike (.validateFile base rules entry) (.validateFile base rules entry)
  | validate (c : Checklist) (base : Path) : Alike (.validate c base) (.validate c base)
  | main {arguments arguments' : List String} (h : AskAlike arguments arguments') :
    Alike (.main arguments) (.main arguments')

namespace Session

variable {s s' : Session}

/-- The program leaves alike sessions alike, and gives the same in them. -/
theorem main_alike (h : s.Alike s') {arguments arguments' : List String}
    (hask : AskAlike arguments arguments') :
    (s.main arguments).1.Alike (s'.main arguments').1
      ∧ SameOutput (s.main arguments).2 (s'.main arguments').2 := by
  rw [main, main]
  cases hask with
  | inl hsame =>
      rw [hsame]
      cases read arguments' with
      | error mistake => exact ⟨h, .refl _⟩
      | ok reading =>
          cases reading with
          | help => exact ⟨h, .refl _⟩
          | request r => exact ⟨h.setDebug _ _, perform_alike (h.setDebug _ _) rfl rfl⟩
  | inr hrequests =>
      obtain ⟨r, r', hread, hread', hchecklist, hbase⟩ := hrequests
      rw [hread, hread']
      exact ⟨h.setDebug _ _, perform_alike (h.setDebug _ _) hchecklist hbase⟩

/-- **An operation gives the same in alike sessions, and leaves them alike.** -/
theorem step_alike (h : s.Alike s') {o o' : Operation} (ho : o.Alike o') :
    (s.step o).1.Alike (s'.step o').1 ∧ SameOutput (s.step o).2 (s'.step o').2 := by
  cases ho with
  | setDisk disk => exact ⟨⟨rfl, h.colours⟩, .refl _⟩
  | setDebug enabled enabled' => exact ⟨h.setDebug _ _, .refl _⟩
  | validateFile base rules entry =>
      exact ⟨h, (validateFile_alike h base rules entry).bind fun _ => .refl _⟩
  | validate c base => exact ⟨h, (validate_alike h c base).bind fun _ => .refl _⟩
  | main hask =>
      obtain ⟨hsessions, hcode⟩ := main_alike h hask
      exact ⟨hsessions, hcode.bind fun _ => .refl _⟩

/-- **Whatever is done with diagnostics in a history, its operations give the same.** -/
theorem trace_alike (h : s.Alike s') {history history' : List Operation}
    (hhistory : List.Forall₂ Operation.Alike history history') :
    List.Forall₂ SameOutput (s.trace history) (s'.trace history') := by
  induction hhistory generalizing s s' with
  | nil => exact .nil
  | cons ho _ ih =>
      -- the sessions may differ in the switch after this, and the rest starts from there
      obtain ⟨hsessions, hanswer⟩ := step_alike h ho
      exact .cons hanswer (ih hsessions)

end Session

/-- **Diagnostics do not interfere.** In a session with any history, the program prints the same
output and ends the same way whether its arguments ask for diagnostics or not, and prints none if
they do not. A run gives the same under either position of the switch, and prints nothing if it is
off. No note meets a mistake when it is printed. Two sessions whose histories differ in diagnostics
only give the same all along. -/
theorem diagnostics_do_not_interfere (start : Session) (history : List Operation) :
    (∀ arguments arguments' r r', read arguments = .ok (.request r) →
        read arguments' = .ok (.request r') → r.checklist = r'.checklist → r.baseDir = r'.baseDir →
        SameOutput ((start.after history).main arguments).2
            ((start.after history).main arguments').2
          ∧ (r.debug = false → ((start.after history).main arguments).2.errors = []))
      ∧ (∀ c base enabled enabled',
        SameOutput (Session.validate { start.after history with debug := enabled } c base)
          (Session.validate { start.after history with debug := enabled' } c base))
      ∧ (∀ c base, (start.after history).debug = false →
        ((start.after history).validate c base).output = []
          ∧ ((start.after history).validate c base).errors = [])
      ∧ (∀ enabled n, ∃ lines,
        Printing.diagnose enabled (Diagnostics.markNote n) = ⟨[], lines, .ok ()⟩)
      ∧ ∀ start' history', start.Alike start' → List.Forall₂ Operation.Alike history history' →
        List.Forall₂ SameOutput (start.trace history) (start'.trace history') := by
  have hsame : (start.after history).Alike (start.after history) := ⟨rfl, rfl⟩
  refine ⟨?_, ?_, ?_, ?_, ?_⟩
  · intro arguments arguments' r r' hread hread' hchecklist hbase
    refine ⟨(Session.main_alike hsame (.inr ⟨r, r', hread, hread', hchecklist, hbase⟩)).2, ?_⟩
    intro hdebug
    rw [Session.main, hread]
    exact Session.perform_quiet hdebug r
  · exact fun c base enabled enabled' =>
      Session.validate_alike (hsame.setDebug enabled enabled') c base
  · exact fun c base hdebug => Session.validate_quiet hdebug c base
  · exact fun enabled n => ⟨_, Session.note_eq ⟨start.disk, false, enabled⟩ n⟩
  · exact fun start' history' hstart hhistory => Session.trace_alike hstart hhistory

/-- A session that nothing has been done in. -/
def fresh : Session := ⟨oneFile, false, false⟩

/-- A history in which diagnostics are asked for, and then a validation is run. -/
def loudHistory : List Operation :=
  [.main ["--debug", "--help"], .setDebug true, .validate twoFiles ⟨0, []⟩]

/-- The same history, without diagnostics. -/
def quietHistory : List Operation :=
  [.main ["--help"], .setDebug false, .validate twoFiles ⟨0, []⟩]

theorem loudHistory_alike : List.Forall₂ Operation.Alike loudHistory quietHistory :=
  .cons (.main (askAlike_debug ["--help"]))
    (.cons (.setDebug true false) (.cons (.validate _ _) .nil))

theorem diagnostics_do_not_interfere_loud :
    (fresh.after loudHistory).debug = true
      ∧ noted true [.begun twoFiles ⟨0, []⟩] ≠ []
      ∧ read ["--base-dir", "."] = .ok (.request ⟨.usual, .path ".", false⟩)
      ∧ read ["--debug", "--base-dir", "."] = .ok (.request ⟨.usual, .path ".", true⟩)
      ∧ SameOutput ((fresh.after loudHistory).main ["--base-dir", "."]).2
        ((fresh.after loudHistory).main ["--debug", "--base-dir", "."]).2
      ∧ ((fresh.after loudHistory).main ["--base-dir", "."]).2.errors = []
      ∧ List.Forall₂ SameOutput (fresh.trace loudHistory) (fresh.trace quietHistory)
      ∧ ((fresh.after quietHistory).validate twoFiles ⟨0, []⟩).errors = [] := by
  have hquiet : read ["--base-dir", "."] = .ok (.request ⟨.usual, .path ".", false⟩) := by decide
  have hloud : read ["--debug", "--base-dir", "."] =
      .ok (.request ⟨.usual, .path ".", true⟩) := by decide
  obtain ⟨hmain, _, _, _, htrace⟩ := diagnostics_do_not_interfere fresh loudHistory
  obtain ⟨_, _, hvalidate, _, _⟩ := diagnostics_do_not_interfere fresh quietHistory
  have hsame := hmain _ _ _ _ hquiet hloud rfl rfl
  exact ⟨rfl, by decide +kernel, hquiet, hloud, hsame.1, hsame.2 rfl,
    htrace fresh quietHistory ⟨rfl, rfl⟩ loudHistory_alike, (hvalidate _ _ rfl).2⟩

end PackageGate.CommandLine
