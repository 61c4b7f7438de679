import PackageGate.Proofs.Checklist.RoundTrip
import PackageGate.Proofs.CommandLine.Session
import PackageGate.Proofs.Disk.Canonical
import PackageGate.Proofs.Validation.Order
import PackageGate.Proofs.Validation.SingleFile

/-!
# The base directory is resolved

The program makes the path of its base directory canonical before the run. The run then looks at
each entry behind the path from the root, and not behind the path that was given. In a tree both
lead to the same file: the base is followed to its place, and the rest of the way starts there
(`locate_pathTo`), whether it goes upwards, through links, or from the root. So the report is that
of a run in the directory as it was given (`resolved_base_agrees`).

There are two limits. The links of the base are not followed again from its place, so that an entry
may be reached that is behind too many links otherwise. And the path from the root may be longer
than the one that was given, so that an entry may be out of reach for its length
(`resolved_base_overlong`).
-/

namespace PackageGate

open Disk (Path Node Place pathTo pathLimit linkLimit locate assemble)

namespace Disk

/-! ## The way behind a directory -/

variable {top : Node} {cwd place : Place} {base : Path} {entries : List (String × Node)}

/-- **What is behind a directory is found behind the path to its place.** -/
theorem locate_pathTo (hsound : top.IsSound) (hbase : locate top cwd base = .ok place)
    (hplace : top.at? place = some (.directory entries)) (entry : Path)
    (hloop : locate top cwd (base.join entry) ≠ .error .tooManyLinks)
    (hsize : (base.join entry).size < pathLimit)
    (hsize' : ((pathTo place).join entry).size < pathLimit) :
    locate top cwd ((pathTo place).join entry) = locate top cwd (base.join entry) := by
  cases habsolute : entry.isAbsolute with
  | true => rw [Path.join_of_isAbsolute habsolute, Path.join_of_isAbsolute habsolute]
  | false =>
      have hstart : ∀ p : Path, (p.join entry).isAbsolute = p.isAbsolute := by
        intro p
        rw [Path.join, habsolute]
        rfl
      rw [locate] at hbase
      split at hbase
      · cases hbase
      · obtain ⟨c, hc, hleads⟩ := (walk_eq_ok_iff linkLimit).1 hbase
        -- behind the base as many links may be followed as it has left
        have hleft := hleads.walk_append (linkLimit - c) entry.steps
        rw [Nat.sub_add_cancel hc] at hleft
        rw [locate, if_neg (Nat.not_le.2 hsize), hstart, Path.steps_join habsolute, hleft] at hloop
        have hall := walk_more c hloop
        rw [Nat.sub_add_cancel hc] at hall
        rw [locate, locate, if_neg (Nat.not_le.2 hsize), if_neg (Nat.not_le.2 hsize'), hstart,
          hstart, Path.steps_join habsolute, Path.steps_join habsolute, hleft, ← hall]
        exact walk_of_place hsound hplace linkLimit entry.steps

theorem hasNull_eq_false {p : Path} (h : ∀ name ∈ p.steps, '\x00' ∉ name.toList) :
    p.hasNull = false := by
  rw [Path.hasNull, List.any_eq_false]
  intro name hname hnull
  exact h name hname (List.contains_iff_mem.1 hnull)

/-- A path that leads somewhere holds no null character. -/
theorem hasNull_of_locate (hsound : top.IsSound) (hbase : locate top cwd base = .ok place) :
    base.hasNull = false := by
  rw [locate] at hbase
  split at hbase
  · cases hbase
  · obtain ⟨c, _, hleads⟩ := (walk_eq_ok_iff linkLimit).1 hbase
    refine hasNull_eq_false fun name hname => ?_
    rcases hleads.isName hsound name hname with rfl | rfl | hproper
    · decide
    · decide
    · exact hproper.noNull

theorem hasNull_pathTo (hsound : top.IsSound)
    (hplace : top.at? place = some (.directory entries)) : (pathTo place).hasNull = false :=
  hasNull_eq_false fun name hname => (hsound place _ hplace name hname).noNull

/-! What a tree without faults answers. -/

theorem stat_assemble_nil (top : Node) (cwd : Place) (p : Path) :
    (assemble top cwd []).stat p = (statAt top cwd p).mapError .code := rfl

theorem read_assemble_nil (top : Node) (cwd : Place) (p : Path) :
    (assemble top cwd []).read p = (readAt top cwd p).mapError .code := rfl

theorem stores_assemble_nil {p : Path} {bytes : List UInt8} (hnull : p.hasNull = false)
    (hlocate : locate top cwd p = .ok place) (hfile : top.at? place = some (.file bytes)) :
    Source.Stores (assemble top cwd []) p bytes :=
  Source.stores_assemble hnull hlocate hfile fun _ hfault => absurd hfault List.not_mem_nil

end Disk

/-! ## Runs that look at the same files -/

section Runs

variable {disk : Disk} {base base' : Path}

theorem examine_congr {path path' : Path} (hstat : disk.stat path = disk.stat path')
    (hread : disk.read path = disk.read path') (rules : Rules) (entry : String) :
    (examine disk rules entry path).1 = (examine disk rules entry path').1 := by
  have hthere : Source.isThere disk path = Source.isThere disk path' := by
    rw [Source.isThere, Source.isThere, hstat]
  have htext : Source.read disk path = Source.read disk path' := by
    rw [Source.read, Source.read, hread]
  rw [examine, examine, hthere, htext]
  -- the two notes may name different paths
  cases Source.isThere disk path' with
  | error problem => rfl
  | ok there =>
      cases there with
      | false => rfl
      | true => cases Source.read disk path' <;> rfl

/-- Where all files come to the same, so does the run. -/
theorem run_congr {c : Checklist}
    (hblocks : ∀ e ∈ c.manifest, Blocks disk base e ↔ Blocks disk base' e)
    (h : ∀ e ∈ c.manifest,
      (outcomeAt disk base c.rules e).1 = (outcomeAt disk base' c.rules e).1) :
    (run disk c base).map (·.1) = (run disk c base').map (·.1) := by
  have hfree : (∀ e ∈ c.manifest, ¬Blocks disk base e) ↔ ∀ e ∈ c.manifest, ¬Blocks disk base' e :=
    forall₂_congr fun e he => not_congr (hblocks e he)
  by_cases hall : ∀ e ∈ c.manifest, ¬Blocks disk base e
  · rw [(run_eq_ok_iff disk c base _).2 ⟨hall, rfl⟩,
      (run_eq_ok_iff disk c base' _).2 ⟨hfree.1 hall, rfl⟩]
    have hprimary : primaryOf disk c base = primaryOf disk c base' := h _ c.primaryFile_mem
    have hmap := List.map_congr_left h
    have htold : (told disk c base).1 = (told disk c base').1 := by
      rw [told_eq rfl, told_eq rfl, hmap, hprimary]
    exact congrArg Except.ok htold
  · rw [run_eq_error hall, run_eq_error (mt hfree.2 hall)]

end Runs

namespace CommandLine

/-! ## The program -/

/-- The report of a run is printed, and the program ends with its exit code. It prints none if the
run ends without a result. -/
def Reports (s : Session) (p : Printing Nat) (c : Checklist) (base : Path) : Prop :=
  match (run s.disk c base).map (·.1) with
  | .ok result => Report.lines s.colours result = .ok p.output ∧ p.ending = .ok result.exitCode
  | .error _ => p.output = [] ∧ p.ending = .error .nullInPath

namespace Session

/-- The program prints the report of the run in the directory that it has chosen. -/
theorem main_reports (s : Session) {arguments : List String} {r : Request} {c : Checklist}
    {base : Path} (hread : read arguments = .ok (.request r))
    (hchecklist : chooseChecklist s.disk r.checklist = .ok (.ok c))
    (hbase : chooseBase s.disk r.baseDir = .ok base) :
    Reports s (s.main arguments).2 c base := by
  have hmain : (s.main arguments).2 = Session.perform { s with debug := r.debug } r := by
    rw [main, hread]
  have hvalidate := validate_eq { s with debug := r.debug } c base
  rw [hmain, perform, hchecklist, Printing.silent_ok_bind]
  dsimp only
  rw [hbase, Printing.silent_ok_bind, Reports]
  dsimp only at hvalidate
  cases hrun : (run s.disk c base).map (·.1) with
  | error fault =>
      rw [hrun] at hvalidate
      have hending : (Session.validate { s with debug := r.debug } c base).ending =
          .error .nullInPath := by
        rw [hvalidate]
        rfl
      rw [Printing.bind_of_error hending, hvalidate]
      exact ⟨rfl, rfl⟩
  | ok result =>
      rw [hrun] at hvalidate
      have hending : (Session.validate { s with debug := r.debug } c base).ending = .ok result := by
        rw [hvalidate]
        rfl
      obtain ⟨lines, hlines, hsay⟩ := say_report_eq s.colours result
      rw [Printing.bind_of_ok hending, hvalidate, hsay, Printing.bind_pure_eq]
      exact ⟨hlines, rfl⟩

end Session

/-- What a path below the base directory comes to on the disk of a tree is what the path from the
root comes to. -/
theorem outcomeAt_pathTo {top : Node} {cwd place : Place} {base : Path}
    {entries : List (String × Node)} (hsound : top.IsSound)
    (hbase : locate top cwd base = .ok place) (hplace : top.at? place = some (.directory entries))
    (rules : Rules) {entry : String}
    (hloop : Disk.statAt top cwd (pathOf base entry) ≠ .error .tooManyLinks)
    (hsize : (pathOf base entry).size < pathLimit)
    (hsize' : (pathOf (pathTo place) entry).size < pathLimit) :
    (outcomeAt (assemble top cwd []) base rules entry).1 =
      (outcomeAt (assemble top cwd []) (pathTo place) rules entry).1 := by
  have hlookup : locate top cwd (pathOf base entry) ≠ .error .tooManyLinks := by
    intro hlocate
    rw [Disk.statAt, hlocate] at hloop
    exact hloop rfl
  have hlocate : locate top cwd (pathOf (pathTo place) entry) =
      locate top cwd (pathOf base entry) :=
    Disk.locate_pathTo hsound hbase hplace (Path.ofString entry) hlookup hsize hsize'
  refine examine_congr ?_ ?_ rules entry
  · rw [Disk.stat_assemble_nil, Disk.stat_assemble_nil, Disk.statAt, Disk.statAt, hlocate]
  · rw [Disk.read_assemble_nil, Disk.read_assemble_nil, Disk.readAt, Disk.readAt, hlocate]

/-- **The report does not depend on how the base directory is named.** With a base directory that
leads to a directory of the tree, through links or upwards, the program prints the report of a run
in the directory as it is named, and ends with its exit code. This takes that no entry ends behind
too many links, and that none is too long for a path, neither below the directory as it is named nor
below its canonical form. -/
theorem resolved_base_agrees (s : Session) {top : Node} {cwd : Place}
    (hdisk : s.disk = assemble top cwd []) (hsound : top.IsSound) {arguments : List String}
    {r : Request} {base : String} {c : Checklist} {place : Place} {entries : List (String × Node)}
    (hread : read arguments = .ok (.request r)) (hgiven : r.baseDir = .path base)
    (hchecklist : chooseChecklist s.disk r.checklist = .ok (.ok c))
    (hbase : locate top cwd (Path.ofString base) = .ok place)
    (hplace : top.at? place = some (.directory entries))
    (hloop : ∀ e ∈ c.manifest,
      Disk.statAt top cwd (pathOf (Path.ofString base) e) ≠ .error .tooManyLinks)
    (hsize : ∀ e ∈ c.manifest, (pathOf (Path.ofString base) e).size < pathLimit)
    (hresolved : ∀ canonical, s.disk.canonical (Path.ofString base) = .ok canonical →
      ∀ e ∈ c.manifest, (pathOf canonical e).size < pathLimit) :
    Reports s (s.main arguments).2 c (Path.ofString base) := by
  have hsteps : ∀ name ∈ (Path.ofString base).steps, Disk.isStep name = true :=
    fun name hname => (List.mem_filter.1 hname).2
  have hcanonical : s.disk.canonical (Path.ofString base) = .ok (pathTo place) := by
    rw [hdisk]
    exact Disk.canonicalAt_of_locate hsound hsteps hbase hplace
  have hnull := Disk.hasNull_of_locate hsound hbase
  have hchosen : chooseBase s.disk r.baseDir = .ok (pathTo place) := by
    rw [hgiven, chooseBase, if_neg (by rw [hnull]; exact Bool.false_ne_true), hcanonical]
    rfl
  have hreports := Session.main_reports s hread hchecklist hchosen
  have hsame : (run s.disk c (Path.ofString base)).map (·.1) =
      (run s.disk c (pathTo place)).map (·.1) := by
    refine run_congr (fun e he => ?_) fun e he => ?_
    · rw [blocks_iff hnull, blocks_iff (Disk.hasNull_pathTo hsound hplace), hdisk]
      exact Iff.rfl
    · rw [hdisk]
      exact outcomeAt_pathTo hsound hbase hplace c.rules (hloop e he) (hsize e he)
        (hresolved _ hcanonical e he)
  rwa [Reports, hsame]

/-! ## A long way round -/

/-- The way to a file that goes into a directory and out again a number of times. -/
def detour : Nat → List Char
  | 0 => "AA.cs".toList
  | n + 1 => 'd' :: '/' :: '.' :: '.' :: '/' :: detour n

/-- The steps of that way. -/
def detourSteps : Nat → List String
  | 0 => ["AA.cs"]
  | n + 1 => "d" :: ".." :: detourSteps n

theorem map_splitAt_detour (n : Nat) :
    (Text.splitAt '/' (detour n)).map String.ofList = detourSteps n := by
  induction n with
  | zero => decide
  | succ n ih =>
      rw [detour, detourSteps, ← ih]
      cases hsplit : Text.splitAt '/' (detour n) with
      | nil => exact absurd hsplit (Text.splitAt_ne_nil '/' _)
      | cons piece more => simp [Text.splitAt, hsplit]

theorem ofString_detour (n : Nat) :
    Path.ofString (String.ofList (detour n)) = ⟨0, detourSteps n⟩ := by
  have hsteps : ∀ name ∈ detourSteps n, Disk.isStep name = true := by
    induction n with
    | zero => decide
    | succ n ih => exact List.forall_mem_cons.2 ⟨by decide, List.forall_mem_cons.2 ⟨by decide, ih⟩⟩
  have hfront : (detour n).takeWhile (· = '/') = [] := by
    cases n <;> simp [detour]
  rw [Path.ofString, Disk.rawSteps, String.toList_ofList, map_splitAt_detour,
    List.filter_eq_self.2 hsteps, hfront]
  rfl

theorem toList_intercalate_detourSteps (n : Nat) :
    ("/".intercalate (detourSteps n)).toList = detour n := by
  induction n with
  | zero => decide
  | succ n ih =>
      obtain ⟨first, rest, hsteps⟩ : ∃ first rest, detourSteps n = first :: rest := by
        cases n <;> exact ⟨_, _, rfl⟩
      rw [detourSteps, hsteps, String.intercalate_cons_cons, String.intercalate_cons_cons, ← hsteps,
        String.toList_append, String.toList_append, String.toList_append, String.toList_append, ih]
      rfl

theorem size_detour (n : Nat) : Text.Utf8.size (detour n) = 5 * n + 5 := by
  induction n with
  | zero => decide
  | succ n ih =>
      have hround : Text.Utf8.encode (detour (n + 1)) =
          Text.Utf8.encode "d/../".toList ++ Text.Utf8.encode (detour n) := by
        rw [Text.Utf8.encode, Text.Utf8.encode, Text.Utf8.encode, ← List.flatMap_append]
        rfl
      have hfive : (Text.Utf8.encode "d/../".toList).length = 5 := by decide
      rw [Text.Utf8.size] at ih
      rw [Text.Utf8.size, hround, List.length_append, hfive, ih]
      omega

/-- The slashes in front are the only difference in length between the two paths. -/
theorem size_path_detour (slashes n : Nat) :
    (Disk.Path.mk slashes (detourSteps n)).size = slashes + (5 * n + 5) := by
  have hsteps : (detourSteps n).isEmpty = false := by cases n <;> rfl
  have htext : (Disk.Path.mk slashes (detourSteps n)).toString.toList =
      List.replicate slashes '/' ++ detour n := by
    rw [Path.toString, hsteps, Bool.and_false, if_neg Bool.false_ne_true, String.toList_append,
      toList_intercalate_detourSteps, String.toList_ofList]
  have hslashes : (Text.Utf8.encode (List.replicate slashes '/')).length = slashes := by
    have hone : (Text.Utf8.encodeChar '/').length = 1 := by decide
    rw [Text.Utf8.encode, List.length_flatMap, List.map_replicate, hone, List.sum_replicate_nat,
      Nat.mul_one]
  rw [Path.size, htext, Text.Utf8.size, Text.Utf8.encode, List.flatMap_append, List.length_append]
  exact congrArg₂ _ hslashes (size_detour n)

/-- A checklist of that one file. -/
def detoured (n : Nat) : Checklist where
  name := "Detour"
  manifest := [String.ofList (detour n)]
  primaryFile := String.ofList (detour n)
  features := []
  manifest_ne_nil := by simp
  manifest_nodup := by simp
  primaryFile_mem := by simp

/-- A tree with an empty file, a directory to go into, a link back, and that checklist. -/
def detourTree (n : Nat) : Node :=
  .directory [("AA.cs", .file []), ("d", .directory []), ("l", .link "d/.."),
    ("c.yaml", .file ((detoured n).file .lower))]

/-- A session with that tree. -/
def detourSession (n : Nat) : Session := ⟨assemble (detourTree n) [] [], false, false⟩

theorem isSound_detourTree (n : Nat) : (detourTree n).IsSound := by
  have hname : ∀ name ∈ ["AA.cs", "d", "l", "c.yaml"], Disk.IsName name := by
    intro name hname
    simp only [List.mem_cons, List.not_mem_nil, or_false] at hname
    rcases hname with rfl | rfl | rfl | rfl <;>
      exact ⟨by decide, by decide, by decide, by decide⟩
  have hnone : (Node.directory []).IsSound :=
    Node.isSound_directory fun e he => absurd he List.not_mem_nil
  refine Node.isSound_directory fun e he => ?_
  simp only [List.mem_cons, List.not_mem_nil, or_false] at he
  rcases he with rfl | rfl | rfl | rfl
  · exact ⟨hname _ (by simp), Node.isSound_file _⟩
  · exact ⟨hname _ (by simp), hnone⟩
  · exact ⟨hname _ (by simp), Node.isSound_link _⟩
  · exact ⟨hname _ (by simp), Node.isSound_file _⟩

variable {n : Nat}

/-- The way leads to the file, however long it is. -/
theorem leads_detour (rounds : Nat) :
    Disk.Leads (detourTree n) [] (detourSteps rounds) 0 ["AA.cs"] := by
  have hd : Disk.step (detourTree n) [] "d" = .ok (.place ["d"]) := rfl
  have hup : Disk.step (detourTree n) ["d"] ".." = .ok (.place []) := rfl
  have hfile : Disk.step (detourTree n) [] "AA.cs" = .ok (.place ["AA.cs"]) := rfl
  induction rounds with
  | zero => exact .place hfile (.nil _)
  | succ rounds ih => exact .place hd (.place hup ih)

theorem stores_checklist :
    Source.Stores (detourSession n).disk (Path.ofString "c.yaml")
      ((detoured n).file .lower) := by
  have hstep : Disk.step (detourTree n) [] "c.yaml" = .ok (.place ["c.yaml"]) := rfl
  have hlocate : locate (detourTree n) [] (Path.ofString "c.yaml") = .ok ["c.yaml"] := by
    rw [locate, if_neg (by decide)]
    exact (Disk.walk_eq_ok_iff linkLimit).2 ⟨0, Nat.zero_le _, .place hstep (.nil _)⟩
  exact Disk.stores_assemble_nil (by decide) hlocate rfl

theorem chooseChecklist_detour :
    chooseChecklist (detourSession n).disk (.path "c.yaml") = .ok (.ok (detoured n)) := by
  have hfile := stores_checklist (n := n)
  have htexts : "" ∉ (detoured n).strings := by
    have hdetour : String.ofList (detour n) ≠ "" := by
      intro h
      have hnil := congrArg String.toList h
      rw [String.toList_ofList] at hnil
      cases n <;> cases hnil
    simp [Draft.strings, detoured, Rules.names, Rules.word, hdetour.symm]
  have hload := Checklist.load_document .lower hfile.hasNoNull htexts
    (Checklist.readText_file .lower hfile.read)
  rw [chooseChecklist]
  simp only [hload]

/-- The arguments that name the checklist and a base directory. -/
def detourArguments (base : String) : List String := ["--checklist", "c.yaml", "--base-dir", base]

theorem locate_root : locate (detourTree n) [] (Path.ofString ".") = .ok [] := by
  rw [locate, if_neg (by decide)]
  exact (Disk.walk_eq_ok_iff linkLimit).2 ⟨0, Nat.zero_le _, .nil []⟩

theorem read_detour : read (detourArguments ".") =
    .ok (.request ⟨.path "c.yaml", .path ".", false⟩) := by
  decide

theorem pathOf_detour (base : Path) (rounds : Nat) :
    pathOf base (String.ofList (detour rounds)) =
      { base with steps := base.steps ++ detourSteps rounds } := by
  rw [pathOf, ofString_detour]
  rfl

/-- A link that leads into the directory and out again, for a base directory. -/
theorem resolved_base_agrees_linked :
    locate (detourTree 1) [] (Path.ofString "l") = .ok []
      ∧ Reports (detourSession 1) ((detourSession 1).main (detourArguments "l")).2 (detoured 1)
        (Path.ofString "l") := by
  have hlink : Disk.step (detourTree 1) [] "l" = .ok (.link "d/..") := rfl
  have hd : Disk.step (detourTree 1) [] "d" = .ok (.place ["d"]) := rfl
  have hup : Disk.step (detourTree 1) ["d"] ".." = .ok (.place []) := rfl
  have hbase : locate (detourTree 1) [] (Path.ofString "l") = .ok [] := by
    rw [locate, if_neg (by decide)]
    exact (Disk.walk_eq_ok_iff linkLimit).2
      ⟨1, by decide, .link hlink (.place hd (.place hup (.nil [])))⟩
  have hentry : locate (detourTree 1) [] (pathOf (Path.ofString "l") (String.ofList (detour 1))) =
      .ok ["AA.cs"] := by
    rw [locate, if_neg (by decide)]
    exact (Disk.walk_eq_ok_iff linkLimit).2 ⟨1, by decide, .link hlink (leads_detour 2)⟩
  have hread : read (detourArguments "l") = .ok (.request ⟨.path "c.yaml", .path "l", false⟩) := by
    decide
  have hcanonical : (detourSession 1).disk.canonical (Path.ofString "l") = .ok (pathTo []) :=
    Disk.canonicalAt_of_locate (isSound_detourTree 1) (by decide) hbase rfl
  refine ⟨hbase, resolved_base_agrees (detourSession 1) rfl (isSound_detourTree 1) hread rfl
    chooseChecklist_detour hbase rfl ?_ ?_ ?_⟩
  · intro e he
    rw [List.mem_singleton.1 he, Disk.statAt, hentry]
    exact fun h => (by cases h)
  · intro e he
    rw [List.mem_singleton.1 he]
    decide
  · intro canonical hcanonical' e he
    cases hcanonical.symm.trans hcanonical'
    rw [List.mem_singleton.1 he]
    decide

theorem hasNull_pathOf_detour {base : Path} (hbase : base.hasNull = false) :
    (pathOf base (String.ofList (detour n))).hasNull = false := by
  have hnone : '\x00' ∉ detour n := by
    induction n with
    | zero => decide
    | succ n ih => simp [detour, ih]
  rw [← Bool.not_eq_true, hasNull_pathOf_iff hbase, String.toList_ofList]
  exact hnone

/-- The run returns in each directory. -/
theorem run_detour {base : Path} (hbase : base.hasNull = false) :
    (run (detourSession n).disk (detoured n) base).map (·.1) =
      .ok (told (detourSession n).disk (detoured n) base).1 := by
  have hfree : ∀ e ∈ (detoured n).manifest, ¬Blocks (detourSession n).disk base e := by
    intro e he
    rw [List.mem_singleton.1 he]
    exact not_blocks_of_hasNull (hasNull_pathOf_detour hbase)
  rw [(run_eq_ok_iff _ _ _ _).2 ⟨hfree, rfl⟩]
  rfl

theorem pathOf_given (n : Nat) :
    pathOf (Path.ofString ".") (String.ofList (detour n)) = ⟨0, detourSteps n⟩ :=
  pathOf_detour _ n

theorem locate_given (hsize : 5 * n + 5 < pathLimit) :
    locate (detourTree n) [] ⟨0, detourSteps n⟩ = .ok ["AA.cs"] := by
  rw [locate, size_path_detour, if_neg (by omega)]
  exact (Disk.walk_eq_ok_iff linkLimit).2 ⟨0, Nat.zero_le _, leads_detour n⟩

/-- In the working directory the file is found, unless the way is too long. -/
theorem run_given (hsize : 5 * n + 5 < pathLimit) :
    ∃ result, (run (detourSession n).disk (detoured n) (Path.ofString ".")).map (·.1) = .ok result
      ∧ result.exitCode = 0 := by
  have hstores : Source.Stores (detourSession n).disk
      (pathOf (Path.ofString ".") (String.ofList (detour n))) (Text.Utf8.encode []) :=
    Disk.stores_assemble_nil (hasNull_pathOf_detour (by decide))
      (pathOf_given n ▸ locate_given hsize) rfl
  have houtcome : (outcomeAt (detourSession n).disk (Path.ofString ".") (detoured n).rules
      (String.ofList (detour n))).1 = .ofText {} (String.ofList (detour n)) [] := by
    rw [outcomeAt, examine, isThere_of_ok hstores.stat]
    dsimp only
    rw [Source.read_stored hstores]
    rfl
  have hprimary : primaryOf (detourSession n).disk (detoured n) (Path.ofString ".") =
      .ofText {} (String.ofList (detour n)) [] := houtcome
  have hfeatures : checkFeatures (detoured n).features
      (some (primaryOf (detourSession n).disk (detoured n) (Path.ofString "."))) =
        ([], true, []) := by
    rw [hprimary]
    rfl
  have hmap : (detoured n).manifest.map (fun e =>
      (outcomeAt (detourSession n).disk (Path.ofString ".") (detoured n).rules e).1) =
        [.ofText {} (String.ofList (detour n)) []] := by
    rw [detoured, List.map_singleton]
    exact congrArg ([·]) houtcome
  refine ⟨_, run_detour (by decide), ?_⟩
  rw [told_eq hfeatures, hmap, Result.exitCode_eq_zero_iff]
  rfl

/-- Behind the root the file is not found if the way is too long. -/
theorem run_behind_root (hsize : pathLimit ≤ 5 * n + 6) :
    ∃ result, (run (detourSession n).disk (detoured n) (pathTo [])).map (·.1) = .ok result
      ∧ result.exitCode ≠ 0 := by
  have hpath : pathOf (pathTo []) (String.ofList (detour n)) = ⟨1, detourSteps n⟩ :=
    pathOf_detour _ n
  have hstat : (detourSession n).disk.stat (pathOf (pathTo []) (String.ofList (detour n))) =
      .error (.code .nameTooLong) := by
    have hlocate : locate (detourTree n) [] ⟨1, detourSteps n⟩ = .error .nameTooLong := by
      rw [locate, size_path_detour, if_pos (by omega)]
    rw [detourSession, hpath, Disk.stat_assemble_nil, Disk.statAt, hlocate]
    rfl
  refine ⟨_, run_detour (by decide), fun hcode => ?_⟩
  have hgood := (Result.exitCode_eq_zero_iff _).1 hcode
  rw [Result.allGood, Bool.and_eq_true, Bool.and_eq_true, files_told] at hgood
  have hclean := List.all_eq_true.1 hgood.1.1 _ (List.mem_map_of_mem (List.mem_singleton_self _))
  rw [outcomeAt, examine_of_failure hstat rfl] at hclean
  cases hclean

/-- The program does not print the report of the run in the working directory if the way is just
short enough there. -/
theorem not_reports_detour (hsize : 5 * n + 5 < pathLimit) (hsize' : pathLimit ≤ 5 * n + 6) :
    ¬Reports (detourSession n) ((detourSession n).main (detourArguments ".")).2 (detoured n)
      (Path.ofString ".") := by
  have hcanonical : (detourSession n).disk.canonical (Path.ofString ".") = .ok (pathTo []) :=
    Disk.canonicalAt_of_locate (isSound_detourTree n) (by decide) locate_root rfl
  have hbase : chooseBase (detourSession n).disk (.path ".") = .ok (pathTo []) := by
    rw [chooseBase, if_neg (by decide), hcanonical]
    rfl
  have hmain := Session.main_reports (detourSession n) read_detour chooseChecklist_detour hbase
  obtain ⟨given, hgiven, hzero⟩ := run_given hsize
  obtain ⟨resolved, hresolved, hnonzero⟩ := run_behind_root hsize'
  intro hreports
  rw [Reports, hgiven] at hreports
  rw [Reports, hresolved] at hmain
  have hcode := Except.ok.inj (hmain.2.symm.trans hreports.2)
  exact hnonzero (hcode.trans hzero)

/-- **The canonical form of the base directory may put an entry out of reach.** In the working
directory a path of 4095 bytes leads to a file, and so does the run. The program looks for the same
file behind the root, where the path is too long. -/
theorem resolved_base_overlong :
    (detourTree 818).IsSound
      ∧ read (detourArguments ".") = .ok (.request ⟨.path "c.yaml", .path ".", false⟩)
      ∧ chooseChecklist (detourSession 818).disk (.path "c.yaml") = .ok (.ok (detoured 818))
      ∧ locate (detourTree 818) [] (Path.ofString ".") = .ok []
      ∧ ((detourTree 818).at? []).map Node.isDirectory = some true
      ∧ (∀ e ∈ (detoured 818).manifest,
        Disk.statAt (detourTree 818) [] (pathOf (Path.ofString ".") e) ≠ .error .tooManyLinks
          ∧ (pathOf (Path.ofString ".") e).size < pathLimit)
      ∧ ¬Reports (detourSession 818) ((detourSession 818).main (detourArguments ".")).2
        (detoured 818) (Path.ofString ".") := by
  refine ⟨isSound_detourTree 818, read_detour, chooseChecklist_detour, locate_root, rfl, ?_,
    not_reports_detour (by decide) (by decide)⟩
  intro e he
  rw [List.mem_singleton.1 he, pathOf_given, Disk.statAt, locate_given (by decide),
    size_path_detour]
  exact ⟨fun h => (by cases h), by decide⟩

end CommandLine

end PackageGate
