import PackageGate.Proofs.Schema.Decides

/-!
# Reports against sound schemas

A check against a sound schema comes to an end, whatever the finite data are: nothing is amiss with
the schema, and the references are not endless. What it reports is nothing exactly if the data
satisfy the schema (`report_decides`). Only a number that is too long to be written out takes the
place of the violations that were found.

A check with fuel has enough of it if the data are not too deep and not too many references have
been followed since the last step into them. What has been passed since then is a `Trail` of
different schemas, as no chain of references comes back, and there are no more of them than the
schema has parts. So every step into the data may use up the weight of the schema, and one more
(`decides_check`).
-/

namespace PackageGate.Schema

open Relation (TransGen)
open Value (lookup? IsFinite)

/-! ## Trails -/

/-- The schemas that were passed on the way to a schema since the last step into the data. Each
leads on to it by references. -/
structure Trail (root : Value) (passed : List Value) (s : Value) : Prop where
  nodup : passed.Nodup
  parts : passed ⊆ root.parts
  leads : ∀ p ∈ passed, TransGen (Refers root) p s

namespace Trail

variable {root s t : Value} {passed : List Value}

theorem nil : Trail root [] s := ⟨List.nodup_nil, List.nil_subset _, by simp⟩

theorem length_le (h : Trail root passed s) : passed.length ≤ root.weight :=
  Value.length_le_weight h.nodup h.parts

/-- A reference leads to a schema that was not passed before. -/
theorem cons (h : Trail root passed s) (hroot : IsSound root) (hs : s ∈ root.parts)
    (hst : Refers root s t) : Trail root (s :: passed) t where
  nodup := List.nodup_cons.2 ⟨fun hmem => hroot.guarded s (h.leads s hmem), h.nodup⟩
  parts := List.cons_subset.2 ⟨hs, h.parts⟩
  leads := by
    rintro p (_ | ⟨_, hp⟩)
    · exact .single hst
    · exact (h.leads p hp).tail hst

end Trail

/-! ## The whole check -/

/-- All keywords together decide what each of them does. -/
theorem decides_checkKeywords {one : Value → Value → Except Abort (List Violation)}
    {p : Value × Value → Prop} {keywords : List (Value × Value)}
    (h : ∀ e ∈ keywords, Decides (one e.1 e.2) (p e)) :
    Decides (checkKeywords one keywords) (∀ e ∈ keywords, p e) := by
  induction keywords with
  | nil => exact .nothing (by simp)
  | cons e keywords ih =>
      obtain ⟨hone, hrest⟩ := List.forall_mem_cons.1 h
      exact (hone.append (ih hrest)).congr (by simp only [List.forall_mem_cons])

/-- Without a reference, a schema is decided by its keywords. -/
theorem decides_keywords {root data : Value} {keywords : List (Value × Value)} {cells : Cells}
    {check : Value → Segment → Value → Except Abort (List Violation)}
    (hschema : WellTyped root (.dict keywords)) (hdata : IsFinite data)
    (href : lookup? "$ref" keywords = none) (path : List Segment)
    (hcheck : ∀ keyword argument, lookup? keyword keywords = some argument →
      ∀ s segment v, Applies keywords argument data s v keyword →
        Decides (check s segment v) (Satisfies root s v)) :
    Decides
      (checkKeywords (checkKeyword cells check path (.dict keywords) keywords data) keywords)
      (Satisfies root (.dict keywords) data) := by
  have hone : ∀ e ∈ keywords,
      Decides (checkKeyword cells check path (.dict keywords) keywords data e.1 e.2)
        (∀ keyword, e.1 = .str keyword → Holds data e.2 keyword
          ∧ ∀ s v, Applies keywords e.2 data s v keyword → Satisfies root s v) := by
    rintro ⟨k, argument⟩ he
    cases k with
    | str keyword =>
        have hlookup := Value.lookup?_of_mem hschema.distinctKeys he
        have hne : keyword ≠ "$ref" := by
          rintro rfl
          rw [href] at hlookup
          cases hlookup
        exact (decides_keyword hschema hdata path hlookup hne
          (hcheck keyword argument hlookup)).congr (by simp)
    | _ => exact .nothing (by simp)
  refine (decides_checkKeywords hone).congr ?_
  rw [satisfies_keywords_iff href]
  constructor
  · intro hall keyword argument hlookup
    exact hall _ (Value.mem_of_lookup? hlookup) keyword rfl
  · rintro hall ⟨_, argument⟩ he keyword rfl
    exact hall keyword argument (Value.lookup?_of_mem hschema.distinctKeys he)

/-- **A check with enough fuel decides whether data satisfy a schema.** Enough is, for each step
into the data, the weight of the whole schema and one more. What was spent on the trail to the
schema counts. -/
theorem decides_check {root : Value} (hroot : IsSound root) (cells : Cells) {fuel : Nat}
    {passed : List Value} {path : List Segment} {s data : Value} (htrail : Trail root passed s)
    (hs : WellTyped root s) (hpart : s ∈ root.parts) (hdata : IsFinite data)
    (hfuel : data.depth * (root.weight + 1) ≤ fuel + passed.length) :
    Decides (check cells root fuel path s data) (Satisfies root s data) := by
  induction fuel generalizing passed path s data with
  | zero =>
      have hlength := htrail.length_le
      have hdepth := Nat.mul_le_mul_right (root.weight + 1) (Value.one_le_depth data)
      omega
  | succ fuel ih =>
      cases hs with
      | bool b =>
          cases b with
          | true => exact .nothing .anything
          | false => exact .something (List.cons_ne_nil _ _) not_satisfies_false
      | @dict keywords hdistinct hfits hparts =>
          have hs : WellTyped root (.dict keywords) := .dict hdistinct hfits hparts
          cases href : lookup? "$ref" keywords with
          | none =>
              rw [check, href]
              refine decides_keywords hs hdata href path ?_
              intro keyword argument hlookup t segment v happlies
              have hsub := happlies.subschema
              obtain ⟨hv, hdepth⟩ := happlies.part_lt hdata
              refine ih .nil (hs.subschema hlookup hsub)
                (Value.parts_subset _ hpart (hsub.mem_parts hlookup)) hv ?_
              have hlength := htrail.length_le
              have hstep := Nat.mul_le_mul_right (root.weight + 1) (Nat.succ_le_of_lt hdepth)
              rw [Nat.succ_mul] at hstep
              simp only [List.length_nil]
              omega
          | some argument =>
              obtain ⟨text, t, rfl, hnames⟩ := hs.fits href
              have hst : Refers root (.dict keywords) t := ⟨keywords, text, rfl, href, hnames⟩
              have ht := hroot.wellTyped.names hnames
              rw [check, href]
              simp only [target_of_names hroot.wellTyped hnames, bind_ok]
              refine Decides.congr ?_ (satisfies_reference_iff hroot.wellTyped hst).symm
              cases ht with
              | bool b =>
                  cases b with
                  | true => exact .nothing .anything
                  | false => exact .something (List.cons_ne_nil _ _) not_satisfies_false
              | dict hd hf hp =>
                  refine ih (htrail.cons hroot hpart hst) (.dict hd hf hp) hnames.mem_parts hdata ?_
                  rw [List.length_cons]
                  omega

theorem violations_decides {root data : Value} (hroot : IsSound root) (hdata : IsFinite data)
    (cells : Cells) : Decides (violations cells root data) (Satisfies root root data) := by
  have hfuel : data.depth * (root.weight + 1) ≤ fuelFor root data := by
    rw [fuelFor]
    exact Nat.mul_le_mul (Nat.le_succ _) (Nat.le_succ _)
  have hcheck : Decides (check cells root (fuelFor root data) [] root data)
      (Satisfies root root data) :=
    decides_check hroot cells .nil hroot.wellTyped (Value.self_mem_parts root) hdata hfuel
  cases hroot.wellTyped with
  | bool b =>
      cases b with
      | true => exact hcheck
      | false => exact .something (List.cons_ne_nil _ _) not_satisfies_false
  | dict => exact hcheck

/-! ## The report -/

/-- **A report against a sound schema tells the violations, and is empty exactly for data that
satisfy the schema.** Nothing aborts the check. If a path or a problem would have to write out a
number that is too long, there is one line about that instead. -/
theorem report_decides {root data : Value} (hroot : IsSound root) (hdata : IsFinite data)
    (context : String) (cells : Cells) :
    ∃ found, violations cells root data = .ok found
      ∧ report context cells root data =
        .ok (if showsTooLong cells found then
            [context ++ ": " ++ s!"Invalid data structure: {Misuse.tooLong.message}"]
          else (sorted cells found).map (·.line context cells))
      ∧ (report context cells root data = .ok [] ↔ Satisfies root root data) := by
  obtain ⟨found, hfound, hnil⟩ := violations_decides hroot hdata cells
  have hreport : report context cells root data =
      .ok (if showsTooLong cells found then
          [context ++ ": " ++ s!"Invalid data structure: {Misuse.tooLong.message}"]
        else (sorted cells found).map (·.line context cells)) := by
    rw [report, hfound]
    dsimp only
    split <;> rfl
  refine ⟨found, hfound, hreport, ?_⟩
  rw [hreport, ← hnil, Except.ok.injEq]
  constructor
  · intro hempty
    split at hempty
    · cases hempty
    · rw [List.map_eq_nil_iff] at hempty
      exact List.nil_perm.1 (hempty ▸ List.mergeSort_perm found _)
  · rintro rfl
    simp [showsTooLong, sorted]

/-- A tree is a mapping with a label, and may have more trees below it. -/
def tree : Value :=
  .dict [(.str "type", .str "object"),
    (.str "required", .list [.str "label"]),
    (.str "properties", .dict
      [(.str "label", .dict [(.str "type", .str "string"), (.str "minLength", .int 1)]),
       (.str "below", .dict [(.str "items", .dict [(.str "$ref", .str "#/definitions/tree")])])]),
    (.str "additionalProperties", .bool false)]

/-- A schema that is nothing but a reference to its definition of trees. -/
def treeShape : Value :=
  .dict [(.str "definitions", .dict [(.str "tree", tree)]),
    (.str "$ref", .str "#/definitions/tree")]

theorem names_tree : Names treeShape "#/definitions/tree" tree := by
  have hname : IsPlainName "tree".toList :=
    ⟨Text.isAscii_iff_all.2 (by decide), by decide, by decide, by decide⟩
  exact names_definition hname rfl rfl

theorem fits_tree : Fits treeShape (.str "#/definitions/tree") "$ref" :=
  ⟨_, _, rfl, names_tree⟩

theorem wellTyped_tree : WellTyped treeShape tree := by
  have hlabel : WellTyped treeShape
      (.dict [(.str "type", .str "string"), (.str "minLength", .int 1)]) := by
    refine .of_entries (by simp [Value.DistinctKeys]) ?_
    simp [Fits, subschema_iff, typeNames, HasType]
  have htrees : WellTyped treeShape (.dict [(.str "$ref", .str "#/definitions/tree")]) := by
    refine .of_entries (by simp [Value.DistinctKeys]) ?_
    simp [fits_tree, subschema_iff]
  have hbelow : WellTyped treeShape
      (.dict [(.str "items", .dict [(.str "$ref", .str "#/definitions/tree")])]) := by
    refine .of_entries (by simp [Value.DistinctKeys]) ?_
    simpa [Fits, foreignKeywords, subschema_iff] using htrees
  refine .of_entries (by simp [Value.DistinctKeys]) ?_
  simp only [List.forall_mem_cons, Value.str.injEq, forall_eq']
  refine ⟨?_, ?_, ?_, ?_, by simp⟩
  · simp [Fits, subschema_iff, typeNames]
  · exact ⟨⟨["label"], rfl⟩, by simp [subschema_iff]⟩
  · refine ⟨⟨_, rfl, by simp⟩, fun s hs => ?_⟩
    obtain ⟨k, hmem⟩ := (subschema_entries_iff (by simp)).1 hs
    simp only [List.mem_cons, List.not_mem_nil, or_false, Prod.mk.injEq] at hmem
    rcases hmem with ⟨_, rfl⟩ | ⟨_, rfl⟩
    · exact hlabel
    · exact hbelow
  · simpa [Fits, foreignKeywords, subschema_iff] using WellTyped.bool false

theorem wellTyped_treeShape : WellTyped treeShape treeShape := by
  refine .of_entries (by simp [Value.DistinctKeys]) ?_
  simp only [List.forall_mem_cons, Value.str.injEq, forall_eq']
  refine ⟨⟨⟨_, rfl, by simp⟩, ?_⟩, ⟨fits_tree, by simp [subschema_iff]⟩, by simp⟩
  simpa [subschema_iff] using wellTyped_tree

theorem isSound_treeShape : IsSound treeShape := by
  refine wellTyped_treeShape.isSound fun keywords text hmem hlookup => ?_
  have htext : text = "#/definitions/tree" := by
    simp only [treeShape, tree, Value.parts, Value.partsOfItems, Value.partsOfEntries,
      List.cons_append, List.nil_append, List.append_nil, List.mem_cons, Value.dict.injEq,
      reduceCtorEq, List.not_mem_nil, false_or, or_false] at hmem
    rcases hmem with rfl | rfl | rfl | rfl | rfl | rfl | rfl <;>
      simp_all [lookup?]
  exact ⟨_, htext ▸ names_tree, rfl⟩

/-- A tree with one tree below it. -/
def sprout : Value :=
  .dict [(.str "label", .str "root"), (.str "below", .list [.dict [(.str "label", .str "leaf")]])]

theorem isFinite_sprout : IsFinite sprout := by
  have hstr (s : String) : IsFinite (.str s) := .leaf trivial nofun
  refine .dict ?_
  simp only [List.forall_mem_cons]
  refine ⟨hstr _, .list ?_, by simp⟩
  simp only [List.forall_mem_cons]
  refine ⟨.dict ?_, by simp⟩
  simp [hstr]

/-- That it is a tree can be told from the report. -/
theorem sprout_satisfies :
    IsSound treeShape ∧ IsFinite sprout ∧ report "tree.yaml" #[] treeShape sprout = .ok []
      ∧ Satisfies treeShape treeShape sprout := by
  obtain ⟨_, _, _, hiff⟩ := report_decides isSound_treeShape isFinite_sprout "tree.yaml" #[]
  have hreport : report "tree.yaml" #[] treeShape sprout = .ok [] := by
    have hlines : (report "tree.yaml" #[] treeShape sprout).toOption = some [] := by
      decide +kernel
    cases h : report "tree.yaml" #[] treeShape sprout <;> simp_all [Except.toOption]
  exact ⟨isSound_treeShape, isFinite_sprout, hreport, hiff.1 hreport⟩

/-- A schema for texts. -/
def textShape : Value := .dict [(.str "type", .str "string")]

theorem isSound_textShape : IsSound textShape := by
  have htyped : WellTyped textShape textShape := by
    refine .of_entries (by simp [Value.DistinctKeys]) ?_
    simp [Fits, subschema_iff, typeNames]
  refine htyped.isSound fun keywords text hmem hlookup => ?_
  simp only [textShape, Value.parts, Value.partsOfEntries, List.append_nil, List.mem_cons,
    Value.dict.injEq, reduceCtorEq, List.not_mem_nil, or_false] at hmem
  simp [hmem, lookup?] at hlookup

/-- A number instead of a text cannot be told of if it is too long. -/
theorem oversized_aborted :
    IsSound textShape ∧ IsFinite (.int (10 ^ Number.digitLimit : Nat))
      ∧ ∃ abort message, Abort.message? abort = some message
        ∧ report "c.yaml" #[] textShape (.int (10 ^ Number.digitLimit : Nat)) =
          .ok [s!"c.yaml: {message}"] := by
  have hfound (n : Int) : violations #[] textShape (.int n) =
      .ok [⟨[], .wrongType (.int n) [.str "string"]⟩] := rfl
  have hlong (n : Int) (h : Nat.pow 10 Number.digitLimit ≤ n.natAbs) :
      showsTooLong #[] [⟨[], .wrongType (.int n) [.str "string"]⟩] = true := by
    refine List.any_eq_true.2 ⟨_, List.mem_cons_self, Bool.or_eq_true_iff.2 (.inr ?_)⟩
    exact List.any_eq_true.2 ⟨_, List.mem_cons_self, (Value.tooLong_int_iff _ _).2 h⟩
  have hreport (n : Int) (h : Nat.pow 10 Number.digitLimit ≤ n.natAbs) :
      ∃ message, Abort.message? (.misuse .tooLong) = some message
        ∧ report "c.yaml" #[] textShape (.int n) = .ok [s!"c.yaml: {message}"] := by
    refine ⟨_, rfl, ?_⟩
    rw [report, hfound]
    dsimp only
    rw [if_pos (hlong n h)]
    rfl
  exact ⟨isSound_textShape, .leaf trivial nofun, .misuse .tooLong,
    hreport _ (by rw [Int.natAbs_natCast, Nat.pow_eq])⟩

end PackageGate.Schema
