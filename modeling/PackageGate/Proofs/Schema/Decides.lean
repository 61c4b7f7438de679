import PackageGate.Schema.Check
import PackageGate.Proofs.Schema.Fragment

/-!
# A check decides what a schema means

A check *decides* a proposition if it comes to an end without being aborted, and finds nothing
exactly if the proposition is true. Each keyword with a fitting argument decides what it says about
the data and their parts, as soon as the checks of the parts do (`decides_keyword`).
-/

namespace PackageGate.Schema

open Relation (TransGen)
open Value (lookup? IsFinite)

/-- A check comes to an end, and finds nothing exactly if a proposition is true. -/
def Decides {α : Type} (check : Except Abort (List α)) (p : Prop) : Prop :=
  ∃ found, check = .ok found ∧ (found = [] ↔ p)

namespace Decides

variable {α : Type} {x y : Except Abort (List α)} {p q : Prop}

theorem congr (h : Decides x p) (hpq : p ↔ q) : Decides x q := by
  rwa [Decides, ← hpq]

theorem nothing (h : p) : Decides (.ok ([] : List α)) p :=
  ⟨[], rfl, iff_of_true rfl h⟩

theorem something {found : List α} (hfound : found ≠ []) (h : ¬p) : Decides (.ok found) p :=
  ⟨found, rfl, iff_of_false hfound h⟩

/-- One check after another. -/
theorem append (hx : Decides x p) (hy : Decides y q) :
    Decides (x >>= fun found => y >>= fun more => .ok (found ++ more)) (p ∧ q) := by
  obtain ⟨found, rfl, hfound⟩ := hx
  obtain ⟨more, rfl, hmore⟩ := hy
  exact ⟨found ++ more, rfl, by rw [List.append_eq_nil_iff, hfound, hmore]⟩

/-- Problems of the data themselves, found at some path. -/
theorem here {problems : Except Abort (List Problem)} (h : Decides problems p)
    (path : List Segment) : Decides (problems.map (here path)) p := by
  obtain ⟨found, rfl, hfound⟩ := h
  exact ⟨Schema.here path found, rfl, by rw [Schema.here, List.map_eq_nil_iff, hfound]⟩

end Decides

/-! ## Types -/

theorem hasType?_iff {name : String} (h : name ∈ typeNames) (data : Value) :
    ∃ b, hasType? name data = some b ∧ (b = true ↔ HasType data name) := by
  simp only [typeNames, List.mem_cons, List.not_mem_nil, or_false] at h
  rcases h with rfl | rfl | rfl | rfl | rfl | rfl | rfl <;> refine ⟨_, rfl, ?_⟩ <;>
    cases data <;> simp [HasType, place?, Number.Binary64.isIntegral_iff]

theorem hasOneOf_iff {names : List String} (h : ∀ name ∈ names, name ∈ typeNames)
    (schema data : Value) :
    ∃ b, hasOneOf schema data (names.map .str) = .ok b
      ∧ (b = true ↔ ∃ name ∈ names, HasType data name) := by
  induction names with
  | nil => exact ⟨false, rfl, by simp⟩
  | cons name names ih =>
      obtain ⟨hname, hnames⟩ := List.forall_mem_cons.1 h
      obtain ⟨b, hb, hiff⟩ := hasType?_iff hname data
      rw [List.map_cons, hasOneOf]
      simp only [hb, List.exists_mem_cons_iff, ← hiff]
      cases b with
      | true => exact ⟨true, rfl, by simp⟩
      | false => simpa using ih hnames

theorem decides_type {root data argument : Value} (hfits : Fits root argument "type")
    (hdata : IsFinite data) (cells : Cells) (schema : Value) :
    Decides (checkType cells schema data argument) (Holds data argument "type") := by
  obtain ⟨names, htypes, hnames, hlists⟩ : ∃ names : List String,
      checkType cells schema data argument =
        (hasOneOf schema data (names.map .str) >>= fun b =>
          if b then .ok [] else .ok [.wrongType data (names.map .str)])
      ∧ (∀ name ∈ names, name ∈ typeNames) ∧ ∀ name, Lists argument name ↔ name ∈ names := by
    rcases hfits with ⟨name, hname, rfl⟩ | ⟨names, rfl, hnames⟩
    · refine ⟨[name], ?_, by simpa using hname, fun other => ?_⟩
      · unfold checkType
        rw [hdata.resolve]
        rfl
      · simp [Lists, eq_comm]
    · refine ⟨names, ?_, hnames, fun name => ?_⟩
      · unfold checkType
        rw [hdata.resolve]
        rfl
      · simp [Lists]
  obtain ⟨b, hb, hiff⟩ := hasOneOf_iff hnames schema data
  have hholds : Holds data argument "type" ↔ b = true := by
    rw [hiff]
    exact exists_congr fun name => and_congr_left fun _ => hlists name
  rw [htypes, hb, bind_ok]
  refine Decides.congr ?_ hholds.symm
  cases b with
  | true => exact .nothing rfl
  | false => exact .something (List.cons_ne_nil _ _) Bool.false_ne_true

/-! ## Limits -/

theorem intBelow_iff {limit : Value} (h : HasType limit "number") (n : Int) :
    ∃ b, intBelow n limit = .ok b ∧ (b = true ↔ IsLess (.int n) limit) := by
  rcases h with ⟨m, rfl⟩ | ⟨x, rfl⟩
  · refine ⟨_, rfl, ?_⟩
    rw [decide_eq_true_iff, IsLess, place?, place?, Number.Binary64.before_some,
      Number.Line.ofRat_lt_ofRat, Int.cast_lt]
  · exact ⟨_, rfl, Number.Binary64.intLt_iff n x⟩

theorem floatBelow_iff {limit : Value} (h : HasType limit "number") (x : Number.Binary64) :
    ∃ b, floatBelow x limit = .ok b ∧ (b = true ↔ IsLess (.float x) limit) := by
  rcases h with ⟨m, rfl⟩ | ⟨y, rfl⟩
  · exact ⟨_, rfl, Number.Binary64.ltInt_iff x m⟩
  · exact ⟨_, rfl, Number.Binary64.lt_iff x y⟩

theorem decides_length {limit : Value} (h : HasType limit "number") (data : Value)
    (length : Nat) : Decides (checkLength data length limit) (¬IsLess (.int length) limit) := by
  obtain ⟨b, hb, hiff⟩ := intBelow_iff h length
  rw [checkLength, hb, bind_ok, ← hiff]
  cases b with
  | true => exact .something (List.cons_ne_nil _ _) (not_not_intro rfl)
  | false => exact .nothing Bool.false_ne_true

theorem decides_minLength {limit data : Value} (h : HasType limit "number")
    (hdata : IsFinite data) (cells : Cells) :
    Decides (checkMinLength cells data limit) (Holds data limit "minLength") := by
  rw [checkMinLength, hdata.resolve]
  cases data with
  | str s => exact (decides_length h _ _).congr (by simp [Holds])
  | _ => exact .nothing (by simp [Holds])

theorem decides_minItems {limit data : Value} (h : HasType limit "number")
    (hdata : IsFinite data) (cells : Cells) :
    Decides (checkMinItems cells data limit) (Holds data limit "minItems") := by
  rw [checkMinItems, hdata.resolve]
  cases data with
  | list items => exact (decides_length h _ _).congr (by simp [Holds])
  | _ => exact .nothing (by simp [Holds])

theorem decides_minimum {limit data : Value} (h : HasType limit "number")
    (hdata : IsFinite data) (cells : Cells) :
    Decides (checkMinimum cells data limit) (Holds data limit "minimum") := by
  have hbelow : ∃ b, checkMinimum cells data limit =
        .ok (if b then [.small data limit] else [])
      ∧ (b = true ↔ HasType data "number" ∧ IsLess data limit) := by
    rw [checkMinimum, hdata.resolve]
    cases data with
    | int n =>
        obtain ⟨b, hb, hiff⟩ := intBelow_iff h n
        exact ⟨b, by simp only [hb, bind_ok], by simp [HasType, hiff]⟩
    | float x =>
        obtain ⟨b, hb, hiff⟩ := floatBelow_iff h x
        exact ⟨b, by simp only [hb, bind_ok], by simp [HasType, hiff]⟩
    | _ => exact ⟨false, rfl, by simp [HasType]⟩
  obtain ⟨b, hb, hiff⟩ := hbelow
  have hholds : Holds data limit "minimum" ↔ ¬b = true := by
    rw [hiff, not_and]
    exact Iff.rfl
  rw [hb]
  refine Decides.congr ?_ hholds.symm
  cases b with
  | true => exact .something (List.cons_ne_nil _ _) (not_not_intro rfl)
  | false => exact .nothing Bool.false_ne_true

/-! ## Keys -/

theorem decides_missingNames (entries : List (Value × Value)) (names : List String) :
    Decides (missingNames entries (names.map .str))
      (∀ name ∈ names, Value.hasKey (.str name) entries = true) := by
  induction names with
  | nil => exact .nothing (by simp)
  | cons name names ih =>
      obtain ⟨more, hmore, hiff⟩ := ih
      rw [List.map_cons, missingNames]
      simp only [Value.isHashable, hmore, bind_ok, List.forall_mem_cons]
      cases hkey : Value.hasKey (.str name) entries with
      | true => exact ⟨more, rfl, by simpa using hiff⟩
      | false => exact .something (List.cons_ne_nil _ _) (by simp)

theorem decides_required {root argument data : Value} (h : Fits root argument "required")
    (hdata : IsFinite data) (cells : Cells) :
    Decides (checkRequired cells data argument) (Holds data argument "required") := by
  obtain ⟨names, rfl⟩ := h
  rw [checkRequired, hdata.resolve]
  cases data with
  | dict entries =>
      refine (decides_missingNames entries names).congr ?_
      simp [Holds]
  | _ => exact .nothing (by simp [Holds])

/-- The entries that are not declared are found. -/
theorem undeclared_eq {root : Value} {keywords : List (Value × Value)}
    (h : WellTyped root (.dict keywords)) (entries : List (Value × Value)) :
    ∃ extra, undeclared ((lookup? "properties" keywords).getD (.dict [])) entries = .ok extra
      ∧ ∀ e, e ∈ extra ↔ e ∈ entries ∧ ¬Declared keywords e.1 := by
  obtain ⟨properties, hproperties, hdeclared⟩ : ∃ properties,
      (lookup? "properties" keywords).getD (.dict []) = .dict properties
      ∧ ∀ key, Declared keywords key ↔ Value.hasKey key properties = true := by
    cases hlookup : lookup? "properties" keywords with
    | none => exact ⟨[], rfl, fun key => by simp [Declared, hlookup, Value.hasKey]⟩
    | some argument =>
        obtain ⟨properties, rfl, _⟩ := h.fits hlookup
        exact ⟨properties, rfl, fun key => by simp [Declared, hlookup]⟩
  rw [hproperties]
  induction entries with
  | nil => exact ⟨[], rfl, by simp⟩
  | cons entry entries ih =>
      obtain ⟨extra, hextra, hmem⟩ := ih
      obtain ⟨k, v⟩ := entry
      rw [undeclared, hextra, holds]
      simp only [bind_ok]
      cases hkey : Value.hasKey k properties with
      | true =>
          refine ⟨extra, rfl, fun e => ?_⟩
          rw [hmem, List.mem_cons]
          refine and_congr_left fun hnot => (or_iff_right ?_).symm
          rintro rfl
          exact hnot ((hdeclared k).2 hkey)
      | false =>
          refine ⟨(k, v) :: extra, rfl, fun e => ?_⟩
          have hnot : ¬Declared keywords k := by
            rw [hdeclared, hkey]
            exact Bool.false_ne_true
          rw [List.mem_cons, hmem, List.mem_cons]
          constructor
          · rintro (rfl | he)
            · exact ⟨.inl rfl, hnot⟩
            · exact ⟨.inr he.1, he.2⟩
          · rintro ⟨rfl | he, hundeclared⟩
            · exact .inl rfl
            · exact .inr ⟨he, hundeclared⟩

/-! ## Satisfaction -/

section Parts

variable {root : Value}

theorem decides_items {check : Value → Nat → Value → Except Abort (List Violation)}
    {schema : Value} {items : List Value}
    (h : ∀ v ∈ items, ∀ n, Decides (check schema n v) (Satisfies root schema v)) (n : Nat) :
    Decides (checkItems check schema n items) (∀ v ∈ items, Satisfies root schema v) := by
  induction items generalizing n with
  | nil => exact .nothing (by simp)
  | cons item items ih =>
      obtain ⟨hitem, hitems⟩ := List.forall_mem_cons.1 h
      exact ((hitem n).append (ih hitems (n + 1))).congr (by simp only [List.forall_mem_cons])

theorem decides_positions {check : Value → Nat → Value → Except Abort (List Violation)}
    {schemas items : List Value}
    (h : ∀ (n : Nat) s v, schemas[n]? = some s → items[n]? = some v → ∀ m,
      Decides (check s m v) (Satisfies root s v)) (n : Nat) :
    Decides (checkPositions check n schemas items)
      (∀ (n : Nat) s v, schemas[n]? = some s → items[n]? = some v → Satisfies root s v) := by
  induction schemas generalizing items n with
  | nil => exact .nothing (by simp)
  | cons schema schemas ih =>
      cases items with
      | nil => exact .nothing (by simp)
      | cons item items =>
          have hfirst := h 0 schema item rfl rfl n
          have hrest := ih (fun n s v hs hv => h (n + 1) s v hs hv) (n + 1)
          refine (hfirst.append hrest).congr (Iff.intro ?_ ?_)
          · rintro ⟨hone, hmore⟩ n s v hs hv
            cases n with
            | zero =>
                cases hs
                cases hv
                exact hone
            | succ n => exact hmore n s v hs hv
          · intro hall
            exact ⟨hall 0 schema item rfl rfl, fun n s v hs hv => hall (n + 1) s v hs hv⟩

theorem decides_properties {check : Value → Value → Value → Except Abort (List Violation)}
    {entries properties : List (Value × Value)}
    (hnames : ∀ e ∈ properties, ∃ name, e.1 = .str name)
    (h : ∀ name s v, (.str name, s) ∈ properties → lookup? name entries = some v → ∀ k,
      Decides (check s k v) (Satisfies root s v)) :
    Decides (checkProperties check entries properties)
      (∀ name s v, (.str name, s) ∈ properties → lookup? name entries = some v →
        Satisfies root s v) := by
  induction properties with
  | nil => exact .nothing (by simp)
  | cons property properties ih =>
      obtain ⟨⟨name, hname⟩, hrest⟩ := List.forall_mem_cons.1 hnames
      obtain ⟨k, schema⟩ := property
      cases hname
      have hrest := ih hrest fun name s v hs => h name s v (List.mem_cons_of_mem _ hs)
      obtain ⟨first, hstep, hfirst⟩ : ∃ first : Except Abort (List Violation),
          checkProperties check entries ((.str name, schema) :: properties) =
            (first >>= fun found => checkProperties check entries properties >>= fun more =>
              .ok (found ++ more))
          ∧ Decides first (∀ v, lookup? name entries = some v → Satisfies root schema v) := by
        rw [checkProperties, Value.lookup?_eq_find?]
        cases hfind : entries.find? (fun entry => Value.sameKey entry.1 (.str name)) with
        | none => exact ⟨.ok [], rfl, .nothing (by simp)⟩
        | some entry =>
            have hentry : lookup? name entries = some entry.2 := by
              rw [Value.lookup?_eq_find?, hfind]
              rfl
            have hone := h name schema _ List.mem_cons_self hentry (.str name)
            exact ⟨_, rfl, hone.congr (by simp)⟩
      rw [hstep]
      refine (hfirst.append hrest).congr (Iff.intro ?_ ?_)
      · rintro ⟨hone, hmore⟩ other s v hs hv
        rcases List.mem_cons.1 hs with heq | hs
        · cases heq
          exact hone v hv
        · exact hmore other s v hs hv
      · intro hall
        exact ⟨fun v => hall name schema v List.mem_cons_self,
          fun other s v hs => hall other s v (List.mem_cons_of_mem _ hs)⟩

theorem decides_entries {check : Value → Value → Value → Except Abort (List Violation)}
    {schema : Value} {entries : List (Value × Value)}
    (h : ∀ e ∈ entries, Decides (check schema e.1 e.2) (Satisfies root schema e.2)) :
    Decides (checkEntries check schema entries) (∀ e ∈ entries, Satisfies root schema e.2) := by
  induction entries with
  | nil => exact .nothing (by simp)
  | cons entry entries ih =>
      obtain ⟨hentry, hentries⟩ := List.forall_mem_cons.1 h
      exact (hentry.append (ih hentries)).congr (by simp only [List.forall_mem_cons])

/-- Other keys than the declared ones, where no schema for them is a mapping. -/
theorem decides_unexpected (path : List Segment) (extra : List (Value × Value)) (b : Bool) :
    Decides (.ok (if isTruthy (.bool b) || extra.isEmpty then []
        else here path [.unexpected (extra.map (·.1))]))
      (∀ e ∈ extra, Satisfies root (.bool b) e.2) := by
  cases b with
  | true => exact .nothing fun _ _ => .anything
  | false =>
      cases extra with
      | nil => exact .nothing (by simp)
      | cons e extra =>
          refine .something (List.cons_ne_nil _ _) fun h => ?_
          exact not_satisfies_false (h e List.mem_cons_self)

end Parts

/-! ## Keywords -/

section Keywords

variable {root data : Value} {keywords : List (Value × Value)} {argument : Value} {cells : Cells}
  {check : Value → Segment → Value → Except Abort (List Violation)}

theorem decides_checkProperties (hargument : Fits root argument "properties")
    (hdata : IsFinite data) (path : List Segment) (schema : Value)
    (hcheck : ∀ s segment v, Applies keywords argument data s v "properties" →
      Decides (check s segment v) (Satisfies root s v)) :
    Decides (checkKeyword cells check path schema keywords data (.str "properties") argument)
      (∀ s v, Applies keywords argument data s v "properties" → Satisfies root s v) := by
  obtain ⟨properties, rfl, hnames⟩ := hargument
  rw [checkKeyword, hdata.resolve]
  cases data with
  | dict entries =>
      refine (decides_properties hnames fun name s v hs hv k =>
        hcheck s (.key k) v ⟨properties, entries, name, rfl, rfl, hs, hv⟩).congr (Iff.intro ?_ ?_)
      · rintro hall s v ⟨_, _, name, ⟨⟩, ⟨⟩, hs, hv⟩
        exact hall name s v hs hv
      · intro hall name s v hs hv
        exact hall s v ⟨properties, entries, name, rfl, rfl, hs, hv⟩
  | _ => exact .nothing (by simp [Applies])

theorem decides_additional (hschema : WellTyped root (.dict keywords))
    (hargument : WellTyped root argument)
    (hdata : IsFinite data) (path : List Segment) (schema : Value)
    (hcheck : ∀ s segment v, Applies keywords argument data s v "additionalProperties" →
      Decides (check s segment v) (Satisfies root s v)) :
    Decides
      (checkKeyword cells check path schema keywords data (.str "additionalProperties") argument)
      (∀ s v, Applies keywords argument data s v "additionalProperties" → Satisfies root s v) := by
  rw [checkKeyword, hdata.resolve]
  cases data with
  | dict entries =>
      obtain ⟨extra, hextra, hmem⟩ := undeclared_eq hschema entries
      have happlies : (∀ s v, Applies keywords argument (.dict entries) s v "additionalProperties" →
            Satisfies root s v) ↔ ∀ e ∈ extra, Satisfies root argument e.2 := by
        constructor
        · intro hall e he
          obtain ⟨he, hnot⟩ := (hmem e).1 he
          exact hall argument e.2 ⟨rfl, entries, e.1, rfl, he, hnot⟩
        · rintro hall s v ⟨rfl, _, key, ⟨⟩, he, hnot⟩
          exact hall (key, v) ((hmem _).2 ⟨he, hnot⟩)
      dsimp only
      rw [hextra, bind_ok, happlies]
      cases hargument with
      | bool b => exact decides_unexpected path extra b
      | dict =>
          refine decides_entries fun e he => ?_
          obtain ⟨he, hnot⟩ := (hmem e).1 he
          exact hcheck _ (.key e.1) e.2 ⟨rfl, entries, e.1, rfl, he, hnot⟩
  | _ => exact .nothing (by simp [Applies])

theorem decides_checkItems (hdata : IsFinite data) (path : List Segment) (schema : Value)
    (hcheck : ∀ s segment v, Applies keywords argument data s v "items" →
      Decides (check s segment v) (Satisfies root s v)) :
    Decides (checkKeyword cells check path schema keywords data (.str "items") argument)
      (∀ s v, Applies keywords argument data s v "items" → Satisfies root s v) := by
  rw [checkKeyword, hdata.resolve]
  cases data with
  | list items =>
      dsimp only
      split
      · next schemas =>
          refine (decides_positions (fun n s v hs hv m => hcheck s (.index m) v
            ⟨items, rfl, .inr ⟨schemas, n, rfl, hs, hv⟩⟩) 0).congr (Iff.intro ?_ ?_)
          · rintro hall s v ⟨_, ⟨⟩, ⟨rfl, hlist, _⟩ | ⟨_, n, ⟨⟩, hs, hv⟩⟩
            · exact absurd rfl (hlist schemas)
            · exact hall n s v hs hv
          · intro hall n s v hs hv
            exact hall s v ⟨items, rfl, .inr ⟨schemas, n, rfl, hs, hv⟩⟩
      · next hlist =>
          refine (decides_items (fun v hv n => hcheck argument (.index n) v
            ⟨items, rfl, .inl ⟨rfl, hlist, hv⟩⟩) 0).congr (Iff.intro ?_ ?_)
          · rintro hall s v ⟨_, ⟨⟩, ⟨rfl, _, hv⟩ | ⟨schemas, _, rfl, _⟩⟩
            · exact hall v hv
            · exact absurd rfl (hlist schemas)
          · intro hall v hv
            exact hall argument v ⟨items, rfl, .inl ⟨rfl, hlist, hv⟩⟩
  | _ => exact .nothing (by simp [Applies])

/-- The keywords that say something. -/
def knownKeywords : List String :=
  ["type", "minLength", "minItems", "minimum", "required", "properties", "additionalProperties",
    "items"]

/-- **A keyword decides what it says**, if the checks of the parts decide what it applies to
them. -/
theorem decides_keyword (hschema : WellTyped root (.dict keywords)) (hdata : IsFinite data)
    (path : List Segment) {keyword : String} (hlookup : lookup? keyword keywords = some argument)
    (href : keyword ≠ "$ref")
    (hcheck : ∀ s segment v, Applies keywords argument data s v keyword →
      Decides (check s segment v) (Satisfies root s v)) :
    Decides (checkKeyword cells check path (.dict keywords) keywords data (.str keyword) argument)
      (Holds data argument keyword
        ∧ ∀ s v, Applies keywords argument data s v keyword → Satisfies root s v) := by
  have hfits := hschema.fits hlookup
  by_cases hknown : keyword ∈ knownKeywords
  · simp only [knownKeywords, List.mem_cons, List.not_mem_nil, or_false] at hknown
    rcases hknown with rfl | rfl | rfl | rfl | rfl | rfl | rfl | rfl
    · rw [checkKeyword]
      exact ((decides_type hfits hdata cells _).here path).congr (by simp [Applies])
    · rw [checkKeyword]
      exact ((decides_minLength hfits hdata cells).here path).congr (by simp [Applies])
    · rw [checkKeyword]
      exact ((decides_minItems hfits hdata cells).here path).congr (by simp [Applies])
    · rw [checkKeyword]
      exact ((decides_minimum hfits hdata cells).here path).congr (by simp [Applies])
    · rw [checkKeyword]
      exact ((decides_required hfits hdata cells).here path).congr (by simp [Applies])
    · exact (decides_checkProperties hfits hdata path _ hcheck).congr (by simp [Holds])
    · exact (decides_additional hschema (hschema.subschema hlookup .additional) hdata path _
        hcheck).congr (by simp [Holds])
    · exact (decides_checkItems hdata path _ hcheck).congr (by simp [Holds])
  · -- all other keywords are skipped
    have hskip : checkKeyword cells check path (.dict keywords) keywords data (.str keyword)
        argument = .ok [] := by
      unfold checkKeyword
      split <;> simp_all [knownKeywords]
    rw [hskip]
    refine .nothing ⟨?_, fun s v h => ?_⟩
    · unfold Holds
      split <;> simp_all [knownKeywords]
    · unfold Applies at h
      split at h <;> simp_all [knownKeywords]

end Keywords

end PackageGate.Schema
