import Mathlib.Data.List.Basic
import PackageGate.Disk.Canonical
import PackageGate.Proofs.Disk.Walk

/-!
# Links replaced and links followed

A path is made canonical by replacing its links, and it is followed link by link. Both come to the
same place: if the steps of a path lead somewhere, replacing its links stops nowhere and spells a
path to there (`resolveSteps_of_leads`).

The induction is on the number of links that are followed on the way. It bounds how many can stand
inside each other, and what is still to be replaced: a link that is being replaced when it turns up
again, in whatever spelling, would lead on to itself, and so would have more links on its way than
there are (`Replaced.Costly`).
-/

namespace PackageGate.Disk

/-! ## Spelled paths -/

theorem collapse_append (place : Place) (steps more : List String) :
    collapse place (steps ++ more) = collapse (collapse place steps) more := by
  induction steps generalizing place with
  | nil => rfl
  | cons name steps ih =>
      rw [List.cons_append, collapse, collapse]
      split
      · exact ih place
      · split
        · exact ih place.dropLast
        · exact ih (place ++ [name])

theorem collapse_name {name : String} (hname : isStep name = true) (hup : name ≠ "..")
    (place : Place) : collapse place [name] = place ++ [name] := by
  rw [collapse, hname, Bool.not_true, if_neg Bool.false_ne_true, if_neg hup, collapse]

namespace Path

variable {cwd : Place} {p : Path} {name : String}

/-- A path as it is spelled while links are replaced: each step says something, and nothing is above
the root. -/
structure Spelled (p : Path) : Prop where
  slashes_le : p.slashes ≤ 1
  isStep : ∀ name ∈ p.steps, isStep name = true
  no_up : p.isAbsolute = true → ".." ∉ p.steps

theorem spot_child (cwd : Place) (p : Path) (name : String) :
    (p.child name).spot cwd = collapse (p.spot cwd) [name] := collapse_append _ p.steps [name]

theorem spot_name (hname : Disk.isStep name = true) (hup : name ≠ "..") (cwd : Place) (p : Path) :
    (p.child name).spot cwd = p.spot cwd ++ [name] := by
  rw [spot_child, collapse_name hname hup]

theorem spot_start (cwd : Place) (absolute : Bool) :
    (start absolute).spot cwd = if absolute then [] else cwd := by
  cases absolute <;> rfl

theorem spelled_start (absolute : Bool) : (start absolute).Spelled where
  slashes_le := by cases absolute <;> simp [start]
  isStep name hname := absurd hname List.not_mem_nil
  no_up _ := List.not_mem_nil

theorem Spelled.child (h : p.Spelled) (hname : Disk.isStep name = true)
    (hup : p.isAbsolute = true → name ≠ "..") : (p.child name).Spelled where
  slashes_le := h.slashes_le
  isStep other hother := by
    rcases List.mem_append.1 hother with hother | hother
    · exact h.isStep other hother
    · rw [List.mem_singleton.1 hother]
      exact hname
  no_up habs hmem := by
    rcases List.mem_append.1 hmem with hmem | hmem
    · exact h.no_up habs hmem
    · exact hup habs (List.mem_singleton.1 hmem).symm

/-- One step up, the last name is dropped, nothing is above the root, or double dots pile up. -/
theorem up_cases (p : Path) :
    (∃ front name, p.steps = front ++ [name] ∧ (name = ".." → p.isAbsolute = true)
        ∧ p.up = { p with steps := front })
      ∨ (p.isAbsolute = true ∧ p.steps = [] ∧ p.up = p)
      ∨ p.isAbsolute = false ∧ p.up = p.child ".." := by
  rcases List.eq_nil_or_concat p.steps with hnil | ⟨front, name, hsteps⟩
  · cases habs : p.isAbsolute with
    | true =>
        refine .inr (.inl ⟨rfl, hnil, ?_⟩)
        obtain ⟨slashes, steps⟩ := p
        cases hnil
        simp [up, habs]
    | false => exact .inr (.inr ⟨rfl, by simp [up, habs, hnil]⟩)
  · rw [List.concat_eq_append] at hsteps
    cases habs : p.isAbsolute with
    | true => exact .inl ⟨front, name, hsteps, fun _ => rfl, by simp [up, habs, hsteps]⟩
    | false =>
        by_cases hup : name = ".."
        · exact .inr (.inr ⟨rfl, by simp [up, habs, hsteps, hup]⟩)
        · exact .inl ⟨front, name, hsteps, fun h => absurd h hup, by simp [up, habs, hsteps, hup]⟩

theorem Spelled.up (h : p.Spelled) : p.up.Spelled := by
  rcases p.up_cases with ⟨front, name, hsteps, _, heq⟩ | ⟨_, _, heq⟩ | ⟨habs, heq⟩
  · have hmem : ∀ {other}, other ∈ front → other ∈ p.steps := fun hother =>
      hsteps ▸ List.mem_append_left _ hother
    rw [heq]
    exact ⟨h.slashes_le, fun other hother => h.isStep other (hmem hother),
      fun habs hup => h.no_up habs (hmem hup)⟩
  · rwa [heq]
  · rw [heq]
    refine h.child (by decide) fun habs' => ?_
    rw [habs] at habs'
    cases habs'

/-- One step up spells the place above. -/
theorem Spelled.spot_up (h : p.Spelled) (cwd : Place) :
    p.up.spot cwd = (p.spot cwd).dropLast := by
  rcases p.up_cases with ⟨front, name, hsteps, hname, heq⟩ | ⟨habs, hnil, heq⟩ | ⟨_, heq⟩
  · have hmem : name ∈ p.steps := hsteps ▸ List.mem_append_right _ (List.mem_singleton_self name)
    have hup : name ≠ ".." := by
      rintro rfl
      exact h.no_up (hname rfl) hmem
    rw [heq, show p = Path.child { p with steps := front } name by
        rw [Path.child, ← hsteps], spot_name (h.isStep name hmem) hup, List.dropLast_concat]
    rfl
  · rw [heq, spot, habs, if_pos rfl, hnil]
    rfl
  · rw [heq, spot_child]
    rfl

end Path

/-! ## Links that are being replaced -/

/-- The link at a place leads somewhere, with a number of links on the way behind it. -/
def LinkLeads (top : Node) (q : Place) (c : Nat) (place : Place) : Prop :=
  ∃ here name target, q = here ++ [name] ∧ top.at? q = some (.link target)
    ∧ Leads top (linkStart here target) (linkSteps target) c place

variable {top : Node} {cwd here place : Place} {c : Nat} {replaced after : Replaced}

theorem LinkLeads.unique {q : Place} {d : Nat} {place' : Place} (h : LinkLeads top q c place)
    (h' : LinkLeads top q d place') : c = d ∧ place = place' := by
  obtain ⟨here, name, target, rfl, hlink, hleads⟩ := h
  obtain ⟨here', name', target', hq, hlink', hleads'⟩ := h'
  obtain ⟨rfl, _⟩ := List.append_inj' hq rfl
  cases hlink.symm.trans hlink'
  exact hleads.unique hleads'

/-- A step by a name is one to an entry that is no link, or it is replaced by the steps of a link,
which lead somewhere themselves. -/
theorem Leads.of_name {name : String} {rest : List String}
    (h : Leads top here (name :: rest) c place) (hname : isStep name = true) (hup : name ≠ "..") :
    ((∀ target, top.at? (here ++ [name]) ≠ some (.link target))
        ∧ Leads top (here ++ [name]) rest c place)
      ∨ ∃ target a b mid, top.at? (here ++ [name]) = some (.link target) ∧ c = a + b + 1
        ∧ Leads top (linkStart here target) (linkSteps target) a mid
        ∧ Leads top mid rest b place := by
  have hdot : name ≠ "." := by
    rintro rfl
    exact absurd hname (by decide)
  cases h with
  | place hstep hrest =>
      obtain ⟨n, hn, hplace⟩ := exists_entry_of_step hstep hdot hup
      cases n with
      | link target => cases hplace
      | file bytes =>
          cases hplace
          exact .inl ⟨fun target hlink => (by cases hn.symm.trans hlink), hrest⟩
      | directory entries =>
          cases hplace
          exact .inl ⟨fun target hlink => (by cases hn.symm.trans hlink), hrest⟩
  | @link _ _ _ target _ c hstep hrest =>
      obtain ⟨n, hn, hlink⟩ := exists_entry_of_step hstep hdot hup
      cases n with
      | link text =>
          cases hlink
          obtain ⟨a, b, mid, rfl, hinner, hbehind⟩ := hrest.of_append
          exact .inr ⟨target, a, b, mid, hn, rfl, hinner, hbehind⟩
      | file bytes => cases hlink
      | directory entries => cases hlink

/-- What has been replaced leads where it says. -/
def Replaced.Cached (top : Node) (cwd : Place) (replaced : Replaced) : Prop :=
  ∀ q path, replaced.lookup q = some (some path) →
    path.Spelled ∧ ∃ c, LinkLeads top (q.spot cwd) c (path.spot cwd)

/-- Where `c` links are left to follow, a link that is being replaced has no fewer on its way. -/
def Replaced.Costly (top : Node) (cwd : Place) (c : Nat) (replaced : Replaced) : Prop :=
  ∀ q, replaced.lookup q = some none → ∀ d place, LinkLeads top (q.spot cwd) d place → c ≤ d

/-- No other link is being replaced. -/
def Replaced.Extends (after replaced : Replaced) : Prop :=
  ∀ q, after.lookup q = some none → replaced.lookup q = some none

theorem Replaced.Extends.refl (replaced : Replaced) : replaced.Extends replaced := fun _ h => h

theorem Replaced.Extends.trans {later : Replaced} (h : later.Extends after)
    (h' : after.Extends replaced) : later.Extends replaced := fun q hq => h' q (h q hq)

theorem Replaced.Costly.mono {d : Nat} (h : replaced.Costly top cwd c) (hd : d ≤ c) :
    replaced.Costly top cwd d :=
  fun q hq e place hleads => Nat.le_trans hd (h q hq e place hleads)

theorem Replaced.Costly.of_extends (h : replaced.Costly top cwd c)
    (hafter : after.Extends replaced) : after.Costly top cwd c :=
  fun q hq => h q (hafter q hq)

theorem lookup_cons_eq_some_iff {q q' : Path} {entry found : Option Path} :
    List.lookup q' ((q, entry) :: replaced) = some found ↔
      q' = q ∧ entry = found ∨ q' ≠ q ∧ replaced.lookup q' = some found := by
  by_cases hq : q' = q
  · subst hq
    simp
  · rw [List.lookup_cons, beq_eq_false_iff_ne.2 hq]
    simp [hq]

section Store

variable {q path : Path}

/-- A link begins to be replaced. -/
theorem Replaced.Cached.begin (h : replaced.Cached top cwd) :
    Replaced.Cached top cwd ((q, none) :: replaced) := by
  intro q' r hr
  rcases lookup_cons_eq_some_iff.1 hr with ⟨_, hentry⟩ | ⟨_, hr⟩
  · cases hentry
  · exact h q' r hr

/-- A link that leads somewhere has no fewer links on its way than it has. -/
theorem Replaced.Costly.begin (h : replaced.Costly top cwd c)
    (hlink : LinkLeads top (q.spot cwd) c place) :
    Replaced.Costly top cwd c ((q, none) :: replaced) := by
  intro q' hq' d r hleads
  rcases lookup_cons_eq_some_iff.1 hq' with ⟨rfl, _⟩ | ⟨_, hq'⟩
  · exact Nat.le_of_eq (hlink.unique hleads).1
  · exact h q' hq' d r hleads

/-- A link has been replaced. -/
theorem Replaced.Cached.store (h : after.Cached top cwd) (hpath : path.Spelled)
    (hlink : LinkLeads top (q.spot cwd) c (path.spot cwd)) :
    Replaced.Cached top cwd ((q, some path) :: after) := by
  intro q' r hr
  rcases lookup_cons_eq_some_iff.1 hr with ⟨rfl, hentry⟩ | ⟨_, hr⟩
  · cases hentry
    exact ⟨hpath, c, hlink⟩
  · exact h q' r hr

theorem Replaced.Extends.store (h : Replaced.Extends after ((q, none) :: replaced))
    (path : Path) : Replaced.Extends ((q, some path) :: after) replaced := by
  intro q' hq'
  rcases lookup_cons_eq_some_iff.1 hq' with ⟨_, hentry⟩ | ⟨hne, hq'⟩
  · cases hentry
  · rcases lookup_cons_eq_some_iff.1 (h q' hq') with ⟨heq, _⟩ | ⟨_, hbegun⟩
    · exact absurd heq hne
    · exact hbegun

end Store

/-! ## Replacing links -/

theorem filter_linkSteps (target : String) :
    (linkSteps target).filter isStep = (rawSteps target).filter isStep := by
  rw [linkSteps, List.filter_append, List.filter_filter]
  have hdot : (if target.toList.getLast? = some '/' then ["."] else []).filter isStep = [] := by
    split <;> rfl
  rw [hdot, List.append_nil]
  refine List.filter_congr fun name _ => ?_
  by_cases hname : name = "" <;> simp [isStep, hname]

/-- Steps that say nothing are of no account. -/
theorem Leads.filter (hsound : top.IsSound) {steps : List String}
    (h : Leads top here steps c place) : Leads top here (steps.filter isStep) c place := by
  induction steps generalizing here c with
  | nil => exact h
  | cons name rest ih =>
      by_cases hname : isStep name = true
      · rw [List.filter_cons_of_pos hname]
        rw [← List.singleton_append] at h
        obtain ⟨a, b, mid, rfl, hfirst, hrest⟩ := h.of_append
        exact Leads.append hfirst (ih hrest)
      · rw [List.filter_cons_of_neg hname]
        rcases h.isName hsound name List.mem_cons_self with rfl | rfl | hproper
        · exact ih h.of_dot
        · exact absurd rfl hname
        · exact absurd hproper.isStep hname

theorem linkAt?_eq_some_iff {p : Path} {target : String} :
    linkAt? top cwd p = some target ↔ top.at? (p.spot cwd) = some (.link target) := by
  rw [linkAt?]
  split
  · rename_i text hlink
    rw [hlink, Option.some.injEq, Option.some.injEq, Node.link.injEq]
  · rename_i hno
    constructor
    · intro h
      cases h
    · intro h
      exact absurd h (hno target)

section Step

variable {depth : Nat} {p path : Path} {name : String} {rest : List String}

theorem resolveSteps_skip (h : isStep name = false) :
    resolveSteps top cwd depth p replaced (name :: rest) =
      resolveSteps top cwd depth p replaced rest := by
  rw [resolveSteps, h]
  rfl

theorem resolveSteps_up :
    resolveSteps top cwd depth p replaced (".." :: rest) =
      resolveSteps top cwd depth p.up replaced rest := by
  rw [resolveSteps]
  rfl

variable (hname : isStep name = true) (hup : name ≠ "..")

include hname hup

theorem resolveSteps_place (h : linkAt? top cwd (p.child name) = none) :
    resolveSteps top cwd depth p replaced (name :: rest) =
      resolveSteps top cwd depth (p.child name) replaced rest := by
  rw [resolveSteps, hname, Bool.not_true, if_neg Bool.false_ne_true, if_neg hup]
  simp only [h]

variable {target : String} (hlink : linkAt? top cwd (p.child name) = some target)

include hlink

theorem resolveSteps_replaced (h : replaced.lookup (p.child name) = some (some path)) :
    resolveSteps top cwd depth p replaced (name :: rest) =
      resolveSteps top cwd depth path replaced rest := by
  rw [resolveSteps, hname, Bool.not_true, if_neg Bool.false_ne_true, if_neg hup]
  simp only [hlink, h]

theorem resolveSteps_new (h : replaced.lookup (p.child name) = none) {inner : Resolution}
    (hinner : resolveSteps top cwd depth (if linkIsAbsolute target then .start true else p)
      ((p.child name, none) :: replaced) (rawSteps target) = inner)
    (hcomplete : inner.isComplete = true) :
    resolveSteps top cwd (depth + 1) p replaced (name :: rest) =
      resolveSteps top cwd depth inner.path ((p.child name, some inner.path) :: inner.replaced)
        rest := by
  rw [resolveSteps, hname, Bool.not_true, if_neg Bool.false_ne_true, if_neg hup]
  simp only [hlink, h, hinner, hcomplete, if_true]

end Step

/-- Where the text of a link is replaced from is where its steps start. -/
theorem spot_linkStart (p : Path) (target : String) :
    (if linkIsAbsolute target then .start true else p : Path).spot cwd =
      linkStart (p.spot cwd) target := by
  rw [linkStart, apply_ite (Path.spot cwd), Path.spot_start, if_pos rfl]

theorem spelled_linkStart {p : Path} (hp : p.Spelled) (target : String) :
    (if linkIsAbsolute target then .start true else p : Path).Spelled := by
  split
  · exact Path.spelled_start true
  · exact hp

/-- Replacing has gone on to the end, with a path that spells a place. -/
structure Resolution.Ends (top : Node) (cwd : Place) (replaced : Replaced) (place : Place)
    (r : Resolution) : Prop where
  complete : r.isComplete = true
  spelled : r.path.Spelled
  spot_eq : r.path.spot cwd = place
  cached : r.replaced.Cached top cwd
  begun : r.replaced.Extends replaced

/-- Steps that lead somewhere with `c` links on the way lead there when links are replaced, with a
depth of as many. -/
def Resolves (top : Node) (cwd : Place) (c : Nat) : Prop :=
  ∀ {depth : Nat} {p : Path} {place : Place} {replaced : Replaced} {raw : List String},
    p.Spelled → Leads top (p.spot cwd) (raw.filter isStep) c place → replaced.Cached top cwd →
    replaced.Costly top cwd c → c ≤ depth →
    Resolution.Ends top cwd replaced place (resolveSteps top cwd depth p replaced raw)

/-- A link is replaced by where it leads, if what has fewer links on its way is. -/
theorem resolveSteps_link (hsound : top.IsSound) {a b depth : Nat} {mid : Place} {p : Path}
    {name target : String} {raw : List String} (ihc : ∀ d < a + b + 1, Resolves top cwd d)
    (hp : p.Spelled) (hname : isStep name = true) (hup : name ≠ "..")
    (hlink : top.at? (p.spot cwd ++ [name]) = some (.link target))
    (hinner : Leads top (linkStart (p.spot cwd) target) (linkSteps target) a mid)
    (hrest : Leads top mid (raw.filter isStep) b place) (hcached : replaced.Cached top cwd)
    (hcostly : replaced.Costly top cwd (a + b + 1)) (hdepth : a + b + 1 ≤ depth) :
    Resolution.Ends top cwd replaced place
      (resolveSteps top cwd depth p replaced (name :: raw)) := by
  have hspot : (p.child name).spot cwd = p.spot cwd ++ [name] := Path.spot_name hname hup cwd p
  have hleads : LinkLeads top ((p.child name).spot cwd) a mid :=
    ⟨p.spot cwd, name, target, hspot, hspot ▸ hlink, hinner⟩
  have hat : linkAt? top cwd (p.child name) = some target := by
    rw [linkAt?_eq_some_iff, hspot]
    exact hlink
  cases hlookup : replaced.lookup (p.child name) with
  | some known =>
      cases known with
      | some path =>
          obtain ⟨hpath, d, hr⟩ := hcached _ _ hlookup
          obtain ⟨_, rfl⟩ := hleads.unique hr
          rw [resolveSteps_replaced hname hup hat hlookup]
          exact ihc b (by omega) hpath hrest hcached (hcostly.mono (by omega)) (by omega)
      | none =>
          -- it would have more links on its way than there are
          have hle := hcostly _ hlookup a mid hleads
          omega
  | none =>
      obtain ⟨depth, rfl⟩ : ∃ d, depth = d + 1 := ⟨depth - 1, by omega⟩
      have hsteps := hinner.filter hsound
      rw [filter_linkSteps, ← spot_linkStart] at hsteps
      have hends := ihc a (by omega) (spelled_linkStart hp target) hsteps hcached.begin
        ((hcostly.mono (by omega)).begin hleads) (show a ≤ depth by omega)
      generalize hresolve : resolveSteps top cwd depth _ _ (rawSteps target) = inner at hends
      have hextends := hends.begun.store inner.path
      obtain rfl := hends.spot_eq
      rw [resolveSteps_new hname hup hat hlookup hresolve hends.complete]
      have hlast := ihc b (by omega) hends.spelled hrest (hends.cached.store hends.spelled hleads)
        ((hcostly.mono (by omega)).of_extends hextends) (show b ≤ depth by omega)
      exact { hlast with begun := hlast.begun.trans hextends }

/-- **Replacing links ends where following them does.** -/
theorem resolveSteps_of_leads (hsound : top.IsSound) (c : Nat) : Resolves top cwd c := by
  induction c using Nat.strongRecOn with
  | ind c ihc =>
  intro depth p place replaced raw hp h hcached hcostly hdepth
  induction raw generalizing p with
  | nil =>
      cases h
      rw [resolveSteps]
      exact ⟨rfl, hp, rfl, hcached, .refl replaced⟩
  | cons name raw ih =>
      by_cases hname : isStep name = true
      · rw [List.filter_cons_of_pos hname] at h
        by_cases hup : name = ".."
        · subst hup
          rw [resolveSteps_up]
          refine ih hp.up ?_
          rw [hp.spot_up]
          exact h.of_up
        · have hspot : (p.child name).spot cwd = p.spot cwd ++ [name] :=
            Path.spot_name hname hup cwd p
          rcases h.of_name hname hup with
            ⟨hno, hrest⟩ | ⟨target, a, b, mid, hlink, rfl, hinner, hrest⟩
          · have hnone : linkAt? top cwd (p.child name) = none := by
              rw [Option.eq_none_iff_forall_ne_some]
              intro target hlink
              rw [linkAt?_eq_some_iff, hspot] at hlink
              exact hno target hlink
            rw [resolveSteps_place hname hup hnone]
            exact ih (hp.child hname fun _ => hup) (hspot ▸ hrest)
          · exact resolveSteps_link hsound ihc hp hname hup hlink hinner hrest hcached hcostly
              hdepth
      · rw [List.filter_cons_of_neg hname] at h
        rw [resolveSteps_skip (Bool.not_eq_true _ ▸ hname)]
        exact ih hp h

/-! ## Canonical paths -/

/-- The path from the root to a place. -/
def pathTo (place : Place) : Path := ⟨1, place⟩

theorem walk_of_place (hsound : top.IsSound) {entries : List (String × Node)}
    (hplace : top.at? place = some (.directory entries)) (links : Nat) (more : List String) :
    walk top links [] (place ++ more) = walk top links place more := by
  have hwalk := walk_place hsound (show top.at? ([] ++ place) = _ from hplace) links more
  rwa [List.nil_append] at hwalk

/-- **A path that leads to a directory has the path to it as its canonical form.** -/
theorem canonicalAt_of_locate (hsound : top.IsSound) {cwd : Place} {p : Path}
    {entries : List (String × Node)} (hsteps : ∀ name ∈ p.steps, isStep name = true)
    (hlocate : locate top cwd p = .ok place)
    (hplace : top.at? place = some (.directory entries)) :
    canonicalAt top cwd p = .ok (pathTo place) := by
  rw [locate] at hlocate
  split at hlocate
  · cases hlocate
  · obtain ⟨c, hc, hleads⟩ := (walk_eq_ok_iff linkLimit).1 hlocate
    rw [← List.filter_eq_self.2 hsteps] at hleads
    rw [← Path.spot_start] at hleads
    have hends : Resolution.Ends top cwd [] place
        (resolveSteps top cwd (depthLimit top cwd) (.start p.isAbsolute) [] p.steps) :=
      resolveSteps_of_leads hsound c (Path.spelled_start p.isAbsolute) hleads
        (fun q r hr => (by cases hr)) (fun q hq => (by cases hq))
        (Nat.le_trans hc (Nat.le_add_right linkLimit _))
    -- the path to a place has no link that could run in a circle
    have hstat : statAt top cwd (pathTo place) ≠ .error .tooManyLinks := by
      have hwalk := walk_of_place hsound hplace linkLimit []
      rw [List.append_nil, walk] at hwalk
      rw [statAt, locate, show (pathTo place).isAbsolute = true from rfl, if_pos rfl]
      split
      · intro h
        cases h
      · rw [show (pathTo place).steps = place from rfl, hwalk]
        intro h
        cases h
    have hpath : (⟨max 1 (resolve top cwd p).slashes, (resolve top cwd p).spot cwd⟩ : Path) =
        pathTo place := by
      rw [resolve, hends.spot_eq, Nat.max_eq_left hends.spelled.slashes_le, pathTo]
    rw [canonicalAt, hpath]
    cases hanswer : statAt top cwd (pathTo place) with
    | ok u => rfl
    | error code =>
        dsimp only
        rw [if_neg]
        rintro rfl
        exact hstat hanswer

end PackageGate.Disk
