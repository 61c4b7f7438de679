import PackageGate.Disk.Walk

/-!
# Where a path leads

A walk that arrives follows a certain number of links: `Leads top here steps c place` says that the
steps lead from one place to the other with `c` links on the way. How many may be followed is of no
account beyond that (`walk_eq_ok_iff`), and a walk along steps in front of others comes to the
others with the links that are left (`Leads.walk_append`).

In a tree with proper names (`Node.IsSound`), a place is a path without links: walking along it
follows none, and each of its steps is what it says (`walk_place`).
-/

namespace PackageGate.Disk

/-! ## Walks that arrive -/

/-- Where the steps in the text of a link start. -/
def linkStart (here : Place) (target : String) : Place :=
  if linkIsAbsolute target then [] else here

/-- Steps lead from a place to another, with a number of links on the way. -/
inductive Leads (top : Node) : Place → List String → Nat → Place → Prop
  | nil (here : Place) : Leads top here [] 0 here
  | place {here there place : Place} {name : String} {rest : List String} {c : Nat} :
      step top here name = .ok (.place there) → Leads top there rest c place →
      Leads top here (name :: rest) c place
  | link {here place : Place} {name target : String} {rest : List String} {c : Nat} :
      step top here name = .ok (.link target) →
      Leads top (linkStart here target) (linkSteps target ++ rest) c place →
      Leads top here (name :: rest) (c + 1) place

variable {top : Node} {here mid place : Place} {steps more : List String} {c d : Nat}

theorem walk_cons_place {links : Nat} {there : Place} {name : String} {rest : List String}
    (h : step top here name = .ok (.place there)) :
    walk top links here (name :: rest) = walk top links there rest := by
  rw [walk, h]

theorem walk_cons_link {links : Nat} {name target : String} {rest : List String}
    (h : step top here name = .ok (.link target)) :
    walk top (links + 1) here (name :: rest) =
      walk top links (linkStart here target) (linkSteps target ++ rest) := by
  rw [walk, h]
  rfl

/-- **Steps behind others are walked along from where the others lead**, with the links that are
left. -/
theorem Leads.walk_append (h : Leads top here steps c mid) (links : Nat) (more : List String) :
    walk top (links + c) here (steps ++ more) = walk top links mid more := by
  induction h with
  | nil here => rfl
  | place hstep _ ih => rw [List.cons_append, walk_cons_place hstep, ih]
  | link hstep _ ih =>
      rw [List.cons_append, ← Nat.add_assoc, walk_cons_link hstep, ← List.append_assoc, ih]

theorem Leads.walk_eq (h : Leads top here steps c place) (links : Nat) :
    walk top (links + c) here steps = .ok place := by
  have := h.walk_append links []
  rwa [List.append_nil, walk] at this

/-- **A walk arrives exactly if the steps lead somewhere with no more links than may be
followed.** -/
theorem walk_eq_ok_iff (links : Nat) :
    walk top links here steps = .ok place ↔ ∃ c ≤ links, Leads top here steps c place := by
  constructor
  · intro h
    induction links, here, steps using walk.induct top with
    | case1 links here =>
        rw [walk] at h
        cases h
        exact ⟨0, Nat.zero_le _, .nil _⟩
    | case2 links here name rest code hstep =>
        rw [walk, hstep] at h
        cases h
    | case3 links here name rest there hstep ih =>
        rw [walk_cons_place hstep] at h
        obtain ⟨c, hc, hleads⟩ := ih h
        exact ⟨c, hc, .place hstep hleads⟩
    | case4 here name rest target hstep =>
        rw [walk, hstep] at h
        cases h
    | case5 here name rest target hstep links ih =>
        rw [walk_cons_link hstep] at h
        obtain ⟨c, hc, hleads⟩ := ih h
        exact ⟨c + 1, Nat.succ_le_succ hc, .link hstep hleads⟩
  · rintro ⟨c, hc, hleads⟩
    have := hleads.walk_eq (links - c)
    rwa [Nat.sub_add_cancel hc] at this

/-- A walk that does not end for the number of links ends the same way if more may be followed. -/
theorem walk_more {links : Nat} (extra : Nat)
    (h : walk top links here steps ≠ .error .tooManyLinks) :
    walk top (links + extra) here steps = walk top links here steps := by
  induction links, here, steps using walk.induct top with
  | case1 links here => rw [walk, walk]
  | case2 links here name rest code hstep => rw [walk, walk, hstep]
  | case3 links here name rest there hstep ih =>
      rw [walk_cons_place hstep] at h
      rw [walk_cons_place hstep, walk_cons_place hstep, ih h]
  | case4 here name rest target hstep =>
      rw [walk, hstep] at h
      exact absurd rfl h
  | case5 here name rest target hstep links ih =>
      rw [walk_cons_link hstep] at h
      rw [Nat.succ_add, walk_cons_link hstep, walk_cons_link hstep]
      exact ih h

/-! ## Steps in a row -/

theorem Leads.append (h : Leads top here steps c mid) (h' : Leads top mid more d place) :
    Leads top here (steps ++ more) (c + d) place := by
  induction h with
  | nil here => rwa [Nat.zero_add]
  | place hstep _ ih => exact .place hstep (ih h')
  | link hstep _ ih =>
      rw [Nat.add_right_comm]
      have hrest := ih h'
      rw [List.append_assoc] at hrest
      exact .link hstep hrest

/-- Steps in a row lead somewhere in between. -/
theorem Leads.of_append (h : Leads top here (steps ++ more) c place) :
    ∃ a b mid, c = a + b ∧ Leads top here steps a mid ∧ Leads top mid more b place := by
  generalize hall : steps ++ more = all at h
  induction h generalizing steps with
  | nil here =>
      obtain ⟨rfl, rfl⟩ := List.append_eq_nil_iff.1 hall
      exact ⟨0, 0, here, rfl, .nil here, .nil here⟩
  | @place here there place name rest c hstep hrest ih =>
      cases steps with
      | nil =>
          rw [List.nil_append] at hall
          exact ⟨0, c, here, (Nat.zero_add c).symm, .nil here, hall ▸ .place hstep hrest⟩
      | cons first steps =>
          obtain ⟨rfl, rfl⟩ := List.cons.inj hall
          obtain ⟨a, b, mid, hab, hsteps, hmore⟩ := ih rfl
          exact ⟨a, b, mid, hab, .place hstep hsteps, hmore⟩
  | @link here place name target rest c hstep hrest ih =>
      cases steps with
      | nil =>
          rw [List.nil_append] at hall
          exact ⟨0, c + 1, here, (Nat.zero_add _).symm, .nil here, hall ▸ .link hstep hrest⟩
      | cons first steps =>
          obtain ⟨rfl, rfl⟩ := List.cons.inj hall
          obtain ⟨a, b, mid, rfl, hsteps, hmore⟩ := ih (List.append_assoc _ _ _)
          exact ⟨a + 1, b, mid, Nat.add_right_comm _ _ _, .link hstep hsteps, hmore⟩

/-- Steps lead to one place only, and always with the same number of links. -/
theorem Leads.unique {place' : Place} (h : Leads top here steps c place)
    (h' : Leads top here steps d place') : c = d ∧ place = place' := by
  induction h generalizing d with
  | nil here =>
      cases h'
      exact ⟨rfl, rfl⟩
  | place hstep _ ih =>
      cases h' with
      | place hstep' hrest =>
          cases hstep.symm.trans hstep'
          exact ih hrest
      | link hstep' _ => cases hstep.symm.trans hstep'
  | link hstep _ ih =>
      cases h' with
      | place hstep' _ => cases hstep.symm.trans hstep'
      | link hstep' hrest =>
          cases hstep.symm.trans hstep'
          obtain ⟨rfl, rfl⟩ := ih hrest
          exact ⟨rfl, rfl⟩

/-- A dot leads to where it is taken from. -/
theorem Leads.of_dot (h : Leads top here ("." :: more) c place) : Leads top here more c place := by
  have hdot : ∀ {s : Step}, step top here "." = .ok s → s = .place here := by
    intro s hstep
    rw [step] at hstep
    split at hstep
    · cases hstep
    · exact (Except.ok.inj hstep).symm
  cases h with
  | place hstep hrest =>
      cases hdot hstep
      exact hrest
  | link hstep _ => cases hdot hstep

/-- Double dots lead upwards. -/
theorem Leads.of_up (h : Leads top here (".." :: more) c place) :
    Leads top here.dropLast more c place := by
  have hup : ∀ {s : Step}, step top here ".." = .ok s → s = .place here.dropLast := by
    intro s hstep
    rw [step] at hstep
    split at hstep
    · cases hstep
    · exact (Except.ok.inj hstep).symm
  cases h with
  | place hstep hrest =>
      cases hup hstep
      exact hrest
  | link hstep _ => cases hup hstep

/-! ## Places -/

/-- A text that an entry of a directory may have as its name. -/
structure IsName (name : String) : Prop where
  isStep : isStep name = true
  not_up : name ≠ ".."
  noNull : '\x00' ∉ name.toList
  size_le : Text.Utf8.size name.toList ≤ nameLimit

/-- All entries of a tree have proper names. -/
def Node.IsSound (top : Node) : Prop :=
  ∀ place n, top.at? place = some n → ∀ name ∈ place, IsName name

theorem Node.isSound_file (bytes : List UInt8) : (Node.file bytes).IsSound := by
  intro place n h
  cases place with
  | nil => exact fun name hname => absurd hname List.not_mem_nil
  | cons name place => cases h

theorem Node.isSound_link (target : String) : (Node.link target).IsSound := by
  intro place n h
  cases place with
  | nil => exact fun name hname => absurd hname List.not_mem_nil
  | cons name place => cases h

/-- A directory has proper names if its entries have, and have them themselves. -/
theorem Node.isSound_directory {entries : List (String × Node)}
    (h : ∀ e ∈ entries, IsName e.1 ∧ e.2.IsSound) : (Node.directory entries).IsSound := by
  intro place n hplace
  cases place with
  | nil => exact fun name hname => absurd hname List.not_mem_nil
  | cons first place =>
      obtain ⟨m, hm, hrest⟩ := Option.bind_eq_some_iff.1 hplace
      obtain ⟨before, behind, hentries, _⟩ := List.lookup_eq_some_iff.1 hm
      obtain ⟨hfirst, hsound⟩ := h (first, m) (by
        rw [show entries = _ from hentries]
        exact List.mem_append_right _ List.mem_cons_self)
      exact List.forall_mem_cons.2 ⟨hfirst, hsound place n hrest⟩

/-- What a step to an entry at a place comes to. -/
def entryStep (p : Place) : Node → Step
  | .link target => .link target
  | _ => .place p

/-- A step to an entry that is there. -/
theorem step_entry {entries : List (String × Node)} {name : String} {n : Node}
    (hhere : top.at? here = some (.directory entries)) (hname : IsName name)
    (hentry : top.at? (here ++ [name]) = some n) :
    step top here name = .ok (entryStep (here ++ [name]) n) := by
  have hdot : name ≠ "." := by
    rintro rfl
    exact absurd hname.isStep (by decide)
  have hdirectory : (!((top.at? here).map Node.isDirectory).getD false) = false := by
    rw [hhere]
    rfl
  rw [step, hdirectory, if_neg Bool.false_ne_true, if_neg hdot, if_neg hname.not_up,
    if_neg (Nat.not_lt.2 hname.size_le), hentry]
  cases n <;> rfl

/-- What a step by a name comes to is an entry of the place. -/
theorem exists_entry_of_step {name : String} {s : Step} (h : step top here name = .ok s)
    (hdot : name ≠ ".") (hup : name ≠ "..") :
    ∃ n, top.at? (here ++ [name]) = some n ∧ s = entryStep (here ++ [name]) n := by
  simp only [step, if_neg hdot, if_neg hup] at h
  split at h
  · cases h
  · split at h
    · cases h
    · cases hentry : top.at? (here ++ [name]) with
      | none =>
          rw [hentry] at h
          cases h
      | some n =>
          rw [hentry] at h
          refine ⟨n, rfl, ?_⟩
          cases n <;> exact (Except.ok.inj h).symm

/-- **A place is walked along without following a link.** -/
theorem walk_place (hsound : top.IsSound) {q : Place} {entries : List (String × Node)}
    (hq : top.at? (here ++ q) = some (.directory entries)) (links : Nat) (more : List String) :
    walk top links here (q ++ more) = walk top links (here ++ q) more := by
  induction q generalizing here with
  | nil => rw [List.append_nil, List.nil_append]
  | cons name q ih =>
      have hname : IsName name :=
        hsound _ _ hq name (List.mem_append_right _ List.mem_cons_self)
      -- whatever has something below it is a directory
      have hbelow : ∀ p r : Place, p ++ r = here ++ name :: q →
          ∃ es, top.at? p = some (.directory es) := by
        intro p r hpr
        rw [← hpr, Node.at?_append] at hq
        cases hp : top.at? p with
        | none =>
            rw [hp] at hq
            cases hq
        | some n =>
            rw [hp] at hq
            cases r with
            | nil => exact ⟨entries, hq⟩
            | cons first r =>
                have hdirectory := Node.isDirectory_of_at?_cons (show n.at? _ = _ from hq)
                cases n with
                | directory es => exact ⟨es, rfl⟩
                | file bytes => cases hdirectory
                | link target => cases hdirectory
      obtain ⟨es, hhere⟩ := hbelow here (name :: q) rfl
      have happend : here ++ [name] ++ q = here ++ name :: q := by simp
      obtain ⟨fs, hthere⟩ := hbelow (here ++ [name]) q happend
      rw [List.cons_append, walk_cons_place (step_entry hhere hname hthere), ih, happend]
      rwa [happend]

/-- The steps that lead somewhere are dots or names. -/
theorem Leads.isName (hsound : top.IsSound) (h : Leads top here steps c place) :
    ∀ name ∈ steps, name = "." ∨ name = ".." ∨ IsName name := by
  have hone : ∀ {here : Place} {name : String} {s : Step}, step top here name = .ok s →
      name = "." ∨ name = ".." ∨ IsName name := by
    intro here name s hstep
    by_cases hdot : name = "."
    · exact .inl hdot
    · by_cases hup : name = ".."
      · exact .inr (.inl hup)
      · obtain ⟨n, hn, _⟩ := exists_entry_of_step hstep hdot hup
        exact .inr (.inr (hsound _ n hn name (by simp)))
  induction h with
  | nil here => exact fun name hname => absurd hname List.not_mem_nil
  | place hstep _ ih => exact List.forall_mem_cons.2 ⟨hone hstep, ih⟩
  | link hstep _ ih =>
      exact List.forall_mem_cons.2
        ⟨hone hstep, fun name hname => ih name (List.mem_append_right _ hname)⟩

end PackageGate.Disk
