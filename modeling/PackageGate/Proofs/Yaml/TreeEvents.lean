import PackageGate.Proofs.Outcome
import PackageGate.Proofs.Yaml.TreeTokens

/-!
# The events of a written tree

The tokens of a tree have the structure `Tree.events`, up to the places of the events
(`events_of_kinds`). Each step of the grammar gives one event. There is a lemma for each expectation
that can come up, and `gives_tree` puts them together by the structure of the tree.
-/

namespace PackageGate.Yaml

/-- An event whose place is forgotten. -/
def Event.bare : Event → Event
  | .documentStart _ => .documentStart default
  | .alias name _ => .alias name default
  | .scalar head text isOpen => .scalar { head with start := default } text isOpen
  | .sequenceStart head => .sequenceStart { head with start := default }
  | .mappingStart head => .mappingStart { head with start := default }
  | e => e

/-- Whether an event has a place. -/
def Event.hasPlace : Event → Bool
  | .documentEnd | .streamEnd | .sequenceEnd | .mappingEnd => false
  | _ => true

theorem Event.eq_of_bare {e e' : Event} (h : e.bare = e') (he' : e'.hasPlace = false) : e = e' := by
  subst h
  cases e <;> first | rfl | cases he'

/-- A node without anchor and tag. -/
def plainHead : NodeHead := ⟨none, none, default⟩

/-- The structure of a tree. -/
def Tree.events : Tree → List Event
  | .text s => [.scalar plainHead s false]
  | .list items => .sequenceStart plainHead :: (items.map events).flatten ++ [.sequenceEnd]
  | .mapping entries =>
    .mappingStart plainHead ::
      (entries.map fun e => .scalar plainHead e.1 true :: e.2.events).flatten ++ [.mappingEnd]
decreasing_by
  · decreasing_tactic
  · exact Tree.sizeOf_entry_lt ‹_›

/-- Whether a token begins a node without anchor and tag. -/
def TokenKind.startsNode : TokenKind → Bool
  | .scalar _ _ | .flowSequenceStart | .blockSequenceStart | .blockMappingStart => true
  | _ => false

namespace Outline

/-- Something is expected, and tokens of certain kinds are ahead. -/
structure Awaits (o : Outline) (expected : List Expectation) (kinds : List TokenKind) : Prop where
  expected : o.expected = expected
  kinds : o.ahead.map (·.kind) = kinds

/-- From a state on certain events follow, up to their places, and no mistake. -/
def Gives (o : Outline) (es : List Event) : Prop :=
  ∀ fuel, es.length ≤ fuel → ∃ found, run fuel o = (found, none) ∧ found.map Event.bare = es

/-- Certain events follow, the first of which is that of the node ahead. -/
def NodeGives (o : Outline) (position : Position) (es : List Event) : Prop :=
  ∃ event o' later, o.node position = .ok (event, o') ∧ o'.Gives later
    ∧ es = event.bare :: later

variable {o o' : Outline} {e : Expectation} {event : Event} {expected : List Expectation}
  {kind : TokenKind} {kinds : List TokenKind} {es : List Event} {since : Mark}
  {position : Position}

/-! ## Steps -/

theorem gives_nil (h : o.expected = []) : o.Gives [] := by
  intro fuel _
  refine ⟨[], ?_, rfl⟩
  cases fuel with
  | zero => rfl
  | succ fuel => rw [run, h]

theorem gives_step (event : Event) (h : o.Awaits (e :: expected) kinds)
    (hstep : step { o with expected } e = .ok (event, o')) (hnext : o'.Gives es) :
    o.Gives (event.bare :: es) := by
  intro fuel hfuel
  obtain ⟨fuel, rfl⟩ : ∃ f, fuel = f + 1 := ⟨fuel - 1, by rw [List.length_cons] at hfuel; omega⟩
  obtain ⟨found, hrun, hfound⟩ := hnext fuel (Nat.le_of_succ_le_succ hfuel)
  refine ⟨event :: found, ?_, by rw [List.map_cons, hfound]⟩
  rw [run, h.expected]
  dsimp only
  rw [hstep]
  dsimp only
  rw [hrun]

/-- A step that reads the node ahead. -/
theorem gives_node (h : o.Awaits (e :: expected) kinds)
    (hstep : step { o with expected } e = o'.node position) (hnode : o'.NodeGives position es) :
    o.Gives es := by
  obtain ⟨event, u, later, hu, hlater, rfl⟩ := hnode
  exact gives_step event h (hstep.trans hu) hlater

theorem Awaits.exists_token (h : o.Awaits expected (kind :: kinds)) :
    ∃ t rest, o.ahead = t :: rest ∧ t.kind = kind ∧ rest.map (·.kind) = kinds :=
  let ⟨t, rest, hahead, hkind, hrest⟩ := List.map_eq_cons_iff.1 h.kinds
  ⟨t, rest, hahead, hkind, hrest⟩

theorem Awaits.pop (h : o.Awaits (e :: expected) kinds) :
    Awaits { o with expected } expected kinds := ⟨rfl, h.kinds⟩

theorem Awaits.expect (h : o.Awaits expected kinds) (e : Expectation) :
    (o.expect e).Awaits (e :: expected) kinds := ⟨congrArg (e :: ·) h.expected, h.kinds⟩

theorem Awaits.behind (h : o.Awaits expected (kind :: kinds)) : o.drop.Awaits expected kinds := by
  obtain ⟨t, rest, hahead, -, hrest⟩ := h.exists_token
  refine ⟨h.expected, ?_⟩
  rw [← hrest, drop, hahead]
  rfl

theorem Awaits.peek (h : o.Awaits expected (kind :: kinds)) :
    ∃ t, o.peek = .ok t ∧ t.kind = kind := by
  obtain ⟨t, rest, hahead, hkind, -⟩ := h.exists_token
  exact ⟨t, by rw [Outline.peek, hahead], hkind⟩

/-! ## Inside collections -/

theorem gives_entry (h : o.Awaits (.blockSequence since :: expected) (.blockEntry :: kind :: kinds))
    (hkind : kind.startsNode = true)
    (hnode : ∀ p : Outline, p.Awaits (.blockSequence since :: expected) (kind :: kinds) →
      p.NodeGives .block es) : o.Gives es := by
  obtain ⟨t, ht, htkind⟩ := h.pop.peek
  have hnext := h.pop.behind.expect (.blockSequence since)
  obtain ⟨u, hu, hukind⟩ := hnext.peek
  refine gives_node h ?_ (hnode _ hnext)
  rw [step, ht, bind_ok, htkind]
  dsimp only
  rw [hu, bind_ok, hukind]
  cases kind <;> first | rfl | cases hkind

theorem gives_key {key : String}
    (h : o.Awaits (.blockKey since :: expected) (.key :: .scalar key true :: kinds))
    (hnext : ∀ p : Outline, p.Awaits (.blockValue since :: expected) kinds → p.Gives es) :
    o.Gives (.scalar plainHead key true :: es) := by
  obtain ⟨t, ht, htkind⟩ := h.pop.peek
  have hkey := h.pop.behind.expect (.blockValue since)
  obtain ⟨u, hu, hukind⟩ := hkey.peek
  refine gives_step (.scalar ⟨none, none, u.start⟩ key true) h ?_ (hnext _ hkey.behind)
  rw [step, ht, bind_ok, htkind]
  dsimp only
  rw [hu, bind_ok, hukind]
  simp [node, nodeMarks, tagName, hu, hukind, bind_ok]

theorem gives_value (h : o.Awaits (.blockValue since :: expected) (.value :: kind :: kinds))
    (hkind : kind.startsNode = true)
    (hnode : ∀ p : Outline, p.Awaits (.blockKey since :: expected) (kind :: kinds) →
      p.NodeGives .underKey es) : o.Gives es := by
  obtain ⟨t, ht, htkind⟩ := h.pop.peek
  have hnext := h.pop.behind.expect (.blockKey since)
  obtain ⟨u, hu, hukind⟩ := hnext.peek
  refine gives_node h ?_ (hnode _ hnext)
  rw [step, ht, bind_ok, htkind]
  dsimp only
  rw [hu, bind_ok, hukind]
  cases kind <;> first | rfl | cases hkind

/-- What ends a collection. -/
inductive Ends : Expectation → TokenKind → Event → Prop where
  | blockSequence (since : Mark) : Ends (.blockSequence since) .blockEnd .sequenceEnd
  | blockMapping (since : Mark) : Ends (.blockKey since) .blockEnd .mappingEnd
  | flowSequence (since : Mark) : Ends (.flowSequence since true) .flowSequenceEnd .sequenceEnd

theorem gives_end (hends : Ends e kind event) (h : o.Awaits (e :: expected) (kind :: kinds))
    (hnext : ∀ p : Outline, p.Awaits expected kinds → p.Gives es) :
    o.Gives (event :: es) := by
  obtain ⟨t, ht, htkind⟩ := h.pop.peek
  have hlater := hnext _ h.pop.behind
  cases hends with
  | blockSequence since =>
      refine gives_step .sequenceEnd h ?_ hlater
      rw [step, ht, bind_ok, htkind]
  | blockMapping since =>
      refine gives_step .mappingEnd h ?_ hlater
      rw [step, ht, bind_ok, htkind]
  | flowSequence since =>
      refine gives_step .sequenceEnd h ?_ hlater
      rw [step, ht, bind_ok, htkind]

/-! ## Trees -/

/-- A tree gives its events wherever a node may stand in a block. -/
def ReadsNode (t : Tree) : Prop :=
  ∀ (o : Outline) (position : Position) (expected : List Expectation) (kinds : List TokenKind)
    (es : List Event), position ≠ .flow → o.Awaits expected (t.kinds ++ kinds) →
      (∀ p : Outline, p.Awaits expected kinds → p.Gives es) →
        o.NodeGives position (t.events ++ es)

theorem exists_kinds {t : Tree} (ht : t.Sound) :
    ∃ kind kinds, t.kinds = kind :: kinds ∧ kind.startsNode = true := by
  cases ht with
  | text s =>
      rw [Tree.kinds]
      exact ⟨_, _, rfl, rfl⟩
  | @list items _ =>
      cases items with
      | nil =>
          rw [Tree.kinds]
          exact ⟨_, _, rfl, rfl⟩
      | cons item items =>
          rw [Tree.kinds_cons]
          exact ⟨_, _, rfl, rfl⟩
  | mapping _ _ _ _ =>
      rw [Tree.kinds]
      exact ⟨_, _, rfl, rfl⟩

theorem gives_items {items : List Tree} (hitems : ∀ t ∈ items, t.Sound ∧ ReadsNode t)
    (hnext : ∀ p : Outline, p.Awaits expected kinds → p.Gives es)
    (h : o.Awaits (.blockSequence since :: expected)
      ((items.map fun t => .blockEntry :: t.kinds).flatten ++ .blockEnd :: kinds)) :
    o.Gives ((items.map Tree.events).flatten ++ .sequenceEnd :: es) := by
  induction items generalizing o with
  | nil => exact gives_end (.blockSequence since) h hnext
  | cons t items ih =>
      obtain ⟨ht, hread⟩ := hitems t List.mem_cons_self
      obtain ⟨kind, rest, hcons, hstarts⟩ := exists_kinds ht
      have hitems' := fun u hu => hitems u (List.mem_cons_of_mem t hu)
      rw [List.map_cons, List.flatten_cons, List.append_assoc] at h ⊢
      rw [List.cons_append, hcons, List.cons_append] at h
      refine gives_entry h hstarts fun p hp => ?_
      rw [← List.cons_append, ← hcons] at hp
      exact hread p .block _ _ _ (by decide) hp fun q hq => ih hitems' hq

theorem gives_entries {entries : List (String × Tree)}
    (hentries : ∀ e ∈ entries, e.2.Sound ∧ ReadsNode e.2)
    (hnext : ∀ p : Outline, p.Awaits expected kinds → p.Gives es)
    (h : o.Awaits (.blockKey since :: expected)
      ((entries.map fun e => .key :: .scalar e.1 true :: .value :: e.2.kinds).flatten
        ++ .blockEnd :: kinds)) :
    o.Gives ((entries.map fun e => Event.scalar plainHead e.1 true :: e.2.events).flatten
      ++ .mappingEnd :: es) := by
  induction entries generalizing o with
  | nil => exact gives_end (.blockMapping since) h hnext
  | cons e entries ih =>
      obtain ⟨ht, hread⟩ := hentries e List.mem_cons_self
      obtain ⟨kind, rest, hcons, hstarts⟩ := exists_kinds ht
      have hentries' := fun f hf => hentries f (List.mem_cons_of_mem e hf)
      rw [List.map_cons, List.flatten_cons, List.append_assoc] at h ⊢
      simp only [List.cons_append] at h ⊢
      -- the key is an event of its own, and its value is the node behind the colon
      refine gives_key h fun p hp => ?_
      rw [hcons, List.cons_append] at hp
      refine gives_value hp hstarts fun q hq => ?_
      rw [← List.cons_append, ← hcons] at hq
      exact hread q .underKey _ _ _ (by decide) hq fun r hr => ih hentries' hr

theorem node_scalar {text : String} {isPlain : Bool}
    (h : o.Awaits expected (.scalar text isPlain :: kinds)) (position : Position) :
    ∃ place, o.node position = .ok (.scalar ⟨none, none, place⟩ text isPlain, o.drop) := by
  obtain ⟨t, ht, hkind⟩ := h.peek
  refine ⟨t.start, ?_⟩
  simp [node, nodeMarks, tagName, ht, hkind, bind_ok]

theorem node_brackets (h : o.Awaits expected (.flowSequenceStart :: kinds)) (position : Position) :
    ∃ place, o.node position =
      .ok (.sequenceStart ⟨none, none, place⟩, o.drop.expect (.flowSequence place true)) := by
  obtain ⟨t, ht, hkind⟩ := h.peek
  refine ⟨t.start, ?_⟩
  simp [node, nodeMarks, tagName, ht, hkind, bind_ok]

theorem node_list (h : o.Awaits expected (.blockSequenceStart :: kinds))
    (hposition : position ≠ .flow) : ∃ place, o.node position =
      .ok (.sequenceStart ⟨none, none, place⟩, o.drop.expect (.blockSequence place)) := by
  obtain ⟨t, ht, hkind⟩ := h.peek
  refine ⟨t.start, ?_⟩
  cases position with
  | flow => exact absurd rfl hposition
  | block => simp [node, nodeMarks, tagName, ht, hkind, bind_ok]
  | underKey => simp [node, nodeMarks, tagName, ht, hkind, bind_ok]

theorem node_mapping (h : o.Awaits expected (.blockMappingStart :: kinds))
    (hposition : position ≠ .flow) : ∃ place, o.node position =
      .ok (.mappingStart ⟨none, none, place⟩, o.drop.expect (.blockKey place)) := by
  obtain ⟨t, ht, hkind⟩ := h.peek
  refine ⟨t.start, ?_⟩
  cases position with
  | flow => exact absurd rfl hposition
  | block => simp [node, nodeMarks, tagName, ht, hkind, bind_ok]
  | underKey => simp [node, nodeMarks, tagName, ht, hkind, bind_ok]

/-- **A tree gives its events.** -/
theorem readsNode {t : Tree} (ht : t.Sound) : ReadsNode t := by
  induction ht with
  | text s =>
      intro o position expected kinds es _ h hnext
      rw [Tree.kinds] at h
      rw [Tree.events]
      obtain ⟨place, hnode⟩ := node_scalar h position
      exact ⟨_, _, es, hnode, hnext _ h.behind, rfl⟩
  | @list items hitems ih =>
      intro o position expected kinds es hposition h hnext
      rw [Tree.events, List.append_assoc]
      cases items with
      | nil =>
          rw [Tree.kinds] at h
          obtain ⟨place, hnode⟩ := node_brackets h position
          exact ⟨_, _, .sequenceEnd :: es, hnode,
            gives_end (.flowSequence place) (h.behind.expect _) hnext, rfl⟩
      | cons item items =>
          rw [Tree.kinds_cons, List.append_assoc] at h
          obtain ⟨place, hnode⟩ := node_list h hposition
          exact ⟨_, _, _, hnode, gives_items (fun t ht => ⟨hitems t ht, ih t ht⟩) hnext
            (h.behind.expect (.blockSequence place)), rfl⟩
  | @mapping entries _ _ _ hentries ih =>
      intro o position expected kinds es hposition h hnext
      rw [Tree.kinds, List.append_assoc] at h
      rw [Tree.events, List.append_assoc]
      obtain ⟨place, hnode⟩ := node_mapping h hposition
      exact ⟨_, _, _, hnode, gives_entries (fun e he => ⟨hentries e he, ih e he⟩) hnext
        (h.behind.expect (.blockKey place)), rfl⟩

/-! ## The whole document -/

theorem explicitDocument_end (h : o.Awaits expected [.streamEnd]) :
    o.explicitDocument = .ok (.streamEnd, o.drop) := by
  obtain ⟨t, rest, hahead, hkind, -⟩ := h.exists_token
  have hsame : o.ahead.dropWhile (·.kind == TokenKind.documentEnd) = o.ahead := by
    rw [hahead, List.dropWhile_cons, hkind]
    rfl
  have hpeek : o.peek = .ok t := by rw [Outline.peek, hahead]
  rw [explicitDocument, hsame]
  dsimp only
  rw [hpeek, bind_ok, if_pos hkind]

/-- Behind the root nothing is left but the end of the stream. -/
theorem gives_streamEnd (h : o.Awaits [.documentEnd] [.streamEnd]) :
    o.Gives [.documentEnd, .streamEnd] := by
  obtain ⟨t, ht, hkind⟩ := h.pop.peek
  -- another document could follow, but the stream ends
  have hdocument := h.pop.expect .document
  have hend := gives_step .streamEnd hdocument (explicitDocument_end hdocument.pop)
    (gives_nil hdocument.pop.behind.expected)
  refine gives_step .documentEnd h ?_ hend
  rw [step, ht, bind_ok, hkind]
  rfl

/-- A document without directives begins with its root. -/
theorem gives_document (h : o.Awaits [.firstDocument] (kind :: kinds))
    (hkind : kind.startsNode = true)
    (hnode : ∀ p : Outline, p.Awaits [.documentEnd] (kind :: kinds) → p.NodeGives .block es) :
    o.Gives (.documentStart default :: es) := by
  obtain ⟨t, ht, htkind⟩ := h.pop.peek
  let p : Outline := { o with expected := [], handles := commonHandles }
  have hp : p.Awaits [] (kind :: kinds) := ⟨rfl, h.kinds⟩
  have hroot := (hp.expect .documentEnd).expect .blockNode
  refine gives_step (.documentStart t.start) h ?_
    (gives_node hroot rfl (hnode _ (hp.expect .documentEnd)))
  rw [step, ht, bind_ok, htkind]
  cases kind <;> first | rfl | cases hkind

theorem length_flatten_map_le {α β γ : Type} {f : α → List β} {g : α → List γ} {as : List α}
    (h : ∀ a ∈ as, (f a).length ≤ (g a).length) :
    (as.map f).flatten.length ≤ (as.map g).flatten.length := by
  induction as with
  | nil => exact Nat.le_refl 0
  | cons a as ih =>
      have ha := h a List.mem_cons_self
      have has := ih fun b hb => h b (List.mem_cons_of_mem a hb)
      simp only [List.map_cons, List.flatten_cons, List.length_append]
      omega

/-- There are no more events than tokens. -/
theorem length_events_le {t : Tree} (ht : t.Sound) : t.events.length ≤ t.kinds.length := by
  induction ht with
  | text s =>
      rw [Tree.events, Tree.kinds]
      exact Nat.le_refl 1
  | @list items _ ih =>
      rw [Tree.events]
      cases items with
      | nil =>
          rw [Tree.kinds]
          exact Nat.le_refl 2
      | cons item items =>
          have hle := length_flatten_map_le (f := Tree.events)
            (g := fun t => TokenKind.blockEntry :: t.kinds) fun t ht => Nat.le_succ_of_le (ih t ht)
          rw [Tree.kinds_cons]
          simp only [List.length_append, List.length_cons, List.length_nil] at hle ⊢
          omega
  | @mapping entries _ _ _ _ ih =>
      have hle := length_flatten_map_le
        (f := fun e : String × Tree => Event.scalar plainHead e.1 true :: e.2.events)
        (g := fun e => .key :: .scalar e.1 true :: .value :: e.2.kinds) fun e he => by
          have := ih e he
          simp only [List.length_cons]
          omega
      rw [Tree.events, Tree.kinds]
      simp only [List.length_append, List.length_cons, List.length_nil] at hle ⊢
      omega

/-- **The tokens of a tree have its structure**, and no mistake is met. -/
theorem events_of_kinds {t : Tree} (ht : t.Sound) {ts : List Token}
    (hts : ts.map (·.kind) = .streamStart :: t.kinds ++ [.streamEnd]) :
    ∃ es, events ts none = (es, none)
      ∧ es.map Event.bare = .documentStart default :: t.events ++ [.documentEnd, .streamEnd] := by
  obtain ⟨start, rest, rfl, -, hrest⟩ := List.map_eq_cons_iff.1 hts
  obtain ⟨kind, kinds, hcons, hstarts⟩ := exists_kinds ht
  have hlength : t.events.length + 2 ≤ rest.length + 1 := by
    have hle := length_events_le ht
    have := congrArg List.length hrest
    simp only [List.length_map, List.append_eq, List.length_append, List.length_singleton] at this
    omega
  have hroot : Awaits ⟨[.firstDocument], rest, .tooDeep, []⟩ [.firstDocument]
      (kind :: (kinds ++ [.streamEnd])) := by
    refine ⟨rfl, ?_⟩
    rw [hrest, List.append_eq, hcons, List.cons_append]
  have hnode : ∀ p : Outline, p.Awaits [.documentEnd] (kind :: (kinds ++ [.streamEnd])) →
      p.NodeGives .block (t.events ++ [.documentEnd, .streamEnd]) := by
    intro p hp
    rw [← List.cons_append, ← hcons] at hp
    exact readsNode ht p .block _ _ _ (by decide) hp fun q hq => gives_streamEnd hq
  refine gives_document hroot hstarts hnode (6 * (start :: rest).length + 16) ?_
  simp only [List.length_cons, List.length_append, List.length_nil]
  omega

end Outline

end PackageGate.Yaml
