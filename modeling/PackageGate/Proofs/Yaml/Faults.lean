import PackageGate.Yaml.Load

/-!
# Where faults come from

A graph is not built for a fault only if the fault is met while the characters are cut into tokens
(`fault_of_graphOf`). Neither the grammar nor the building of the graph brings in one of its own.

`Steps cause post x` says so of one step: it fails with no fault but those of `cause`, and otherwise
`post` holds of its result.
-/

namespace PackageGate.Yaml

/-- A step that fails with no other faults than those of `cause`, and whose result meets `post`. -/
def Steps {α : Type} (cause : Fault → Prop) (post : α → Prop) : Except Stop α → Prop
  | .error stop => ∀ f, stop = .fault f → cause f
  | .ok a => post a

namespace Steps

variable {α β : Type} {cause : Fault → Prop} {post : α → Prop} {post' : β → Prop}

theorem bind {x : Except Stop α} {next : α → Except Stop β} (hx : Steps cause post x)
    (hnext : ∀ a, post a → Steps cause post' (next a)) : Steps cause post' (x >>= next) := by
  cases x with
  | error stop => exact hx
  | ok a => exact hnext a hx

theorem problemIn {activity : Activity} {since mark : Mark} {problem : Problem} :
    Steps cause post (.error (problemIn activity since problem mark)) :=
  fun _ hf => nomatch hf

theorem problemAt {problem : Problem} {mark : Mark} :
    Steps cause post (.error (problemAt problem mark)) :=
  fun _ hf => nomatch hf

theorem tooDeep : Steps cause post (.error .tooDeep) := fun _ hf => nomatch hf

theorem weaken {x : Except Stop α} {weaker : α → Prop} (h : Steps cause post x)
    (hpost : ∀ a, post a → weaker a) : Steps cause weaker x := by
  cases x with
  | error stop => exact h
  | ok a => exact hpost a h

theorem map {x : Except Stop α} {f : α → β} (hx : Steps cause post x)
    (hpost : ∀ a, post a → post' (f a)) : Steps cause post' (x.map f) := by
  cases x with
  | error stop => exact hx
  | ok a => exact hpost a hx

/-- What is known of a step by its outcome. -/
theorem of_outcome {x : Except Stop α} (hok : ∀ a, x = .ok a → post a)
    (hfault : ∀ f, x = .error (.fault f) → cause f) : Steps cause post x := by
  cases x with
  | error stop =>
      intro f hf
      exact hfault f (congrArg _ hf)
  | ok a => exact hok a rfl

end Steps

/-! ## The grammar -/

namespace Outline

/-- A step of the grammar meets no other fault than the mistake behind the tokens, and keeps that
mistake. -/
abbrev Follows (s : Stop) (x : Except Stop (Event × Outline)) : Prop :=
  Steps (fun f => s = .fault f) (fun r => r.2.mistake = s) x

variable {s : Stop} {o : Outline}

theorem peek_steps {β : Type} {next : Token → Except Stop β} {post : β → Prop}
    (ho : o.mistake = s) (hnext : ∀ t, Steps (fun f => s = .fault f) post (next t)) :
    Steps (fun f => s = .fault f) post (o.peek >>= next) := by
  unfold peek
  split
  · exact hnext _
  · -- behind the last token stands the mistake
    intro f hf
    rw [← ho]
    exact hf

theorem nodeMarks_steps (ho : o.mistake = s) :
    Steps (fun f => s = .fault f) (fun r => r.2.2.2.mistake = s) o.nodeMarks := by
  unfold nodeMarks
  refine peek_steps ho fun t => ?_
  split
  · refine peek_steps ho fun u => ?_
    split <;> exact ho
  · refine peek_steps ho fun u => ?_
    split <;> exact ho
  · exact ho

theorem tagName_steps {cause : Fault → Prop} (since : Option Mark)
    (tag : Option (Option String × String × Mark)) :
    Steps cause (fun _ => True) (o.tagName since tag) := by
  unfold tagName
  split
  · trivial
  · trivial
  · split
    · trivial
    · exact Steps.problemIn

theorem node_steps (ho : o.mistake = s) (position : Position) :
    Follows s (o.node position) := by
  unfold node
  refine peek_steps ho fun t => ?_
  split
  · exact ho
  · refine (nodeMarks_steps ho).bind fun r hr => ?_
    obtain ⟨anchor, rawTag, since, o'⟩ := r
    refine (tagName_steps since rawTag).bind fun tag _ => ?_
    refine peek_steps hr fun u => ?_
    dsimp only
    split
    · exact hr
    · exact hr
    · exact hr
    · exact hr
    · exact hr
    · exact hr
    · exact hr
    · exact hr
    · split
      · exact hr
      · exact Steps.problemIn

theorem directives_steps {ts : List Token} {version : Bool} {handles : List (String × String)} :
    Steps (fun f => s = .fault f) (fun _ => True) (directives ts s version handles) := by
  induction ts generalizing version handles with
  | nil => exact fun f hf => hf
  | cons t ts ih =>
      unfold directives
      split
      · split
        · exact Steps.problemAt
        · split
          · exact Steps.problemAt
          · exact ih
      · split
        · exact Steps.problemAt
        · exact ih
      · exact ih
      · trivial

theorem explicitDocument_steps (ho : o.mistake = s) : Follows s o.explicitDocument := by
  unfold explicitDocument
  dsimp only
  refine peek_steps ho fun t => ?_
  split
  · exact ho
  · rw [ho]
    refine directives_steps.bind fun r _ => ?_
    obtain ⟨declared, ahead⟩ := r
    refine peek_steps rfl fun u => ?_
    split
    · rfl
    · exact Steps.problemAt

/-- **No step of the grammar meets a fault of its own.** -/
theorem step_steps (ho : o.mistake = s) (e : Expectation) : Follows s (o.step e) := by
  -- a step passes over one token or two, and ends with an event that is known or with a node
  have hnode : ∀ (e : Expectation) (position : Position),
      Follows s ((o.drop.expect e).node position) := fun _ => node_steps ho
  unfold step
  cases e with
  | firstDocument =>
      refine peek_steps ho fun t => ?_
      split
      · exact explicitDocument_steps ho
      · exact explicitDocument_steps ho
      · exact explicitDocument_steps ho
      · exact ho
  | document => exact explicitDocument_steps ho
  | documentContent =>
      refine peek_steps ho fun t => ?_
      split <;> first | exact ho | exact node_steps ho _
  | documentEnd =>
      refine peek_steps ho fun t => ?_
      dsimp only
      split <;> exact ho
  | blockNode => exact node_steps ho _
  | blockSequence since =>
      refine peek_steps ho fun t => ?_
      split
      · refine peek_steps ho fun u => ?_
        split <;> first | exact ho | exact hnode _ _
      · exact ho
      · exact Steps.problemIn
  | indentlessSequence =>
      refine peek_steps ho fun t => ?_
      split
      · refine peek_steps ho fun u => ?_
        split <;> first | exact ho | exact hnode _ _
      · exact ho
  | blockKey since =>
      refine peek_steps ho fun t => ?_
      split
      · refine peek_steps ho fun u => ?_
        split <;> first | exact ho | exact hnode _ _
      · exact ho
      · exact Steps.problemIn
  | blockValue since =>
      refine peek_steps ho fun t => ?_
      split
      · refine peek_steps ho fun u => ?_
        split <;> first | exact ho | exact hnode _ _
      · exact ho
  | flowSequence since first =>
      refine peek_steps ho fun t => ?_
      split
      · exact ho
      · split
        · exact Steps.problemIn
        · have ho' : (if first then o else o.drop).mistake = s := by split <;> exact ho
          refine peek_steps ho' fun u => ?_
          split
          · exact ho'
          · exact ho'
          · exact node_steps (o := (if first then o else o.drop).expect _) ho' _
  | pairKey since =>
      refine peek_steps ho fun t => ?_
      refine peek_steps ho fun u => ?_
      split <;> first | exact ho | exact hnode _ _
  | pairValue since =>
      refine peek_steps ho fun t => ?_
      split
      · refine peek_steps ho fun u => ?_
        split <;> first | exact ho | exact hnode _ _
      · exact ho
  | pairEnd since => exact peek_steps ho fun t => ho
  | flowKey since first =>
      refine peek_steps ho fun t => ?_
      split
      · exact ho
      · split
        · exact Steps.problemIn
        · have ho' : (if first then o else o.drop).mistake = s := by split <;> exact ho
          refine peek_steps ho' fun u => ?_
          split
          · refine peek_steps ho' fun w => ?_
            split <;> first
              | exact ho'
              | exact node_steps (o := (if first then o else o.drop).drop.expect _) ho' _
          · exact ho'
          · exact node_steps (o := (if first then o else o.drop).expect _) ho' _
  | flowValue since =>
      refine peek_steps ho fun t => ?_
      split
      · refine peek_steps ho fun u => ?_
        split <;> first | exact ho | exact hnode _ _
      · exact ho
  | flowEmptyValue since => exact peek_steps ho fun t => ho

/-- What ends the events is no fault but the one behind the tokens. -/
theorem run_fault {fuel : Nat} {f : Fault} (ho : o.mistake = s)
    (h : (run fuel o).2 = some (.fault f)) : s = .fault f := by
  induction fuel generalizing o with
  | zero => cases h
  | succ fuel ih =>
      unfold run at h
      split at h
      · cases h
      · rename_i e expected _
        have hstep := step_steps (o := { o with expected := expected }) ho e
        split at h
        · rename_i stop hs
          rw [hs] at hstep
          exact hstep f (Option.some.inj h)
        · rename_i event o' hs
          rw [hs] at hstep
          exact ih hstep h

end Outline

theorem events_fault {ts : List Token} {mistake : Option Stop} {f : Fault}
    (h : (events ts mistake).2 = some (.fault f)) : mistake = some (.fault f) := by
  have hrun := Outline.run_fault rfl h
  cases mistake with
  | none => cases hrun
  | some stop => exact congrArg some hrun

/-! ## The graph -/

namespace Builder

theorem step_fault {cause : Fault → Prop} (b : Builder) (e : Event) :
    Steps cause (fun _ => True) (b.step e) := by
  have hadd : ∀ head tag content, Steps cause (fun _ => True) (b.add head tag content) := by
    intro head tag content
    unfold add
    dsimp only
    split
    · trivial
    · split
      · exact Steps.problemIn
      · trivial
  have hopen : ∀ (b : Builder) o, Steps cause (fun _ => True) (b.openNode o) := by
    intro b o
    unfold openNode
    split
    · exact Steps.tooDeep
    · trivial
  cases e with
  | documentStart start =>
      rw [step]
      split
      · exact Steps.problemIn
      · trivial
  | documentEnd => trivial
  | streamEnd => trivial
  | «alias» name start =>
      rw [step]
      split
      · exact Steps.problemAt
      · trivial
  | scalar head text isOpen => exact (hadd _ _ _).bind fun _ _ => trivial
  | sequenceStart head => exact (hadd _ _ _).bind fun b _ => hopen b _
  | mappingStart head => exact (hadd _ _ _).bind fun b _ => hopen b _
  | sequenceEnd =>
      rw [step]
      split <;> trivial
  | mappingEnd =>
      rw [step]
      split <;> trivial

theorem steps_fault {b : Builder} {es : List Event} {mistake : Option Stop} :
    Steps (fun f => mistake = some (.fault f)) (fun _ => True) (b.steps es mistake) := by
  induction es generalizing b with
  | nil =>
      cases mistake with
      | none => trivial
      | some stop => exact fun f hf => congrArg some hf
  | cons e es ih =>
      rw [steps]
      have hstep : Steps (fun f => mistake = some (.fault f)) (fun _ => True) (b.step e) :=
        step_fault b e
      cases hb : b.step e with
      | ok b' => exact ih
      | error stop =>
          rw [hb] at hstep
          exact hstep

end Builder

theorem ofEvents_fault {es : List Event} {mistake : Option Stop} :
    Steps (fun f => mistake = some (.fault f)) (fun _ => True) (Graph.ofEvents es mistake) :=
  Builder.steps_fault.bind fun _ _ => trivial

/-- The graph of a text, if it holds a document. -/
def graphOf (text : List Char) : Except Stop (Option Graph) :=
  let (ts, mistake) := tokens text
  let (es, mistake) := events ts mistake
  Graph.ofEvents es mistake

/-- **A fault that keeps a graph from being built is met among the characters.** -/
theorem fault_of_graphOf {text : List Char} {f : Fault}
    (h : graphOf text = .error (.fault f)) : (tokens text).2 = some (.fault f) := by
  unfold graphOf at h
  cases htokens : tokens text with
  | mk ts mistake =>
      cases hevents : events ts mistake with
      | mk es ending =>
          rw [htokens] at h
          dsimp only at h
          rw [hevents] at h
          have hgraph : Steps _ _ (Graph.ofEvents es ending) := ofEvents_fault
          rw [h] at hgraph
          have hending : (events ts mistake).2 = some (.fault f) := by
            rw [hevents]
            exact hgraph f rfl
          exact events_fault hending

end PackageGate.Yaml
