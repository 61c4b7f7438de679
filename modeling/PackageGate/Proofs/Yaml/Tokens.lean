import PackageGate.Proofs.Outcome
import PackageGate.Proofs.Yaml.HandedOut
import PackageGate.Proofs.Yaml.Quoted
import PackageGate.Proofs.Yaml.Words

/-!
# One token after the other

For each token of a block there is a lemma that says what comes from a state on at which it stands
(`Stands`), given what comes from the states behind it on: a text in quotes, a pair of brackets, the
hyphen of an entry, a key with its colon, the end of a block and the end of the document.
-/

namespace PackageGate.Yaml

open Yaml.Tree (IsWord newLine)

/-- Whether a token starts at the beginning of a text, or the text is over. -/
def IsStart (text : List Char) : Prop :=
  IsInline (text.headD endOfText) ∧ text.headD endOfText ≠ ' ' ∧ text.headD endOfText ≠ '#'

theorem isStart_cons {c : Char} {text : List Char} (h : IsStart [c]) : IsStart (c :: text) := h

instance (text : List Char) : Decidable (IsStart text) :=
  inferInstanceAs (Decidable (IsInline (text.headD endOfText) ∧ text.headD endOfText ≠ ' '
    ∧ text.headD endOfText ≠ '#'))

namespace Scanner

/-- A text is ahead, in a block with certain indentations. -/
structure Rests (s : Scanner) (text : List Char) (indent : Int) (indents : List Int) : Prop where
  rest : s.cursor.rest = text
  indent : s.indent = indent
  indents : s.indents = indents
  depth : s.depth = 0
  done : s.done = false

/-- A token is ahead in a column, and there is no candidate. -/
structure Stands (s : Scanner) (text : List Char) (column : Nat) (indent : Int)
    (indents : List Int) (allowed : Bool) : Prop extends s.Rests text indent indents where
  column : s.cursor.column = column
  allowed : s.keyAllowed = allowed
  candidates : s.candidates = []

variable {s r : Scanner} {text rest : List Char} {n column : Nat} {indent outer : Int}
  {indents : List Int} {allowed : Bool} {g : Char} {kinds new : List TokenKind}

theorem Rests.inFlow (h : s.Rests text indent indents) : s.inFlow = false := by
  simp [Scanner.inFlow, h.depth]

/-! ## Moving to the next token -/

theorem advance_eq (h : s.cursor.head ≠ byteOrderMark) : s.advance =
    (s.skipToToken (s.cursor.rest.length + 1)).dropStale >>= resume := by
  have hmark : s.skipOrderMark = s := by
    rw [skipOrderMark, if_neg]
    simp [h]
  rw [advance, hmark]
  rfl

theorem skipToToken_succ (s : Scanner) (fuel : Nat) : s.skipToToken (fuel + 1) =
    match s.cursor.skipSpaces.skipComment.lineBreak? with
    | none => { s with cursor := s.cursor.skipSpaces.skipComment }
    | some (_, c) =>
      skipToToken fuel { s with cursor := c, keyAllowed := s.keyAllowed || !s.inFlow } := by
  rfl

theorem skipToToken_line (hstart : IsStart rest)
    (h : s.cursor.rest = List.replicate n ' ' ++ rest) (fuel : Nat) :
    s.skipToToken (fuel + 1) = { s with cursor := s.cursor.past n rest } := by
  obtain ⟨⟨hbreak, _⟩, hblank, hsign⟩ := hstart
  have hspaces : s.cursor.skipSpaces = s.cursor.past n rest := by
    refine Cursor.skipSpaces_eq (fun hmem => hblank ?_) h
    rw [List.headD_eq_head?_getD, hmem]
    rfl
  have hcomment : (s.cursor.past n rest).skipComment = s.cursor.past n rest :=
    Cursor.skipComment_eq hsign
  have hline : (s.cursor.past n rest).lineBreak? = none := Cursor.lineBreak?_eq_none hbreak
  rw [skipToToken_succ, hspaces, hcomment, hline]

/-- A token at the cursor is reached. -/
theorem skipToToken_start (hstart : IsStart s.cursor.rest) (fuel : Nat) :
    s.skipToToken (fuel + 1) = s := by
  rw [skipToToken_line (n := 0) hstart rfl, Cursor.past_zero rfl]

theorem skipToToken_newLine (hstart : IsStart rest) (h : s.cursor.rest = newLine n ++ rest)
    (fuel : Nat) : s.skipToToken (fuel + 2) =
      { s with
        cursor := ⟨rest, s.cursor.index + 1 + n, s.cursor.line + 1, n⟩
        keyAllowed := s.keyAllowed || !s.inFlow } := by
  have hrest : s.cursor.rest = '\n' :: (List.replicate n ' ' ++ rest) := h
  have hspaces : s.cursor.skipSpaces = s.cursor := by
    have hzero : s.cursor.rest = List.replicate 0 ' ' ++ newLine n ++ rest := h
    rw [List.append_assoc] at hzero
    exact (Cursor.skipSpaces_eq (by simp [newLine]) hzero).trans (Cursor.past_zero h)
  have hsign : s.cursor.head ≠ '#' := by
    rw [Cursor.head_eq hrest]
    decide
  rw [skipToToken_succ, hspaces, Cursor.skipComment_eq hsign, Cursor.lineBreak?_newline hrest]
  dsimp only
  rw [skipToToken_line hstart rfl]
  simp [Cursor.past]

/-- The next token on the same line. -/
theorem yields_line (hs : s.Rests (List.replicate n ' ' ++ rest) indent indents)
    (hcandidates : s.candidates = []) (hstart : IsStart rest)
    (h : ∀ r : Scanner, r.Stands rest (s.cursor.column + n) indent indents s.keyAllowed →
      r.Ahead kinds) : s.Yields kinds := by
  have hmark : s.cursor.head ≠ byteOrderMark := by
    rw [Cursor.head, hs.rest]
    cases n with
    | zero => exact hstart.1.2
    | succ n => exact (by decide : ' ' ≠ byteOrderMark)
  refine yields_of_loose (loose_nil hs.done hcandidates) ?_
  intro held handedOut candidates hmem
  have hnil : candidates = [] := List.eq_nil_iff_forall_not_mem.2 fun k hk => by
    have := hmem k hk
    rw [hcandidates] at this
    exact List.not_mem_nil this
  -- without candidates nothing but the cursor changes on the way to the token
  let moved : Scanner :=
    { s with cursor := s.cursor.past n rest, held, handedOut, candidates := [] }
  have hfresh : moved.Fresh := fun k hk => absurd hk List.not_mem_nil
  refine ⟨moved, ?_, rfl, h _ ⟨⟨rfl, hs.indent, hs.indents, hs.depth, hs.done⟩, rfl, rfl, rfl⟩⟩
  let t : Scanner := { s with held, handedOut, candidates }
  have hskip : t.skipToToken (t.cursor.rest.length + 1) = moved := by
    rw [skipToToken_line (s := t) hstart hs.rest]
    simp [t, moved, hnil]
  rw [advance_eq (s := t) hmark, hskip, dropStale_fresh hfresh]
  rfl

/-- The next token on the line below, where the candidates of the line above are out of reach. -/
theorem yields_newLine (hs : s.Rests (newLine n ++ rest) indent indents) (hloose : s.Loose)
    (hstart : IsStart rest)
    (h : ∀ r : Scanner, r.Stands rest n indent indents true → r.Ahead kinds) :
    s.Yields kinds := by
  have hrest : s.cursor.rest = '\n' :: (List.replicate n ' ' ++ rest) := hs.rest
  have hmark : s.cursor.head ≠ byteOrderMark := by
    rw [Cursor.head_eq hrest]
    decide
  refine yields_of_loose hloose ?_
  intro held handedOut candidates hmem
  let moved : Scanner :=
    { s with
      cursor := ⟨rest, s.cursor.index + 1 + n, s.cursor.line + 1, n⟩, keyAllowed := true
      held, handedOut, candidates }
  have hmoved : moved.Loose := hloose.mono rfl (Nat.le_succ _) hmem
  -- all candidates stand on the line above, or even higher
  have hstale : (candidates.filter fun k => !isStale moved.cursor k.2) = [] := by
    rw [List.filter_eq_nil_iff]
    intro k hk
    have hline := hloose.lines k (hmem k hk)
    have hne : k.2.place.line ≠ s.cursor.line + 1 := by omega
    simp [isStale, moved, hne]
  refine ⟨{ moved with candidates := [] }, ?_, rfl,
    h _ ⟨⟨rfl, hs.indent, hs.indents, hs.depth, hs.done⟩, rfl, rfl, rfl⟩⟩
  let t : Scanner := { s with held, handedOut, candidates }
  have hskip : t.skipToToken (t.cursor.rest.length + 1) = moved := by
    have hlength : t.cursor.rest.length + 1 = (List.replicate n ' ' ++ rest).length + 2 :=
      congrArg (fun cs => List.length cs + 1) hrest
    rw [hlength, skipToToken_newLine (s := t) hstart hs.rest]
    simp [t, moved, Scanner.inFlow, hs.depth]
  rw [advance_eq (s := t) hmark, hskip, dropStale_loose hmoved, hstale]
  rfl

/-! ## Reading it -/

theorem unwind_self (hindent : s.indent ≤ column) : s.unwind column = s := by
  have hclose : closeBlocks column s.indents s = s := by
    cases s.indents with
    | nil => rfl
    | cons outer rest => rw [closeBlocks, if_neg (by omega)]
  rw [unwind, hclose, ite_self]

/-- A token that ends no block is read at once. -/
theorem resume_eq (hs : s.Stands text column indent indents allowed) (hindent : indent ≤ column) :
    s.resume = s.takeToken := by
  rw [resume, unwind_self]
  rw [hs.indent, hs.column]
  exact hindent

/-- What is read is held back behind the other tokens. -/
theorem ahead_of_yields (hresume : s.resume = .ok r) (hheld : r.heldKinds = s.heldKinds ++ new)
    (hnew : new ≠ []) (h : r.Yields kinds) : s.Ahead (new ++ kinds) := by
  refine ⟨r, hresume, ?_⟩
  rw [← List.append_assoc, ← hheld]
  refine Gives.mono h ?_
  have hlength := congrArg List.length hheld
  have hpos := List.length_pos_iff.2 hnew
  simp only [heldKinds, List.length_append, List.length_map] at hlength
  rw [List.length_append]
  omega

theorem giveUp_nil (h : s.candidates = []) : s.giveUp = .ok s := by
  rw [giveUp, candidate?, h]
  rfl

/-- The candidate that the next token is, if a key may start here. -/
def nextCandidates (s : Scanner) : List (Int × Candidate) :=
  if s.keyAllowed then
    [(0, ⟨s.handedOut + s.held.length, decide (s.indent = s.cursor.column), s.mark⟩)]
  else []

theorem remember_eq (hdepth : s.depth = 0) (h : s.candidates = []) :
    s.remember = .ok { s with candidates := s.nextCandidates } := by
  obtain ⟨cursor, depth, indent, indents, keyAllowed, candidates, handedOut, held, done⟩ := s
  obtain rfl : depth = 0 := hdepth
  obtain rfl : candidates = [] := h
  cases keyAllowed <;> rfl

/-- The candidate in front of a token that is indented deeper than the block need not become a
key. -/
theorem loose_nextCandidates (hs : s.Stands text column indent indents allowed)
    (hindent : indent < column) (hdone : r.done = false)
    (hcandidates : r.candidates = s.nextCandidates) (hline : r.cursor.line = s.cursor.line) :
    r.Loose := by
  have hmem : ∀ k ∈ r.candidates, k.2.required = false ∧ k.2.place.line ≤ r.cursor.line := by
    intro k hk
    rw [hcandidates, nextCandidates] at hk
    split at hk
    · rw [List.mem_singleton.1 hk, hline, hs.indent, hs.column]
      exact ⟨decide_eq_false (by omega), Nat.le_refl _⟩
    · exact absurd hk List.not_mem_nil
  exact ⟨hdone, fun k hk => (hmem k hk).1, fun k hk => (hmem k hk).2⟩

/-- A text in quotes. -/
theorem ahead_quoted {sp : Spelling} {t : String}
    (hs : s.Stands (Tree.quote sp t ++ rest) column indent indents allowed)
    (hindent : indent < column)
    (h : ∀ r : Scanner, r.Rests rest indent indents → r.Loose → r.Yields kinds) :
    s.Ahead (.scalar t false :: kinds) := by
  have hhead : s.cursor.head = '"' := Cursor.head_eq hs.rest
  have htoken : s.takeToken = s.takeWhole readQuoted := by
    simp [takeToken, hhead, Cursor.atTriple, endOfText]
  have hread := readQuoted_quote sp t hs.rest
  let after := s.cursor.past (Tree.quote sp t).length rest
  let r : Scanner :=
    { s with
      candidates := s.nextCandidates, cursor := after
      held := s.held ++ [⟨.scalar t false, s.mark, after.mark⟩], keyAllowed := false }
  have hresume : s.resume = .ok r := by
    rw [resume_eq hs (by omega), htoken, takeWhole, remember_eq hs.depth hs.candidates]
    simp only [bind_ok, hread]
    rfl
  refine ahead_of_yields hresume (by simp [r, heldKinds]) (List.cons_ne_nil _ []) (h r ?_ ?_)
  · exact ⟨rfl, hs.indent, hs.indents, hs.depth, hs.done⟩
  · exact loose_nextCandidates hs hindent hs.done rfl rfl

theorem giveUp_loose (h : s.Loose) : ∃ candidates,
    s.giveUp = .ok { s with candidates } ∧ ∀ k ∈ candidates, k ∈ s.candidates := by
  unfold giveUp
  split
  · rename_i k hk
    obtain ⟨c, hc, rfl⟩ := Option.map_eq_some_iff.1 hk
    rw [h.candidates c (List.mem_of_find?_eq_some hc), if_neg Bool.false_ne_true]
    exact ⟨_, rfl, fun d hd => (List.mem_filter.1 hd).1⟩
  · exact ⟨s.candidates, rfl, fun d hd => hd⟩

/-- A closing bracket inside one pair of brackets. -/
theorem yields_closing (hrest : s.cursor.rest = ']' :: rest) (hdepth : s.depth = 1)
    (hloose : s.Loose) (hindents : s.indent = indent ∧ s.indents = indents)
    (h : ∀ r : Scanner, r.Rests rest indent indents → r.Loose → r.Yields kinds) :
    s.Yields (.flowSequenceEnd :: kinds) := by
  have hhead : s.cursor.head = ']' := Cursor.head_eq hrest
  have hmark : s.cursor.head ≠ byteOrderMark := by
    rw [hhead]
    decide
  refine yields_of_loose hloose ?_
  intro held handedOut candidates hmem
  let t : Scanner := { s with held, handedOut, candidates }
  have ht : t.Loose := hloose.mono rfl (Nat.le_refl _) hmem
  have hskip : t.skipToToken (t.cursor.rest.length + 1) = t := by
    refine skipToToken_start ?_ _
    rw [hrest]
    exact isStart_cons (by decide)
  -- candidates of the list around may be left, and giving one up is no mistake
  let u : Scanner :=
    { t with candidates := candidates.filter fun k => !isStale t.cursor k.2 }
  have hu : u.Loose := ht.mono rfl (Nat.le_refl _) fun k hk => (List.mem_filter.1 hk).1
  obtain ⟨candidates', hgiveUp, hmem'⟩ := giveUp_loose hu
  refine ⟨u, by rw [advance_eq (s := t) hmark, hskip, dropStale_loose ht]; rfl, rfl, ?_⟩
  have htoken : u.takeToken = u.takeClosing .flowSequenceEnd := by
    simp [takeToken, u, t, hhead, Cursor.atTriple, endOfText]
  let r : Scanner :=
    { u with
      candidates := candidates', cursor := u.cursor.past 1 rest, depth := u.depth - 1
      held := u.held ++ [⟨.flowSequenceEnd, u.mark, (u.cursor.past 1 rest).mark⟩]
      keyAllowed := false }
  have hnext : u.cursor.advance 1 = u.cursor.past 1 rest := Cursor.next_inline (by decide) hrest
  have hresume : u.resume = .ok r := by
    have hflow : u.inFlow = true := by simp [Scanner.inFlow, u, t, hdepth]
    rw [resume, unwind, if_pos hflow, htoken, takeClosing, hgiveUp, bind_ok]
    dsimp only [take, push]
    rw [hnext]
    rfl
  refine ahead_of_yields hresume (by simp [r, heldKinds]) (List.cons_ne_nil _ []) (h r ?_ ?_)
  · refine ⟨rfl, hindents.1, hindents.2, ?_, hloose.done⟩
    show s.depth - 1 = 0
    rw [hdepth]
    rfl
  · exact hu.mono rfl (Nat.le_refl _) hmem'

/-- A pair of brackets. -/
theorem ahead_brackets (hs : s.Stands ('[' :: ']' :: rest) column indent indents allowed)
    (hindent : indent < column)
    (h : ∀ r : Scanner, r.Rests rest indent indents → r.Loose → r.Yields kinds) :
    s.Ahead (.flowSequenceStart :: .flowSequenceEnd :: kinds) := by
  have hhead : s.cursor.head = '[' := Cursor.head_eq hs.rest
  have htoken : s.takeToken = s.takeOpening .flowSequenceStart := by
    simp [takeToken, hhead, Cursor.atTriple, endOfText]
  let r : Scanner :=
    { s with
      candidates := s.nextCandidates, cursor := s.cursor.past 1 (']' :: rest), depth := s.depth + 1
      held := s.held ++ [⟨.flowSequenceStart, s.mark, (s.cursor.past 1 (']' :: rest)).mark⟩]
      keyAllowed := true }
  have hnext : s.cursor.advance 1 = s.cursor.past 1 (']' :: rest) :=
    Cursor.next_inline (by decide) hs.rest
  have hresume : s.resume = .ok r := by
    rw [resume_eq hs (by omega), htoken, takeOpening, remember_eq hs.depth hs.candidates, bind_ok]
    dsimp only [take, push]
    rw [hnext]
    rfl
  have hdepth : r.depth = 1 := by
    show s.depth + 1 = 1
    rw [hs.depth]
    rfl
  refine ahead_of_yields hresume (by simp [r, heldKinds]) (List.cons_ne_nil _ []) ?_
  exact yields_closing (s := r) rfl hdepth (loose_nextCandidates hs hindent hs.done rfl rfl)
    ⟨hs.indent, hs.indents⟩ h

/-! ## Blocks -/

/-- The token that opens a block in a column, if none is open there. -/
def opening (indent : Int) (column : Nat) (kind : TokenKind) : List TokenKind :=
  if indent < column then [kind] else []

/-- The indentations around the block in a column. -/
def opened (indent : Int) (indents : List Int) (column : Nat) : List Int :=
  if indent < column then indent :: indents else indents

theorem openBlock_eq (hs : s.Stands text column indent indents allowed) (hindent : indent ≤ column)
    (kind : TokenKind) : s.openBlock kind =
      { s with
        indent := column, indents := opened indent indents column
        held := s.held ++ (opening indent column kind).map fun k => ⟨k, s.mark, s.mark⟩ } := by
  rw [openBlock, indentAt?, hs.column, hs.indent, hs.indents, opened, opening]
  by_cases hless : indent < column
  · rw [if_pos hless, if_pos hless, if_pos hless]
    rfl
  · have hsame : indent = column := by omega
    rw [if_neg hless, if_neg hless, if_neg hless, ← hsame, ← hs.indent, ← hs.indents, List.map_nil,
      List.append_nil]

/-- The hyphen of an entry, which opens a list if need be. -/
theorem ahead_entry (hs : s.Stands ('-' :: ' ' :: rest) column indent indents true)
    (hindent : indent ≤ column) (hstart : IsStart rest)
    (h : ∀ r : Scanner, r.Stands rest (column + 2) column (opened indent indents column) true →
      r.Ahead kinds) :
    s.Ahead (opening indent column .blockSequenceStart ++ .blockEntry :: kinds) := by
  have hhead : s.cursor.head = '-' := Cursor.head_eq hs.rest
  have hpeek : s.cursor.peek 1 = ' ' := Cursor.peek_one hs.rest
  have htoken : s.takeToken = s.takeBlockEntry := by
    simp [takeToken, hhead, hpeek, Cursor.atTriple, endOfText, isGap, isSpaceOrEnd]
  have hnext : s.cursor.advance 1 = s.cursor.past 1 (' ' :: rest) :=
    Cursor.next_inline (by decide) hs.rest
  let front : List Token :=
    s.held ++ (opening indent column .blockSequenceStart).map fun k => ⟨k, s.mark, s.mark⟩
  let r : Scanner :=
    { s with
      cursor := s.cursor.past 1 (' ' :: rest), indent := column
      indents := opened indent indents column
      held := front ++ [⟨.blockEntry, s.mark, (s.cursor.past 1 (' ' :: rest)).mark⟩]
      keyAllowed := true }
  have hresume : s.resume = .ok r := by
    have hgiveUp := giveUp_nil (s := { s with
      indent := column, indents := opened indent indents column, held := front
      keyAllowed := true }) hs.candidates
    rw [resume_eq hs hindent, htoken, takeBlockEntry, hs.inFlow, hs.allowed,
      openBlock_eq hs hindent, if_neg (by decide), if_neg Bool.false_ne_true]
    dsimp only
    rw [hgiveUp, bind_ok]
    dsimp only [take, push]
    rw [hnext]
    rfl
  have hyields : r.Yields kinds := by
    refine yields_line (n := 1) (s := r) ⟨rfl, rfl, rfl, hs.depth, hs.done⟩ hs.candidates hstart ?_
    intro t ht
    have hcolumn : r.cursor.column + 1 = column + 2 := by
      show s.cursor.column + 1 + 1 = column + 2
      rw [hs.column]
    rw [hcolumn] at ht
    exact h t ht
  have hheld : r.heldKinds =
      s.heldKinds ++ (opening indent column .blockSequenceStart ++ [.blockEntry]) := by
    simp [heldKinds, r, front, Function.comp_def]
  have hahead := ahead_of_yields hresume hheld (by simp) hyields
  rw [List.append_assoc] at hahead
  exact hahead

/-- A block that is indented deeper than the next token ends in front of it. -/
theorem ahead_close (hs : s.Stands text column indent (outer :: indents) allowed)
    (hindent : column < indent)
    (h : ∀ r : Scanner, r.Stands text column outer indents allowed → r.Ahead kinds) :
    s.Ahead (.blockEnd :: kinds) := by
  let r : Scanner :=
    { s with
      indent := outer, indents
      held := s.held ++ [⟨.blockEnd, s.mark, s.mark⟩] }
  have hunwind : s.unwind column = r.unwind column := by
    have hflow : r.inFlow = false := hs.inFlow
    rw [unwind, unwind, hs.inFlow, hflow, if_neg Bool.false_ne_true, if_neg Bool.false_ne_true,
      hs.indents, closeBlocks, if_pos (by rw [hs.indent]; exact hindent)]
    rfl
  -- the token itself is read in both states alike
  have hresume : s.resume = r.resume := by
    rw [resume, resume, hs.column, hunwind, ← hs.column]
  obtain ⟨s', hs', hgives⟩ := h r ⟨⟨hs.rest, rfl, rfl, hs.depth, hs.done⟩, hs.column, hs.allowed,
    hs.candidates⟩
  refine ⟨s', hresume.trans hs', ?_⟩
  have hkinds : r.heldKinds ++ kinds = s.heldKinds ++ .blockEnd :: kinds := by
    simp [r, heldKinds]
  rw [← hkinds]
  refine Gives.mono hgives ?_
  simp only [r, List.length_append, List.length_cons, List.length_nil]
  omega

/-- The end of the document, which ends the outermost block. -/
theorem ahead_end (hs : s.Stands [] 0 0 [-1] allowed) : s.Ahead [.blockEnd, .streamEnd] := by
  have hhead : s.cursor.head = endOfText := by
    rw [Cursor.head, hs.rest]
    rfl
  have htoken : s.takeToken = s.takeEnd := by
    rw [takeToken, hhead]
    rfl
  have hunwind : s.unwind (-1) =
      { s with
        indent := -1, indents := []
        held := s.held ++ [⟨.blockEnd, s.mark, s.mark⟩] } := by
    rw [unwind, hs.inFlow, if_neg Bool.false_ne_true, hs.indents, closeBlocks, hs.indent,
      if_pos (by decide)]
    rfl
  let r : Scanner :=
    { s with
      indent := -1, indents := [], keyAllowed := false, candidates := [], done := true
      held := s.held ++ [⟨.blockEnd, s.mark, s.mark⟩] ++ [⟨.streamEnd, s.mark, s.mark⟩] }
  have hgiveUp := giveUp_nil (s := { s with
    indent := -1, indents := [], held := s.held ++ [⟨.blockEnd, s.mark, s.mark⟩] }) hs.candidates
  have hresume : s.resume = .ok r := by
    rw [resume_eq hs (Int.le_refl 0), htoken, takeEnd, hunwind, hgiveUp]
    rfl
  have hheld : r.heldKinds = s.heldKinds ++ [.blockEnd, .streamEnd] := by simp [r, heldKinds]
  refine ⟨r, hresume, ?_⟩
  rw [← hheld]
  exact Gives.mono (gives_done rfl) (by simp only [List.length_cons, List.length_nil]; omega)

/-- A key waits for its colon: it is the only candidate, and its token is held back alone. -/
structure KeyWaits (s : Scanner) (k : Candidate) (t : Token) : Prop where
  candidates : s.candidates = [(0, k)]
  number : k.number = s.handedOut
  held : s.held = [t]

section Colon

variable {k : Candidate} {t : Token}

/-- The colon settles the key: a token for it goes in front, behind the one that opens a mapping if
need be. -/
theorem exists_takeValue (hs : s.Rests (':' :: g :: rest) indent indents) (hkey : s.KeyWaits k t)
    (hcolumn : k.place.column = column) (hindent : indent ≤ column) : ∃ r : Scanner,
      s.takeValue = .ok r ∧ r.Rests (g :: rest) column (opened indent indents column)
        ∧ r.candidates = [] ∧ r.keyAllowed = false ∧ r.cursor.column = s.cursor.column + 1
        ∧ r.heldKinds = opening indent column .blockMappingStart ++ [.key, t.kind, .value] := by
  have hcandidate : s.candidate? = some k := by
    rw [candidate?, hkey.candidates, hs.depth]
    rfl
  have hforget : s.forget = { s with candidates := [] } := by
    rw [forget, hkey.candidates, hs.depth]
    rfl
  let settled : Scanner := { s with candidates := [], held := [⟨.key, k.place, k.place⟩, t] }
  have hsettled : s.forget.insertAt k.number .key k.place = settled := by
    rw [hforget, insertAt, hkey.number, Nat.sub_self, hkey.held]
    rfl
  have hflow : settled.inFlow = false := hs.inFlow
  have hsame : settled.indent = indent := hs.indent
  have hnext : s.cursor.advance 1 = s.cursor.past 1 (g :: rest) :=
    Cursor.next_inline (by decide) hs.rest
  rw [takeValue, hcandidate]
  dsimp only
  rw [hsettled, hflow, if_neg Bool.false_ne_true, indentAt?, hcolumn, hsame, opened, opening]
  by_cases hless : indent < column
  · -- the key is the first of a mapping, whose token goes in front of that of the key
    rw [if_pos hless, if_pos hless, if_pos hless]
    dsimp only [insertAt, take, push]
    rw [hnext, hkey.number, Nat.sub_self]
    refine ⟨_, rfl, ⟨rfl, rfl, ?_, hs.depth, hs.done⟩, rfl, rfl, rfl, rfl⟩
    exact congrArg _ hs.indents
  · -- the mapping of the key is open already
    have heq : indent = column := by omega
    rw [if_neg hless, if_neg hless, if_neg hless]
    dsimp only [take, push]
    rw [hnext]
    exact ⟨_, rfl, ⟨rfl, hs.indent.trans heq, hs.indents, hs.depth, hs.done⟩, rfl, rfl, rfl, rfl⟩

theorem takeToken_colon (hs : s.Rests (':' :: g :: rest) indent indents) (hg : isGap g = true) :
    s.takeToken = s.takeValue := by
  have hhead : s.cursor.head = ':' := Cursor.head_eq hs.rest
  have hpeek : s.cursor.peek 1 = g := Cursor.peek_one hs.rest
  simp [takeToken, hhead, hpeek, hg, Cursor.atTriple, endOfText]

/-- The colon behind a key that waits for it, which opens a mapping if need be. -/
theorem gives_colon (hs : s.Rests (':' :: g :: rest) indent indents) (hg : isGap g = true)
    (hkey : s.KeyWaits k t) (hfresh : s.Fresh) (hcolumn : k.place.column = column)
    (hindent : indent ≤ column) (hbehind : column < s.cursor.column)
    (h : ∀ r : Scanner, r.Rests (g :: rest) column (opened indent indents column) →
      r.candidates = [] → r.keyAllowed = false → column < r.cursor.column → r.Yields kinds) :
    s.Gives ((opening indent column .blockMappingStart).length + 2 * kinds.length + 5)
      (opening indent column .blockMappingStart ++ .key :: t.kind :: .value :: kinds) := by
  have hmark : s.cursor.head ≠ byteOrderMark := by
    rw [Cursor.head_eq hs.rest]
    decide
  have hskip : s.skipToToken (s.cursor.rest.length + 1) = s := by
    refine skipToToken_start ?_ _
    rw [hs.rest]
    exact isStart_cons (by decide)
  obtain ⟨r, htake, hr, hcandidates, hallowed, hafter, hkinds⟩ :=
    exists_takeValue hs hkey hcolumn hindent
  have hadvance : s.advance = .ok r := by
    rw [advance_eq hmark, hskip, dropStale_fresh hfresh, bind_ok, resume, unwind_self,
      takeToken_colon hs hg, htake]
    rw [hs.indent]
    omega
  have hyields : r.Yields kinds := h r hr hcandidates hallowed (by omega)
  have hlength : r.held.length = (opening indent column .blockMappingStart).length + 3 := by
    have := congrArg List.length hkinds
    rw [heldKinds, List.length_map, List.length_append] at this
    exact this
  have hwaiting : ∃ c ∈ s.candidates, c.2.number = s.handedOut := by
    rw [hkey.candidates]
    exact ⟨(0, k), List.mem_singleton.2 rfl, hkey.number⟩
  have hgives := gives_advance hs.done (.inr ⟨hfresh, hwaiting⟩) hadvance hyields
  rw [hkinds, List.append_assoc] at hgives
  exact Gives.mono hgives (by omega)

end Colon

/-- The characters that begin tokens other than plain scalars. -/
def signs : List Char :=
  ['\x00', '%', '-', '.', '[', '\x7b', ']', '\x7d', ',', '?', ':', '*', '&', '!', '|', '>', '\'',
    '"', '#', '@', '\x60']

theorem takeToken_word (h : IsWordChar s.cursor.head) : s.takeToken = s.takePlain := by
  have hall : signs.all (fun d => decide ¬IsWordChar d) = true := by decide
  have hne : ∀ d ∈ signs, s.cursor.head ≠ d :=
    fun d hd => wordChar_ne h (of_decide_eq_true (List.all_eq_true.1 hall d hd))
  simp only [signs, List.forall_mem_cons] at hne
  simp [takeToken, Cursor.atTriple, startsPlain, isGap_wordChar h, endOfText, hne]

theorem takePlain_eq {kind : TokenKind} {scan : PlainScan} (hremember : s.remember = .ok r)
    (hread : readPlain r.inFlow r.indent r.cursor = (kind, scan)) : s.takePlain =
      .ok { r.push kind r.mark scan.stop with
        cursor := scan.cursor, keyAllowed := scan.atLineStart } := by
  rw [takePlain, hremember, bind_ok, hread]

/-- A key with its colon, which opens a mapping if need be. -/
theorem ahead_key {key : String} (hkey : IsWord key) (hg : isGap g = true)
    (hs : s.Stands (key.toList ++ ':' :: g :: rest) column indent indents true)
    (hindent : indent ≤ column)
    (h : ∀ r : Scanner, r.Rests (g :: rest) column (opened indent indents column) →
      r.candidates = [] → r.keyAllowed = false → column < r.cursor.column → r.Yields kinds) :
    s.Ahead (opening indent column .blockMappingStart
      ++ .key :: .scalar key true :: .value :: kinds) := by
  obtain ⟨c, more, hcons, hc⟩ := exists_toList_word hkey
  have hhead : IsWordChar s.cursor.head := by
    have hrest := hs.rest
    rw [hcons] at hrest
    rw [Cursor.head_eq hrest]
    exact hc
  obtain ⟨scan, hread, hline, hcursor⟩ := readPlain_word hkey s.indent hg hs.rest
  let t : Token := ⟨.scalar key true, s.mark, scan.stop⟩
  let k : Candidate :=
    ⟨s.handedOut + s.held.length, decide (s.indent = s.cursor.column), s.mark⟩
  let r : Scanner :=
    { s with
      candidates := [(0, k)], cursor := s.cursor.past key.toList.length (':' :: g :: rest)
      held := s.held ++ [t], keyAllowed := false }
  have hresume : s.resume = .ok r := by
    have hcandidates : s.nextCandidates = [(0, k)] := by rw [nextCandidates, hs.allowed, if_pos rfl]
    have hremember := remember_eq hs.depth hs.candidates
    rw [hcandidates] at hremember
    rw [← hs.inFlow] at hread
    rw [resume_eq hs hindent, takeToken_word hhead, takePlain_eq hremember hread, hcursor, hline]
    rfl
  -- a word is short enough for its colon to be found
  have hfresh : r.Fresh := by
    intro c hc
    have hreach : key.toList.length ≤ keyReach := hkey.2.1
    obtain rfl := List.mem_singleton.1 hc
    simp [isStale, r, k, mark, Cursor.mark]
    omega
  -- what is held back in front of the key is handed out, then the colon settles the key
  have hcolon := gives_colon (s := { r with held := [t], handedOut := s.handedOut + s.held.length })
    ⟨rfl, hs.indent, hs.indents, hs.depth, hs.done⟩ hg ⟨rfl, rfl, rfl⟩ hfresh hs.column hindent
    (by
      show column < s.cursor.column + key.toList.length
      rw [hs.column, hcons, List.length_cons]
      omega) h
  have hgives := gives_handOuts (s := r) hs.done hfresh rfl (fun c hc => by
    obtain rfl := List.mem_singleton.1 hc
    exact Nat.le_refl _) hcolon
  refine ⟨r, hresume, Gives.mono hgives ?_⟩
  simp only [List.length_append, List.length_cons]
  omega

end Scanner

end PackageGate.Yaml
