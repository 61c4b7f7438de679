import PackageGate.Proofs.Yaml.Tokens

/-!
# The tokens of a written tree

A written tree is cut into the tokens `Tree.kinds` (`tokens_write`). What stands behind a tree is
the rest of the block around it, which `Continues` describes: a line that is indented no deeper than
that block. Lists and mappings are both written as lines (`ReadsLine`), so that what is said about
lines settles both of them.
-/

namespace PackageGate.Yaml

open Yaml.Tree (IsWord gap newLine)
open Scanner (opened opening)

/-- The kinds of the tokens of a written tree. -/
def Tree.kinds : Tree → List TokenKind
  | .text s => [.scalar s false]
  | .list [] => [.flowSequenceStart, .flowSequenceEnd]
  | .list items =>
    .blockSequenceStart :: (items.map fun t => .blockEntry :: t.kinds).flatten ++ [.blockEnd]
  | .mapping entries =>
    .blockMappingStart ::
      (entries.map fun e => .key :: .scalar e.1 true :: .value :: e.2.kinds).flatten ++ [.blockEnd]
termination_by t => t
decreasing_by
  · decreasing_tactic
  · exact Tree.sizeOf_entry_lt ‹_›

theorem Tree.kinds_cons (t : Tree) (items : List Tree) : (list (t :: items)).kinds =
    .blockSequenceStart :: ((t :: items).map fun t => .blockEntry :: t.kinds).flatten
      ++ [.blockEnd] := by
  rw [kinds]
  exact List.cons_ne_nil t items

/-- What comes behind the line that ends here, in the block around. -/
def Continues (text : List Char) (indent : Int) (indents : List Int) (kinds : List TokenKind) :
    Prop :=
  ∃ m rest, text = newLine m ++ rest ∧ IsStart rest ∧ (m : Int) ≤ indent
    ∧ ∀ r : Scanner, r.Stands rest m indent indents true → r.Ahead kinds

/-- A line of a block in a column is read as certain tokens, behind the one that opens the block if
the line is the first. -/
def ReadsLine (column : Nat) (opener : TokenKind) (line : List Char) (new : List TokenKind) :
    Prop :=
  ∀ (s : Scanner) (indent : Int) (indents : List Int) (rest : List Char) (kinds : List TokenKind),
    s.Stands (line ++ rest) column indent indents true → indent ≤ column →
      Continues rest column (opened indent indents column) kinds →
        s.Ahead (opening indent column opener ++ new ++ kinds)

/-- A tree is read as its tokens, deeper than the block around. -/
def ReadsTree (sp : Spelling) (t : Tree) : Prop :=
  ∀ (s : Scanner) (n column : Nat) (indent : Int) (indents : List Int) (allowed : Bool)
    (rest : List Char) (kinds : List TokenKind),
    s.Stands (t.write sp n ++ rest) column indent indents allowed → indent < column →
      (t.isBlock = true → column = n ∧ allowed = true) → Continues rest indent indents kinds →
        s.Ahead (t.kinds ++ kinds)

section Lines

variable {s : Scanner} {text rest : List Char} {column : Nat} {indent : Int} {indents : List Int}
  {kinds : List TokenKind} {opener : TokenKind} {α : Type} {as : List α} {textOf : α → List Char}
  {kindsOf : α → List TokenKind}

theorem Continues.yields (h : Continues text indent indents kinds)
    (hs : s.Rests text indent indents) (hloose : s.Loose) : s.Yields kinds := by
  obtain ⟨m, rest, rfl, hstart, -, hahead⟩ := h
  exact Scanner.yields_newLine hs hloose hstart hahead

/-- Behind the last line of a block the block around it goes on. -/
theorem Continues.close (h : Continues text indent indents kinds) (hindent : indent < column) :
    Continues text column (indent :: indents) (.blockEnd :: kinds) := by
  obtain ⟨m, rest, htext, hstart, hle, hahead⟩ := h
  exact ⟨m, rest, htext, hstart, by omega, fun r hr => Scanner.ahead_close hr (by omega) hahead⟩

/-- Behind a line of a block the other lines follow. -/
theorem continues_lines (hstart : ∀ a ∈ as, ∀ rest, IsStart (textOf a ++ rest))
    (hread : ∀ a ∈ as, ReadsLine column opener (textOf a) (kindsOf a))
    (hend : Continues rest column indents kinds) :
    Continues ((as.map textOf).flatMap (newLine column ++ ·) ++ rest) column indents
      ((as.map kindsOf).flatten ++ kinds) := by
  induction as with
  | nil => exact hend
  | cons a as ih =>
      have hrest := ih (fun b hb => hstart b (List.mem_cons_of_mem a hb))
        fun b hb => hread b (List.mem_cons_of_mem a hb)
      refine ⟨column, textOf a ++ ((as.map textOf).flatMap (newLine column ++ ·) ++ rest), by simp,
        hstart a List.mem_cons_self _, Int.le_refl _, fun r hr => ?_⟩
      -- the block is open already, so that no token opens it
      have hsame : ¬(column : Int) < column := Int.lt_irrefl _
      have hahead := hread a List.mem_cons_self r column indents _ _ hr (Int.le_refl _)
        (by rw [opened, if_neg hsame]; exact hrest)
      rw [opening, if_neg hsame, List.nil_append] at hahead
      rw [List.map_cons, List.flatten_cons, List.append_assoc]
      exact hahead

/-- **A block is read as its lines** behind the token that opens it. -/
theorem ahead_lines (has : as ≠ []) (hstart : ∀ a ∈ as, ∀ rest, IsStart (textOf a ++ rest))
    (hread : ∀ a ∈ as, ReadsLine column opener (textOf a) (kindsOf a))
    (hs : s.Stands ((newLine column).intercalate (as.map textOf) ++ rest) column indent indents
      true) (hindent : indent < column) (hend : Continues rest column (indent :: indents) kinds) :
    s.Ahead (opener :: (as.map kindsOf).flatten ++ kinds) := by
  obtain ⟨a, as, rfl⟩ := List.exists_cons_of_ne_nil has
  have hrest := continues_lines (fun b hb => hstart b (List.mem_cons_of_mem a hb))
    (fun b hb => hread b (List.mem_cons_of_mem a hb)) hend
  rw [List.map_cons, Tree.intercalate_cons, List.append_assoc] at hs
  have hahead := hread a List.mem_cons_self s indent indents _ _ hs (by omega)
    (by rw [opened, if_pos hindent]; exact hrest)
  rw [opening, if_pos hindent] at hahead
  simpa using hahead

end Lines

/-! ## Trees -/

section Trees

variable {sp : Spelling} {t : Tree} {column : Nat}

theorem isStart_word {key : String} (hkey : IsWord key) (rest : List Char) :
    IsStart (key.toList ++ rest) := by
  obtain ⟨c, more, hcons, hc⟩ := exists_toList_word hkey
  rw [hcons]
  exact ⟨isInline_wordChar hc, wordChar_ne hc (by decide), wordChar_ne hc (by decide)⟩

theorem isStart_write (sp : Spelling) (ht : t.Sound) (n : Nat) (rest : List Char) :
    IsStart (t.write sp n ++ rest) := by
  cases ht with
  | text s =>
      rw [Tree.write]
      exact isStart_cons (by decide)
  | @list items _ =>
      cases items with
      | nil =>
          rw [Tree.write]
          exact isStart_cons (by decide)
      | cons t items =>
          rw [Tree.write_cons, List.map_cons, Tree.intercalate_cons]
          exact isStart_cons (by decide)
  | @mapping entries hne hwords _ _ =>
      obtain ⟨e, entries, rfl⟩ := List.exists_cons_of_ne_nil hne
      rw [Tree.write, List.map_cons, Tree.intercalate_cons]
      simp only [List.append_assoc]
      exact isStart_word (hwords e List.mem_cons_self) _

theorem readsLine_item (ht : t.Sound) (hread : ReadsTree sp t) :
    ReadsLine column .blockSequenceStart ('-' :: ' ' :: t.write sp (column + 2))
      (.blockEntry :: t.kinds) := by
  intro s indent indents rest kinds hs hindent hend
  have hahead := Scanner.ahead_entry hs hindent (isStart_write sp ht _ rest) fun r hr =>
    hread r (column + 2) (column + 2) column _ true rest kinds hr (by omega)
      (fun _ => ⟨rfl, rfl⟩) hend
  rw [List.append_assoc]
  exact hahead

theorem readsLine_entry {key : String} (hkey : IsWord key) (ht : t.Sound) (hread : ReadsTree sp t) :
    ReadsLine column .blockMappingStart
      (key.toList ++ ':' :: gap column t ++ t.write sp (column + 2))
      (.key :: .scalar key true :: .value :: t.kinds) := by
  intro s indent indents rest kinds hs hindent hend
  have hstart := isStart_write sp ht (column + 2) rest
  rw [List.append_assoc]
  rw [gap] at hs
  cases hblock : t.isBlock with
  | true =>
      rw [hblock, if_pos rfl] at hs
      simp only [newLine, List.append_assoc, List.cons_append] at hs
      -- a list or mapping begins on the line below the key
      refine Scanner.ahead_key hkey (by decide) hs hindent fun r hr hcandidates _ _ => ?_
      have hloose : r.Loose := Scanner.loose_nil hr.done hcandidates
      refine Scanner.yields_newLine hr hloose hstart fun u hu => ?_
      exact hread u (column + 2) (column + 2) column _ true rest kinds hu (by omega)
        (fun _ => ⟨rfl, rfl⟩) hend
  | false =>
      rw [hblock, if_neg Bool.false_ne_true] at hs
      simp only [List.append_assoc, List.cons_append, List.nil_append] at hs
      -- anything else stands behind the key, where no other key may start
      refine Scanner.ahead_key hkey (by decide) hs hindent fun r hr hcandidates _ hbehind => ?_
      refine Scanner.yields_line (n := 1) hr hcandidates hstart fun u hu => ?_
      refine hread u (column + 2) _ column _ _ rest kinds hu (by omega) (fun h => ?_) hend
      rw [hblock] at h
      cases h

/-- **A tree is read as its tokens.** -/
theorem readsTree (ht : t.Sound) : ReadsTree sp t := by
  induction ht with
  | text x =>
      intro s n column indent indents allowed rest kinds hs hindent _ hend
      rw [Tree.write] at hs
      rw [Tree.kinds]
      exact Scanner.ahead_quoted hs hindent fun r hr hloose => hend.yields hr hloose
  | @list items hitems ih =>
      intro s n column indent indents allowed rest kinds hs hindent hblock hend
      cases items with
      | nil =>
          rw [Tree.write] at hs
          rw [Tree.kinds]
          exact Scanner.ahead_brackets hs hindent fun r hr hloose => hend.yields hr hloose
      | cons item items =>
          obtain ⟨rfl, rfl⟩ := hblock rfl
          rw [Tree.write_cons] at hs
          rw [Tree.kinds_cons, List.append_assoc]
          exact ahead_lines (List.cons_ne_nil item items)
            (fun t _ rest => (by decide : IsStart ['-']))
            (fun t ht => readsLine_item (hitems t ht) (ih t ht)) hs hindent (hend.close hindent)
  | @mapping entries hne hwords _ hentries ih =>
      intro s n column indent indents allowed rest kinds hs hindent hblock hend
      obtain ⟨rfl, rfl⟩ := hblock rfl
      rw [Tree.write] at hs
      rw [Tree.kinds, List.append_assoc]
      refine ahead_lines hne (fun e he rest => ?_)
        (fun e he => readsLine_entry (hwords e he) (hentries e he) (ih e he)) hs hindent
        (hend.close hindent)
      simp only [List.append_assoc]
      exact isStart_word (hwords e he) _

/-- A written mapping is read up to the end of the document. -/
theorem ahead_mapping {entries : List (String × Tree)} (ht : (Tree.mapping entries).Sound)
    {s : Scanner} (hs : s.Stands ((Tree.mapping entries).write sp 0 ++ ['\n']) 0 (-1) [] true) :
    s.Ahead ((Tree.mapping entries).kinds ++ [.streamEnd]) := by
  cases ht with
  | mapping hne hwords _ hentries =>
      -- behind the last line feed the text is over, which counts as the beginning of a line
      have hend : Continues ['\n'] (0 : Nat) [-1] [.blockEnd, .streamEnd] :=
        ⟨0, [], rfl, by decide, Int.le_refl 0, fun r hr => Scanner.ahead_end hr⟩
      rw [Tree.write] at hs
      rw [Tree.kinds, List.append_assoc]
      refine ahead_lines hne (fun e he rest => ?_) (fun e he => ?_) hs (by decide) hend
      · simp only [List.append_assoc]
        exact isStart_word (hwords e he) _
      · exact readsLine_entry (hwords e he) (hentries e he) (readsTree (hentries e he))

/-! ## The whole document -/

/-- There are not many more tokens than characters in the lines of a block. -/
theorem length_lines_le {α : Type} (textOf : α → List Char) (kindsOf : α → List TokenKind)
    {as : List α} (has : as ≠ [])
    (h : ∀ a ∈ as, (kindsOf a).length + 2 ≤ 4 * (textOf a).length) (column : Nat) :
    (as.map kindsOf).flatten.length + 2
      ≤ 4 * ((newLine column).intercalate (as.map textOf)).length := by
  have hlines : ∀ bs : List α, (∀ a ∈ bs, (kindsOf a).length + 2 ≤ 4 * (textOf a).length) →
      (bs.map kindsOf).flatten.length
        ≤ 4 * ((bs.map textOf).flatMap (newLine column ++ ·)).length := by
    intro bs hbs
    induction bs with
    | nil => exact Nat.zero_le _
    | cons b bs ih =>
        have hb := hbs b List.mem_cons_self
        have hrest := ih fun a ha => hbs a (List.mem_cons_of_mem b ha)
        simp only [List.map_cons, List.flatten_cons, List.flatMap_cons, List.length_append]
        omega
  obtain ⟨a, as, rfl⟩ := List.exists_cons_of_ne_nil has
  have ha := h a List.mem_cons_self
  have hrest := hlines as fun b hb => h b (List.mem_cons_of_mem a hb)
  rw [List.map_cons, List.map_cons, Tree.intercalate_cons]
  simp only [List.flatten_cons, List.length_append]
  omega

/-- There are not many more tokens than characters. -/
theorem length_kinds_le (sp : Spelling) (ht : t.Sound) (n : Nat) :
    t.kinds.length ≤ 4 * (t.write sp n).length := by
  induction ht generalizing n with
  | text s =>
      simp only [Tree.kinds, Tree.write, Tree.quote, List.length_cons, List.length_append]
      omega
  | @list items _ ih =>
      cases items with
      | nil =>
          rw [Tree.kinds, Tree.write]
          decide
      | cons item items =>
          have hle := length_lines_le (fun t => '-' :: ' ' :: t.write sp (n + 2))
            (fun t => .blockEntry :: t.kinds) (List.cons_ne_nil item items)
            (fun t ht => by
              have := ih t ht (n + 2)
              simp only [List.length_cons]
              omega) n
          rw [Tree.write_cons, Tree.kinds_cons]
          simp only [List.length_append, List.length_cons, List.length_nil] at hle ⊢
          omega
  | @mapping entries hne hwords _ _ ih =>
      have hle := length_lines_le
        (fun e => e.1.toList ++ ':' :: gap n e.2 ++ e.2.write sp (n + 2))
        (fun e => .key :: .scalar e.1 true :: .value :: e.2.kinds) hne
        (fun e he => by
          have := ih e he (n + 2)
          obtain ⟨c, more, hcons, _⟩ := exists_toList_word (hwords e he)
          simp only [hcons, List.length_append, List.length_cons]
          omega) n
      rw [Tree.write, Tree.kinds]
      simp only [List.length_append, List.length_cons, List.length_nil] at hle ⊢
      omega

/-- **A written mapping is cut into its tokens**, and no mistake is met. -/
theorem tokens_write (sp : Spelling) {entries : List (String × Tree)}
    (ht : (Tree.mapping entries).Sound) :
    ∃ ts, tokens ((Tree.mapping entries).write sp 0 ++ ['\n']) = (ts, none)
      ∧ ts.map (·.kind) = .streamStart :: (Tree.mapping entries).kinds ++ [.streamEnd] := by
  let text := (Tree.mapping entries).write sp 0 ++ ['\n']
  have hrests : (Scanner.start text).Rests (List.replicate 0 ' ' ++ text) (-1) [] :=
    ⟨rfl, rfl, rfl, rfl, rfl⟩
  have hyields : (Scanner.start text).Yields ((Tree.mapping entries).kinds ++ [.streamEnd]) :=
    Scanner.yields_line hrests rfl (isStart_write sp ht 0 ['\n']) fun r hr => ahead_mapping ht hr
  have hlength := length_kinds_le sp ht 0
  refine hyields (8 * text.length + 16) ?_
  simp only [text, List.length_append, List.length_singleton]
  show 1 + 2 * _ + 1 ≤ _
  omega

end Trees

end PackageGate.Yaml
