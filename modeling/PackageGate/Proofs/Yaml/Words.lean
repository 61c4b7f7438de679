import PackageGate.Proofs.Yaml.Cursor
import PackageGate.Proofs.Yaml.Tree

/-!
# Words as keys

A word in front of a colon is read as a plain scalar that ends at the colon (`readPlain_word`).
-/

namespace PackageGate.Yaml

/-- A character of a word. -/
def IsWordChar (c : Char) : Prop := c.isLower = true ∨ c = '_'

theorem wordChar_ne {c d : Char} (h : IsWordChar c) (hd : ¬IsWordChar d) : c ≠ d := by
  rintro rfl
  exact hd h

instance (c : Char) : Decidable (IsWordChar c) :=
  inferInstanceAs (Decidable (c.isLower = true ∨ c = '_'))

theorem isGap_wordChar {c : Char} (h : IsWordChar c) : isGap c = false := by
  simp [isGap, isSpaceOrEnd, isBreakOrEnd, isBreak, wordChar_ne h (d := '\t') (by decide),
    wordChar_ne h (d := ' ') (by decide), wordChar_ne h (d := endOfText) (by decide),
    wordChar_ne h (d := '\n') (by decide), wordChar_ne h (d := '\r') (by decide),
    wordChar_ne h (d := '\x85') (by decide), wordChar_ne h (d := '\u2028') (by decide),
    wordChar_ne h (d := '\u2029') (by decide)]

theorem isInline_wordChar {c : Char} (h : IsWordChar c) : IsInline c := by
  have hgap := isGap_wordChar h
  simp only [isGap, isSpaceOrEnd, isBreakOrEnd, Bool.or_eq_false_iff] at hgap
  exact ⟨hgap.2.2.2, wordChar_ne h (by decide)⟩

theorem endsPlain_wordChar {c : Char} (h : IsWordChar c) (next : Char) :
    endsPlain false c next = false := by
  simp [endsPlain, isGap_wordChar h, wordChar_ne h (d := ':') (by decide)]

theorem exists_toList_word {key : String} (hkey : Tree.IsWord key) :
    ∃ c rest, key.toList = c :: rest ∧ IsWordChar c := by
  obtain ⟨hne, _, hword, _⟩ := hkey
  obtain ⟨c, rest, hcons⟩ : ∃ c rest, key.toList = c :: rest :=
    List.exists_cons_of_ne_nil fun hnil => hne (String.toList_eq_nil_iff.1 hnil)
  exact ⟨c, rest, hcons, hword c (by rw [hcons]; exact List.mem_cons_self)⟩

/-- A word runs up to a colon in front of a gap. -/
theorem plainRun_word {word : List Char} (hword : ∀ c ∈ word, IsWordChar c) {g : Char}
    {rest : List Char} (hg : isGap g = true) :
    plainRun false (word ++ ':' :: g :: rest) = word := by
  induction word with
  | nil =>
      rw [List.nil_append, plainRun, List.headD_cons, if_pos]
      rw [endsPlain, hg]
      rfl
  | cons c word ih =>
      rw [List.cons_append, plainRun, endsPlain_wordChar (hword c List.mem_cons_self),
        if_neg Bool.false_ne_true, ih fun d hd => hword d (List.mem_cons_of_mem c hd)]

/-- At a colon there is no blank with which a plain scalar could go on. -/
theorem plainBlanks_colon (fuel : Nat) {c : Cursor} {rest : List Char} (h : c.rest = ':' :: rest) :
    plainBlanks fuel c = (none, false, c) := by
  have hline : c.lineBreak? = none := by
    refine Cursor.lineBreak?_eq_none ?_
    rw [Cursor.head_eq h]
    decide
  have hspan : c.span (· = ' ') = [] := by
    rw [Cursor.span, h]
    rfl
  rw [plainBlanks, hspan, List.length_nil, Cursor.advance, hline]
  rfl

/-- **A word in front of a colon is read as a plain scalar**, and the cursor stands at the colon. -/
theorem readPlain_word {key : String} (hkey : Tree.IsWord key) (outer : Int) {c : Cursor} {g : Char}
    {rest : List Char} (hg : isGap g = true) (h : c.rest = key.toList ++ ':' :: g :: rest) :
    ∃ scan, readPlain false outer c = (.scalar key true, scan) ∧ scan.atLineStart = false
      ∧ scan.cursor = c.past key.toList.length (':' :: g :: rest) := by
  obtain ⟨d, more, hcons, hd⟩ := exists_toList_word hkey
  obtain ⟨-, -, hword, -⟩ := hkey
  have hhead : c.head = d := by
    rw [hcons] at h
    exact Cursor.head_eq h
  have hrun : plainRun false c.rest = d :: more := by
    rw [h, plainRun_word hword hg, hcons]
  have hadvance := Cursor.advance_inline (fun d hd => isInline_wordChar (hword d hd)) h
  have hblanks := plainBlanks_colon c.rest.length
    (c := c.past key.toList.length (':' :: g :: rest)) rfl
  have hruns : plainRuns false (outer + 1) (c.rest.length + 1) [] ⟨[], c.mark, false, c⟩ =
      ⟨[key.toList, []], (c.past key.toList.length (':' :: g :: rest)).mark, false,
        c.past key.toList.length (':' :: g :: rest)⟩ := by
    rw [plainRuns, hrun, hhead, if_neg (by simpa using wordChar_ne hd (by decide)), ← hcons]
    dsimp only
    rw [hadvance, hblanks]
  refine ⟨⟨[key.toList, []], (c.past key.toList.length (':' :: g :: rest)).mark, false,
    c.past key.toList.length (':' :: g :: rest)⟩, ?_, rfl, rfl⟩
  rw [readPlain, hruns]
  simp

end PackageGate.Yaml
