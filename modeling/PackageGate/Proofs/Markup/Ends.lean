import PackageGate.Proofs.Markup.Literal

/-!
# How printed lines end

With colours, a line in a style stands between the code of the style and the code that ends it
(`painted`). Words of the program are printed so, in one line (`print_painted`).

Whatever else stands in a line, its end is known from the end of the marked-up text: if that is an
ordinary character, then the last line that is printed of the text ends in this character
(`exists_last_line`), and in nothing else (`EndsIn.unique`).
-/

namespace PackageGate.Markup

open Report (openTag closeTag)

/-! ## Lines in one style -/

/-- A line in a style, with the codes around it if there are colours. -/
def painted (colours : Bool) (s : Style) (text : String) : String :=
  String.ofList (if colours then coloured (some s.code, text.toList) else text.toList)

/-- The code of the only style that is open. -/
theorem code?_opened (s : Style) (c : Char) : Glyph.code? ⟨c, [s.opened]⟩ = some s.code := by
  cases s <;> rfl

theorem runs_map {s : Style} {text : List Char} (h : text ≠ []) :
    runs (text.map (⟨·, [s.opened]⟩)) = [(some s.code, text)] := by
  induction text with
  | nil => exact absurd rfl h
  | cons c text ih =>
      rw [List.map_cons, runs]
      cases text with
      | nil => simp [runs, code?_opened]
      | cons d text =>
          rw [ih (List.cons_ne_nil _ _)]
          simp [code?_opened]

/-- **Words of the program are printed in one line, in their style.** -/
theorem print_painted (colours : Bool) (s : Style) {words : String}
    (hwords : words.toList.all isProse = true) (hne : words.toList ≠ []) :
    print colours (openTag s ++ words.toList ++ closeTag s) = .ok [painted colours s words] := by
  have hglyphs : glyphs (openTag s ++ words.toList ++ closeTag s) =
      .ok (words.toList.map (⟨·, [s.opened]⟩)) := by
    have hline := glyphs_line s (cut_words (words_of_prose hwords)) fun p hp => isText_chars hp
    rw [shownText_chars] at hline
    simpa [shownEnd, slashes] using hline
  have hsimple : ∀ g ∈ words.toList.map (Glyph.mk · [s.opened]), isSimple g.char = true := by
    intro g hg
    obtain ⟨c, hc, rfl⟩ := List.mem_map.1 hg
    exact List.all_eq_true.1 (all_simple_of_prose hwords) c hc
  rw [print_glyphs hglyphs hsimple, lineText, runs_map hne]
  cases colours <;> simp [painted, Function.comp_def]

/-! ## Last lines -/

/-- The code that ends a style. -/
def reset (colours : Bool) : List Char := if colours then ['\x1b', '[', '0', 'm'] else []

/-- A line in a style ends in a character. -/
def EndsIn (colours : Bool) (c : Char) (line : String) : Prop :=
  ∃ front, line.toList = front ++ [c] ++ reset colours

theorem EndsIn.unique {colours : Bool} {c d : Char} {line : String} (hc : EndsIn colours c line)
    (hd : EndsIn colours d line) : c = d := by
  obtain ⟨front, hfront⟩ := hc
  obtain ⟨front', hfront'⟩ := hd
  rw [hfront, List.append_cancel_right_eq] at hfront'
  exact (List.append_inj' hfront' rfl).2 |> List.singleton_inj.1

theorem endsIn_painted (colours : Bool) (s : Style) {text : String} {c : Char}
    (h : text.toList.getLast? = some c) : EndsIn colours c (painted colours s text) := by
  obtain ⟨front, hfront⟩ := List.getLast?_eq_some_iff.1 h
  cases colours with
  | false => exact ⟨front, by simp [painted, reset, hfront]⟩
  | true =>
      refine ⟨'\x1b' :: '[' :: s.code.toList ++ 'm' :: front, ?_⟩
      simp [painted, coloured, reset, hfront]

/-- What is added to some characters is added to their last line. -/
theorem linesOf_concat (gs : List Glyph) {g : Glyph} (hg : g.char ≠ '\n') :
    ∃ above line, linesOf gs = above ++ [line] ∧ linesOf (gs ++ [g]) = above ++ [line ++ [g]] := by
  induction gs with
  | nil => exact ⟨[], [], rfl, by simp [linesOf, hg]⟩
  | cons a gs ih =>
      obtain ⟨above, line, hline, hlines⟩ := ih
      rw [List.cons_append, linesOf, linesOf, hline, hlines]
      cases above with
      | nil =>
          by_cases ha : a.char = '\n'
          · exact ⟨[[]], line, by simp [ha], by simp [ha]⟩
          · exact ⟨[], a :: line, by simp [ha], by simp [ha]⟩
      | cons first above =>
          by_cases ha : a.char = '\n'
          · exact ⟨[] :: first :: above, line, by simp [ha], by simp [ha]⟩
          · exact ⟨(a :: first) :: above, line, by simp [ha], by simp [ha]⟩

theorem expandTabs_concat (gs : List Glyph) {g : Glyph} (hg : g.char ≠ '\t') (joined : Bool)
    (base : Option Char) (cell : Nat) :
    ∃ front, expandTabs joined base cell (gs ++ [g]) = front ++ [g] := by
  induction gs generalizing joined base cell with
  | nil =>
      refine ⟨[], ?_⟩
      rw [List.nil_append, expandTabs, if_neg hg]
      simp [expandTabs]
  | cons a gs ih =>
      have hbehind (front : List Glyph) {rest : List Glyph} (h : ∃ more, rest = more ++ [g]) :
          ∃ more, front ++ rest = more ++ [g] := by
        obtain ⟨more, rfl⟩ := h
        exact ⟨front ++ more, (List.append_assoc _ _ _).symm⟩
      rw [List.cons_append, expandTabs]
      dsimp only
      split
      · exact hbehind _ (ih _ _ _)
      · split
        · exact hbehind [a] (ih _ _ _)
        · split
          · exact hbehind [a] (ih _ _ _)
          · exact hbehind [a] (ih _ _ _)

theorem runs_concat (gs : List Glyph) (g : Glyph) :
    ∃ front text, runs (gs ++ [g]) = front ++ [(g.code?, text ++ [g.char])] := by
  induction gs with
  | nil => exact ⟨[], [], rfl⟩
  | cons a gs ih =>
      obtain ⟨front, text, hruns⟩ := ih
      rw [List.cons_append, runs, hruns]
      cases front with
      | nil =>
          by_cases ha : a.code? = g.code?
          · exact ⟨[], a.char :: text, by simp [ha]⟩
          · exact ⟨[(a.code?, [a.char])], text, by simp [ha]⟩
      | cons first front =>
          obtain ⟨code, shown⟩ := first
          by_cases ha : a.code? = code
          · exact ⟨(code, a.char :: shown) :: front, text, by simp [ha]⟩
          · exact ⟨(a.code?, [a.char]) :: (code, shown) :: front, text, by simp [ha]⟩

theorem endsIn_lineText (colours : Bool) (gs : List Glyph) {g : Glyph}
    (hcode : g.code?.isSome = true) : EndsIn colours g.char (lineText colours (gs ++ [g])) := by
  cases colours with
  | false => exact ⟨gs.map (·.char), by simp [lineText, reset]⟩
  | true =>
      obtain ⟨code, hcode⟩ := Option.isSome_iff_exists.1 hcode
      obtain ⟨front, text, hruns⟩ := runs_concat gs g
      refine ⟨front.flatMap coloured ++ '\x1b' :: '[' :: code.toList ++ 'm' :: text, ?_⟩
      simp [lineText, hruns, hcode, coloured, reset]

/-- **The last line that is printed ends in the last character that is shown**, if that is an
ordinary one in a style. -/
theorem exists_last_line {colours : Bool} {text : List Char} {gs : List Glyph} {g : Glyph}
    (hglyphs : glyphs text = .ok (gs ++ [g])) (hg : isSimple g.char = true)
    (hcode : g.code?.isSome = true) {lines : List String}
    (hlines : print colours text = .ok lines) :
    ∃ above line, lines = above ++ [line] ∧ EndsIn colours g.char line := by
  simp only [isSimple, Bool.and_eq_true, decide_eq_true_eq] at hg
  obtain ⟨⟨hline, htab⟩, hkept⟩ := hg
  have hfilter : (gs ++ [g]).filter (!isDropped ·.char) =
      gs.filter (!isDropped ·.char) ++ [g] := by
    simp [List.filter_append, hkept]
  rw [print, hglyphs, Except.map, Except.ok.injEq, hfilter] at hlines
  obtain ⟨above, last, _, hlast⟩ := linesOf_concat (gs.filter (!isDropped ·.char)) hline
  obtain ⟨front, hfront⟩ := expandTabs_concat last htab false none 0
  rw [hlast, List.map_append, List.map_singleton, hfront] at hlines
  exact ⟨_, _, hlines.symm, endsIn_lineText colours front hcode⟩

/-- A body that ends with an ordinary character shows it last. -/
theorem exists_shown_last {body : List Char} {ps : List Piece} {k : Nat} (h : Cut 0 body ps k)
    {c : Char} (hc : c ≠ '\\' ∧ c ≠ '[' ∧ c ≠ ']') (hlast : body.getLast? = some c) (s : Style) :
    ∃ front, shownText ps ++ shownEnd s k = front ++ [c] := by
  have hjoin : join ps ++ slashes k = body := join_cut h
  -- no backslash stands at the end of the body
  have hnone : k = 0 := by
    cases k with
    | zero => rfl
    | succ k =>
        rw [← hjoin, slashes, List.replicate_succ', ← List.append_assoc,
          List.getLast?_concat] at hlast
        exact absurd (Option.some.inj hlast).symm hc.1
  subst hnone
  rw [slashes, List.replicate_zero, List.append_nil] at hjoin
  rcases List.eq_nil_or_concat ps with rfl | ⟨qs, p, rfl⟩
  · rw [← hjoin] at hlast
    cases hlast
  · rw [List.concat_eq_append, join_append, join_cons, join_nil, List.append_nil] at hjoin
    rw [← hjoin] at hlast
    cases p with
    | char d =>
        obtain rfl : d = c := by simpa [Piece.written] using hlast
        exact ⟨shownText qs, by simp [shownEnd, slashes, Piece.shown]⟩
    | bracket n =>
        rw [Piece.written, ← List.append_assoc, List.getLast?_concat] at hlast
        exact absurd (Option.some.inj hlast).symm hc.2.1
    | tag n b =>
        rw [Piece.written, ← List.append_assoc, List.getLast?_concat] at hlast
        exact absurd (Option.some.inj hlast).symm hc.2.2

end PackageGate.Markup
