import Mathlib.Data.List.TakeWhile
import PackageGate.Proofs.Markup.Escape
import PackageGate.Validation.Report

/-!
# What a line in a style shows

Every line of the program is a tag that opens a style, some text, and the tag that closes the style
again. If no piece of the text opens or closes a style (`Piece.IsText`), then all that is shown is
in the one style, and no mistake is met: `glyphs_line`. The only thing that may happen is that the
text ends with an odd number of backslashes, which make the closing tag plain. Then it is shown
itself, and the style goes on to the end of the line.
-/

namespace PackageGate.Markup

open Report (openTag closeTag)

/-! ## Pieces that are text -/

/-- A piece that opens and closes no style. -/
def Piece.IsText : Piece → Prop
  | .tag n _ => n % 2 = 1
  | _ => True

/-- What a piece shows, if it is text. -/
def Piece.shown : Piece → List Char
  | .char c => [c]
  | .bracket n => slashes (n - 1) ++ ['[']
  | .tag n body => slashes (n / 2) ++ '[' :: body ++ [']']

/-- What pieces show, if all of them are text. -/
def shownText (ps : List Piece) : List Char := ps.flatMap (·.shown)

@[simp] theorem shownText_nil : shownText [] = [] := rfl

@[simp] theorem shownText_cons (p : Piece) (ps : List Piece) :
    shownText (p :: ps) = p.shown ++ shownText ps := by
  simp [shownText]

@[simp] theorem shownText_append (ps qs : List Piece) :
    shownText (ps ++ qs) = shownText ps ++ shownText qs := by
  simp [shownText]

theorem shownText_chars (text : List Char) : shownText (text.map .char) = text := by
  induction text with
  | nil => rfl
  | cons c text ih => rw [List.map_cons, shownText_cons, ih]; rfl

theorem shownText_replicate (n : Nat) :
    shownText (List.replicate n (.char '\\')) = slashes n := by
  have := shownText_chars (slashes n)
  rwa [slashes, List.map_replicate] at this

theorem isText_escaped (p : Piece) : p.escaped.IsText := by
  cases p with
  | tag n body =>
      show (2 * n + 1) % 2 = 1
      omega
  | char c => trivial
  | bracket n => trivial

theorem isText_chars {text : List Char} {p : Piece} (h : p ∈ text.map Piece.char) : p.IsText := by
  obtain ⟨c, _, rfl⟩ := List.mem_map.1 h
  trivial

theorem isText_mapEscaped {ps : List Piece} {p : Piece} (h : p ∈ ps.map Piece.escaped) :
    p.IsText := by
  obtain ⟨q, _, rfl⟩ := List.mem_map.1 h
  exact isText_escaped q

theorem isText_of_mem_append {ps qs : List Piece} (h : ∀ p ∈ ps, p.IsText)
    (h' : ∀ p ∈ qs, p.IsText) : ∀ p ∈ ps ++ qs, p.IsText := by
  intro p hp
  rcases List.mem_append.1 hp with hp | hp
  · exact h p hp
  · exact h' p hp

theorem sayingsFrom_append (position : Nat) (ps qs : List Piece) :
    sayingsFrom position (ps ++ qs) =
      sayingsFrom position ps ++ sayingsFrom (position + (join ps).length) qs := by
  induction ps generalizing position with
  | nil => simp [sayingsFrom]
  | cons p ps ih =>
      rw [List.cons_append, sayingsFrom, sayingsFrom, ih, List.append_assoc, join_cons,
        List.length_append, Nat.add_assoc]

/-- Characters in front of those that are shown later. -/
theorem glyphsFrom_shown (opened : List Opened) (text : List Char) (rest : List Saying) :
    glyphsFrom opened (.shown text :: rest) =
      (glyphsFrom opened rest).map (text.map (⟨·, opened⟩) ++ ·) := rfl

/-- **Pieces of text show their characters, all in the styles that are open.** -/
theorem glyphsFrom_text {ps : List Piece} (h : ∀ p ∈ ps, p.IsText) (opened : List Opened)
    (position : Nat) (rest : List Saying) :
    glyphsFrom opened (sayingsFrom position ps ++ rest) =
      (glyphsFrom opened rest).map ((shownText ps).map (⟨·, opened⟩) ++ ·) := by
  induction ps generalizing position with
  | nil =>
      rw [sayingsFrom, List.nil_append]
      cases glyphsFrom opened rest <;> rfl
  | cons p ps ih =>
      have hp := h p List.mem_cons_self
      have hps := ih (fun q hq => h q (List.mem_cons_of_mem p hq))
      rw [sayingsFrom, List.append_assoc]
      cases p with
      | char c =>
          rw [Piece.sayings, List.singleton_append, glyphsFrom_shown, hps]
          cases glyphsFrom opened rest <;> simp [Except.map, Piece.shown]
      | bracket n =>
          rw [Piece.sayings, List.singleton_append, glyphsFrom_shown, hps]
          cases glyphsFrom opened rest <;> simp [Except.map, Piece.shown]
      | tag n body =>
          have hodd : n % 2 = 1 := hp
          rw [Piece.sayings, if_pos hodd, List.cons_append, List.singleton_append,
            glyphsFrom_shown, glyphsFrom_shown, hps]
          cases glyphsFrom opened rest <;> simp [Except.map, Piece.shown]

/-! ## Tags of the program -/

/-- The name of a style makes a tag, and stands for itself in it. -/
theorem name_eq (s : Style) : ∃ c b, s.name.toList = c :: b ∧ beginsTag c = true ∧ c ≠ '/' ∧
    '[' ∉ b ∧ ']' ∉ b ∧ '=' ∉ c :: b ∧ trim (c :: b) = c :: b := by
  cases s <;> exact ⟨_, _, rfl, by decide, by decide, by decide, by decide, by decide, by decide⟩

/-- The open style of a tag of the program. -/
def Style.opened (s : Style) : Opened := ⟨s.name, s.name⟩

theorem takeWhile_name (s : Style) : s.name.toList.takeWhile (· ≠ '=') = s.name.toList := by
  obtain ⟨c, b, hname, _, _, _, _, heq, _⟩ := name_eq s
  rw [hname, List.takeWhile_eq_self_iff]
  intro x hx
  rw [decide_eq_true_eq]
  intro hxe
  exact heq (hxe ▸ hx)

theorem opening_name (s : Style) : opening s.name.toList = s.opened := by
  have hdrop : s.name.toList.dropWhile (· ≠ '=') = [] := by
    have := List.takeWhile_append_dropWhile (p := (· ≠ '=')) (l := s.name.toList)
    rw [takeWhile_name] at this
    simpa using this
  rw [opening, takeWhile_name, hdrop, styleName_name]
  rfl

theorem follow_open (s : Style) (position : Nat) (opened : List Opened) :
    follow s.name.toList position opened = .ok (s.opened :: opened) := by
  obtain ⟨c, b, hname, _, hc, _⟩ := name_eq s
  rw [follow, if_neg, opening_name]
  rw [hname, List.head?_cons, Option.some.injEq]
  exact hc

theorem follow_close (s : Style) (position : Nat) (opened : List Opened) :
    follow ('/' :: s.name.toList) position (s.opened :: opened) = .ok opened := by
  have htake : ('/' :: s.name.toList).takeWhile (· ≠ '=') = '/' :: s.name.toList := by
    rw [List.takeWhile_cons_of_pos (by decide), takeWhile_name]
  obtain ⟨c, b, hname, _, _, _, _, _, htrim⟩ := name_eq s
  rw [← hname] at htrim
  have hne : s.name.toList.isEmpty = false := by rw [hname]; rfl
  rw [follow, if_pos (by rfl), close, htake, List.drop_one, List.tail_cons, htrim]
  simp [hne, styleName_name, Style.opened]

theorem splitFrom_openTag (s : Style) (rest : List Char) :
    splitFrom 0 (openTag s ++ rest) = .tag 0 s.name.toList :: splitFrom 0 rest := by
  obtain ⟨c, b, hname, hc, _, hopen, hclose, _⟩ := name_eq s
  have htag : tagBody? (s.name.toList ++ ']' :: rest) = some (s.name.toList, rest) := by
    rw [hname]
    exact tagBody?_eq_some rest hc hopen hclose
  rw [openTag, List.cons_append, List.cons_append, List.append_assoc, List.singleton_append,
    splitFrom_tag 0 htag]

theorem sealed_closeTag (s : Style) : Sealed (closeTag s) := sealed_bracket _

theorem splitFrom_closeTag (s : Style) (k : Nat) :
    splitFrom k (closeTag s) = [.tag k ('/' :: s.name.toList)] := by
  obtain ⟨c, b, hname, hc, _, hopen, hclose, _⟩ := name_eq s
  have htag : tagBody? ('/' :: s.name.toList ++ [']']) = some ('/' :: s.name.toList, []) := by
    have hne : c ≠ '[' ∧ c ≠ ']' := by
      constructor <;> (rintro rfl; exact absurd hc (by decide))
    refine tagBody?_eq_some [] (by decide) ?_ ?_
    · rw [hname, List.mem_cons, not_or]
      exact ⟨Ne.symm hne.1, hopen⟩
    · rw [hname, List.mem_cons, not_or]
      exact ⟨Ne.symm hne.2, hclose⟩
  rw [closeTag, List.cons_append, splitFrom_tag k htag, splitFrom_nil]
  rfl

/-! ## Lines -/

/-- What `k` backslashes in front of the tag that closes a style show. -/
def shownEnd (s : Style) (k : Nat) : List Char :=
  slashes (k / 2) ++ if k % 2 = 1 then closeTag s else []

theorem glyphsFrom_closeTag (s : Style) (k position : Nat) :
    glyphsFrom [s.opened] (sayingsFrom position [.tag k ('/' :: s.name.toList)]) =
      .ok ((shownEnd s k).map (⟨·, [s.opened]⟩)) := by
  rw [sayingsFrom, sayingsFrom, List.append_nil, Piece.sayings, glyphsFrom_shown, shownEnd]
  by_cases hodd : k % 2 = 1
  · rw [if_pos hodd, if_pos hodd, glyphsFrom_shown, glyphsFrom]
    simp [Except.map, closeTag]
  · rw [if_neg hodd, if_neg hodd, glyphsFrom, follow_close]
    simp [glyphsFrom, Except.map]

/-- **A line in a style is shown in this style, and meets no mistake.** -/
theorem glyphs_line (s : Style) {body : List Char} {ps : List Piece} {k : Nat}
    (h : Cut 0 body ps k) (htext : ∀ p ∈ ps, p.IsText) :
    glyphs (openTag s ++ body ++ closeTag s) =
      .ok ((shownText ps ++ shownEnd s k).map (⟨·, [s.opened]⟩)) := by
  have hsplit : split (openTag s ++ body ++ closeTag s) =
      .tag 0 s.name.toList :: (ps ++ [.tag k ('/' :: s.name.toList)]) := by
    rw [split, List.append_assoc, splitFrom_openTag, splitFrom_append h (sealed_closeTag s),
      splitFrom_closeTag]
  rw [glyphs, sayings, hsplit, sayingsFrom, Piece.sayings, if_neg (by decide), List.cons_append,
    List.singleton_append, glyphsFrom_shown, glyphsFrom, follow_open]
  dsimp only
  rw [sayingsFrom_append, glyphsFrom_text htext, glyphsFrom_closeTag]
  simp [Except.map, slashes]

end PackageGate.Markup
