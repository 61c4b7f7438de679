import PackageGate.Proofs.Markup.Shown
import PackageGate.Proofs.Outcome

/-!
# When a text is shown as it is

A text of the user is escaped, put behind words of the program, and printed in a line. It is shown
as it is exactly if two things hold.

* Each backslash in front of an opening bracket belongs to a tag (`KeepsSlashes`). Any other is
  lost.
* What stands behind the text suits its last backslashes. In front of the closing tag one is shown
  as one, but of more than one only half are left, and an odd number makes the tag plain. In front
  of words all are shown as they are, except for a single one, which has been doubled.
-/

namespace PackageGate.Markup

open Report (openTag closeTag)

/-! ## Printing in one line -/

/-- Whether a character is printed in its place: no line end, no tab, and not dropped. -/
def isSimple (c : Char) : Bool := c ≠ '\n' && c ≠ '\t' && !isDropped c

theorem linesOf_simple {gs : List Glyph} (h : ∀ g ∈ gs, isSimple g.char = true) :
    linesOf gs = [gs] := by
  induction gs with
  | nil => rfl
  | cons g gs ih =>
      have hg := h g List.mem_cons_self
      simp only [isSimple, Bool.and_eq_true, decide_eq_true_eq] at hg
      rw [linesOf, ih fun x hx => h x (List.mem_cons_of_mem g hx)]
      simp [hg.1.1]

theorem expandTabs_simple {gs : List Glyph} (h : ∀ g ∈ gs, isSimple g.char = true)
    (joined : Bool) (base : Option Char) (cell : Nat) : expandTabs joined base cell gs = gs := by
  induction gs generalizing joined base cell with
  | nil => rfl
  | cons g gs ih =>
      have hg := h g List.mem_cons_self
      simp only [isSimple, Bool.and_eq_true, decide_eq_true_eq] at hg
      have hgs := ih fun x hx => h x (List.mem_cons_of_mem g hx)
      rw [expandTabs, if_neg hg.1.2]
      split
      · rw [hgs]
      · split
        · rw [hgs]
        · dsimp only
          rw [hgs]

/-- Characters that are printed in their places make one line. -/
theorem print_glyphs {text : List Char} {gs : List Glyph} (hglyphs : glyphs text = .ok gs)
    (h : ∀ g ∈ gs, isSimple g.char = true) (colours : Bool) :
    print colours text = .ok [lineText colours gs] := by
  have hkept : gs.filter (!isDropped ·.char) = gs := by
    refine List.filter_eq_self.2 fun g hg => ?_
    have := h g hg
    simp only [isSimple, Bool.and_eq_true] at this
    exact this.2
  rw [print, hglyphs]
  simp only [Except.map, hkept, linesOf_simple h, List.map_cons, List.map_nil,
    expandTabs_simple h]

/-- Without colours, the line is the characters themselves. -/
theorem print_simple {text shown : List Char} {opened : List Opened}
    (hglyphs : glyphs text = .ok (shown.map (⟨·, opened⟩))) (h : shown.all isSimple = true) :
    print false text = .ok [String.ofList shown] := by
  have hsimple : ∀ g ∈ shown.map (Glyph.mk · opened), isSimple g.char = true := by
    intro g hg
    obtain ⟨c, hc, rfl⟩ := List.mem_map.1 hg
    exact List.all_eq_true.1 h c hc
  rw [print_glyphs hglyphs hsimple, lineText]
  simp [Function.comp_def]

/-! ## Several texts -/

/-- Texts are printed one below the other. -/
theorem printAll_append_eq_ok_iff {colours : Bool} {texts more : List (List Char)}
    {lines : List String} :
    printAll colours (texts ++ more) = .ok lines ↔
      ∃ above below, printAll colours texts = .ok above ∧ printAll colours more = .ok below
        ∧ lines = above ++ below := by
  induction texts generalizing lines with
  | nil => simp [printAll]
  | cons text texts ih =>
      rw [List.cons_append, printAll, printAll]
      cases print colours text with
      | error mistake => simp
      | ok shown =>
          constructor
          · intro h
            obtain ⟨rest, hrest, rfl⟩ := map_eq_ok_iff.1 h
            obtain ⟨above, below, habove, hbelow, rfl⟩ := ih.1 hrest
            refine ⟨shown ++ above, below, ?_, hbelow, (List.append_assoc _ _ _).symm⟩
            rw [habove]
            rfl
          · rintro ⟨_, below, habove, hbelow, rfl⟩
            obtain ⟨above, hrest, rfl⟩ := map_eq_ok_iff.1 habove
            have hall := ih.2 ⟨above, below, hrest, hbelow, rfl⟩
            dsimp only
            rw [hall, List.append_assoc]
            rfl

/-- One text by itself. -/
theorem printAll_singleton {colours : Bool} {text : List Char} {lines : List String} :
    printAll colours [text] = .ok lines ↔ print colours text = .ok lines := by
  rw [printAll]
  cases print colours text with
  | error mistake => simp
  | ok shown => simp [printAll, Except.map]

/-! ## Backslashes in front of brackets -/

/-- Each backslash in front of an opening bracket belongs to a tag. -/
def KeepsSlashes (text : List Char) : Prop :=
  ∀ front rest, text = front ++ '\\' :: '[' :: rest → OpensTag rest

/-- A bracket behind a text without brackets lies in what follows it, and so does the backslash in
front of it if the text ends with another character. -/
theorem split_behind {text front more rest : List Char} {c : Char} (hc : c ≠ '\\') (hc' : c ≠ '[')
    (htext : '[' ∉ text) (h : text ++ c :: more = front ++ '\\' :: '[' :: rest) :
    ∃ front', more = front' ++ '\\' :: '[' :: rest := by
  rcases List.append_eq_append_iff.1 h with ⟨m, rfl, hm⟩ | ⟨m, rfl, hm⟩
  · cases m with
    | nil => exact absurd (List.cons.inj hm).1 hc
    | cons d m => exact ⟨m, (List.cons.inj hm).2⟩
  · cases m with
    | nil => exact absurd (List.cons.inj hm).1.symm hc
    | cons d m =>
        have hm := (List.cons.inj hm).2
        cases m with
        | nil => exact absurd (List.cons.inj hm).1.symm hc'
        | cons e m =>
            obtain ⟨rfl, _⟩ : '[' = e ∧ rest = m ++ c :: more := List.cons.inj hm
            simp at htext

/-- What is said of a text is said of each rest of it. -/
theorem KeepsSlashes.rest {front rest : List Char} {c : Char}
    (h : KeepsSlashes (front ++ c :: rest)) : KeepsSlashes rest := by
  intro front' after hrest
  subst hrest
  exact h (front ++ c :: front') after (by simp)

theorem keepsSlashes_slashes (n : Nat) : KeepsSlashes (slashes n) := by
  intro front rest heq
  exact absurd (heq ▸ by simp) (not_mem_slashes (by decide : '[' ≠ '\\') n)

/-- Backslashes in front of another character are in front of no bracket. -/
theorem keepsSlashes_char {c : Char} (hc : c ≠ '\\') (hopen : c ≠ '[') (n : Nat)
    (rest : List Char) : KeepsSlashes (slashes n ++ c :: rest) ↔ KeepsSlashes rest := by
  constructor
  · exact KeepsSlashes.rest
  · intro hkeep front after htext
    have hslash : '[' ∉ slashes n := not_mem_slashes (by decide) n
    obtain ⟨front', hfront⟩ := split_behind hc hopen hslash htext
    exact hkeep front' after hfront

/-- Backslashes in front of a bracket that opens no tag are kept if there are none. -/
theorem keepsSlashes_bracket {rest : List Char} (htag : tagBody? rest = none) (n : Nat) :
    KeepsSlashes (slashes n ++ '[' :: rest) ↔ n = 0 ∧ KeepsSlashes rest := by
  constructor
  · intro hkeep
    refine ⟨?_, hkeep.rest⟩
    rcases Nat.eq_zero_or_pos n with hzero | hpos
    · exact hzero
    · exfalso
      obtain ⟨m, rfl⟩ : ∃ m, n = m + 1 := ⟨n - 1, by omega⟩
      -- the last of the backslashes belongs to no tag
      have hopens : OpensTag rest := hkeep (slashes m) rest (by
        rw [slashes, List.replicate_succ', List.append_assoc]; rfl)
      rw [← isSome_tagBody?_iff, htag] at hopens
      cases hopens
  · rintro ⟨rfl, hkeep⟩ front after htext
    rw [slashes, List.replicate_zero, List.nil_append] at htext
    cases front with
    | nil => exact absurd (List.cons.inj htext).1 (by decide)
    | cons d front => exact hkeep front after (List.cons.inj htext).2

/-- Backslashes in front of a tag are kept. The tag itself holds no bracket, so the next one comes
behind its end. -/
theorem keepsSlashes_tag {rest body rest' : List Char}
    (htag : tagBody? rest = some (body, rest')) (n : Nat) :
    KeepsSlashes (slashes n ++ '[' :: rest) ↔ KeepsSlashes rest' := by
  have heq := eq_of_tagBody? htag
  obtain ⟨c, b, rfl, hc, hopen, _⟩ := eq_cons_of_tagBody? htag
  constructor
  · intro hkeep
    rw [heq, show slashes n ++ '[' :: (c :: b ++ ']' :: rest') =
      (slashes n ++ '[' :: c :: b) ++ ']' :: rest' by simp] at hkeep
    exact hkeep.rest
  · intro hkeep front after htext
    rcases List.append_eq_append_iff.1 htext with ⟨m, rfl, hm⟩ | ⟨m, hm, hm'⟩
    · -- the backslash stands behind those in front of the tag
      cases m with
      | nil => exact absurd (List.cons.inj hm).1 (by decide)
      | cons d m =>
          have hrest : rest = m ++ '\\' :: '[' :: after := (List.cons.inj hm).2
          rw [heq] at hrest
          have hbody : '[' ∉ c :: b := by
            rw [List.mem_cons, not_or]
            refine ⟨?_, hopen⟩
            rintro rfl
            exact absurd hc (by decide)
          obtain ⟨front', hfront⟩ := split_behind (by decide : ']' ≠ '\\') (by decide) hbody hrest
          exact hkeep front' after hfront
    · -- it is the last of those
      cases m with
      | nil => exact absurd (List.cons.inj hm').1 (by decide)
      | cons d m =>
          obtain ⟨_, hm'⟩ := List.cons.inj hm'
          cases m with
          | nil =>
              obtain ⟨_, rfl⟩ := List.cons.inj hm'
              rw [← isSome_tagBody?_iff, htag]
              rfl
          | cons e m =>
              obtain ⟨rfl, _⟩ := List.cons.inj hm'
              have hmem : '[' ∈ slashes n := hm ▸ by simp
              exact absurd hmem (not_mem_slashes (by decide) n)

/-- **The backslashes of a text are kept if no piece of it is a bracket behind backslashes.** -/
theorem keepsSlashes_iff {n k : Nat} {part : List Char} {ps : List Piece} (h : Cut n part ps k) :
    KeepsSlashes (slashes n ++ part) ↔ ∀ m, .bracket m ∈ ps → m = 0 := by
  induction h with
  | nil n =>
      rw [List.append_nil]
      exact ⟨fun _ m hm => absurd hm List.not_mem_nil, fun _ => keepsSlashes_slashes n⟩
  | @slash n _ rest _ _ ih =>
      refine Iff.trans ?_ ih
      rw [slashes, slashes, List.replicate_succ', List.append_assoc, List.singleton_append]
  | tag htag _ ih =>
      rw [keepsSlashes_tag htag]
      simp only [List.mem_cons, reduceCtorEq, false_or]
      exact ih
  | @bracket n _ rest ps htag _ ih =>
      have hrest : KeepsSlashes rest ↔ ∀ m, .bracket m ∈ ps → m = 0 := ih
      rw [keepsSlashes_bracket htag, hrest]
      simp only [List.mem_cons, Piece.bracket.injEq, forall_eq_or_imp]
  | @char n _ c rest ps hne hopen _ ih =>
      rw [keepsSlashes_char hne hopen]
      have hmem : ∀ m, .bracket m ∈ List.replicate n (Piece.char '\\') ++ .char c :: ps ↔
          .bracket m ∈ ps := by
        intro m
        simp [List.mem_replicate]
      simp only [hmem]
      exact ih

/-! ## Backslashes at the end -/

/-- How many backslashes a text ends with. -/
def endSlashes (text : List Char) : Nat := (text.reverse.takeWhile (· = '\\')).length

theorem endSlashes_cut {k : Nat} {text : List Char} {ps : List Piece} (h : Cut 0 text ps k) :
    endSlashes text = k := by
  have hjoin := join_cut h
  rw [show slashes 0 = [] from rfl, List.nil_append] at hjoin
  have hlast := getLast?_join_cut h
  rw [← List.head?_reverse] at hlast
  rw [endSlashes, ← hjoin, List.reverse_append, slashes, List.reverse_replicate,
    List.takeWhile_append_of_pos (by simp +contextual [List.mem_replicate])]
  cases hrev : (join ps).reverse with
  | nil => simp
  | cons c rest =>
      rw [hrev, List.head?_cons, ne_eq, Option.some.injEq] at hlast
      simp [hlast]

/-! ## Escaped texts -/

/-- Backslashes in front of another character are told apart by their number. -/
theorem slashes_append_inj {c : Char} (hc : c ≠ '\\') {m n : Nat} {x y : List Char} :
    slashes m ++ c :: x = slashes n ++ c :: y ↔ m = n ∧ x = y := by
  induction m generalizing n with
  | zero =>
      cases n with
      | zero => simp [slashes]
      | succ n => simp [slashes, List.replicate_succ, hc]
  | succ m ih =>
      cases n with
      | zero => simp [slashes, List.replicate_succ, Ne.symm hc]
      | succ n => simpa [slashes, List.replicate_succ] using ih

theorem slashes_injective {m n : Nat} (h : slashes m = slashes n) : m = n := by
  simpa [slashes] using congrArg List.length h

/-- A single backslash at the end is doubled. -/
theorem lastSlashes_eq_iff (k : Nat) : lastSlashes k = k ↔ k ≠ 1 := by
  rw [lastSlashes]
  split <;> omega

/-- The pieces of an escaped text show the text up to the first bracket that loses a backslash. -/
theorem shownText_escaped_iff (ps : List Piece) (x y : List Char) :
    shownText (ps.map Piece.escaped) ++ x = join ps ++ y ↔
      (∀ m, .bracket m ∈ ps → m = 0) ∧ x = y := by
  induction ps with
  | nil => simp
  | cons p ps ih =>
      rw [List.map_cons, shownText_cons, join_cons, List.append_assoc, List.append_assoc]
      cases p with
      | char c =>
          rw [show (Piece.char c).escaped.shown = (Piece.char c).written from rfl,
            List.append_cancel_left_eq, ih]
          simp
      | tag n body =>
          have hhalf : (2 * n + 1) / 2 = n := by omega
          rw [Piece.escaped, Piece.shown, hhalf,
            show slashes n ++ '[' :: body ++ [']'] = (Piece.tag n body).written from rfl,
            List.append_cancel_left_eq, ih]
          simp
      | bracket n =>
          cases n with
          | zero =>
              rw [show (Piece.bracket 0).escaped.shown = (Piece.bracket 0).written from rfl,
                List.append_cancel_left_eq, ih]
              simp
          | succ n =>
              constructor
              · intro h
                exfalso
                simp [Piece.escaped, Piece.shown, Piece.written, slashes,
                  List.replicate_succ'] at h
              · rintro ⟨h, _⟩
                exact absurd (h (n + 1) List.mem_cons_self) (Nat.succ_ne_zero n)

theorem shownEnd_iff (s : Style) (k : Nat) : shownEnd s (lastSlashes k) = slashes k ↔ k ≤ 1 := by
  have hlen : (closeTag s).length ≠ 0 := by simp [closeTag]
  rw [shownEnd, lastSlashes]
  constructor
  · intro h
    refine Nat.le_of_not_lt fun hk => ?_
    rw [if_neg (by omega)] at h
    by_cases hodd : k % 2 = 1
    · -- the tag is shown, and has other characters than backslashes
      rw [if_pos hodd] at h
      have hmem : '[' ∈ slashes k := by rw [← h]; simp [closeTag]
      exact not_mem_slashes (by decide) k hmem
    · -- only half of the backslashes are left
      rw [if_neg hodd, List.append_nil] at h
      have := slashes_injective h
      omega
  · intro hk
    have hsmall : k = 0 ∨ k = 1 := by omega
    rcases hsmall with rfl | rfl <;> rfl

/-! ## Lines of the program -/

/-- Whether a character of the program's words is printed in its place and belongs to no markup. -/
def isProse (c : Char) : Bool := isSimple c && c ≠ '\\' && c ≠ '[' && c ≠ ']'

theorem isProse_iff {c : Char} :
    isProse c = true ↔ isSimple c = true ∧ c ≠ '\\' ∧ c ≠ '[' ∧ c ≠ ']' := by
  simp [isProse, and_assoc]

theorem all_simple_of_prose {words : List Char} (h : words.all isProse = true) :
    words.all isSimple = true := by
  rw [List.all_eq_true] at h ⊢
  exact fun c hc => (isProse_iff.1 (h c hc)).1

theorem all_simple_slashes (n : Nat) : (slashes n).all isSimple = true := by
  rw [List.all_eq_true]
  intro c hc
  rw [List.eq_of_mem_replicate hc]
  decide

theorem all_simple_closeTag (s : Style) : (closeTag s).all isSimple = true := by
  cases s <;> decide

theorem all_simple_shownEnd (s : Style) (k : Nat) : (shownEnd s k).all isSimple = true := by
  rw [shownEnd, List.all_append, all_simple_slashes, Bool.true_and]
  split
  · exact all_simple_closeTag s
  · rfl

/-- What pieces show is in the text that they are cut from, apart from backslashes. -/
theorem all_simple_shownText {ps : List Piece} (h : (join ps).all isSimple = true) :
    (shownText ps).all isSimple = true := by
  induction ps with
  | nil => rfl
  | cons p ps ih =>
      rw [join_cons, List.all_append, Bool.and_eq_true] at h
      rw [shownText_cons, List.all_append, ih h.2, Bool.and_true]
      cases p with
      | char c => exact h.1
      | bracket n =>
          show (slashes (n - 1) ++ ['[']).all isSimple = true
          rw [List.all_append, all_simple_slashes]
          decide
      | tag n body =>
          have hp := h.1
          rw [Piece.written, List.append_assoc, List.all_append, all_simple_slashes] at hp
          rw [Piece.shown, List.append_assoc, List.all_append, all_simple_slashes]
          exact hp

/-- Escaping brings in no other characters than backslashes. -/
theorem all_simple_plainText {ps : List Piece} (h : (join ps).all isSimple = true) :
    (plainText ps).all isSimple = true := by
  induction ps with
  | nil => rfl
  | cons p ps ih =>
      rw [join_cons, List.all_append, Bool.and_eq_true] at h
      rw [plainText_cons, List.all_append, ih h.2, Bool.and_true]
      cases p with
      | char c => exact h.1
      | bracket n => exact h.1
      | tag n body =>
          have hp := h.1
          rw [Piece.written, List.append_assoc, List.all_append, all_simple_slashes] at hp
          rw [Piece.plain, List.append_assoc, List.all_append, all_simple_slashes]
          exact hp

theorem join_simple {k : Nat} {text : List Char} {ps : List Piece} (h : Cut 0 text ps k)
    (hsimple : text.all isSimple = true) : (join ps).all isSimple = true := by
  have hjoin : join ps ++ slashes k = text := join_cut h
  rw [← hjoin, List.all_append, Bool.and_eq_true] at hsimple
  exact hsimple.1

theorem all_simple_escape {text : List Char} (h : text.all isSimple = true) :
    (escape text).all isSimple = true := by
  obtain ⟨ps, k, hcut⟩ := exists_cut 0 text
  rw [escape_eq hcut, List.all_append, all_simple_plainText (join_simple hcut h),
    all_simple_slashes]
  rfl

theorem words_of_prose {words : List Char} (h : words.all isProse = true) :
    ∀ c ∈ words, c ≠ '\\' ∧ c ≠ '[' := by
  intro c hc
  obtain ⟨_, hslash, hopen, _⟩ := isProse_iff.1 (List.all_eq_true.1 h c hc)
  exact ⟨hslash, hopen⟩

/-- A line in a style is printed as one line. -/
theorem print_line (s : Style) {body : List Char} {ps : List Piece} {k : Nat}
    (h : Cut 0 body ps k) (htext : ∀ p ∈ ps, p.IsText) (hsimple : body.all isSimple = true) :
    print false (openTag s ++ body ++ closeTag s) =
      .ok [String.ofList (shownText ps ++ shownEnd s k)] := by
  refine print_simple (glyphs_line s h htext) ?_
  rw [List.all_append, all_simple_shownText (join_simple h hsimple), all_simple_shownEnd]
  rfl

/-- Words of the program are printed as they are. -/
theorem print_words (s : Style) {words : List Char} (hwords : words.all isProse = true) :
    print false (openTag s ++ words ++ closeTag s) = .ok [String.ofList words] := by
  have hline := print_line s (cut_words (words_of_prose hwords)) (fun p hp => isText_chars hp)
    (all_simple_of_prose hwords)
  rwa [shownText_chars, show shownEnd s 0 = [] from rfl, List.append_nil] at hline

/-- **A text in front of the closing tag** makes one line, which shows the text as it is exactly if
no backslash is lost and at most one stands at its end. -/
theorem print_before_tag (s : Style) {words text : List Char} (hwords : words.all isProse = true)
    (htext : text.all isSimple = true) :
    ∃ shown, print false (openTag s ++ (words ++ escape text) ++ closeTag s) =
        .ok [String.ofList shown]
      ∧ (shown = words ++ text ↔ KeepsSlashes text ∧ endSlashes text ≤ 1) := by
  obtain ⟨ps, k, h⟩ := exists_cut 0 text
  have hcut := Cut.words (words_of_prose hwords) (cut_escape h)
  refine ⟨_, print_line s hcut ?_ ?_, ?_⟩
  · exact isText_of_mem_append (fun p => isText_chars) fun p => isText_mapEscaped
  · rw [List.all_append, all_simple_of_prose hwords, all_simple_escape htext]
    rfl
  · have hjoin : join ps ++ slashes k = text := join_cut h
    have hkeeps : KeepsSlashes text ↔ _ := keepsSlashes_iff h
    rw [shownText_append, shownText_chars, List.append_assoc, List.append_cancel_left_eq, hkeeps,
      endSlashes_cut h, ← shownEnd_iff s, ← shownText_escaped_iff, hjoin]

/-- **A text in front of words** makes one line, which shows the text as it is exactly if no
backslash is lost and not just one stands at its end. -/
theorem print_before_words (s : Style) {words text more : List Char}
    (hwords : words.all isProse = true) (htext : text.all isSimple = true)
    (hmore : more.all isProse = true) (hne : more ≠ []) :
    ∃ shown, print false (openTag s ++ (words ++ (escape text ++ more)) ++ closeTag s) =
        .ok [String.ofList shown]
      ∧ (shown = words ++ (text ++ more) ↔ KeepsSlashes text ∧ endSlashes text ≠ 1) := by
  obtain ⟨ps, k, h⟩ := exists_cut 0 text
  obtain ⟨c, more, rfl⟩ := List.exists_cons_of_ne_nil hne
  have hprose := isProse_iff.1 (List.all_eq_true.1 hmore c List.mem_cons_self)
  have hseal : Sealed (c :: more) := sealed_words fun hclose =>
    (isProse_iff.1 (List.all_eq_true.1 hmore ']' hclose)).2.2.2 rfl
  have hmore' := hmore
  rw [List.all_cons, Bool.and_eq_true] at hmore'
  have hend := cut_words (words_of_prose hmore'.2)
  have hcut := Cut.words (words_of_prose hwords) <| (cut_escape h).append hseal
    (.char hprose.2.1 hprose.2.2.1 hend)
  refine ⟨_, print_line s hcut ?_ ?_, ?_⟩
  · have hslashes : List.replicate (lastSlashes k) (Piece.char '\\') =
        (slashes (lastSlashes k)).map .char := by rw [slashes, List.map_replicate]
    rw [hslashes, ← List.map_cons]
    exact isText_of_mem_append (fun p => isText_chars) <|
      isText_of_mem_append (fun p => isText_mapEscaped) <|
        isText_of_mem_append (fun p => isText_chars) fun p => isText_chars
  · rw [List.all_append, List.all_append, all_simple_of_prose hwords, all_simple_escape htext,
      all_simple_of_prose hmore]
    rfl
  · have hjoin : join ps ++ (slashes k ++ c :: more) = text ++ c :: more := by
      rw [← List.append_assoc, show join ps ++ slashes k = text from join_cut h]
    have hkeeps : KeepsSlashes text ↔ _ := keepsSlashes_iff h
    rw [shownText_append, shownText_chars, shownText_append, shownText_append,
      shownText_replicate, ← List.map_cons, shownText_chars, show shownEnd s 0 = [] from rfl,
      List.append_nil, List.append_cancel_left_eq, hkeeps, endSlashes_cut h,
      ← hjoin, shownText_escaped_iff, slashes_append_inj hprose.2.1, lastSlashes_eq_iff,
      and_iff_left rfl]

end PackageGate.Markup
