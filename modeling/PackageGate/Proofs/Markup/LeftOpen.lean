import PackageGate.Proofs.Markup.Tags

/-!
# What a text leaves open

Texts are escaped one by one, and what is read is all of them in a row. A text may end in the
beginning of a tag, without the bracket that closes it (`LeavesTag`). Escaping leaves it as it is,
since there is no tag yet. If the next text has a closing bracket before any opening one, so that it
is not sealed, the two make a tag that is in neither of them.

This is the only way in which they do. A text that leaves no tag open is cut as it is by itself,
whatever follows (`Cut.append_closed`). And a tag that is made so counts as one if an even number of
backslashes stands in front of its bracket, as for any other tag (`not_ownTags_line`).
-/

namespace PackageGate.Markup

open Report (openTag closeTag)

/-! ## Beginnings of tags -/

/-- A text behind an opening bracket is the beginning of a tag, without its end. -/
def IsOpening (text : List Char) : Prop :=
  ∃ c rest, text = c :: rest ∧ beginsTag c = true ∧ '[' ∉ rest ∧ ']' ∉ rest

/-- A text leaves a tag open: what stands behind its last opening bracket is the beginning of a
tag. -/
def LeavesTag (text : List Char) : Prop :=
  ∃ front rest, text = front ++ '[' :: rest ∧ IsOpening rest

theorem IsOpening.not_mem {text : List Char} (h : IsOpening text) : '[' ∉ text ∧ ']' ∉ text := by
  obtain ⟨c, rest, rfl, hc, hopen, hclose⟩ := h
  constructor
  · rw [List.mem_cons, not_or]
    refine ⟨?_, hopen⟩
    rintro rfl
    exact absurd hc (by decide)
  · rw [List.mem_cons, not_or]
    refine ⟨?_, hclose⟩
    rintro rfl
    exact absurd hc (by decide)

theorem leavesTag_cons_iff (c : Char) (text : List Char) :
    LeavesTag (c :: text) ↔ c = '[' ∧ IsOpening text ∨ LeavesTag text := by
  constructor
  · rintro ⟨front, rest, htext, hrest⟩
    cases front with
    | nil =>
        obtain ⟨rfl, rfl⟩ := List.cons.inj htext
        exact .inl ⟨rfl, hrest⟩
    | cons d front => exact .inr ⟨front, rest, (List.cons.inj htext).2, hrest⟩
  · rintro (⟨rfl, hopening⟩ | ⟨front, rest, rfl, hrest⟩)
    · exact ⟨[], text, rfl, hopening⟩
    · exact ⟨c :: front, rest, rfl, hrest⟩

/-- Words in front without a bracket leave nothing open. -/
theorem leavesTag_append_iff {words : List Char} (hwords : '[' ∉ words) (text : List Char) :
    LeavesTag (words ++ text) ↔ LeavesTag text := by
  induction words with
  | nil => rfl
  | cons c words ih =>
      rw [List.mem_cons, not_or] at hwords
      rw [List.cons_append, leavesTag_cons_iff, ih hwords.2]
      exact or_iff_right fun h => hwords.1 h.1.symm

theorem LeavesTag.append {text : List Char} (h : LeavesTag text) (front : List Char) :
    LeavesTag (front ++ text) := by
  obtain ⟨before, rest, rfl, hrest⟩ := h
  exact ⟨front ++ before, rest, (List.append_assoc _ _ _).symm, hrest⟩

theorem not_leavesTag_of_not_mem {text : List Char} (h : '[' ∉ text) : ¬LeavesTag text := by
  rintro ⟨front, rest, rfl, _⟩
  exact h (List.mem_append_right _ List.mem_cons_self)

/-- A text leaves a tag open behind a number of backslashes. -/
def LeavesTagBehind (n : Nat) (text : List Char) : Prop :=
  ∃ front rest, text = front ++ (slashes n ++ '[' :: rest) ∧ front.getLast? ≠ some '\\'
    ∧ IsOpening rest

theorem leavesTag_iff (text : List Char) : LeavesTag text ↔ ∃ n, LeavesTagBehind n text := by
  constructor
  · rintro ⟨front, rest, rfl, hrest⟩
    obtain ⟨ps, n, h⟩ := exists_cut 0 front
    have hjoin : join ps ++ slashes n = front := join_cut h
    exact ⟨n, join ps, rest, by rw [← hjoin, List.append_assoc], getLast?_join_cut h, hrest⟩
  · rintro ⟨n, front, rest, rfl, _, hrest⟩
    exact ⟨front ++ slashes n, rest, by rw [List.append_assoc], hrest⟩

/-! ## Escaping what is left open -/

/-- Without a bracket there is nothing to escape but the end. -/
theorem plainText_of_not_mem {n k : Nat} {part : List Char} {ps : List Piece} (h : Cut n part ps k)
    (hpart : '[' ∉ part) : plainText ps ++ slashes k = slashes n ++ part := by
  induction h with
  | nil n => rw [plainText_nil, List.nil_append, List.append_nil]
  | @slash n _ rest _ _ ih =>
      rw [List.mem_cons, not_or] at hpart
      rw [ih hpart.2, slashes, slashes, List.replicate_succ', List.append_assoc,
        List.singleton_append]
  | tag _ _ _ => exact absurd List.mem_cons_self hpart
  | bracket _ _ _ => exact absurd List.mem_cons_self hpart
  | char _ _ _ ih =>
      rw [List.mem_cons, not_or] at hpart
      have hrest := ih hpart.2
      rw [show slashes 0 = [] from rfl, List.nil_append] at hrest
      rw [plainText_char, hrest]

/-- No bracket is lost when a text is escaped. -/
theorem mem_plainText {n k : Nat} {part : List Char} {ps : List Piece} (h : Cut n part ps k)
    (hpart : '[' ∈ part) : '[' ∈ plainText ps := by
  induction h with
  | nil n => exact absurd hpart List.not_mem_nil
  | slash _ ih => exact ih ((List.mem_cons.1 hpart).resolve_left (by decide))
  | tag _ _ _ =>
      rw [plainText_cons, Piece.plain]
      simp
  | bracket _ _ _ =>
      rw [plainText_cons, ← written_escaped]
      simp [Piece.escaped, Piece.written]
  | char _ hopen _ ih =>
      have hrest := ih ((List.mem_cons.1 hpart).resolve_left (Ne.symm hopen))
      rw [plainText_append, plainText_cons]
      exact List.mem_append_right _ (List.mem_append_right _ hrest)

theorem isOpening_of_plainText {k : Nat} {part : List Char} {ps : List Piece} (h : Cut 0 part ps k)
    {j : Nat} (hopening : IsOpening (plainText ps ++ slashes j)) : IsOpening part := by
  have hpart : '[' ∉ part := fun hmem =>
    hopening.not_mem.1 (List.mem_append_left _ (mem_plainText h hmem))
  have hsame : plainText ps ++ slashes k = part := plainText_of_not_mem h hpart
  obtain ⟨c, rest, htext, hc, hopen, hclose⟩ := hopening
  have hslash : ∀ m, ∀ d ∈ slashes m, d = '\\' := fun m d hd => List.eq_of_mem_replicate hd
  cases hplain : plainText ps with
  | nil =>
      -- then it would begin with a backslash
      rw [hplain, List.nil_append] at htext
      have hfirst : c = '\\' := hslash j c (htext ▸ List.mem_cons_self)
      rw [hfirst] at hc
      exact absurd hc (by decide)
  | cons d plain =>
      rw [hplain, List.cons_append] at htext hsame
      obtain ⟨rfl, hrest⟩ := List.cons.inj htext
      have hends : ∀ {b : Char}, b ≠ '\\' → b ∉ rest → b ∉ plain ++ slashes k := by
        intro b hb hmem hnew
        rcases List.mem_append.1 hnew with hnew | hnew
        · exact hmem (hrest ▸ List.mem_append_left _ hnew)
        · exact hb (hslash k b hnew)
      exact ⟨d, _, hsame.symm, hc, hends (by decide) hopen, hends (by decide) hclose⟩

/-- **Escaping leaves no tag open that was not left open before.** -/
theorem leavesTag_of_plainText {n k : Nat} {part : List Char} {ps : List Piece}
    (h : Cut n part ps k) {j : Nat} (hopen : LeavesTag (plainText ps ++ slashes j)) :
    LeavesTag part := by
  have hslashes : ∀ m, '[' ∉ slashes m := not_mem_slashes (by decide)
  induction h with
  | nil n => exact absurd hopen (not_leavesTag_of_not_mem (hslashes j))
  | slash _ ih => exact (ih hopen).append ['\\']
  | @tag _ _ rest body rest' _ htag _ ih =>
      obtain ⟨c, b, hbody, hc, hbopen, _⟩ := eq_cons_of_tagBody? htag
      have hbody' : '[' ∉ body ++ [']'] := by
        rw [hbody, List.cons_append, List.mem_cons, not_or, List.mem_append, not_or]
        refine ⟨?_, hbopen, by decide⟩
        rintro rfl
        exact absurd hc (by decide)
      -- the bracket that closes the tag stands behind the one that opens it
      rw [plainText_tag, leavesTag_append_iff (hslashes _), leavesTag_cons_iff] at hopen
      have hlater := hopen.resolve_left fun h => h.2.not_mem.2 (by simp)
      rw [← List.singleton_append, ← List.append_assoc, leavesTag_append_iff hbody'] at hlater
      have hrest := (ih hlater).append (body ++ [']'])
      rw [List.append_assoc, List.singleton_append, ← eq_of_tagBody? htag] at hrest
      exact hrest.append ['[']
  | bracket _ hcut ih =>
      rw [plainText_bracket, leavesTag_append_iff (hslashes _), leavesTag_cons_iff] at hopen
      rw [leavesTag_cons_iff]
      exact hopen.imp (fun h => ⟨rfl, isOpening_of_plainText hcut h.2⟩) ih
  | char _ hc _ ih =>
      rw [plainText_char, leavesTag_append_iff (hslashes _), leavesTag_cons_iff] at hopen
      exact (ih (hopen.resolve_left fun h => hc h.1)).append [_]

theorem leavesTag_of_escape {text : List Char} (h : LeavesTag (escape text)) : LeavesTag text := by
  obtain ⟨ps, k, hcut⟩ := exists_cut 0 text
  rw [escape_eq hcut] at h
  exact leavesTag_of_plainText hcut h

/-- A text that leaves a tag open is cut in front of its last bracket. -/
theorem LeavesTagBehind.exists_cut {n : Nat} {text : List Char} (h : LeavesTagBehind n text) :
    ∃ ps rest, Cut 0 (join ps ++ slashes n) ps n ∧ text = join ps ++ (slashes n ++ '[' :: rest)
      ∧ IsOpening rest := by
  obtain ⟨front, rest, rfl, hlast, hrest⟩ := h
  obtain ⟨ps, k, hfront⟩ := Markup.exists_cut 0 front
  have hjoin : join ps ++ slashes k = front := join_cut hfront
  have hk : k = 0 := by
    refine Nat.eq_zero_of_not_pos fun hpos => hlast ?_
    obtain ⟨m, rfl⟩ : ∃ m, k = m + 1 := ⟨k - 1, by omega⟩
    rw [← hjoin, slashes, List.replicate_succ', ← List.append_assoc, List.getLast?_concat]
  subst hk
  have hslashes : Cut 0 (slashes n) [] n := by
    have := (Cut.nil n).behind
    rwa [List.append_nil] at this
  have hcut := hfront.append (sealed_words (not_mem_slashes (by decide) n)) hslashes
  rw [show slashes 0 = [] from rfl, List.append_nil] at hjoin
  rw [List.append_nil, ← hjoin] at hcut
  exact ⟨ps, rest, hcut, by rw [hjoin], hrest⟩

/-- What a text leaves open is not escaped: but for its end, all behind its last bracket stays as
it is. -/
theorem escape_leftOpen {n : Nat} {ps : List Piece} {rest : List Char}
    (h : Cut 0 (join ps ++ slashes n) ps n) (hrest : IsOpening rest) :
    ∃ m, escape (join ps ++ (slashes n ++ '[' :: rest)) =
      plainText ps ++ (slashes n ++ '[' :: (rest ++ slashes m)) := by
  obtain ⟨hopen, hclose⟩ := hrest.not_mem
  obtain ⟨qs, k, hqs⟩ := exists_cut 0 rest
  have htag : tagBody? rest = none := by
    obtain ⟨c, rest, rfl, hc, _, _⟩ := hrest
    rw [List.mem_cons, not_or] at hclose
    simp only [tagBody?, hc, if_true, Option.map_eq_none_iff, untilClosing_eq_none_iff]
    exact sealed_words hclose.2
  have hcut := h.append (sealed_bracket rest) (.bracket htag hqs)
  rw [List.append_assoc] at hcut
  have hplain : plainText qs ++ slashes k = rest := plainText_of_not_mem hqs hopen
  obtain ⟨m, hm⟩ : ∃ m, slashes (lastSlashes k) = slashes k ++ slashes m := by
    refine ⟨lastSlashes k - k, ?_⟩
    rw [slashes, slashes, slashes, List.replicate_append_replicate]
    congr 1
    rw [lastSlashes]
    split <;> omega
  refine ⟨m, ?_⟩
  rw [escape_eq hcut, plainText_append, List.append_assoc, plainText_bracket, hm,
    ← List.append_assoc (plainText qs), hplain]

/-- Escaping moves no closing bracket to the other side of an opening one, nor back. -/
theorem sealed_of_plainText {n k : Nat} {part : List Char} {ps : List Piece} (h : Cut n part ps k)
    {j : Nat} (hplain : Sealed (plainText ps ++ slashes j)) : Sealed part := by
  induction h with
  | nil n => exact sealed_words List.not_mem_nil
  | slash _ ih =>
      rw [Sealed, upToBracket_cons (by decide), List.mem_cons, not_or]
      exact ⟨by decide, ih hplain⟩
  | tag _ _ _ => exact sealed_bracket _
  | bracket _ _ _ => exact sealed_bracket _
  | char hc hopen _ ih =>
      rw [plainText_char, Sealed, upToBracket_slashes, upToBracket_cons hopen, List.mem_append,
        not_or, List.mem_cons, not_or] at hplain
      rw [Sealed, upToBracket_cons hopen, List.mem_cons, not_or]
      exact ⟨hplain.2.1, ih hplain.2.2⟩

theorem sealed_escape_iff (text : List Char) : Sealed (escape text) ↔ Sealed text := by
  obtain ⟨ps, k, h⟩ := exists_cut 0 text
  rw [escape_eq h]
  exact ⟨sealed_of_plainText h, sealed_plainText h _⟩

/-- A text that is not sealed has a closing bracket with no other in front of it. -/
theorem exists_of_not_sealed {text : List Char} (h : ¬Sealed text) :
    ∃ front rest, text = front ++ ']' :: rest ∧ '[' ∉ front ∧ ']' ∉ front := by
  have hsome : (untilClosing text).isSome := by
    rw [Option.isSome_iff_ne_none, ne_eq, untilClosing_eq_none_iff]
    exact h
  obtain ⟨⟨front, rest⟩, hcut⟩ := Option.isSome_iff_exists.1 hsome
  exact ⟨front, rest, eq_of_untilClosing hcut, not_mem_of_untilClosing hcut⟩

/-! ## What follows -/

/-- A bracket that opens no tag opens none whatever follows, unless it is left open. -/
theorem tagBody?_closed {text more : List Char} (htext : ¬IsOpening text)
    (hmore : ∀ c ∈ more.head?, beginsTag c = false) (h : tagBody? text = none) :
    tagBody? (text ++ more) = none := by
  cases text with
  | nil =>
      cases more with
      | nil => rfl
      | cons c more => simp [tagBody?, hmore c rfl]
  | cons c text =>
      rw [List.cons_append]
      cases hc : beginsTag c with
      | false => simp [tagBody?, hc]
      | true =>
          simp only [tagBody?, hc, if_true, Option.map_eq_none_iff,
            untilClosing_eq_none_iff] at h ⊢
          rw [upToBracket_append]
          split
          · exact h
          · -- without a bracket the text would be the beginning of a tag
            rename_i hopen
            refine absurd ⟨c, text, rfl, hc, hopen, fun hclose => h ?_⟩ htext
            have hall := upToBracket_append text []
            rw [List.append_nil, if_neg hopen, upToBracket_nil, List.append_nil] at hall
            rwa [hall]

/-- What is left open and what closes it make a tag. -/
theorem tagBody?_of_isOpening {text more : List Char} (h : IsOpening text) (hopen : '[' ∉ more)
    (hclose : ']' ∉ more) (behind : List Char) :
    tagBody? (text ++ more ++ ']' :: behind) = some (text ++ more, behind) := by
  obtain ⟨c, rest, rfl, hc, hopen', hclose'⟩ := h
  have hnot : ∀ {b : Char}, b ∉ rest → b ∉ more → b ∉ rest ++ more := fun h h' hmem =>
    (List.mem_append.1 hmem).elim h h'
  exact tagBody?_eq_some behind hc (hnot hopen' hopen) (hnot hclose' hclose)

/-- **A part that leaves no tag open is cut as it is by itself**, whatever follows, if what follows
does not begin a tag. -/
theorem Cut.append_closed {n k j : Nat} {part more : List Char} {ps qs : List Piece}
    (h : Cut n part ps k) (hpart : ¬LeavesTag part)
    (hmore : ∀ c ∈ more.head?, beginsTag c = false) (h' : Cut k more qs j) :
    Cut n (part ++ more) (ps ++ qs) j := by
  have hrest : ∀ (front : List Char) {rest : List Char}, ¬LeavesTag (front ++ rest) →
      ¬LeavesTag rest := fun front rest hnot hleaves => hnot (hleaves.append front)
  induction h with
  | nil n => exact h'
  | slash _ ih => exact .slash (ih (hrest ['\\'] hpart) h')
  | @tag _ _ rest body rest' _ htag _ ih =>
      refine .tag (tagBody?_append more htag) (ih ?_ h')
      rw [eq_of_tagBody? htag] at hpart
      refine hrest ('[' :: body ++ [']']) ?_
      rwa [List.append_assoc, List.singleton_append, List.cons_append]
  | bracket htag _ ih =>
      rw [leavesTag_cons_iff, not_or, not_and] at hpart
      exact .bracket (tagBody?_closed (hpart.1 rfl) hmore htag) (ih hpart.2 h')
  | @char _ _ c _ _ hslash hopen _ ih =>
      rw [List.append_assoc]
      exact .char hslash hopen (ih (hrest [c] hpart) h')

/-- A part is cut behind its first closing bracket as it is as a whole. -/
theorem Cut.behind_closing {n k : Nat} {front rest : List Char} {ps : List Piece}
    (h : Cut n (front ++ ']' :: rest) ps k) (hfront : '[' ∉ front) :
    ∃ qs, Cut 0 rest qs k ∧ qs <:+ ps := by
  induction front generalizing n ps with
  | nil =>
      cases h with
      | char _ _ hcut => exact ⟨_, hcut, (List.suffix_cons _ _).trans (List.suffix_append _ _)⟩
  | cons c front ih =>
      rw [List.mem_cons, not_or] at hfront
      cases h with
      | slash hcut => exact ih hcut hfront.2
      | tag => exact absurd rfl hfront.1
      | bracket => exact absurd rfl hfront.1
      | char _ _ hcut =>
          obtain ⟨qs, hqs, hsuffix⟩ := ih hcut hfront.2
          exact ⟨qs, hqs, hsuffix.trans ((List.suffix_cons _ _).trans (List.suffix_append _ _))⟩

/-! ## Lines with a tag too many -/

/-- **A line with a tag in its body has not its own tags only.** -/
theorem not_ownTags_line (s : Style) {body tag : List Char} {ps qs : List Piece} {n k : Nat}
    (h : Cut 0 body (ps ++ .tag n tag :: qs) k) (htext : ∀ p ∈ ps, p.IsText) (hn : n % 2 = 0) :
    ¬OwnTags (openTag s ++ body ++ closeTag s) := by
  have hbody : body =
      join ps ++ (slashes n ++ ('[' :: tag ++ (']' :: (join qs ++ slashes k)))) := by
    have hjoin := join_cut h
    rw [show slashes 0 = [] from rfl, List.nil_append, join_append, join_cons] at hjoin
    rw [← hjoin]
    simp [Piece.written]
  have hsplit : split (openTag s ++ body ++ closeTag s) =
      .tag 0 s.name.toList :: (ps ++ .tag n tag :: (qs ++ [.tag k ('/' :: s.name.toList)])) := by
    rw [split, List.append_assoc, splitFrom_openTag, splitFrom_append h (sealed_closeTag s),
      splitFrom_closeTag, List.append_assoc, List.cons_append]
  -- the place of the tag is behind its backslashes
  have htags : tagsIn (openTag s ++ body ++ closeTag s) =
      (s.name.toList, 0) :: (tag, (openTag s ++ join ps ++ slashes n).length) ::
        tagsOf (sayingsFrom ((openTag s ++ join ps).length + (Piece.tag n tag).written.length)
          (qs ++ [.tag k ('/' :: s.name.toList)])) := by
    have hwritten : (Piece.tag 0 s.name.toList).written = openTag s := by
      simp [Piece.written, slashes, openTag]
    rw [tagsIn, sayings, hsplit, sayingsFrom, tagsOf_append, tagsOf_tag, if_neg (by decide),
      sayingsFrom_append, tagsOf_append, tagsOf_text htext, List.nil_append, sayingsFrom,
      tagsOf_append, tagsOf_tag, if_neg (by omega), List.singleton_append, List.singleton_append,
      hwritten]
    simp [slashes, Nat.add_assoc]
  rintro ⟨s', front, body', behind, _, hbehind, hline, hown⟩
  rcases hown with hown | hown
  · have hlength := congrArg List.length (htags.symm.trans hown)
    simp at hlength
  · -- behind the place of its closing tag the line has one opening bracket, here it has two
    obtain ⟨_, hsecond⟩ := List.cons.inj (htags.symm.trans hown)
    have hend : (openTag s ++ join ps ++ slashes n).length =
        (front ++ openTag s' ++ body').length := congrArg Prod.snd (List.cons.inj hsecond).1
    have hsame : openTag s ++ join ps ++ slashes n ++
        (('[' :: tag ++ (']' :: (join qs ++ slashes k))) ++ closeTag s) =
          front ++ openTag s' ++ body' ++ (closeTag s' ++ behind) := by
      rw [← List.append_assoc (front ++ openTag s' ++ body'), ← hline, hbody]
      simp only [List.append_assoc, List.cons_append]
    have hrest := (List.append_inj hsame hend).2
    have hclose : ∀ t : Style, (closeTag t).count '[' = 1 := by
      intro t
      cases t <;> decide
    have hone : (closeTag s' ++ behind).count '[' = 1 := by
      rw [List.count_append, hclose, List.count_eq_zero_of_not_mem hbehind]
    rw [← hrest, List.count_append, hclose, List.cons_append, List.count_cons_self] at hone
    omega

end PackageGate.Markup
