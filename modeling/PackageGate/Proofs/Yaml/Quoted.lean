import PackageGate.Proofs.Outcome
import PackageGate.Proofs.Text.Hex
import PackageGate.Proofs.Yaml.Cursor
import PackageGate.Proofs.Yaml.Tree

/-!
# Texts in double quotes

What `Tree.quote` writes is read back: the reader gets the text itself, and the cursor behind the
closing quote (`readQuoted_quote`). The reader goes through runs of plain characters, runs of
blanks, single quotes and escapes; for each there is a lemma that says what it adds to the text.
-/

namespace PackageGate.Yaml

open Text (IsHexDigit hexNumeral)

/-- What is read, with some characters in front. -/
def prepend (front : List Char) (read : Except Stop (List Char × Cursor)) :
    Except Stop (List Char × Cursor) := read.map fun r => (front ++ r.1, r.2)

/-! ## Escapes -/

theorem isInline_of_printable {c : Char} (h : 32 ≤ c.toNat ∧ c.toNat ≤ 126) : IsInline c := by
  have hne : ∀ d : Char, ¬(32 ≤ d.toNat ∧ d.toNat ≤ 126) → c ≠ d := by
    rintro d hd rfl
    exact hd h
  refine ⟨?_, hne byteOrderMark (by decide)⟩
  simp [isBreak, hne '\n' (by decide), hne '\r' (by decide), hne '\x85' (by decide),
    hne '\u2028' (by decide), hne '\u2029' (by decide)]

theorem isInline_of_isHexDigit {c : Char} (h : IsHexDigit c) : IsInline c :=
  have hbounds := h.bounds
  isInline_of_printable ⟨by omega, by omega⟩

theorem hexNumber_eq {digits : List Char} (hdigits : ∀ c ∈ digits, IsHexDigit c) {c : Cursor}
    {rest : List Char} (h : c.rest = digits ++ rest) (before : Nat) :
    hexNumber c digits.length before = .ok (hexNumeral before digits) := by
  induction digits generalizing c before with
  | nil => rfl
  | cons digit digits ih =>
      obtain ⟨d, hd⟩ := hdigits digit List.mem_cons_self
      have hnext := Cursor.next_inline (isInline_of_isHexDigit ⟨d, hd⟩) h
      rw [List.length_cons, hexNumber, Cursor.head_eq h, hd]
      dsimp only
      rw [ih (fun e he => hdigits e (List.mem_cons_of_mem digit he)) (by rw [hnext]; rfl),
        hexNumeral, hexNumeral, List.foldl_cons, hd, Option.getD_some]

theorem characterOf_toNat (ch : Char) : characterOf ch.toNat = .ok ch := by
  have hvalid : ch.toNat < 0xD800 ∨ 0xDFFF < ch.toNat ∧ ch.toNat < 0x110000 := ch.valid
  rw [characterOf, if_neg (by omega), if_neg (by omega), if_neg (by omega), Char.ofNat_toNat]

/-- The escape of a character is read as this character. -/
theorem readEscape_eq (sp : Spelling) (since : Mark) (ch : Char) {c : Cursor} {rest : List Char}
    (h : c.rest = 'U' :: sp.digits ch ++ rest) :
    readEscape since c = .ok ([ch], c.past 9 rest) := by
  have hlength := sp.length_digits ch
  have hdigits := sp.isHexDigit_digits ch
  have hnext : c.next = c.past 1 (sp.digits ch ++ rest) := Cursor.next_inline (by decide) h
  have hbehind : c.next.rest = sp.digits ch ++ rest := by
    rw [hnext]
    rfl
  have hnumber := hexNumber_eq hdigits hbehind 0
  have hadvance := Cursor.advance_inline
    (fun d hd => isInline_of_isHexDigit (hdigits d hd)) hbehind
  rw [hlength, sp.hexNumeral_digits] at hnumber
  rw [hlength] at hadvance
  have hescaped : escaped? 'U' = none := rfl
  have hwidth : escapeWidth? 'U' = some 8 := rfl
  rw [readEscape, Cursor.head_eq h, hescaped]
  dsimp only
  rw [hwidth]
  dsimp only
  rw [hnumber]
  dsimp only
  rw [characterOf_toNat, hadvance, hnext, Cursor.past_past]
  rfl

/-! ## What each piece adds -/

section Pieces

variable {since : Mark} {fuel : Nat} {c : Cursor} {ch : Char} {rest : List Char}

theorem span_special (h : c.rest = ch :: rest) (hch : endsQuotedRun ch = true) :
    c.span (!endsQuotedRun ·) = [] := by
  rw [Cursor.span, h, List.takeWhile_cons, hch]
  rfl

/-- A character that does not end a run goes in front of what is read behind it. -/
theorem quotedText_plain (hch : endsQuotedRun ch = false) (hinline : IsInline ch)
    (h : c.rest = ch :: rest) :
    quotedText '"' since (fuel + 1) c =
      prepend [ch] (quotedText '"' since (fuel + 1) (c.past 1 rest)) := by
  have hspan : c.span (!endsQuotedRun ·) = ch :: (c.past 1 rest).span (!endsQuotedRun ·) := by
    rw [Cursor.span, h, List.takeWhile_cons, hch]
    rfl
  -- both runs end at the same place, and the same piece stands there
  rw [quotedText, hspan, List.length_cons, Cursor.advance, Cursor.next_inline hinline h, quotedText]
  cases quotedPiece '"' since _ with
  | error e => rfl
  | ok piece =>
      obtain ⟨here, after, isClosed⟩ := piece
      cases isClosed with
      | true => rfl
      | false =>
          simp only [bind_ok]
          cases quotedText '"' since fuel after <;> rfl

/-- Behind a piece that does not close the quotes the reading goes on. -/
theorem quotedText_piece {front : List Char} {after : Cursor} (h : c.rest = ch :: rest)
    (hch : endsQuotedRun ch = true) (hpiece : quotedPiece '"' since c = .ok (front, after, false)) :
    quotedText '"' since (fuel + 1) c = prepend front (quotedText '"' since fuel after) := by
  rw [quotedText, span_special h hch, List.length_nil, Cursor.advance, hpiece]
  simp only [bind_ok]
  cases quotedText '"' since fuel after <;> rfl

theorem quotedText_close (h : c.rest = '"' :: rest) :
    quotedText '"' since (fuel + 1) c = .ok ([], c.past 1 rest) := by
  have hpiece : quotedPiece '"' since c = .ok ([], c.past 1 rest, true) := by
    rw [quotedPiece, Cursor.head_eq h, Cursor.next_inline (by decide) h]
    rfl
  rw [quotedText, span_special h (by decide), List.length_nil, Cursor.advance, hpiece]
  rfl

theorem quotedText_quote (h : c.rest = '\'' :: rest) :
    quotedText '"' since (fuel + 1) c =
      prepend ['\''] (quotedText '"' since fuel (c.past 1 rest)) := by
  refine quotedText_piece h (by decide) ?_
  rw [quotedPiece, Cursor.head_eq h, Cursor.next_inline (by decide) h]
  rfl

theorem quotedText_escape (sp : Spelling) (ch : Char)
    (h : c.rest = '\\' :: 'U' :: sp.digits ch ++ rest) :
    quotedText '"' since (fuel + 1) c =
      prepend [ch] (quotedText '"' since fuel (c.past 10 rest)) := by
  refine quotedText_piece h (by decide) ?_
  have hnext := Cursor.next_inline (by decide) h
  have hbehind : c.next.rest = 'U' :: sp.digits ch ++ rest := by
    rw [hnext]
    rfl
  rw [quotedPiece, Cursor.head_eq h]
  show (readEscape since c.next >>= fun r => _) = _
  rw [readEscape_eq sp since ch hbehind, hnext, Cursor.past_past]
  rfl

/-- Spaces in front of something else on the same line. -/
theorem quotedText_spaces {n : Nat} (h : c.rest = List.replicate (n + 1) ' ' ++ ch :: rest)
    (hch : isGap ch = false) :
    quotedText '"' since (fuel + 1) c =
      prepend (List.replicate (n + 1) ' ')
        (quotedText '"' since fuel (c.past (n + 1) (ch :: rest))) := by
  refine quotedText_piece h (by decide) ?_
  simp only [isGap, isSpaceOrEnd, isBreakOrEnd, Bool.or_eq_false_iff, decide_eq_false_iff_not]
    at hch
  obtain ⟨htab, hspace, hend, hbreak⟩ := hch
  have hinline : ∀ d ∈ List.replicate (n + 1) ' ', IsInline d := by
    intro d hd
    rw [List.eq_of_mem_replicate hd]
    decide
  have hspan : c.span isSpaceOrTab = List.replicate (n + 1) ' ' := by
    refine Cursor.span_append (fun d hd => ?_) (fun d hd => ?_) h
    · rw [List.eq_of_mem_replicate hd]
      rfl
    · cases hd
      simp [isSpaceOrTab, htab, hspace]
  have hadvance := Cursor.advance_inline hinline h
  have hhead : (c.past (n + 1) (ch :: rest)).head = ch := rfl
  have hline : (c.past (n + 1) (ch :: rest)).lineBreak? = none :=
    Cursor.lineBreak?_eq_none (by rw [hhead, hbreak])
  rw [List.length_replicate] at hadvance
  rw [quotedPiece, Cursor.head_eq h]
  show (quotedBlanks since c >>= fun r => _) = _
  rw [quotedBlanks, hspan]
  dsimp only
  rw [List.length_replicate, hadvance, hhead, if_neg hend, hline]
  rfl

end Pieces

/-! ## Whole texts -/

variable (sp : Spelling)

theorem quotable_ne {c d : Char} (h : Tree.isQuotable c = true)
    (hd : Tree.isQuotable d = false) : c ≠ d := by
  rintro rfl
  rw [h] at hd
  cases hd

theorem isInline_of_quotable {c : Char} (h : Tree.isQuotable c = true) : IsInline c := by
  simp only [Tree.isQuotable, Bool.and_eq_true, decide_eq_true_eq] at h
  exact isInline_of_printable ⟨h.1.1.1, h.1.1.2⟩

theorem isGap_of_quotable {c : Char} (h : Tree.isQuotable c = true) (hspace : c ≠ ' ') :
    isGap c = false := by
  simp [isGap, isSpaceOrEnd, isBreakOrEnd, (isInline_of_quotable h).1, hspace,
    quotable_ne h (d := '\t') (by decide), quotable_ne h (d := endOfText) (by decide)]

/-- A text as it stands between the quotes. -/
def body (text : List Char) : List Char := text.flatMap (Tree.quoteChar sp)

theorem body_cons (ch : Char) (text : List Char) :
    body sp (ch :: text) = Tree.quoteChar sp ch ++ body sp text := List.flatMap_cons

theorem body_spaces (n : Nat) (text : List Char) :
    body sp (List.replicate n ' ' ++ text) = List.replicate n ' ' ++ body sp text := by
  induction n with
  | zero => rfl
  | succ n ih =>
      rw [List.replicate_succ, List.cons_append, body_cons, ih]
      rfl

/-- What stands behind all spaces is no gap. -/
theorem exists_body_cons {text : List Char} (h : ' ' ∉ text.head?) (rest : List Char) :
    ∃ ch more, body sp text ++ '"' :: rest = ch :: more ∧ isGap ch = false := by
  cases text with
  | nil => exact ⟨'"', rest, rfl, by decide⟩
  | cons ch text =>
      rw [body_cons, Tree.quoteChar]
      split
      · rename_i hch
        refine ⟨ch, _, rfl, isGap_of_quotable hch ?_⟩
        rintro rfl
        exact h rfl
      · exact ⟨'\\', _, rfl, by decide⟩

/-- A text that begins with a space, cut behind all spaces that it begins with. -/
theorem exists_spaces (text : List Char) :
    ∃ n more, ' ' :: text = List.replicate (n + 1) ' ' ++ more ∧ ' ' ∉ more.head?
      ∧ more.length ≤ text.length := by
  induction text with
  | nil => exact ⟨0, [], rfl, by simp, Nat.le_refl 0⟩
  | cons ch text ih =>
      by_cases hch : ch = ' '
      · obtain ⟨n, more, htext, hmore, hlength⟩ := ih
        refine ⟨n + 1, more, ?_, hmore, Nat.le_succ_of_le hlength⟩
        rw [hch, htext]
        rfl
      · exact ⟨0, ch :: text, rfl, by simpa using hch, Nat.le_refl _⟩

/-- The first characters of a text are read together, those that are written for them are passed,
and what is read behind them comes behind them. -/
def ReadsFront (since : Mark) (fuel : Nat) (c : Cursor) (text rest : List Char) : Prop :=
  ∃ front more written fuel', text = front ++ more ∧ body sp text = written ++ body sp more
    ∧ more.length < text.length ∧ (body sp more).length < fuel'
    ∧ quotedText '"' since fuel c = prepend front
        (quotedText '"' since fuel' (c.past written.length (body sp more ++ '"' :: rest)))

section Front

variable {since : Mark} {fuel : Nat} {c : Cursor} {ch : Char} {text rest : List Char}

theorem readsFront_spaces (hfuel : (body sp (' ' :: text)).length < fuel + 1)
    (h : c.rest = body sp (' ' :: text) ++ '"' :: rest) :
    ReadsFront sp since (fuel + 1) c (' ' :: text) rest := by
  obtain ⟨n, more, htext, hmore, hle⟩ := exists_spaces text
  have hbody : body sp (' ' :: text) = List.replicate (n + 1) ' ' ++ body sp more := by
    rw [htext, body_spaces]
  obtain ⟨d, behind, hbehind, hgap⟩ := exists_body_cons sp hmore rest
  rw [hbody, List.length_append, List.length_replicate] at hfuel
  rw [hbody, List.append_assoc, hbehind] at h
  refine ⟨_, more, _, fuel, htext, hbody, Nat.lt_succ_of_le hle, by omega, ?_⟩
  rw [quotedText_spaces h hgap, List.length_replicate, hbehind]

theorem readsFront_quotable (hch : Tree.isQuotable ch = true) (hspace : ch ≠ ' ')
    (hfuel : (body sp (ch :: text)).length < fuel + 1)
    (h : c.rest = body sp (ch :: text) ++ '"' :: rest) :
    ReadsFront sp since (fuel + 1) c (ch :: text) rest := by
  have hbody : body sp (ch :: text) = [ch] ++ body sp text := by
    rw [body_cons, Tree.quoteChar, if_pos hch]
  have hlt : text.length < (ch :: text).length := Nat.lt_succ_self _
  rw [hbody, List.length_append, List.length_singleton] at hfuel
  rw [hbody] at h
  by_cases hquote : ch = '\''
  · -- a single quote ends the run of characters that are read at once
    subst hquote
    exact ⟨_, text, _, fuel, rfl, hbody, hlt, by omega, quotedText_quote h⟩
  · have hplain : endsQuotedRun ch = false := by
      simp [endsQuotedRun, isGap_of_quotable hch hspace, hquote,
        quotable_ne hch (d := '"') (by decide), quotable_ne hch (d := '\\') (by decide)]
    exact ⟨_, text, _, fuel + 1, rfl, hbody, hlt, by omega,
      quotedText_plain hplain (isInline_of_quotable hch) h⟩

theorem readsFront_escaped (hch : ¬Tree.isQuotable ch = true)
    (hfuel : (body sp (ch :: text)).length < fuel + 1)
    (h : c.rest = body sp (ch :: text) ++ '"' :: rest) :
    ReadsFront sp since (fuel + 1) c (ch :: text) rest := by
  have hbody : body sp (ch :: text) = '\\' :: 'U' :: sp.digits ch ++ body sp text := by
    rw [body_cons, Tree.quoteChar, if_neg hch]
  have hten : ('\\' :: 'U' :: sp.digits ch).length = 10 := by
    rw [List.length_cons, List.length_cons, sp.length_digits]
  rw [hbody, List.length_append, hten] at hfuel
  rw [hbody, List.append_assoc] at h
  refine ⟨[ch], text, _, fuel, rfl, hbody, Nat.lt_succ_self _, by omega, ?_⟩
  rw [quotedText_escape sp ch h, hten]

end Front

/-- **What stands between the quotes is read as the text.** -/
theorem quotedText_body (since : Mark) (text : List Char) {rest : List Char} {fuel : Nat}
    (hfuel : (body sp text).length < fuel) {c : Cursor} (h : c.rest = body sp text ++ '"' :: rest) :
    quotedText '"' since fuel c = .ok (text, c.past ((body sp text).length + 1) rest) := by
  -- by induction on the length, since several spaces are read at once
  induction hlength : text.length using Nat.strongRecOn generalizing text fuel c with
  | _ length ih =>
      obtain ⟨fuel, rfl⟩ : ∃ n, fuel = n + 1 := ⟨fuel - 1, by omega⟩
      cases text with
      | nil => exact quotedText_close h
      | cons ch text =>
          have hfront : ReadsFront sp since (fuel + 1) c (ch :: text) rest := by
            by_cases hch : Tree.isQuotable ch = true
            · by_cases hspace : ch = ' '
              · subst hspace
                exact readsFront_spaces sp hfuel h
              · exact readsFront_quotable sp hch hspace hfuel h
            · exact readsFront_escaped sp hch hfuel h
          obtain ⟨front, more, written, fuel', htext, hbody, hshorter, hfuel', hread⟩ := hfront
          rw [hlength] at hshorter
          rw [hread, ih _ hshorter more hfuel' rfl rfl, Cursor.past_past, hbody, htext,
            List.length_append, Nat.add_assoc]
          rfl

/-- **A text that is written in double quotes is read back**, up to the closing quote. -/
theorem readQuoted_quote (s : String) {c : Cursor} {rest : List Char}
    (h : c.rest = Tree.quote sp s ++ rest) :
    readQuoted c = .ok (.scalar s false, c.past (Tree.quote sp s).length rest) := by
  have hwritten : Tree.quote sp s = '"' :: body sp s.toList ++ ['"'] := rfl
  have hlength : (Tree.quote sp s).length = 1 + ((body sp s.toList).length + 1) := by
    rw [hwritten, List.length_append, List.length_cons, List.length_singleton]
    omega
  rw [hwritten, List.append_assoc] at h
  have hnext := Cursor.next_inline (by decide) h
  have hread : quotedText '"' c.mark (c.rest.length + 1) c.next =
      .ok (s.toList, c.next.past ((body sp s.toList).length + 1) rest) := by
    refine quotedText_body sp c.mark s.toList ?_ (by rw [hnext]; rfl)
    rw [h, List.cons_append, List.length_cons, List.length_append]
    omega
  rw [readQuoted, Cursor.head_eq h, hread, bind_ok, hnext, Cursor.past_past, hlength]
  dsimp only
  rw [String.ofList_toList]

end PackageGate.Yaml
