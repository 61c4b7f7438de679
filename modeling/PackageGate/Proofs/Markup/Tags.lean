import PackageGate.Proofs.Markup.Shown

/-!
# The tags of a line

What marked-up text is read as depends on its tags only: all else is shown. `tagsIn` lists the tags
of a text with their places, and a text is mistaken exactly if one of them cannot be followed.

A line of the program should have no other tags than its own: the one that opens its style, which
is the first bracket of the line, and perhaps the one that closes it at the end. `OwnTags` says so,
and gives the places of both, so that no other text can be taken for them. It holds of every line
whose body is cut into pieces of text, whatever they are (`ownTags_line`).
-/

namespace PackageGate.Markup

open Report (openTag closeTag)

/-! ## Tags -/

/-- The tags among what is said, each with its place. -/
def tagsOf (said : List Saying) : List (List Char × Nat) :=
  said.filterMap fun s => match s with
    | .tag body position => some (body, position)
    | .shown _ => none

@[simp] theorem tagsOf_append (said more : List Saying) :
    tagsOf (said ++ more) = tagsOf said ++ tagsOf more := List.filterMap_append

/-- The tags that marked-up text is read as having, each with its place. -/
def tagsIn (text : List Char) : List (List Char × Nat) := tagsOf (sayings text)

/-- The open styles behind some tags. -/
def followAll (opened : List Opened) (tags : List (List Char × Nat)) :
    Except Mistake (List Opened) :=
  tags.foldlM (fun opened tag => follow tag.1 tag.2 opened) opened

theorem followAll_cons (opened : List Opened) (body : List Char) (position : Nat)
    (tags : List (List Char × Nat)) : followAll opened ((body, position) :: tags) =
      follow body position opened >>= fun o => followAll o tags := rfl

/-- **Only tags can be mistaken.** -/
theorem glyphsFrom_eq_ok_of_followAll {opened after : List Opened} {said : List Saying}
    (h : followAll opened (tagsOf said) = .ok after) :
    ∃ shown, glyphsFrom opened said = .ok shown := by
  induction said generalizing opened with
  | nil => exact ⟨[], rfl⟩
  | cons s said ih =>
      cases s with
      | shown text =>
          obtain ⟨shown, hshown⟩ := ih h
          rw [glyphsFrom_shown, hshown]
          exact ⟨_, rfl⟩
      | tag body position =>
          rw [show tagsOf (.tag body position :: said) = (body, position) :: tagsOf said from rfl,
            followAll_cons] at h
          rw [glyphsFrom]
          cases hfollow : follow body position opened with
          | error mistake =>
              rw [hfollow] at h
              cases h
          | ok next =>
              rw [hfollow] at h
              exact ih h

/-- Pieces of text hold no tag. -/
theorem tagsOf_text {ps : List Piece} (h : ∀ p ∈ ps, p.IsText) (position : Nat) :
    tagsOf (sayingsFrom position ps) = [] := by
  induction ps generalizing position with
  | nil => rfl
  | cons p ps ih =>
      have hp := h p List.mem_cons_self
      rw [sayingsFrom, tagsOf_append, ih fun q hq => h q (List.mem_cons_of_mem p hq)]
      cases p with
      | char c => rfl
      | bracket n => rfl
      | tag n body =>
          have hodd : n % 2 = 1 := hp
          rw [Piece.sayings, if_pos hodd]
          rfl

/-- Whether a tag is one depends on the number of backslashes in front of it. -/
theorem tagsOf_tag (position n : Nat) (body : List Char) :
    tagsOf (Piece.sayings position (.tag n body)) =
      if n % 2 = 1 then [] else [(body, position + n)] := by
  rw [Piece.sayings]
  split <;> rfl

/-! ## Lines in a style -/

/-- A line of the program has its own tags only: the one that opens its style, with the first
bracket of the line, and perhaps the one that closes the style again behind the body. -/
def OwnTags (line : List Char) : Prop :=
  ∃ (s : Style) (front body behind : List Char),
    '[' ∉ front ∧ '[' ∉ behind ∧ line = front ++ openTag s ++ body ++ closeTag s ++ behind
    ∧ let opening := (s.name.toList, front.length)
      let closing := ('/' :: s.name.toList, (front ++ openTag s ++ body).length)
      tagsIn line = [opening] ∨ tagsIn line = [opening, closing]

/-- A line with its own tags only is not mistaken. -/
theorem OwnTags.glyphs {line : List Char} (h : OwnTags line) :
    ∃ shown, glyphs line = .ok shown := by
  obtain ⟨s, front, body, behind, _, _, _, htags⟩ := h
  rcases htags with htags | htags
  · have hfollow : followAll [] (tagsIn line) = .ok [s.opened] := by
      rw [htags, followAll_cons, follow_open]
      rfl
    exact glyphsFrom_eq_ok_of_followAll hfollow
  · have hfollow : followAll [] (tagsIn line) = .ok [] := by
      rw [htags, followAll_cons, follow_open]
      show followAll [s.opened] _ = _
      rw [followAll_cons, follow_close]
      rfl
    exact glyphsFrom_eq_ok_of_followAll hfollow

/-- The closing tag is a tag wherever it stands. -/
theorem tagBody?_closeTag (s : Style) (rest : List Char) :
    tagBody? ('/' :: s.name.toList ++ ']' :: rest) = some ('/' :: s.name.toList, rest) := by
  obtain ⟨c, b, hname, hc, _, hopen, hclose, _⟩ := name_eq s
  have hne : c ≠ '[' ∧ c ≠ ']' := by
    constructor <;> (rintro rfl; exact absurd hc (by decide))
  refine tagBody?_eq_some rest (by decide) ?_ ?_
  · rw [hname, List.mem_cons, not_or]
    exact ⟨Ne.symm hne.1, hopen⟩
  · rw [hname, List.mem_cons, not_or]
    exact ⟨Ne.symm hne.2, hclose⟩

/-- **A line whose body consists of text has its own tags only.** -/
theorem ownTags_line (s : Style) (front behind : List Char) {body : List Char} {ps : List Piece}
    {k : Nat}
    (hfront : ∀ c ∈ front, c ≠ '\\' ∧ c ≠ '[') (hbehind : ∀ c ∈ behind, c ≠ '\\' ∧ c ≠ '[')
    (h : Cut 0 body ps k) (htext : ∀ p ∈ ps, p.IsText) :
    OwnTags (front ++ openTag s ++ body ++ closeTag s ++ behind) := by
  have hsplit : split (front ++ openTag s ++ body ++ closeTag s ++ behind) =
      front.map .char ++ (.tag 0 s.name.toList :: (ps ++ (.tag k ('/' :: s.name.toList) ::
        behind.map .char))) := by
    have hopen : ∀ rest, Sealed (openTag s ++ rest) := fun rest => sealed_bracket _
    have hclose : closeTag s ++ behind = '[' :: ('/' :: s.name.toList ++ ']' :: behind) := by
      simp [closeTag]
    have hwords : splitFrom 0 behind = behind.map .char := by
      rw [← split, split_eq (cut_words hbehind), List.replicate_zero, List.append_nil]
    rw [split, List.append_assoc, List.append_assoc, List.append_assoc,
      splitFrom_append (cut_words hfront) (hopen _), splitFrom_openTag, hclose,
      splitFrom_append h (sealed_bracket _), splitFrom_tag k (tagBody?_closeTag s behind), hwords]
  -- the pieces of the body are as long as the body without its last backslashes
  have hlen : (join ps).length + k = body.length := by
    have hjoin := congrArg List.length (join_cut h)
    simpa [slashes] using hjoin
  have hchars : ∀ words : List Char, (join (words.map Piece.char)).length = words.length := by
    intro words
    induction words with
    | nil => rfl
    | cons c words ih => simp [Piece.written, ih]
  have htags : tagsIn (front ++ openTag s ++ body ++ closeTag s ++ behind) =
      (s.name.toList, front.length) ::
        if k % 2 = 1 then []
        else [('/' :: s.name.toList, (front ++ openTag s ++ body).length)] := by
    have hplace : front.length + (Piece.tag 0 s.name.toList).written.length + (join ps).length + k =
        (front ++ openTag s ++ body).length := by
      simp only [Piece.written, slashes, openTag, List.length_append, List.length_cons,
        List.length_nil, List.replicate_zero, ← hlen]
      omega
    rw [tagsIn, sayings, hsplit, sayingsFrom_append, tagsOf_append,
      tagsOf_text fun p hp => isText_chars hp, sayingsFrom, tagsOf_append, tagsOf_tag,
      if_neg (by decide), sayingsFrom_append, tagsOf_append, tagsOf_text htext, sayingsFrom,
      tagsOf_append, tagsOf_tag, tagsOf_text fun p hp => isText_chars hp, hchars, Nat.zero_add,
      hplace]
    simp
  have hno : ∀ {words : List Char}, (∀ c ∈ words, c ≠ '\\' ∧ c ≠ '[') → '[' ∉ words :=
    fun hwords hmem => (hwords '[' hmem).2 rfl
  refine ⟨s, front, body, behind, hno hfront, hno hbehind, rfl, ?_⟩
  rw [htags]
  split
  · exact .inl rfl
  · exact .inr rfl

end PackageGate.Markup
