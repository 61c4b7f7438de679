/-!
# Tags in marked-up text

Marked-up text holds *tags* in brackets: `[` and a letter, `#`, `/` or `@`, then anything without
another opening bracket, up to the first `]`. Backslashes in front of a tag belong to it. Brackets
that open no tag are plain text.

`split` cuts a text into its characters, its tags with their backslashes, and its other brackets
with theirs; `join` puts the pieces together again. Both escaping a text and reading it are said in
terms of these pieces.
-/

namespace PackageGate.Markup

/-- A piece of marked-up text. -/
inductive Piece where
  /-- A character outside of tags. -/
  | char (c : Char)
  /-- An opening bracket that opens no tag, behind backslashes. -/
  | bracket (slashes : Nat)
  /-- A tag, behind backslashes. -/
  | tag (slashes : Nat) (body : List Char)
deriving Repr, DecidableEq

/-- Backslashes. -/
def slashes (n : Nat) : List Char := List.replicate n '\\'

/-- Whether a tag may begin with a character. -/
def beginsTag (c : Char) : Bool :=
  ('a' ≤ c && c ≤ 'z') || c = '#' || c = '/' || c = '@'

/-- Cuts a text at the first closing bracket, unless an opening one comes before. -/
def untilClosing : List Char → Option (List Char × List Char)
  | [] => none
  | c :: rest =>
    if c = ']' then some ([], rest)
    else if c = '[' then none
    else (untilClosing rest).map fun cut => (c :: cut.1, cut.2)

/-- Cuts off the body of a tag, from a text behind an opening bracket. -/
def tagBody? : List Char → Option (List Char × List Char)
  | [] => none
  | c :: rest =>
    if beginsTag c then (untilClosing rest).map fun cut => (c :: cut.1, cut.2) else none

theorem eq_of_untilClosing {text body rest : List Char}
    (h : untilClosing text = some (body, rest)) : text = body ++ ']' :: rest := by
  induction text generalizing body with
  | nil => simp [untilClosing] at h
  | cons c text ih =>
    unfold untilClosing at h
    split at h
    · rename_i hc
      simp only [Option.some.injEq, Prod.mk.injEq] at h
      simp [hc, ← h.1, ← h.2]
    · split at h
      · cases h
      · obtain ⟨⟨b, r⟩, hb, hp⟩ := Option.map_eq_some_iff.1 h
        simp only [Prod.mk.injEq] at hp
        obtain ⟨rfl, rfl⟩ := hp
        simp [← ih hb]

/-- A tag is its body and a closing bracket. -/
theorem eq_of_tagBody? {text body rest : List Char} (h : tagBody? text = some (body, rest)) :
    text = body ++ ']' :: rest := by
  cases text with
  | nil => simp [tagBody?] at h
  | cons c text =>
    cases hc : beginsTag c with
    | false => simp [tagBody?, hc] at h
    | true =>
      simp only [tagBody?, hc, if_true] at h
      obtain ⟨⟨b, r⟩, hb, hp⟩ := Option.map_eq_some_iff.1 h
      simp only [Prod.mk.injEq] at hp
      obtain ⟨rfl, rfl⟩ := hp
      simp [← eq_of_untilClosing hb]

/-- What follows a tag is shorter than the text behind its opening bracket. -/
theorem length_of_tagBody? {text body rest : List Char} (h : tagBody? text = some (body, rest)) :
    rest.length < text.length := by
  have := congrArg List.length (eq_of_tagBody? h)
  simp only [List.length_append, List.length_cons] at this
  omega

/-- Cuts a text into pieces, where `n` backslashes have just been passed. -/
def splitFrom (n : Nat) (text : List Char) : List Piece :=
  match text with
  | [] => List.replicate n (.char '\\')
  | c :: rest =>
    if c = '\\' then splitFrom (n + 1) rest
    else if c = '[' then
      match h : tagBody? rest with
      | some (body, rest') =>
        have : rest'.length < rest.length := length_of_tagBody? h
        .tag n body :: splitFrom 0 rest'
      | none => .bracket n :: splitFrom 0 rest
    else List.replicate n (.char '\\') ++ .char c :: splitFrom 0 rest
termination_by text.length

/-- The pieces of a text. -/
def split (text : List Char) : List Piece := splitFrom 0 text

/-- A piece as it is written. -/
def Piece.written : Piece → List Char
  | .char c => [c]
  | .bracket n => slashes n ++ ['[']
  | .tag n body => slashes n ++ '[' :: body ++ [']']

/-- The text of some pieces. -/
def join (pieces : List Piece) : List Char := pieces.flatMap (·.written)

@[simp] theorem join_nil : join [] = [] := rfl

@[simp] theorem join_cons (p : Piece) (pieces : List Piece) :
    join (p :: pieces) = p.written ++ join pieces := by simp [join]

@[simp] theorem join_append (pieces more : List Piece) :
    join (pieces ++ more) = join pieces ++ join more := by simp [join]

theorem join_replicate (n : Nat) : join (List.replicate n (.char '\\')) = slashes n := by
  induction n with
  | zero => rfl
  | succ n ih => simp [List.replicate_succ, ih, slashes, Piece.written]

/-! ## How a text is cut -/

@[simp] theorem splitFrom_nil (n : Nat) : splitFrom n [] = List.replicate n (.char '\\') := by
  simp [splitFrom]

theorem splitFrom_slash (n : Nat) (rest : List Char) :
    splitFrom n ('\\' :: rest) = splitFrom (n + 1) rest := by simp [splitFrom]

theorem splitFrom_tag {rest body rest' : List Char} (n : Nat)
    (h : tagBody? rest = some (body, rest')) :
    splitFrom n ('[' :: rest) = .tag n body :: splitFrom 0 rest' := by
  rw [splitFrom, if_neg (by decide), if_pos rfl]
  split
  · rename_i b r hb
    rw [h] at hb
    simp only [Option.some.injEq, Prod.mk.injEq] at hb
    rw [hb.1, hb.2]
  · rename_i hb
    rw [h] at hb
    cases hb

theorem splitFrom_bracket {rest : List Char} (n : Nat) (h : tagBody? rest = none) :
    splitFrom n ('[' :: rest) = .bracket n :: splitFrom 0 rest := by
  rw [splitFrom, if_neg (by decide), if_pos rfl]
  split
  · rename_i b r hb
    rw [h] at hb
    cases hb
  · rfl

theorem splitFrom_char {c : Char} (n : Nat) (rest : List Char) (h : c ≠ '\\') (h' : c ≠ '[') :
    splitFrom n (c :: rest) =
      List.replicate n (.char '\\') ++ .char c :: splitFrom 0 rest := by
  rw [splitFrom, if_neg h, if_neg h']

/-- Nothing is lost when a text is cut into pieces. -/
theorem join_splitFrom (n : Nat) (text : List Char) :
    join (splitFrom n text) = slashes n ++ text := by
  induction n, text using splitFrom.induct with
  | case1 n => simp [join_replicate]
  | case2 n rest ih =>
    rw [splitFrom_slash, ih]
    simp [slashes, List.replicate_succ']
  | case3 n rest body rest' h _ _ ih =>
    rw [splitFrom_tag n h, join_cons, ih, eq_of_tagBody? h]
    simp [Piece.written, slashes]
  | case4 n rest h _ ih =>
    rw [splitFrom_bracket n h, join_cons, ih]
    simp [Piece.written, slashes]
  | case5 n c rest h₁ h₂ ih =>
    rw [splitFrom_char n rest h₁ h₂, join_append, join_cons, ih, join_replicate]
    simp [Piece.written, slashes]

theorem join_split (text : List Char) : join (split text) = text := by
  simp [split, join_splitFrom, slashes]

end PackageGate.Markup
