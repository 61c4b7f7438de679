import PackageGate.Proofs.Text.Hex
import PackageGate.Yaml.Load

/-!
# Trees of texts and how they are written

A tree has texts at its leaves, in lists and in mappings from words to trees. It is written as a
block: each entry of a list or mapping takes lines of its own, and what belongs to it is indented by
two columns. Texts stand in double quotes on one line (`quote`), where a character that does not
stand for itself is written by its number (`Spelling`). Only an empty list is written without lines,
in brackets.

`IsWord` are the keys that can be written as they are. `Sound` says of a tree that its mappings have
such keys only, none of them twice, and that no mapping is empty.
-/

namespace PackageGate.Yaml

open Text (IsHexDigit hexNumeral)

/-- How the numbers of characters are spelled: in eight hexadecimal digits, of either case. -/
structure Spelling where
  digits : Char → List Char
  length_digits (c : Char) : (digits c).length = 8
  isHexDigit_digits (c : Char) : ∀ d ∈ digits c, IsHexDigit d
  hexNumeral_digits (c : Char) : hexNumeral 0 (digits c) = c.toNat

/-- Numbers in lower case. -/
def Spelling.lower : Spelling where
  digits c := Text.hex 8 c.toNat
  length_digits c := by
    have hvalid : c.toNat < 0xD800 ∨ 0xDFFF < c.toNat ∧ c.toNat < 0x110000 := c.valid
    exact Text.length_hex ((Nat.length_toDigits_le_iff (by decide) (by decide)).2 (by omega))
  isHexDigit_digits _ := Text.isHexDigit_of_mem_hex
  hexNumeral_digits c := Text.hexNumeral_hex 8 c.toNat

/-- A tree of texts. -/
inductive Tree where
  | text (s : String)
  | list (items : List Tree)
  | mapping (entries : List (String × Tree))

namespace Tree

theorem sizeOf_entry_lt {entries : List (String × Tree)} {e : String × Tree} (h : e ∈ entries) :
    sizeOf e.2 < sizeOf (mapping entries) := by
  have hlt := List.sizeOf_lt_of_mem h
  have hpair : sizeOf e = 1 + sizeOf e.1 + sizeOf e.2 := rfl
  rw [mapping.sizeOf_spec]
  omega

/-- The value that a tree stands for. -/
def value : Tree → Value
  | .text s => .str s
  | .list items => .list (items.map value)
  | .mapping entries => .dict (entries.map fun e => (.str e.1, e.2.value))
decreasing_by
  · decreasing_tactic
  · exact sizeOf_entry_lt ‹_›

/-! ## Writing -/

/-- Whether a character stands for itself in double quotes. -/
def isQuotable (c : Char) : Bool := ' ' ≤ c && c ≤ '~' && c ≠ '"' && c ≠ '\\'

/-- A character in double quotes: itself, or its number behind a backslash. -/
def quoteChar (sp : Spelling) (c : Char) : List Char :=
  if isQuotable c then [c] else '\\' :: 'U' :: sp.digits c

/-- A text in double quotes, on one line. -/
def quote (sp : Spelling) (s : String) : List Char :=
  '"' :: s.toList.flatMap (quoteChar sp) ++ ['"']

/-- The beginning of a line with its indentation. -/
def newLine (indent : Nat) : List Char := '\n' :: List.replicate indent ' '

/-- Whether a tree takes lines of its own. -/
def isBlock : Tree → Bool
  | .text _ | .list [] => false
  | _ => true

/-- What stands between the colon of a key and its value. -/
def gap (indent : Nat) (t : Tree) : List Char :=
  if t.isBlock then newLine (indent + 2) else [' ']

/-- A tree as it is written from a column on. -/
def write (sp : Spelling) (indent : Nat) : Tree → List Char
  | .text s => quote sp s
  | .list [] => ['[', ']']
  | .list items =>
    (newLine indent).intercalate (items.map fun t => '-' :: ' ' :: t.write sp (indent + 2))
  | .mapping entries =>
    (newLine indent).intercalate <| entries.map fun e =>
      e.1.toList ++ ':' :: gap indent e.2 ++ e.2.write sp (indent + 2)
termination_by t => t
decreasing_by
  · decreasing_tactic
  · exact sizeOf_entry_lt ‹_›

theorem write_cons (sp : Spelling) (indent : Nat) (t : Tree) (items : List Tree) :
    write sp indent (list (t :: items)) =
      (newLine indent).intercalate
        ((t :: items).map fun t => '-' :: ' ' :: t.write sp (indent + 2)) := by
  rw [write]
  exact List.cons_ne_nil t items

/-- A text of one line for each part, where the first line has begun already. -/
theorem intercalate_cons {α : Type} (sep part : List α) (parts : List (List α)) :
    sep.intercalate (part :: parts) = part ++ parts.flatMap (sep ++ ·) := by
  induction parts generalizing part with
  | nil => simp [List.intercalate]
  | cons next parts ih =>
      rw [List.flatMap_cons, List.append_assoc, ← ih next]
      simp [List.intercalate]

/-! ## Soundness -/

/-- Whether a text can be written as a key without quotes. -/
def IsWord (key : String) : Prop :=
  key ≠ "" ∧ key.length ≤ keyReach ∧ (∀ c ∈ key.toList, c.isLower ∨ c = '_')
    ∧ Tag.ofPlain key.toList = .str

-- the characters of the key are gone through, not all characters that there are
instance (key : String) : Decidable (IsWord key) :=
  decidable_of_iff (key ≠ "" ∧ key.length ≤ keyReach
    ∧ key.toList.all (fun c => c.isLower || c = '_') = true ∧ Tag.ofPlain key.toList = .str)
    (by simp [IsWord])

/-- A tree whose mappings can be written. -/
inductive Sound : Tree → Prop where
  | text (s : String) : Sound (.text s)
  | list {items : List Tree} : (∀ t ∈ items, Sound t) → Sound (.list items)
  | mapping {entries : List (String × Tree)} : entries ≠ [] → (∀ e ∈ entries, IsWord e.1) →
      (entries.map (·.1)).Nodup → (∀ e ∈ entries, Sound e.2) → Sound (.mapping entries)

/-- A mapping with certain keys, which can all be written. -/
theorem sound_mapping {entries : List (String × Tree)} (keys : List String)
    (hentries : entries.map (·.1) = keys)
    (hkeys : keys ≠ [] ∧ keys.Nodup ∧ ∀ key ∈ keys, IsWord key)
    (hvalues : ∀ e ∈ entries, e.2.Sound) : (mapping entries).Sound := by
  obtain ⟨hne, hnodup, hwords⟩ := hkeys
  rw [← hentries] at hne hnodup hwords
  refine .mapping ?_ (List.forall_mem_map.1 hwords) hnodup hvalues
  rintro rfl
  exact hne rfl

/-! ## Depth -/

/-- How deep the collections of a tree are nested. -/
def depth : Tree → Nat
  | .text _ => 0
  | .list items => (items.map depth).foldr max 0 + 1
  | .mapping entries => (entries.map fun e => e.2.depth).foldr max 0 + 1
decreasing_by
  · decreasing_tactic
  · exact sizeOf_entry_lt ‹_›

theorem foldr_max_le_iff {l : List Nat} {n : Nat} : l.foldr max 0 ≤ n ↔ ∀ d ∈ l, d ≤ n := by
  induction l with
  | nil => simp
  | cons d l ih => rw [List.foldr_cons, Nat.max_le, ih, List.forall_mem_cons]

theorem depth_list_le {items : List Tree} {n : Nat} (h : ∀ t ∈ items, t.depth ≤ n) :
    (list items).depth ≤ n + 1 := by
  rw [depth]
  exact Nat.succ_le_succ (foldr_max_le_iff.2 (List.forall_mem_map.2 h))

theorem depth_mapping_le {entries : List (String × Tree)} {n : Nat}
    (h : ∀ e ∈ entries, e.2.depth ≤ n) : (mapping entries).depth ≤ n + 1 := by
  rw [depth]
  exact Nat.succ_le_succ (foldr_max_le_iff.2 (List.forall_mem_map.2 h))

theorem depth_lt_list {items : List Tree} {t : Tree} (h : t ∈ items) :
    t.depth < (list items).depth := by
  rw [depth]
  exact Nat.lt_succ_of_le (foldr_max_le_iff.1 (Nat.le_refl _) _ (List.mem_map_of_mem h))

theorem depth_lt_mapping {entries : List (String × Tree)} {e : String × Tree} (h : e ∈ entries) :
    e.2.depth < (mapping entries).depth := by
  rw [depth]
  refine Nat.lt_succ_of_le (foldr_max_le_iff.1 (Nat.le_refl _) _ ?_)
  exact List.mem_map.2 ⟨e, h, rfl⟩

end Tree

end PackageGate.Yaml
