import Mathlib.Data.Set.Pairwise.Basic
import Mathlib.Order.Interval.Finset.Nat
import PackageGate.Text.Occurrence

/-!
# Counting occurrences without overlap

A piece may occur in a text at places that overlap, and which of them are counted is a choice. The
search from the left takes the first one it meets and goes on behind it. No other choice comes to a
greater number (`isGreatest_count`).

What carries this is an exchange. Of occurrences that share no character, at most one begins within
the characters of the occurrence met first, so that this one can stand in its place and leaves the
others as they are (`isGreatest_sizesFrom_of_occursAt`).

Positions are those of the whole text all along. The search sees the rest from some position on, and
the choices that it is compared with are those from this position on (`sizesFrom`).
-/

namespace PackageGate.Text

variable {piece text : List Char} {i j p n : Nat} {places : Finset Nat}

/-! ## Occurrences that share no character -/

/-- The piece stands in the text at a position, which may be the end of the text. -/
def OccursAt (piece text : List Char) (i : Nat) : Prop := i ≤ text.length ∧ piece <+: text.drop i

/-- The positions that the characters of a piece take if it stands at `i`. -/
def extent (piece : List Char) (i : Nat) : Finset Nat := Finset.Ico i (i + piece.length)

/-- Places at which a piece occurs, no two of which share a character. -/
structure IsPacking (piece text : List Char) (places : Finset Nat) : Prop where
  occurs : ∀ i ∈ places, OccursAt piece text i
  apart : (places : Set Nat).PairwiseDisjoint (extent piece)

/-- How often a piece occurs in a text without overlap: as often as it can at most. The empty piece
takes no character, and occurs in front of each of them and at the end. -/
structure IsCount (piece text : List Char) (n : Nat) : Prop where
  greatest : piece ≠ [] →
    IsGreatest {k | ∃ places : Finset Nat, IsPacking piece text places ∧ places.card = k} n
  empty : piece = [] → n = text.length + 1

theorem OccursAt.add_length_le (h : OccursAt piece text i) : i + piece.length ≤ text.length := by
  have hlength := h.2.length_le
  rw [List.length_drop] at hlength
  have hi := h.1
  omega

theorem IsPacking.empty : IsPacking piece text ∅ where
  occurs := fun _ hi => absurd hi (Finset.notMem_empty _)
  apart := by
    rw [Finset.coe_empty]
    exact Set.pairwise_empty _

theorem IsPacking.mono {fewer : Finset Nat} (h : IsPacking piece text places)
    (hfewer : fewer ⊆ places) : IsPacking piece text fewer where
  occurs := fun i hi => h.occurs i (hfewer hi)
  apart := h.apart.subset (Finset.coe_subset.2 hfewer)

/-- The next occurrence begins where the one before it has ended. -/
theorem IsPacking.add_length_le (h : IsPacking piece text places) (hi : i ∈ places)
    (hj : j ∈ places) (hlt : i < j) : i + piece.length ≤ j := by
  by_contra hover
  have hdisjoint := h.apart hi hj (Nat.ne_of_lt hlt)
  -- else the first character of the later one would be shared
  have hshared : j ∈ extent piece i ∧ j ∈ extent piece j := by
    simp only [extent, Finset.mem_Ico]
    omega
  exact Finset.disjoint_left.1 hdisjoint hshared.1 hshared.2

/-- An occurrence can be put in front of others that begin behind it. -/
theorem IsPacking.insert_front (h : IsPacking piece text places) (hp : OccursAt piece text p)
    (hbehind : ∀ i ∈ places, p + piece.length ≤ i) : IsPacking piece text (insert p places) where
  occurs := (Finset.forall_mem_insert _ _ _).2 ⟨hp, h.occurs⟩
  apart := by
    rw [Finset.coe_insert]
    refine h.apart.insert fun i hi _ => Finset.disjoint_left.2 fun k hk hk' => ?_
    have hle := hbehind i hi
    simp only [extent, Finset.mem_Ico] at hk hk'
    omega

/-! ## The numbers that can be had from a position on -/

/-- How many occurrences without overlap there can be that begin at `p` or behind it. -/
def sizesFrom (piece text : List Char) (p : Nat) : Set Nat :=
  {n | ∃ places : Finset Nat, IsPacking piece text places ∧ (∀ i ∈ places, p ≤ i)
    ∧ places.card = n}

/-- From the beginning on there are all of them. -/
theorem sizesFrom_zero (piece text : List Char) : sizesFrom piece text 0 =
    {n | ∃ places : Finset Nat, IsPacking piece text places ∧ places.card = n} := by
  simp only [sizesFrom, Nat.zero_le, implies_true, true_and]

/-- At the end of the text nothing begins that has a character. -/
theorem sizesFrom_of_length_le (hne : piece ≠ []) (hp : text.length ≤ p) :
    sizesFrom piece text p = {0} := by
  have hpos : 0 < piece.length := List.length_pos_iff.2 hne
  ext n
  constructor
  · rintro ⟨places, hpacking, hfrom, rfl⟩
    rw [Set.mem_singleton_iff, Finset.card_eq_zero, Finset.eq_empty_iff_forall_notMem]
    intro i hi
    have hle := (hpacking.occurs i hi).add_length_le
    have hpi := hfrom i hi
    omega
  · rintro rfl
    exact ⟨∅, .empty, fun _ hi => absurd hi (Finset.notMem_empty _), Finset.card_empty⟩

/-- A position at which the piece does not occur may be left out. -/
theorem sizesFrom_of_not_occursAt (hp : ¬OccursAt piece text p) :
    sizesFrom piece text p = sizesFrom piece text (p + 1) := by
  ext n
  constructor
  · rintro ⟨places, hpacking, hfrom, hcard⟩
    refine ⟨places, hpacking, fun i hi => ?_, hcard⟩
    have hne : i ≠ p := by
      rintro rfl
      exact hp (hpacking.occurs i hi)
    have hpi := hfrom i hi
    omega
  · rintro ⟨places, hpacking, hfrom, hcard⟩
    exact ⟨places, hpacking, fun i hi => Nat.le_of_succ_le (hfrom i hi), hcard⟩

/-- Of occurrences without overlap at most one begins within the length of the piece from where they
begin. -/
theorem IsPacking.card_le_succ (h : IsPacking piece text places) (hfrom : ∀ i ∈ places, p ≤ i) :
    places.card ≤ (places.filter (p + piece.length ≤ ·)).card + 1 := by
  have hone : (places.filter (¬p + piece.length ≤ ·)).card ≤ 1 := by
    rw [Finset.card_le_one]
    intro i hi j hj
    rw [Finset.mem_filter] at hi hj
    have hpi := hfrom i hi.1
    have hpj := hfrom j hj.1
    rcases Nat.lt_trichotomy i j with hlt | heq | hlt
    · have hle := h.add_length_le hi.1 hj.1 hlt
      omega
    · exact heq
    · have hle := h.add_length_le hj.1 hi.1 hlt
      omega
  rw [← Finset.card_filter_add_card_filter_not (p + piece.length ≤ ·)]
  omega

/-- **The first occurrence is as good as any.** What it leaves behind it is all that any choice of
occurrences has, but for one of them. -/
theorem isGreatest_sizesFrom_of_occursAt (hne : piece ≠ []) (hp : OccursAt piece text p)
    (h : IsGreatest (sizesFrom piece text (p + piece.length)) n) :
    IsGreatest (sizesFrom piece text p) (n + 1) := by
  constructor
  · -- it goes in front of a greatest choice behind it
    obtain ⟨places, hpacking, hfrom, rfl⟩ := h.1
    have hpos : 0 < piece.length := List.length_pos_iff.2 hne
    have hnew : p ∉ places := fun hmem => by
      have hle := hfrom p hmem
      omega
    refine ⟨insert p places, hpacking.insert_front hp hfrom, ?_, Finset.card_insert_of_notMem hnew⟩
    rw [Finset.forall_mem_insert]
    exact ⟨Nat.le_refl p, fun i hi => Nat.le_of_add_right_le (hfrom i hi)⟩
  · -- of any other choice, what begins behind it is a choice there
    rintro _ ⟨places, hpacking, hfrom, rfl⟩
    have hbehind : (places.filter (p + piece.length ≤ ·)).card ≤ n :=
      h.2 ⟨_, hpacking.mono (Finset.filter_subset _ _),
        fun i hi => (Finset.mem_filter.1 hi).2, rfl⟩
    have hcard := hpacking.card_le_succ hfrom
    omega

/-! ## The search from the left -/

theorem drop_succ_of_drop_eq_cons {c : Char} {rest : List Char} (h : text.drop p = c :: rest) :
    text.drop (p + 1) = rest := by
  rw [← List.tail_drop, h, List.tail_cons]

/-- **The search from the left finds as many occurrences as there can be** from the position on at
which the occurrence found last has ended. -/
theorem isGreatest_countFrom (hne : piece ≠ []) (skip : Nat) (rest : List Char) :
    ∀ p, text.drop p = rest →
      IsGreatest (sizesFrom piece text (p + skip)) (countFrom piece skip rest) := by
  -- by the recursion of the search, with the position at which its rest begins in the text
  fun_induction countFrom piece skip rest with
  | case1 skip =>
      intro p hrest
      rw [sizesFrom_of_length_le hne (Nat.le_add_right_of_le (List.drop_eq_nil_iff.1 hrest))]
      exact isGreatest_singleton
  | case2 skip c rest ih =>
      intro p hrest
      have h := ih (p + 1) (drop_succ_of_drop_eq_cons hrest)
      rwa [Nat.add_right_comm] at h
  | case3 c rest hprefix ih =>
      intro p hrest
      have hlt : p < text.length := List.length_lt_of_drop_ne_nil (hrest ▸ List.cons_ne_nil c rest)
      have hp : OccursAt piece text p :=
        ⟨Nat.le_of_lt hlt, hrest ▸ List.isPrefixOf_iff_prefix.1 hprefix⟩
      have h := ih (p + 1) (drop_succ_of_drop_eq_cons hrest)
      have hpos : 0 < piece.length := List.length_pos_iff.2 hne
      rw [Nat.add_assoc, Nat.add_sub_cancel' hpos] at h
      rw [Nat.add_zero, Nat.add_comm 1]
      exact isGreatest_sizesFrom_of_occursAt hne hp h
  | case4 c rest hprefix ih =>
      intro p hrest
      have hp : ¬OccursAt piece text p := fun hp =>
        hprefix (List.isPrefixOf_iff_prefix.2 (hrest ▸ hp.2))
      rw [Nat.add_zero, sizesFrom_of_not_occursAt hp]
      exact ih (p + 1) (drop_succ_of_drop_eq_cons hrest)

/-- **The count is how often a piece occurs without overlap.** -/
theorem isCount_count (piece text : List Char) : IsCount piece text (count piece text) where
  greatest := fun hne => by
    rw [count, if_neg (by simpa using hne), ← sizesFrom_zero]
    exact isGreatest_countFrom hne 0 text 0 rfl
  empty := by
    rintro rfl
    rfl

end PackageGate.Text
