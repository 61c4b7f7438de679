import PackageGate.Proofs.CommandLine.Session
import PackageGate.Proofs.Markup.LeftOpen
import PackageGate.Proofs.Validation.OwnTags

/-!
# When a table is printed faithfully

A line of a table holds two texts of the user, the key and the value, each escaped by itself. It
should be read with its own tags only, whatever these are. It is so unless the two are spliced
(`Spliced`): the key leaves a tag open, behind an even number of backslashes, and the value closes
it. Then there is a tag in the line that is in neither of them. It swallows the end of the key and
the beginning of the value, and if it is a closing tag, printing may end with a mistake.

`table_faithful_iff` says that this is the only way to lose a tag's worth of text, for tables of any
size. If no line is spliced, all that can still be lost are backslashes, as in a report.
-/

namespace PackageGate.Diagnostics

open Markup
open Report (openTag closeTag)

/-! ## Two texts in a line -/

/-- The key begins a tag, and the value ends it. -/
def Spliced (key value : String) : Prop :=
  (∃ n, n % 2 = 0 ∧ LeavesTagBehind n key.toList) ∧ ¬Sealed value.toList

/-- The text of a line of a table. -/
def entryText (key value : String) : List Char :=
  List.replicate 8 ' ' ++ (escape key.toList ++ (':' :: ' ' :: escape value.toList))

theorem markEntry_eq (key value : String) :
    markEntry key value = openTag .faint ++ entryText key value ++ closeTag .faint := by
  simp [markEntry, faint, entryText]

theorem sealed_entry_iff (value : String) :
    Sealed (':' :: ' ' :: escape value.toList) ↔ Sealed value.toList := by
  rw [← sealed_escape_iff value.toList, Sealed, upToBracket_cons (by decide),
    upToBracket_cons (by decide), List.mem_cons, List.mem_cons, not_or, not_or]
  exact ⟨fun h => h.2.2, fun h => ⟨by decide, by decide, h⟩⟩

theorem indent_words : ∀ c ∈ List.replicate 8 ' ', c ≠ '\\' ∧ c ≠ '[' := by
  intro c hc
  rw [List.eq_of_mem_replicate hc]
  decide

/-- If the key leaves no tag open or the value closes none, both are cut as they are by
themselves. -/
theorem cut_apart {key value : String} {ps qs : List Piece} {k j : Nat}
    (hkey : Cut 0 key.toList ps k) (hvalue : Cut 0 value.toList qs j)
    (h : LeavesTag key.toList → Sealed value.toList) :
    Cut 0 (entryText key value)
      ((List.replicate 8 ' ').map .char ++ (ps.map Piece.escaped ++
        (List.replicate (lastSlashes k) (.char '\\') ++ .char ':' :: .char ' ' ::
          qs.map Piece.escaped)))
      (lastSlashes j) := by
  have hmore : Cut (lastSlashes k) (':' :: ' ' :: escape value.toList)
      (List.replicate (lastSlashes k) (.char '\\') ++ .char ':' :: .char ' ' ::
        qs.map Piece.escaped) (lastSlashes j) :=
    .char (by decide) (by decide) (.char (by decide) (by decide) (cut_escape hvalue))
  refine Cut.words indent_words ?_
  by_cases hleaves : LeavesTag key.toList
  · exact (cut_escape hkey).append ((sealed_entry_iff value).2 (h hleaves)) hmore
  · refine (cut_escape hkey).append_closed (fun hescape => hleaves (leavesTag_of_escape hescape))
      ?_ hmore
    intro c hc
    rw [← Option.some.inj hc]
    decide

theorem isText_apart (ps qs : List Piece) (k : Nat) :
    ∀ p ∈ (List.replicate 8 ' ').map .char ++ (ps.map Piece.escaped ++
      (List.replicate k (.char '\\') ++ .char ':' :: .char ' ' :: qs.map Piece.escaped)),
      p.IsText := by
  have hwords : List.replicate k (Piece.char '\\') ++ .char ':' :: .char ' ' ::
      qs.map Piece.escaped =
        (slashes k ++ [':', ' ']).map .char ++ qs.map Piece.escaped := by
    simp [slashes]
  rw [hwords]
  exact isText_of_mem_append (fun p => isText_chars) <|
    isText_of_mem_append (fun p => isText_mapEscaped) <|
      isText_of_mem_append (fun p => isText_chars) fun p => isText_mapEscaped

/-- What is left open in the key and closed in the value becomes one tag. -/
theorem cut_spliced {key value : String} {n : Nat} (hkey : LeavesTagBehind n key.toList)
    (hvalue : ¬Sealed value.toList) :
    ∃ ps rest tag qs k, key.toList = join ps ++ (slashes n ++ '[' :: rest)
      ∧ Cut 0 (entryText key value)
          ((List.replicate 8 ' ').map .char ++ ps.map Piece.escaped ++ .tag n tag :: qs) k
      ∧ ∀ p ∈ qs, p.IsText := by
  obtain ⟨ps, rest, hps, htext, hrest⟩ := hkey.exists_cut
  obtain ⟨m, hescape⟩ := escape_leftOpen hps hrest
  -- the tag begins with what the key leaves open, and ends where the value closes it
  obtain ⟨body, behind, hclosing, hopen, hclose⟩ :=
    exists_of_not_sealed (mt (sealed_escape_iff value.toList).1 hvalue)
  obtain ⟨rs, j, hrs⟩ := exists_cut 0 value.toList
  have hcut := cut_escape hrs
  rw [hclosing] at hcut
  obtain ⟨qs, hqs, hsuffix⟩ := hcut.behind_closing hopen
  have htag : tagBody? (rest ++ (slashes m ++ ':' :: ' ' :: body) ++ ']' :: behind) = _ :=
    tagBody?_of_isOpening hrest (by simp [not_mem_slashes, hopen])
      (by simp [not_mem_slashes, hclose]) behind
  have hline : entryText key value = List.replicate 8 ' ' ++
      (plainText ps ++ slashes n ++
        '[' :: (rest ++ (slashes m ++ ':' :: ' ' :: body) ++ ']' :: behind)) := by
    rw [entryText, htext, hescape, hclosing]
    simp
  refine ⟨ps, rest, rest ++ (slashes m ++ ':' :: ' ' :: body), qs, lastSlashes j, htext, ?_,
    fun p hp => isText_mapEscaped (hsuffix.subset hp)⟩
  rw [hline, List.append_assoc (List.map _ _)]
  exact .words indent_words <| (hps.plainText n).append (sealed_bracket _) (.tag htag hqs)

/-- If the two texts make a tag and are not spliced, then an odd number of backslashes stands in
front of it. -/
theorem odd_of_not_spliced {key value : String} {n : Nat} (hkey : LeavesTagBehind n key.toList)
    (hvalue : ¬Sealed value.toList) (h : ¬Spliced key value) : n % 2 = 1 := by
  have : ¬n % 2 = 0 := fun hn => h ⟨⟨n, hn, hkey⟩, hvalue⟩
  omega

theorem isText_odd {n : Nat} {tag : List Char} {ps qs : List Piece} (hn : n % 2 = 1)
    (hqs : ∀ p ∈ qs, p.IsText) :
    ∀ p ∈ (List.replicate 8 ' ').map .char ++ ps.map Piece.escaped ++ .tag n tag :: qs,
      p.IsText := by
  refine isText_of_mem_append ?_ ?_
  · exact isText_of_mem_append (fun p => isText_chars) fun p => isText_mapEscaped
  · intro p hp
    rcases List.mem_cons.1 hp with rfl | hp
    · exact hn
    · exact hqs p hp

/-- A bracket that is left open loses the backslashes in front of it. -/
theorem not_keepsSlashes {n : Nat} {text : List Char} (h : LeavesTagBehind n text) (hn : 0 < n) :
    ¬KeepsSlashes text := by
  obtain ⟨front, rest, rfl, _, hrest⟩ := h
  obtain ⟨m, rfl⟩ : ∃ m, n = m + 1 := ⟨n - 1, by omega⟩
  intro hkeeps
  obtain ⟨c, body, behind, rfl, _⟩ := hkeeps (front ++ slashes m) rest
    (by simp [slashes, List.replicate_succ'])
  exact hrest.not_mem.2 (by simp)

/-! ## The tags of a table -/

/-- **A line of a table has its own tags only, unless its two texts are spliced.** -/
theorem ownTags_markEntry_iff (key value : String) :
    OwnTags (markEntry key value) ↔ ¬Spliced key value := by
  rw [markEntry_eq]
  constructor
  · rintro htags ⟨⟨n, hn, hkey⟩, hvalue⟩
    obtain ⟨ps, rest, tag, qs, k, _, hcut, _⟩ := cut_spliced hkey hvalue
    refine not_ownTags_line .faint hcut ?_ hn htags
    exact isText_of_mem_append (fun p => isText_chars) fun p => isText_mapEscaped
  · intro hspliced
    suffices h : ∃ ps k, Cut 0 (entryText key value) ps k ∧ ∀ p ∈ ps, p.IsText by
      obtain ⟨ps, k, hcut, htext⟩ := h
      have hline := ownTags_line .faint [] [] (by simp) (by simp) hcut htext
      rwa [List.nil_append, List.append_nil] at hline
    by_cases happart : LeavesTag key.toList → Sealed value.toList
    · obtain ⟨ps, k, hkey⟩ := exists_cut 0 key.toList
      obtain ⟨qs, j, hvalue⟩ := exists_cut 0 value.toList
      exact ⟨_, _, cut_apart hkey hvalue happart, isText_apart ps qs _⟩
    · -- an odd number of backslashes makes the tag text
      obtain ⟨hleaves, hvalue⟩ := Classical.not_imp.1 happart
      obtain ⟨n, hkey⟩ := (leavesTag_iff _).1 hleaves
      obtain ⟨ps, rest, tag, qs, k, _, hcut, hqs⟩ := cut_spliced hkey hvalue
      exact ⟨_, k, hcut, isText_odd (odd_of_not_spliced hkey hvalue hspliced) hqs⟩

/-- A heading has its own tags only, whatever its label is. -/
theorem cut_heading {label : String} {ps : List Piece} {k : Nat}
    (h : Cut 0 label.toList ps k) :
    Cut 0 (marker.toList ++ escape label.toList ++ [':'])
      (.bracket 1 :: ("DEBUG] ".toList.map .char ++ (ps.map Piece.escaped ++
        (List.replicate (lastSlashes k) (.char '\\') ++ [.char ':'])))) 0 := by
  have hend : Cut (lastSlashes k) [':'] (List.replicate (lastSlashes k) (.char '\\') ++ [.char ':'])
      0 := .char (by decide) (by decide) (.nil 0)
  rw [List.append_assoc]
  exact cut_marker ((cut_escape h).append (sealed_words (by decide)) hend)

theorem isText_heading (ps : List Piece) (k : Nat) :
    ∀ p ∈ .bracket 1 :: ("DEBUG] ".toList.map Piece.char ++ (ps.map Piece.escaped ++
      (List.replicate k (.char '\\') ++ [.char ':']))), p.IsText := by
  have hwords : List.replicate k (Piece.char '\\') ++ [.char ':'] =
      (slashes k ++ [':']).map .char := by
    simp [slashes]
  rw [hwords]
  exact isText_marker <| isText_of_mem_append (fun p => isText_mapEscaped) fun p => isText_chars

theorem ownTags_markHeading (label : String) : OwnTags (markHeading label) := by
  obtain ⟨ps, k, h⟩ := exists_cut 0 label.toList
  have hline := ownTags_line .faint [] [] (by simp) (by simp) (cut_heading h) (isText_heading ps _)
  rwa [List.nil_append, List.append_nil] at hline

/-! ## What a table shows -/

/-- A heading is shown as it is unless backslashes of its label are lost. -/
theorem prints_heading {label : String} (hlabel : OneLine label) :
    Prints [markHeading label] ["[DEBUG] " ++ label ++ ":"] (KeptBeforeWords label) := by
  obtain ⟨ps, k, h⟩ := exists_cut 0 label.toList
  have hjoin : join ps ++ slashes k = label.toList := join_cut h
  have hline := print_line .faint (cut_heading h) (isText_heading ps _) (by
    rw [List.all_append, List.all_append, all_simple_escape hlabel]
    decide)
  refine ⟨_, printAll_singleton.2 hline, rfl, ?_⟩
  have hshown : shownText (.bracket 1 :: ("DEBUG] ".toList.map .char ++ (ps.map Piece.escaped ++
      (List.replicate (lastSlashes k) (.char '\\') ++ [.char ':'])))) ++ shownEnd .faint 0 =
        "[DEBUG] ".toList ++ (shownText (ps.map Piece.escaped) ++
          (slashes (lastSlashes k) ++ [':'])) := by
    rw [shownText_cons, shownText_append, shownText_chars, shownText_append, shownText_append,
      shownText_replicate]
    simp [Piece.shown, shownEnd, slashes]
  have hlabel' : ("[DEBUG] " ++ label ++ ":").toList =
      "[DEBUG] ".toList ++ (join ps ++ (slashes k ++ [':'])) := by
    rw [String.toList_append, String.toList_append, ← hjoin]
    simp
  have hkeeps : KeepsSlashes label.toList ↔ _ := keepsSlashes_iff h
  rw [List.singleton_inj, Report.ofList_eq_iff, hshown, hlabel', List.append_cancel_left_eq,
    shownText_escaped_iff, slashes_append_inj (by decide), lastSlashes_eq_iff, and_iff_left rfl,
    KeptBeforeWords, hkeeps, endSlashes_cut h]

/-- A line of a table that is not spliced is shown as it is unless backslashes are lost. -/
theorem prints_entry {key value : String} (hkey : OneLine key) (hvalue : OneLine value)
    (h : ¬Spliced key value) :
    Prints [markEntry key value] ["        " ++ key ++ ": " ++ value]
      (KeptBeforeWords key ∧ KeptBeforeTag value) := by
  have hsimple : (entryText key value).all isSimple = true := by
    rw [entryText, List.all_append, List.all_append, List.all_cons, List.all_cons,
      all_simple_escape hkey, all_simple_escape hvalue]
    decide
  have hwords : ("        " ++ key ++ ": " ++ value).toList =
      List.replicate 8 ' ' ++ (key.toList ++ ':' :: ' ' :: value.toList) := by
    simp
  rw [markEntry_eq]
  by_cases happart : LeavesTag key.toList → Sealed value.toList
  · obtain ⟨ps, k, hps⟩ := exists_cut 0 key.toList
    obtain ⟨qs, j, hqs⟩ := exists_cut 0 value.toList
    have hline := print_line .faint (cut_apart hps hqs happart) (isText_apart ps qs _) hsimple
    refine ⟨_, printAll_singleton.2 hline, rfl, ?_⟩
    have hkjoin : join ps ++ slashes k = key.toList := join_cut hps
    have hvjoin : join qs ++ slashes j = value.toList := join_cut hqs
    have hkkeeps : KeepsSlashes key.toList ↔ _ := keepsSlashes_iff hps
    have hvkeeps : KeepsSlashes value.toList ↔ _ := keepsSlashes_iff hqs
    have hshown : shownText ((List.replicate 8 ' ').map .char ++ (ps.map Piece.escaped ++
        (List.replicate (lastSlashes k) (.char '\\') ++ .char ':' :: .char ' ' ::
          qs.map Piece.escaped))) ++ shownEnd .faint (lastSlashes j) =
        List.replicate 8 ' ' ++ (shownText (ps.map Piece.escaped) ++ (slashes (lastSlashes k) ++
          ':' :: ' ' ::
            (shownText (qs.map Piece.escaped) ++ shownEnd .faint (lastSlashes j)))) := by
      rw [shownText_append, shownText_chars, shownText_append, shownText_append,
        shownText_replicate]
      simp [Piece.shown]
    rw [List.singleton_inj, Report.ofList_eq_iff, hshown, hwords, List.append_cancel_left_eq,
      KeptBeforeWords, KeptBeforeTag, hkkeeps, hvkeeps, endSlashes_cut hps, endSlashes_cut hqs,
      ← hkjoin, ← hvjoin, List.append_assoc, shownText_escaped_iff,
      slashes_append_inj (by decide), lastSlashes_eq_iff, List.cons_inj_right,
      shownText_escaped_iff, shownEnd_iff, and_assoc]
  · -- the tag is text, but half of the backslashes in front of it are lost
    obtain ⟨hleaves, hseal⟩ := Classical.not_imp.1 happart
    obtain ⟨n, hbehind⟩ := (leavesTag_iff _).1 hleaves
    have hodd := odd_of_not_spliced hbehind hseal h
    obtain ⟨ps, rest, tag, qs, k, htext, hcut, hqs⟩ := cut_spliced hbehind hseal
    have hline := print_line .faint hcut (isText_odd hodd hqs) hsimple
    refine ⟨_, printAll_singleton.2 hline, rfl, iff_of_false ?_ ?_⟩
    · rw [List.singleton_inj, Report.ofList_eq_iff, hwords, htext, shownText_append,
        shownText_append, shownText_chars, List.append_assoc, List.append_assoc,
        List.append_cancel_left_eq, List.append_assoc, shownText_escaped_iff, shownText_cons,
        Piece.shown]
      simp only [List.append_assoc, List.cons_append]
      rw [slashes_append_inj (by decide)]
      omega
    · exact fun hkept => not_keepsSlashes hbehind (by omega) hkept.1.1

/-! ## Tables -/

/-- A table is printed faithfully: without a mistake, one text for its heading and one for each of
its entries, in order, and each of these has its own tags only. -/
structure Faithful (label : String) (entries : List (String × String)) : Prop where
  printed : ∃ heading rows, print false (markHeading label) = .ok heading
    ∧ List.Forall₂ (fun e row => print false (markEntry e.1 e.2) = .ok row) entries rows
    ∧ CommandLine.Printing.diagnose true (markTable label entries) =
        ⟨[], heading ++ rows.flatten, .ok ()⟩
  ownTags : ∀ line ∈ markTable label entries, OwnTags line

/-- The lines of a table with the texts put in as they are. -/
def literalTable (label : String) (entries : List (String × String)) : List String :=
  ("[DEBUG] " ++ label ++ ":") :: entries.map fun e => "        " ++ e.1 ++ ": " ++ e.2

theorem prints_table {label : String} {entries : List (String × String)} (hlabel : OneLine label)
    (hentries : ∀ e ∈ entries, OneLine e.1 ∧ OneLine e.2)
    (h : ∀ e ∈ entries, ¬Spliced e.1 e.2) :
    Prints (markTable label entries) (literalTable label entries)
      (KeptBeforeWords label ∧ ∀ e ∈ entries, KeptBeforeWords e.1 ∧ KeptBeforeTag e.2) := by
  have hrows : Prints (entries.map fun e => markEntry e.1 e.2)
      (entries.map fun e => "        " ++ e.1 ++ ": " ++ e.2)
      (∀ e ∈ entries, KeptBeforeWords e.1 ∧ KeptBeforeTag e.2) := by
    refine Prints.map fun e he => ?_
    exact prints_entry (hentries e he).1 (hentries e he).2 (h e he)
  exact (prints_heading hlabel).append hrows

theorem exists_print_of_ownTags {line : List Char} (h : OwnTags line) (colours : Bool) :
    ∃ ls, print colours line = .ok ls := by
  obtain ⟨shown, hshown⟩ := h.glyphs
  rw [print, hshown]
  exact ⟨_, rfl⟩

/-- Lines that are printed one by one are printed one below the other. -/
theorem exists_rows {entries : List (String × String)}
    (h : ∀ e ∈ entries, OwnTags (markEntry e.1 e.2)) :
    ∃ rows, List.Forall₂ (fun e row => print false (markEntry e.1 e.2) = .ok row) entries rows
      ∧ printAll false (entries.map fun e => markEntry e.1 e.2) = .ok rows.flatten := by
  induction entries with
  | nil => exact ⟨[], .nil, rfl⟩
  | cons e entries ih =>
      obtain ⟨row, hrow⟩ := exists_print_of_ownTags (h e List.mem_cons_self) false
      obtain ⟨rows, hrows, hall⟩ := ih fun x hx => h x (List.mem_cons_of_mem e hx)
      refine ⟨row :: rows, .cons hrow hrows, ?_⟩
      rw [List.map_cons, printAll, hrow]
      dsimp only
      rw [hall]
      rfl

theorem diagnose_of_printAll {texts : List (List Char)} {ls : List String}
    (h : printAll false texts = .ok ls) :
    CommandLine.Printing.diagnose true texts = ⟨[], ls, .ok ()⟩ := by
  rw [CommandLine.Printing.diagnose, if_pos rfl, CommandLine.printout_of_printAll h]
  rfl

/-- **A table is printed faithfully exactly if none of its entries is spliced**, whatever brackets
its label, keys and values hold. What is then printed is the table itself, unless backslashes are
lost. -/
theorem table_faithful_iff (label : String) (entries : List (String × String)) :
    (Faithful label entries ↔ ∀ e ∈ entries, ¬Spliced e.1 e.2)
      ∧ (Faithful label entries → OneLine label → (∀ e ∈ entries, OneLine e.1 ∧ OneLine e.2) →
          ∃ ls, CommandLine.Printing.diagnose true (markTable label entries) = ⟨[], ls, .ok ()⟩
            ∧ ls.length = entries.length + 1
            ∧ (ls = literalTable label entries ↔ KeptBeforeWords label
                ∧ ∀ e ∈ entries, KeptBeforeWords e.1 ∧ KeptBeforeTag e.2)) := by
  have hiff : Faithful label entries ↔ ∀ e ∈ entries, ¬Spliced e.1 e.2 := by
    constructor
    · intro h e he
      have hline : markEntry e.1 e.2 ∈ entries.map fun e => markEntry e.1 e.2 :=
        List.mem_map.2 ⟨e, he, rfl⟩
      exact (ownTags_markEntry_iff e.1 e.2).1 (h.ownTags _ (List.mem_cons_of_mem _ hline))
    · intro h
      have hrows := fun e he => (ownTags_markEntry_iff e.1 e.2).2 (h e he)
      obtain ⟨heading, hheading⟩ := exists_print_of_ownTags (ownTags_markHeading label) false
      obtain ⟨rows, hforall, hall⟩ := exists_rows hrows
      refine ⟨⟨heading, rows, hheading, hforall, diagnose_of_printAll ?_⟩, ?_⟩
      · rw [markTable, printAll, hheading]
        dsimp only
        rw [hall]
        rfl
      · intro line hline
        rcases List.mem_cons.1 hline with rfl | hline
        · exact ownTags_markHeading label
        · obtain ⟨e, he, rfl⟩ := List.mem_map.1 hline
          exact hrows e he
  refine ⟨hiff, fun hfaithful hlabel hentries => ?_⟩
  have hnone := hiff.1 hfaithful
  obtain ⟨ls, hls, hlength, hliteral⟩ := prints_table hlabel hentries hnone
  refine ⟨ls, diagnose_of_printAll hls, ?_, hliteral⟩
  rw [hlength, literalTable, List.length_cons, List.length_map]

/-- A key that begins a tag, with a value that ends it, and one that is a tag by itself. -/
theorem table_faithful_iff_tagged :
    ¬Faithful "Colours" [("[red", "x]y")]
      ∧ CommandLine.Printing.diagnose true (markTable "Colours" [("[red]", "[/]")]) =
        ⟨[], literalTable "Colours" [("[red]", "[/]")], .ok ()⟩ := by
  have hspliced : Spliced "[red" "x]y" := by
    refine ⟨⟨0, rfl, [], ['r', 'e', 'd'], by simp [slashes], by simp, ?_⟩, by rw [Sealed]; decide⟩
    exact ⟨'r', ['e', 'd'], rfl, by decide, by decide, by decide⟩
  have hnone : ∀ e ∈ [("[red]", "[/]")], ¬Spliced e.1 e.2 := by
    rintro e he ⟨_, hseal⟩
    rw [List.mem_singleton.1 he] at hseal
    exact hseal (sealed_bracket ['/', ']'])
  have hplain : ∀ text ∈ ["Colours", "[red]", "[/]"], PlainLine text := by decide
  obtain ⟨hiff, hshown⟩ := table_faithful_iff "Colours" [("[red]", "[/]")]
  obtain ⟨ls, hls, _, hliteral⟩ := hshown (hiff.2 hnone) (by decide) (by decide)
  refine ⟨fun h => (table_faithful_iff "Colours" _).1.1 h _ List.mem_cons_self hspliced, ?_⟩
  rw [hls, hliteral.2 ⟨(hplain _ (by simp)).keptBeforeWords, ?_⟩]
  intro e he
  rw [List.mem_singleton.1 he]
  exact ⟨(hplain _ (by simp)).keptBeforeWords, (hplain _ (by simp)).keptBeforeTag⟩

end PackageGate.Diagnostics
