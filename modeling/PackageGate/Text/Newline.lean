import PackageGate.Text.Split

/-!
# Line ends

Files end their lines with a line feed, a carriage return, or both together. A text that has been
read knows line feeds only.
-/

namespace PackageGate.Text

/-- Writes every line end as one line feed. -/
def unifyNewlines : List Char → List Char
  | [] => []
  | '\r' :: '\n' :: rest => '\n' :: unifyNewlines rest
  | '\r' :: rest => '\n' :: unifyNewlines rest
  | c :: rest => c :: unifyNewlines rest

/-- The lines of a text; a text without any line feed is one line. -/
def lines (text : List Char) : List (List Char) := splitAt '\n' text

/-- Splits a string at each line feed. -/
def splitLines (s : String) : List String := (lines s.toList).map String.ofList

/-- A text that has been read holds no carriage return. -/
theorem not_mem_unifyNewlines (text : List Char) : '\r' ∉ unifyNewlines text := by
  fun_induction unifyNewlines text with
  | case1 => simp
  | case2 rest ih => simpa using ih
  | case3 rest _ ih => simpa using ih
  | case4 c rest _ hc ih =>
    intro h
    rcases List.mem_cons.1 h with h | h
    · exact hc h.symm
    · exact ih h

end PackageGate.Text
