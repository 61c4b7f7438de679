import PackageGate.Value.Basic

/-!
# How large values are

Two measures of a value: how deep it is nested, and how many parts it has. Keys of mappings count
for neither, and a shared value counts as one part wherever it stands.
-/

namespace PackageGate.Value

mutual

/-- How deep a value is nested; references are not followed. -/
def depth : Value → Nat
  | .list items | .set items => depthItems items + 1
  | .dict entries => depthEntries entries + 1
  | .pair a b => max (depth a) (depth b) + 1
  | _ => 1

/-- How deep the deepest item is nested. -/
def depthItems : List Value → Nat
  | [] => 0
  | v :: rest => max (depth v) (depthItems rest)

/-- How deep the deepest entry is nested. -/
def depthEntries : List (Value × Value) → Nat
  | [] => 0
  | (_, v) :: rest => max (depth v) (depthEntries rest)

end

mutual

/-- How many parts a value has. -/
def weight : Value → Nat
  | .list items | .set items => weightItems items + 1
  | .dict entries => weightEntries entries + 1
  | .pair a b => weight a + weight b + 1
  | _ => 1

/-- How many parts the items have. -/
def weightItems : List Value → Nat
  | [] => 0
  | v :: rest => weight v + weightItems rest

/-- How many parts the entries have. -/
def weightEntries : List (Value × Value) → Nat
  | [] => 0
  | (_, v) :: rest => weight v + weightEntries rest

end

end PackageGate.Value
