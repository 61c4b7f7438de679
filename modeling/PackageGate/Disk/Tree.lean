import PackageGate.Disk.Basic

/-!
# Trees of files

A disk holds a tree: directories with named entries, files with bytes, and links with the text of
the path that they stand for. A *place* is a list of names from the root downwards. It is reached
without any link, since only directories have entries.
-/

namespace PackageGate.Disk

/-- A tree of files. -/
inductive Node where
  | file (bytes : List UInt8)
  | directory (entries : List (String × Node))
  | link (target : String)
deriving Repr, Inhabited

/-- Names from the root downwards. -/
abbrev Place := List String

namespace Node

/-- Whether a node is a directory. -/
def isDirectory : Node → Bool
  | directory _ => true
  | _ => false

/-- The entries of a directory; other nodes have none. -/
def entries : Node → List (String × Node)
  | directory entries => entries
  | _ => []

/-- The entry of a name. -/
def child? (n : Node) (name : String) : Option Node := n.entries.lookup name

/-- The node at a place. -/
def at? (n : Node) : Place → Option Node
  | [] => some n
  | name :: rest => (n.child? name).bind (·.at? rest)

/-- The entries with one name set. -/
def setEntry (name : String) (n : Node) : List (String × Node) → List (String × Node)
  | [] => [(name, n)]
  | (other, m) :: rest =>
    if other = name then (name, n) :: rest else (other, m) :: setEntry name n rest

/-- The tree with a node put at a place. Directories on the way are made where they are missing. -/
def put (new : Node) : Place → Node → Node
  | [], _ => new
  | name :: rest, n =>
    directory (setEntry name (put new rest ((n.child? name).getD (directory []))) n.entries)

/-- The tree without what is at a place. -/
def erase : Place → Node → Node
  | [], n => n
  | [name], n => match n with
    | directory entries => directory (entries.filter (·.1 ≠ name))
    | other => other
  | name :: rest, n =>
    match n.child? name with
    | some m => directory (setEntry name (erase rest m) n.entries)
    | none => n

theorem at?_append (n : Node) (p q : Place) : n.at? (p ++ q) = (n.at? p).bind (·.at? q) := by
  induction p generalizing n with
  | nil => rfl
  | cons name rest ih =>
    simp only [List.cons_append, at?]
    cases n.child? name with
    | none => rfl
    | some m => exact ih m

/-- Whatever has something below it is a directory. -/
theorem isDirectory_of_at?_cons {n m : Node} {name : String} {rest : Place}
    (h : n.at? (name :: rest) = some m) : n.isDirectory = true := by
  cases n <;> simp_all [at?, child?, entries, isDirectory]

theorem lookup_setEntry_self (name : String) (n : Node) (es : List (String × Node)) :
    (setEntry name n es).lookup name = some n := by
  induction es with
  | nil => simp [setEntry]
  | cons e rest ih =>
    obtain ⟨other, m⟩ := e
    by_cases h : other = name
    · simp [setEntry, h]
    · have ne : (name == other) = false := beq_eq_false_iff_ne.2 (Ne.symm h)
      simp [setEntry, h, List.lookup_cons, ne, ih]

/-- What is put at a place is found there. -/
theorem at?_put (new : Node) (p : Place) (n : Node) : (put new p n).at? p = some new := by
  induction p generalizing n with
  | nil => rfl
  | cons name rest ih => simp [put, at?, child?, entries, lookup_setEntry_self, ih]

end Node

end PackageGate.Disk
