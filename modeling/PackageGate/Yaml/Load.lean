import PackageGate.Yaml.Token.Stream
import PackageGate.Yaml.Denote

/-!
# Reading a document

A document is read in four steps: its text is cut into tokens, the grammar turns those into events,
the events build a graph of nodes, and the graph denotes a value. A text with a character that may
not occur at all is refused before the first step. A text without any document denotes null.
-/

namespace PackageGate.Yaml

/-- Whether a character may occur in a document. -/
def isAllowed (c : Char) : Bool :=
  let n := c.toNat
  n = 9 || n = 10 || n = 13 || (0x20 ≤ n && n ≤ 0x7E) || n = 0x85 || (0xA0 ≤ n && n ≤ 0xD7FF)
    || (0xE000 ≤ n && n ≤ 0xFFFD) || 0x10000 ≤ n

/-- Why a text denotes nothing. -/
inductive Refusal where
  | unacceptable (c : Char) (position : Nat)
  | stopped (s : Stop)
deriving Repr

/-- The document in a text. -/
def load (text : List Char) : Except Refusal Document :=
  match text.findIdx? (!isAllowed ·) with
  | some i => .error (.unacceptable ((text[i]?).getD endOfText) i)
  | none =>
    let (ts, mistake) := tokens text
    let (es, mistake) := events ts mistake
    match Graph.ofEvents es mistake with
    | .error stop => .error (.stopped stop)
    | .ok none => .ok ⟨.null, #[]⟩
    | .ok (some g) =>
      match Document.ofGraph g with
      | .error stop => .error (.stopped stop)
      | .ok d => .ok d

/-- The wording of a character that may not occur. -/
def unacceptableMessage (c : Char) (position : Nat) : String :=
  s!"unacceptable character #x{String.ofList (Text.hex 4 c.toNat)}: " ++
    "special characters are not allowed\n" ++
    s!"  in \"<unicode string>\", position {position}"

end PackageGate.Yaml
