import PackageGate.Markup.Render
import PackageGate.Text.Width

/-!
# Printing

What marked-up text shows is printed in lines. The bell, backspace, vertical tab, form feed and
carriage return are dropped. A tab becomes a space and then as many more as lead to the next
multiple of eight cells. Lines end at line feeds only, and are never wrapped.

With colours, each run of characters in a style stands between the code of the style and the code
that ends it. A style goes over the line end by ending and beginning again.
-/

namespace PackageGate.Markup

/-- Whether a character is dropped. -/
def isDropped (c : Char) : Bool :=
  c = '\x07' || c = '\x08' || c = '\x0b' || c = '\x0c' || c = '\x0d'

/-- The lines of some characters. -/
def linesOf : List Glyph → List (List Glyph)
  | [] => [[]]
  | g :: rest =>
    match linesOf rest with
    | [] => [[g]]
    | line :: more => if g.char = '\n' then [] :: line :: more else (g :: line) :: more

/-- A line with its tabs replaced, from a cell on, where `joined` tells whether a joiner stands
right before, and `base` is the last character that took a cell, unless a selector has followed it.
Neither joiners nor selectors reach beyond a tab. -/
def expandTabs (joined : Bool) (base : Option Char) (cell : Nat) : List Glyph → List Glyph
  | [] => []
  | g :: rest =>
    if g.char = '\t' then
      let behind := if joined then cell else cell + 1
      let next := (behind + 7) / 8 * 8
      List.replicate (next - behind + 1) { g with char := ' ' } ++
        expandTabs false none next rest
    else if joined then g :: expandTabs false base cell rest
    else if Text.isPictographSelector g.char then
      g :: expandTabs false none (cell + if base.any Text.isPictographBase then 1 else 0) rest
    else
      let width := Text.cells g.char
      g :: expandTabs (Text.isJoiner g.char) (if width = 0 then base else some g.char)
        (cell + width) rest

/-- The code of the styles that are open at a character: that of the innermost style in use. -/
def Glyph.code? (g : Glyph) : Option String :=
  (g.opened.findSome? fun o => Style.ofName? o.full).map (·.code)

/-- A line cut into runs of one code each. -/
def runs : List Glyph → List (Option String × List Char)
  | [] => []
  | g :: rest =>
    match runs rest with
    | [] => [(g.code?, [g.char])]
    | (code, text) :: more =>
      if g.code? = code then (code, g.char :: text) :: more
      else (g.code?, [g.char]) :: (code, text) :: more

/-- A run of characters as it is sent to a terminal. -/
def coloured : Option String × List Char → List Char
  | (none, text) => text
  | (some code, text) =>
    '\x1b' :: '[' :: code.toList ++ 'm' :: text ++ '\x1b' :: '[' :: '0' :: ['m']

/-- A line as text, with colours or without. -/
def lineText (colours : Bool) (line : List Glyph) : String :=
  String.ofList (if colours then (runs line).flatMap coloured else line.map (·.char))

/-- The lines that marked-up text is printed as. -/
def print (colours : Bool) (text : List Char) : Except Mistake (List String) :=
  (glyphs text).map fun shown =>
    (linesOf (shown.filter (!isDropped ·.char))).map fun line =>
      lineText colours (expandTabs false none 0 line)

/-- What is printed of several marked-up texts, one below the other, up to the first mistake. -/
def printout (colours : Bool) : List (List Char) → List String × Option Mistake
  | [] => ([], none)
  | text :: rest =>
    match print colours text with
    | .error mistake => ([], some mistake)
    | .ok lines =>
      let (more, mistake) := printout colours rest
      (lines ++ more, mistake)

/-- The lines that several marked-up texts without a mistake are printed as. -/
def printAll (colours : Bool) : List (List Char) → Except Mistake (List String)
  | [] => .ok []
  | text :: rest =>
    match print colours text with
    | .error mistake => .error mistake
    | .ok lines => (printAll colours rest).map (lines ++ ·)

/-- All is printed unless there is a mistake. -/
theorem printAll_eq (colours : Bool) (texts : List (List Char)) :
    printAll colours texts = match printout colours texts with
      | (lines, none) => .ok lines
      | (_, some mistake) => .error mistake := by
  induction texts with
  | nil => rfl
  | cons text rest ih =>
    unfold printAll printout
    cases print colours text with
    | error mistake => rfl
    | ok lines =>
      simp only [ih]
      cases printout colours rest with
      | mk more mistake => cases mistake <;> rfl

end PackageGate.Markup
