import PackageGate.Text.Blank
import PackageGate.Text.Lower
import PackageGate.Text.Split

/-!
# Styles

A tag names a style: words such as `bold` or `red`, or `not bold`. Words for the same attributes are
the same style in any order and under any of their names, and the last word on an attribute counts;
everything else is compared as written, without regard to case. Six styles are used by the program
itself, and a terminal with colours has a code for each.
-/

namespace PackageGate.Markup

/-- The styles in use. -/
inductive Style where
  | heading
  | good
  | bad
  | success
  | failure
  | faint
deriving Repr, DecidableEq

/-- The name of a style in tags. -/
def Style.name : Style → String
  | .heading => "bold cyan"
  | .good => "green"
  | .bad => "red"
  | .success => "bold green"
  | .failure => "bold red"
  | .faint => "dim"

/-- The code of a style on a terminal. -/
def Style.code : Style → String
  | .heading => "1;36"
  | .good => "32"
  | .bad => "31"
  | .success => "1;32"
  | .failure => "1;31"
  | .faint => "2"

/-- All styles in use. -/
def Style.all : List Style := [.heading, .good, .bad, .success, .failure, .faint]

/-- The words for attributes, in the order in which they are named, each with its short form. -/
def attributes : List (String × String) :=
  [("bold", "b"), ("dim", "d"), ("italic", "i"), ("underline", "u"), ("blink", "blink"),
   ("blink2", "blink2"), ("reverse", "r"), ("conceal", "c"), ("strike", "s"), ("underline2", "uu"),
   ("frame", "frame"), ("encircle", "encircle"), ("overline", "o")]

/-- A text without blanks at its ends. -/
def trim (text : List Char) : List Char :=
  ((text.dropWhile Text.isBlank).reverse.dropWhile Text.isBlank).reverse

/-- The words of a text. -/
def wordsOf (text : List Char) : List (List Char) :=
  (Text.splitAt ' ' (text.map fun c => if Text.isBlank c then ' ' else c)).filter (!·.isEmpty)

/-- The attribute that a word stands for. -/
def attributeOf? (word : String) : Option String :=
  (attributes.find? fun a => a.1 = word || a.2 = word).map (·.1)

/-- What words say about attributes, if they speak of nothing else: each that is named, and whether
it is switched on, the last word first. An attribute behind `not` is written in lower case. -/
def switches? (done : List (String × Bool)) : List (List Char) → Option (List (String × Bool))
  | [] => some done
  | word :: rest =>
    let lower := String.ofList (Text.lower word)
    if lower = "not" then
      match rest with
      | [] => none
      | word :: rest =>
        (attributeOf? (String.ofList word)).bind fun a => switches? ((a, false) :: done) rest
    else (attributeOf? lower).bind fun a => switches? ((a, true) :: done) rest

/-- The name of a style with some attributes switched on or off. -/
def nameOf (switches : List (String × Bool)) : String :=
  " ".intercalate (attributes.filterMap fun a =>
    (switches.lookup a.1).map fun on => if on then a.1 else "not " ++ a.1)

/-- The name under which a style is compared. -/
def styleName (text : List Char) : String :=
  match switches? [] (wordsOf text) with
  | none | some [] => String.ofList (trim (Text.lower text))
  | some switches => nameOf switches

/-- The style of a name, if it is one in use. -/
def Style.ofName? (name : String) : Option Style := Style.all.find? (·.name = name)

theorem styleName_name (s : Style) : styleName s.name.toList = s.name := by
  cases s <;> decide +kernel

end PackageGate.Markup
