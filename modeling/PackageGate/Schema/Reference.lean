import PackageGate.Schema.Basic

/-!
# References as addresses

A reference is an address: a scheme, an authority behind two slashes, a path with parameters, a
query, and a fragment behind a number sign. If all that stands in front of the fragment is empty,
the fragment names a part of the schema in which the reference stands.

An address that does not begin with its fragment is read leniently: control characters and spaces
in front of it are skipped, and so are tabs and line ends anywhere in it. Without a fragment it is
not taken apart at all.
-/

namespace PackageGate.Schema

/-- What a reference names. -/
inductive Reference where
  /-- A part of the schema in which the reference stands. -/
  | within (fragment : List Char)
  /-- Another document. -/
  | elsewhere
deriving Repr, DecidableEq

namespace Reference

/-- An address without what is skipped in it. -/
def lenient (text : List Char) : List Char :=
  (text.dropWhile (· ≤ ' ')).filter fun c => c ≠ '\t' && c ≠ '\r' && c ≠ '\n'

/-- Whether a scheme may hold a character. -/
def isSchemeChar (c : Char) : Bool := c.isAlphanum || c = '+' || c = '-' || c = '.'

/-- What follows the scheme of an address, if it has one. -/
def behindScheme? (address : List Char) : Option (List Char) :=
  let scheme := address.takeWhile (· ≠ ':')
  if scheme.length < address.length && scheme.head?.any Char.isAlpha && scheme.all isSchemeChar then
    some (address.drop (scheme.length + 1))
  else none

/-- The authority of an address without a scheme. -/
def authority : List Char → List Char
  | '/' :: '/' :: rest => rest.takeWhile fun c => c ≠ '/' && c ≠ '?' && c ≠ '#'
  | _ => []

/-- Checks that a bracket in the authority of an address has a partner. -/
def checkAuthority (address : List Char) : Except Abort Unit :=
  let authority := authority address
  if authority.contains '[' = authority.contains ']' then .ok () else .error (.misuse .loneBracket)

/-- What may stand in front of the fragment of an address that has nothing else: the marks of
parameters, of an authority and of a query. -/
def emptyFronts : List String := ["", ";", "//", "?", ";?", "//?"]

/-- What the text of a reference names. -/
def ofString (text : String) : Except Abort Reference :=
  match text.toList with
  | [] => .ok (.within [])
  | '#' :: fragment => .ok (.within fragment)
  | characters =>
    if !characters.contains '#' then .ok .elsewhere
    else do
      let address := lenient characters
      match behindScheme? address with
      | some rest =>
        checkAuthority rest
        .ok .elsewhere
      | none =>
        checkAuthority address
        let front := address.takeWhile (· ≠ '#')
        .ok (if emptyFronts.contains (String.ofList front) then
            .within (address.drop (front.length + 1))
          else .elsewhere)

/-- A reference that begins with its fragment is read as it stands. -/
theorem ofString_hash (fragment : List Char) :
    ofString (String.ofList ('#' :: fragment)) = .ok (.within fragment) := by
  simp [ofString]

end Reference

end PackageGate.Schema
