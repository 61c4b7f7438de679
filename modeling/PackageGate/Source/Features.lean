import PackageGate.Checklist.Basic
import PackageGate.Text.Occurrence

/-!
# Features

A feature is present if its marker occurs in the text, at any position. What else the text holds
does not matter, so adding text never takes a feature away.
-/

namespace PackageGate.Source

/-- Whether the marker of a feature occurs. -/
def isPresent (text : List Char) (f : Feature) : Bool := Text.occurs f.marker.toList text

/-- Each feature with whether it is present. -/
def presence (text : List Char) (features : List Feature) : List (Feature × Bool) :=
  features.map fun f => (f, isPresent text f)

/-- The labels of the features that are not present. -/
def missingLabels (text : List Char) (features : List Feature) : List String :=
  (features.filter fun f => !isPresent text f).map (·.label)

theorem isPresent_iff {text : List Char} {f : Feature} :
    isPresent text f = true ↔ f.marker.toList <:+: text :=
  Text.occurs_iff_isInfix _ _

/-- A feature stays present when text is added around. -/
theorem isPresent_append {text : List Char} {f : Feature} (before after : List Char)
    (h : isPresent text f = true) : isPresent (before ++ text ++ after) f = true := by
  rw [isPresent_iff] at h ⊢
  obtain ⟨s, t, rfl⟩ := h
  exact ⟨before ++ s, t ++ after, by simp⟩

end PackageGate.Source
