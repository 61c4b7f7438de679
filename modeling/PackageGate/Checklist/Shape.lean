import PackageGate.Schema.Check

/-!
# The shape of checklist documents

A checklist document is a mapping with a name, a manifest, a primary file and features, and perhaps
with rules. All texts in it are non-empty, and none of its mappings has other keys.
-/

namespace PackageGate.Checklist

private def entry (key : String) (v : Value) : Value × Value := (.str key, v)

private def texts (names : List String) : Value := .list (names.map .str)

/-- The schema of a text with at least one character. -/
def nonEmptyText : Value := .dict [entry "type" (.str "string"), entry "minLength" (.int 1)]

/-- The schema of one feature. -/
def featureShape : Value := .dict
  [entry "type" (.str "object"),
   entry "required" (texts ["marker", "label"]),
   entry "additionalProperties" (.bool false),
   entry "properties" (.dict [entry "marker" nonEmptyText, entry "label" nonEmptyText])]

/-- The schema of the rules, each of which may be left out. -/
def rulesShape : Value := .dict
  [entry "type" (.str "object"),
   entry "additionalProperties" (.bool false),
   entry "properties" (.dict
    [entry "type_keyword" nonEmptyText,
     entry "sentinel_symbol" nonEmptyText,
     entry "required_directive" nonEmptyText])]

/-- The schema of checklist documents. -/
def shape : Value := .dict
  [entry "$schema" (.str "http://json-schema.org/draft-07/schema#"),
   entry "type" (.str "object"),
   entry "required" (texts ["name", "manifest", "primary_file", "features"]),
   entry "additionalProperties" (.bool false),
   entry "properties" (.dict
    [entry "name" nonEmptyText,
     entry "manifest" (.dict
      [entry "type" (.str "array"), entry "minItems" (.int 1), entry "items" nonEmptyText]),
     entry "primary_file" nonEmptyText,
     entry "features" (.dict [entry "type" (.str "array"), entry "items" featureShape]),
     entry "rules" rulesShape])]

end PackageGate.Checklist
