import BuildDispatch.Text

/-!
# Tags

The tag of a node says what kind of value it writes. The tags that have a meaning share one prefix;
every other tag is kept as text.
-/

namespace BuildDispatch.Yaml

inductive Tag
  | null
  | bool
  | int
  | float
  | binary
  | timestamp
  | orderedMap
  | pairs
  | set
  | str
  | seq
  | map
  /-- The key under which the entries of other mappings are taken over. -/
  | merge
  /-- The key of the value that a mapping has where a scalar is asked for. -/
  | default
  | other (text : Text)
deriving Repr, DecidableEq

namespace Tag

/-- What the tags with a meaning begin with. -/
def standardHead : Text := "tag:yaml.org,2002:"

def standard : List (Text × Tag) :=
  [("null", null), ("bool", bool), ("int", int), ("float", float), ("binary", binary),
    ("timestamp", timestamp), ("omap", orderedMap), ("pairs", pairs), ("set", set), ("str", str),
    ("seq", seq), ("map", map), ("merge", merge), ("value", default)]

def ofText (text : Text) : Tag :=
  match standard.find? (fun entry => standardHead ++ entry.1 == text) with
  | some entry => entry.2
  | none => other text

end Tag
end BuildDispatch.Yaml
