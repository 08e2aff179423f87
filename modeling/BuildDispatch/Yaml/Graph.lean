import BuildDispatch.Yaml.Tag

/-!
# Graphs of nodes

What a YAML document consists of. Every node has a number, its tag and its content; a collection
refers to its members by their numbers, and since an alias refers to the node it names, a collection
may be a member of itself.
-/

namespace BuildDispatch.Yaml

abbrev NodeId := Nat

inductive Content
  | scalar (text : Text)
  | sequence (items : List NodeId)
  | mapping (entries : List (NodeId × NodeId))
deriving Repr, Inhabited

structure Node where
  tag : Tag
  content : Content
deriving Repr

/-- A node without a tag or text reads as null. -/
def Node.absent : Node := ⟨.null, .scalar []⟩

structure Graph where
  nodes : Array Node := #[]
deriving Repr

namespace Graph

def look (g : Graph) (id : NodeId) : Node := g.nodes.getD id .absent

/-- A new node. -/
def add (g : Graph) (n : Node) : Graph × NodeId := (⟨g.nodes.push n⟩, g.nodes.size)

def put (g : Graph) (id : NodeId) (n : Node) : Graph := ⟨g.nodes.setIfInBounds id n⟩

def setContent (g : Graph) (id : NodeId) (content : Content) : Graph :=
  g.put id { g.look id with content }

def setTag (g : Graph) (id : NodeId) (tag : Tag) : Graph := g.put id { g.look id with tag }

def tag (g : Graph) (id : NodeId) : Tag := (g.look id).tag

def content (g : Graph) (id : NodeId) : Content := (g.look id).content

/-- The entries of a mapping; other nodes have none. -/
def entries (g : Graph) (id : NodeId) : List (NodeId × NodeId) :=
  match g.content id with
  | .mapping entries => entries
  | _ => []

@[simp] theorem look_add (g : Graph) (n : Node) : (g.add n).1.look (g.add n).2 = n := by
  simp [add, look]

theorem look_put_self (g : Graph) (n : Node) {id : NodeId} (h : id < g.nodes.size) :
    (g.put id n).look id = n := by
  simp [put, look, h]

theorem look_put_of_ne (g : Graph) (n : Node) {id other : NodeId} (h : other ≠ id) :
    (g.put id n).look other = g.look other := by
  simp [put, look, Array.getElem?_setIfInBounds_ne (Ne.symm h)]

end Graph
end BuildDispatch.Yaml
