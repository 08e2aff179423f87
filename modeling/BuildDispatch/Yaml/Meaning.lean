import BuildDispatch.Value.Table
import BuildDispatch.Yaml.Document
import BuildDispatch.Yaml.ScalarValue

/-!
# What documents mean

The value that a graph of nodes writes, put into a heap. Every node becomes one value, however often
it is referred to. Containers start empty and are filled in the order in which they were met, so a
container may well hold itself; what is wrong with a node shows when its turn comes, so of two
faults the one nearer to the root counts.

A mapping is prepared when it is filled: the entries of the mappings under its merge keys are taken
over in front of its own, and a key that marks a default reads as text. Preparing changes the graph,
and whoever meets the mapping later finds it prepared.

## Main definitions

* `prepare`: merge keys and default keys.
* `valueAt`: the value of a node, its container still empty.
* `fill`: the members of a container.
* `valueOf`: the value of the document in a file.
-/

namespace BuildDispatch.Yaml

structure Progress where
  graph : Graph
  heap : Heap := .start
  /-- The places of the values of nodes. -/
  places : List (NodeId × Place) := []
  /-- The nodes whose containers are to be filled. -/
  waiting : List (NodeId × Place) := []

abbrev Building := StateT Progress (Except Fault)

namespace Building

def malformed {α : Type} : Building α := throw .malformed

def graph : Building Graph := do pure (← get).graph

def setGraph (graph : Graph) : Building Unit := modify fun s => { s with graph }

/-- A new place with a shape. -/
def addShape (shape : Shape Place) : Building Place := do
  let s ← get
  let (heap, place) := s.heap.add shape
  set { s with heap }
  pure place

def putShape (place : Place) (shape : Shape Place) : Building Unit :=
  modify fun s => { s with heap := s.heap.put place shape }

/-! ### Merge keys and default keys -/

/-- Have the default keys among some entries read as text. -/
def textDefaults (g : Graph) (entries : List (NodeId × NodeId)) : Graph :=
  entries.foldl (fun g entry => if g.tag entry.1 = .default then g.setTag entry.1 .str else g) g

/-- The entries in front of the first merge key, what it merges, and the entries behind it. -/
def splitAtMerge (g : Graph) : List (NodeId × NodeId) →
    Option (List (NodeId × NodeId) × NodeId × List (NodeId × NodeId))
  | [] => none
  | entry :: rest =>
    if g.tag entry.1 = .merge then some ([], entry.2, rest)
    else (splitAtMerge g rest).map fun (before, merged, after) => (entry :: before, merged, after)

/-- The number of merge keys in a graph. -/
def mergeCount (g : Graph) : Nat :=
  g.nodes.foldl (fun n node =>
    match node.content with
    | .mapping entries => n + entries.countP fun entry => g.tag entry.1 = .merge
    | _ => n) 0

/-- The entries of a mapping, after it has been prepared. -/
def entriesAfter (prepareMapping : NodeId → Building Unit) (id : NodeId) :
    Building (List (NodeId × NodeId)) := do
  match (← graph).content id with
  | .mapping _ =>
    prepareMapping id
    pure ((← graph).entries id)
  | _ => malformed

/-- The entries that a merge key takes over: those of the mapping under it, or of several mappings,
where the first counts most and therefore comes last. -/
def mergedEntries (prepareMapping : NodeId → Building Unit) (id : NodeId) :
    Building (List (NodeId × NodeId)) := do
  match (← graph).content id with
  | .sequence items =>
    let parts ← items.mapM (entriesAfter prepareMapping)
    pure parts.reverse.flatten
  | _ => entriesAfter prepareMapping id

/-- Prepare a mapping, with the entries of the merge keys so far. Each merge key is dropped from its
mapping before what it merges is looked at, so there are fewer of them every time. -/
def prepareFrom : Nat → List (NodeId × NodeId) → NodeId → Building Unit
  | 0, _, _ => malformed
  | fuel + 1, merged, id => do
    let g ← graph
    match splitAtMerge g (g.entries id) with
    | none =>
      let g := textDefaults g (g.entries id)
      setGraph (g.setContent id (.mapping (merged ++ g.entries id)))
    | some (before, value, after) =>
      setGraph ((textDefaults g before).setContent id (.mapping (before ++ after)))
      let found ← mergedEntries (prepareFrom fuel []) value
      prepareFrom fuel (merged ++ found) id

def prepare (id : NodeId) : Building Unit := do
  prepareFrom (mergeCount (← graph) + 1) [] id

/-! ### Values -/

/-- The text that a node has where a scalar is asked for: a mapping's is that of its default. -/
def textFrom : Nat → NodeId → Building Text
  | 0, _ => throw .endless
  | fuel + 1, id => do
    let g ← graph
    match g.content id with
    | .scalar text => pure text
    | .sequence _ => malformed
    | .mapping entries =>
      match entries.find? (fun entry => g.tag entry.1 = .default) with
      | some entry => textFrom fuel entry.2
      | none => malformed

def textAt (id : NodeId) : Building Text := do
  textFrom ((← graph).nodes.size + 1) id

/-- The value of a scalar. Dates are read from a scalar alone. -/
def scalarAt (tag : Tag) (id : NodeId) : Building Place := do
  let text ← textAt id
  match tag, (← graph).content id with
  | .timestamp, .mapping _ => throw .notAText
  | tag, _ =>
    match scalarShape tag text with
    | .error fault => throw fault
    | .ok none => pure Heap.sharedNan
    | .ok (some shape) => addShape shape

/-- The empty container that a tag asks for. -/
def emptyShape? : Tag → Option (Shape Place)
  | .seq | .orderedMap | .pairs => some (.list [])
  | .map => some (.mapping [])
  | .set => some (.set [])
  | _ => none

/-- Whether a tag asks for a scalar. -/
def asksScalar : Tag → Bool
  | .null | .bool | .int | .float | .binary | .timestamp | .str => true
  | _ => false

/-- The value of a node. A container stays empty for now. -/
def valueAt (id : NodeId) : Building Place := do
  match (← get).places.find? (fun known => known.1 = id) with
  | some known => pure known.2
  | none =>
    let tag := (← graph).tag id
    let place ←
      match emptyShape? tag with
      | some shape => do
        let place ← addShape shape
        modify fun s => { s with waiting := s.waiting ++ [(id, place)] }
        pure place
      | none => if asksScalar tag then scalarAt tag id else malformed
    modify fun s => { s with places := (id, place) :: s.places }
    pure place

/-! ### Containers -/

/-- A key and its value. A container is no key. -/
def entryAt (entry : NodeId × NodeId) : Building (Place × Place) := do
  let key ← valueAt entry.1
  if ((← get).heap.look key).isKey then
    let value ← valueAt entry.2
    pure (key, value)
  else malformed

def pairsAt (id : NodeId) : Building (List (Place × Place)) := do
  match (← graph).content id with
  | .mapping _ =>
    prepare id
    let pairs ← ((← graph).entries id).mapM entryAt
    pure ((← get).heap.ofPairs pairs)
  | _ => malformed

def itemsAt (id : NodeId) : Building (List NodeId) := do
  match (← graph).content id with
  | .sequence items => pure items
  | _ => malformed

/-- An item that is a mapping of one entry, whose key may be anything. -/
def pairAt (id : NodeId) : Building Place := do
  match (← graph).content id with
  | .mapping [entry] =>
    let key ← valueAt entry.1
    let value ← valueAt entry.2
    addShape (.pair key value)
  | _ => malformed

/-- Fill the container of a node. -/
def fill (id : NodeId) (place : Place) : Building Unit := do
  match (← graph).tag id with
  | .seq => putShape place (.list (← (← itemsAt id).mapM valueAt))
  | .orderedMap | .pairs => putShape place (.list (← (← itemsAt id).mapM pairAt))
  | .set => do
    let members := (← pairsAt id).map Prod.fst
    putShape place (.set ((← get).heap.ordered members))
  | _ => putShape place (.mapping (← pairsAt id))

/-- Fill the containers that wait, and those met on the way. Every node waits once at most. -/
def fillAll : Nat → Building Unit
  | 0 => malformed
  | fuel + 1 => do
    match (← get).waiting with
    | [] => pure ()
    | (id, place) :: rest =>
      modify fun s => { s with waiting := rest }
      fill id place
      fillAll fuel

def document (root : NodeId) : Building Place := do
  let place ← valueAt root
  fillAll ((← graph).nodes.size + 1)
  pure place

end Building

/-- The value that a node of a graph writes. -/
def Graph.value (g : Graph) (root : NodeId) : Result Value := do
  let (place, s) ← (Building.document root).run { graph := g }
  .ok ⟨s.heap, place⟩

/-- The value of the document in a file; a file without a document has none. -/
def valueOf (source : Source) : Result Value := do
  match ← Document.ofTokens (Tokens.ofSource source) with
  | none => .ok .null
  | some (g, root) => g.value root

end BuildDispatch.Yaml
