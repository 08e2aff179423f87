import BuildDispatch.Bindings
import BuildDispatch.Yaml.Graph
import BuildDispatch.Yaml.Resolve
import BuildDispatch.Yaml.Token

/-!
# Documents

The graph that the tokens of a document describe. Every node has its tag, resolved from its form
where none is written, and an alias stands for the node it names, which may be one of the
collections around it. A text may hold one document at most.

Reading follows the grammar by recursive descent and asks for tokens one by one, so that what is
wrong with the tokens so far comes before a fault in the text behind them. Each reader takes fuel,
one unit of which lasts at least for one token; a text's tokens with a few to spare are enough for
all of it.
-/

namespace BuildDispatch.Yaml.Document

/-- What is left to read, the nodes so far, and those among them that have names. -/
structure State where
  tokens : Tokens
  graph : Graph := {}
  anchors : Bindings NodeId := .empty
  /-- What the handles of tags stand for. -/
  handles : Bindings Text := .empty

abbrev Reader := StateT State (Except Fault)

def malformed {α : Type} : Reader α := throw .malformed

/-- The next token; nothing at the end of the text. -/
def peek : Reader (Option Token) := do
  let tokens := (← get).tokens
  match tokens.list, tokens.stop with
  | t :: _, _ => pure (some t)
  | [], none => pure none
  | [], some fault => throw fault

/-- Pass the next token, which has been looked at. -/
def drop : Reader Unit :=
  modify fun s => { s with tokens := { s.tokens with list := s.tokens.list.tail } }

/-- Whether the next token is one of these. -/
def at? (tokens : List Token) : Reader Bool := do
  match ← peek with
  | some t => pure (tokens.contains t)
  | none => pure false

/-- Pass a token that has to stand here. -/
def expect (t : Token) : Reader Unit := do
  if ← at? [t] then drop else malformed

/-- A new node. -/
def addNode (n : Node) : Reader NodeId :=
  modifyGet fun s => ((s.graph.add n).2, { s with graph := (s.graph.add n).1 })

/-- A node without a tag or text. -/
def absent : Reader NodeId := addNode .absent

/-- Give a node a name. -/
def bindName (name : Option Text) (id : NodeId) : Reader Unit :=
  match name with
  | none => pure ()
  | some name => modify fun s => { s with anchors := s.anchors.insert name id }

/-- The node that an alias names. -/
def named (name : Text) : Reader NodeId := do
  match (← get).anchors.find? name with
  | some id => pure id
  | none => malformed

/-! ### Properties -/

/-- The anchor and tag in front of a node. -/
structure Properties where
  anchor : Option Text := none
  /-- The tag as text, its handle replaced. -/
  tag : Option Text := none

def readAnchor : Reader (Option Text) := do
  match ← peek with
  | some (.anchor name) => drop; pure (some name)
  | _ => pure none

def readTag : Reader (Option TagName) := do
  match ← peek with
  | some (.tag name) => drop; pure (some name)
  | _ => pure none

def tagText (name : TagName) : Reader Text := do
  match name.handle with
  | none => pure name.suffix
  | some handle =>
    match (← get).handles.find? handle with
    | some head => pure (head ++ name.suffix)
    | none => malformed

/-- An anchor and a tag, each at most once, in either order. -/
def properties : Reader Properties := do
  let anchor ← readAnchor
  let name ← readTag
  let anchor ← if anchor.isNone && name.isSome then readAnchor else pure anchor
  let tag ← name.mapM tagText
  pure ⟨anchor, tag⟩

/-- A tag is given unless it is missing or the single mark that asks for resolution. -/
def givenTag (tag : Option Text) : Option Tag :=
  match tag with
  | none => none
  | some text => if text = "!" then none else some (Tag.ofText text)

/-- The tag of a scalar: the one given, else by form if the scalar is plain or asks for it. -/
def scalarTag (tag : Option Text) (isPlain : Bool) (text : Text) : Tag :=
  match givenTag tag with
  | some t => t
  | none => if isPlain || tag.isSome then Resolve.formTagOf text else .str

def Properties.sequenceTag (p : Properties) : Tag := (givenTag p.tag).getD .seq

def Properties.mappingTag (p : Properties) : Tag := (givenTag p.tag).getD .map

/-! ### Nodes -/

/-- The tokens that end a block sequence's item, a block mapping's key or value, and so on: where
one of them stands, the node in front of it is absent. -/
def afterEntry : List Token := [.entry, .blockEnd]

def afterIndentlessEntry : List Token := [.entry, .key, .value, .blockEnd]

def afterBlockKey : List Token := [.key, .value, .blockEnd]

def afterFlowKey (closing : Token) : List Token := [.value, .flowEntry, closing]

def afterFlowValue (closing : Token) : List Token := [.flowEntry, closing]

/-- What a node begins with, behind its properties. -/
inductive Opening
  | scalar (text : Text) (isPlain : Bool)
  | flowSequence
  | flowMapping
  | blockSequence
  | blockMapping
  | indentlessSequence
  /-- Nothing: the node consists of its properties. -/
  | nothing

/-- Pass what a node begins with. There are no block collections inside a flow collection, where
`block` is false; as a mapping's key or value a sequence may have the indentation of the mapping
(`indentless`). -/
def opening (block indentless : Bool) (p : Properties) : Reader Opening := do
  match ← peek with
  | some (.scalar text isPlain) => drop; pure (.scalar text isPlain)
  | some .flowSequenceStart => drop; pure .flowSequence
  | some .flowMappingStart => drop; pure .flowMapping
  | t =>
    if block && t == some .blockSequenceStart then do drop; pure .blockSequence
    else if block && t == some .blockMappingStart then do drop; pure .blockMapping
    else if indentless && t == some .entry then pure .indentlessSequence
    else if p.anchor.isSome || p.tag.isSome then pure .nothing
    else malformed

/-- No name is given twice. -/
def checkName (p : Properties) : Reader Unit := do
  match p.anchor with
  | none => pure ()
  | some name => if (← get).anchors.contains name then malformed

/-- A sequence with its name, the items of which are read next. -/
def sequenceOf (p : Properties) (readItems : Reader (List NodeId)) : Reader NodeId := do
  let id ← addNode ⟨p.sequenceTag, .sequence []⟩
  bindName p.anchor id
  let items ← readItems
  modify fun s => { s with graph := s.graph.setContent id (.sequence items) }
  pure id

def mappingOf (p : Properties) (readEntries : Reader (List (NodeId × NodeId))) :
    Reader NodeId := do
  let id ← addNode ⟨p.mappingTag, .mapping []⟩
  bindName p.anchor id
  let entries ← readEntries
  modify fun s => { s with graph := s.graph.setContent id (.mapping entries) }
  pure id

def scalarOf (p : Properties) (text : Text) (isPlain : Bool) : Reader NodeId := do
  let id ← addNode ⟨scalarTag p.tag isPlain text, .scalar text⟩
  bindName p.anchor id
  pure id

mutual

/-- A node, or an alias for one. -/
def node (block indentless : Bool) : Nat → Reader NodeId
  | 0 => malformed
  | fuel + 1 => do
    match ← peek with
    | some (.alias name) => drop; named name
    | _ =>
      let p ← properties
      let start ← opening block indentless p
      checkName p
      match start with
      | .scalar text isPlain => scalarOf p text isPlain
      | .flowSequence => sequenceOf p (flowItems true fuel)
      | .flowMapping => mappingOf p (flowEntries true fuel)
      | .blockSequence => sequenceOf p (blockItems fuel)
      | .blockMapping => mappingOf p (blockEntries fuel)
      | .indentlessSequence => sequenceOf p (indentlessItems fuel)
      | .nothing => scalarOf p [] true

/-- A node, or the absent one where a token stands that ends it. -/
def nodeUnless (ends : List Token) (block indentless : Bool) : Nat → Reader NodeId
  | 0 => malformed
  | fuel + 1 => do
    if ← at? ends then absent else node block indentless fuel

def blockItems : Nat → Reader (List NodeId)
  | 0 => malformed
  | fuel + 1 => do
    if ← at? [.entry] then
      drop
      let item ← nodeUnless afterEntry true false fuel
      pure (item :: (← blockItems fuel))
    else
      expect .blockEnd
      pure []

def indentlessItems : Nat → Reader (List NodeId)
  | 0 => malformed
  | fuel + 1 => do
    if ← at? [.entry] then
      drop
      let item ← nodeUnless afterIndentlessEntry true false fuel
      pure (item :: (← indentlessItems fuel))
    else pure []

def blockEntries : Nat → Reader (List (NodeId × NodeId))
  | 0 => malformed
  | fuel + 1 => do
    if ← at? [.key] then
      drop
      let key ← nodeUnless afterBlockKey true true fuel
      let value ← blockValue fuel
      pure ((key, value) :: (← blockEntries fuel))
    else
      expect .blockEnd
      pure []

/-- The value behind a key in a block mapping. -/
def blockValue : Nat → Reader NodeId
  | 0 => malformed
  | fuel + 1 => do
    if ← at? [.value] then
      drop
      nodeUnless afterBlockKey true true fuel
    else absent

/-- The value behind a key in a flow collection that `closing` ends. -/
def flowValue (closing : Token) : Nat → Reader NodeId
  | 0 => malformed
  | fuel + 1 => do
    if ← at? [.value] then
      drop
      nodeUnless (afterFlowValue closing) false false fuel
    else absent

/-- The items of a flow sequence and its end. A key makes an item a mapping of one entry. -/
def flowItems (first : Bool) : Nat → Reader (List NodeId)
  | 0 => malformed
  | fuel + 1 => do
    if ← at? [.flowSequenceEnd] then
      drop
      pure []
    else
      if !first then expect .flowEntry
      if ← at? [.key] then
        drop
        let item ← mappingOf {} do
          let key ← nodeUnless (afterFlowKey .flowSequenceEnd) false false fuel
          let value ← flowValue .flowSequenceEnd fuel
          pure [(key, value)]
        pure (item :: (← flowItems false fuel))
      else if ← at? [.flowSequenceEnd] then
        drop
        pure []
      else
        let item ← node false false fuel
        pure (item :: (← flowItems false fuel))

/-- The entries of a flow mapping and its end. A node that is no key has an absent value. -/
def flowEntries (first : Bool) : Nat → Reader (List (NodeId × NodeId))
  | 0 => malformed
  | fuel + 1 => do
    if ← at? [.flowMappingEnd] then
      drop
      pure []
    else
      if !first then expect .flowEntry
      if ← at? [.key] then
        drop
        let key ← nodeUnless (afterFlowKey .flowMappingEnd) false false fuel
        let value ← flowValue .flowMappingEnd fuel
        pure ((key, value) :: (← flowEntries false fuel))
      else if ← at? [.flowMappingEnd] then
        drop
        pure []
      else
        let key ← node false false fuel
        let value ← absent
        pure ((key, value) :: (← flowEntries false fuel))

end

/-! ### Documents -/

/-- The handles that need no directive. -/
def defaultHandles : List (Text × Text) := [("!", "!"), ("!!", Tag.standardHead)]

/-- Handles declared, with the default ones for the rest. -/
def withDefaults (handles : Bindings Text) : Bindings Text :=
  defaultHandles.foldl (fun acc d => if acc.contains d.1 then acc else acc.insert d.1 d.2) handles

/-- The directives in front of a document: one version at most, which has to be a 1, and no handle
twice. -/
def directives : Nat → Bool → Bindings Text → Reader Unit
  | 0, _, _ => malformed
  | fuel + 1, versioned, handles => do
    match ← peek with
    | some (.directive d) =>
      drop
      match d with
      | .version major =>
        if versioned || major != 1 then malformed else directives fuel true handles
      | .tagHandle handle head =>
        if handles.contains handle then malformed
        else directives fuel versioned (handles.insert handle head)
      | .other => directives fuel versioned handles
    | _ => modify fun s => { s with handles := withDefaults handles }

/-- What must follow a document: markers that end it, and the end of the text. What stands there
instead is read as far as the start of a second document, which is refused. -/
def finished (limit : Nat) : Nat → Reader Unit
  | 0 => malformed
  | fuel + 1 => do
    match ← peek with
    | none => pure ()
    | some .documentEnd =>
      drop
      finished limit fuel
    | some _ =>
      directives limit false .empty
      let _ ← peek
      malformed

/-- Whether a token stands where a document's content would. -/
def lacksContent : Option Token → Bool
  | none => true
  | some (.directive _) => true
  | some .documentStart => true
  | some .documentEnd => true
  | _ => false

/-- The document that begins with directives or a marker. -/
def explicit (limit : Nat) : Reader NodeId := do
  directives limit false .empty
  expect .documentStart
  if lacksContent (← peek) then absent else node true false limit

/-- The one document of a text, if there is one. -/
def document (limit : Nat) : Reader (Option NodeId) := do
  let root ← match ← peek with
    | none => return none
    | some (.directive _) => explicit limit
    | some .documentStart => explicit limit
    | some _ => do
      modify fun s => { s with handles := withDefaults .empty }
      node true false limit
  finished limit limit
  pure (some root)

/-- The graph of a text's document with its root, if there is one. -/
def ofTokens (tokens : Tokens) : Result (Option (Graph × NodeId)) := do
  let (root, s) ← (document (4 * tokens.list.length + 4)).run { tokens }
  .ok (root.map fun id => (s.graph, id))

end BuildDispatch.Yaml.Document
