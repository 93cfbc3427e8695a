import ProfilePolicy.Keyed
import ProfilePolicy.Yaml.Tag
import ProfilePolicy.Yaml.Token

/-!
# The graph of a YAML text

Tokens form one document of nodes: scalars, sequences and mappings, whose parts are nodes again. A
node may be given a name, which is given once, and stands wherever an alias has that name, even
inside itself; so the nodes form a graph, in which every node is known by its number. Tags are
written with handles, which directives may introduce. Collections may not be nested too deeply.
-/

namespace ProfilePolicy.Yaml

abbrev NodeId := Nat

inductive Content
  | scalar (text : String)
  | sequence (items : List NodeId)
  | mapping (entries : List (NodeId × NodeId))
  deriving DecidableEq, Repr, Inhabited

structure Node where
  tag : Tag
  content : Content
  deriving DecidableEq, Repr, Inhabited

structure Graph where
  nodes : Array Node := #[]
  deriving Inhabited

namespace Graph

def node (graph : Graph) (id : NodeId) : Node :=
  graph.nodes.getD id default

def content (graph : Graph) (id : NodeId) : Content :=
  (graph.node id).content

def tag (graph : Graph) (id : NodeId) : Tag :=
  (graph.node id).tag

/-- The entries of a mapping; of any other node none. -/
def entries (graph : Graph) (id : NodeId) : List (NodeId × NodeId) :=
  match graph.content id with
  | .mapping entries => entries
  | _ => []

def add (graph : Graph) (node : Node) : NodeId × Graph :=
  (graph.nodes.size, { nodes := graph.nodes.push node })

def setContent (graph : Graph) (id : NodeId) (content : Content) : Graph :=
  { nodes := graph.nodes.modify id fun node => { node with content } }

def setTag (graph : Graph) (id : NodeId) (tag : Tag) : Graph :=
  { nodes := graph.nodes.modify id fun node => { node with tag } }

end Graph

/-! ## Reading tokens -/

/-- What parsing knows: the tokens that are left, the problem behind them, the handles of tags, the
nodes so far and their names, and the number of collections around the next node. -/
structure Parsing where
  rest : List Token
  problem : Option Problem
  handles : Keyed String := []
  graph : Graph := {}
  named : Keyed NodeId := []
  depth : Nat := 0
  deriving Inhabited

/-- The most collections that may lie around a node. -/
def Parsing.deepest : Nat := 488

abbrev Parser := StateT Parsing Checked

namespace Parser

def broken {α : Type} : Parser α :=
  throw .malformed

/-- The next token, or none at the end of the text. Looking behind the last token meets the problem
that ended them. -/
def peek : Parser (Option Token) := do
  let parsing ← get
  match parsing.rest, parsing.problem with
  | [], some problem => throw problem
  | rest, _ => pure rest.head?

def advance : Parser Unit :=
  modify fun parsing => { parsing with rest := parsing.rest.tail }

def sees (tokens : List Token) : Parser Bool := do
  let next ← peek
  pure (next.any tokens.contains)

def expect (token : Token) : Parser Unit := do
  if ← sees [token] then advance else broken

def optionalTag : Parser (Option (Option String × String)) := do
  match ← peek with
  | some (.tag handle suffix) =>
    advance
    pure (some (handle, suffix))
  | _ => pure none

def optionalName : Parser (Option String) := do
  match ← peek with
  | some (.anchor name) =>
    advance
    pure (some name)
  | _ => pure none

/-- The address of a tag as it is written. -/
def fullTag : Option (Option String × String) → Parser (Option String)
  | none => pure none
  | some (none, suffix) => pure (some suffix)
  | some (some handle, suffix) => do
    let parsing ← get
    match parsing.handles.get? handle with
    | some tagPrefix => pure (some (tagPrefix ++ suffix))
    | none => broken

/-- The tag and the name of a node, in either order. -/
def properties : Parser (Option String × Option String) := do
  match ← optionalName with
  | some name =>
    let tag ← optionalTag
    let tag ← fullTag tag
    pure (tag, some name)
  | none =>
    let tag ← optionalTag
    let name ← if tag.isSome then optionalName else pure none
    let tag ← fullTag tag
    pure (tag, name)

/-- Adds a node. Its name is given here, and was not given before. -/
def begin (name : Option String) (node : Node) : Parser NodeId := do
  let parsing ← get
  if name.any parsing.named.holds then broken
  else
    let (id, graph) := parsing.graph.add node
    let named := match name with
      | some name => parsing.named.put name id
      | none => parsing.named
    set { parsing with graph, named }
    pure id

/-- Goes into a collection, unless too many lie around it. -/
def descend : Parser Unit := do
  let parsing ← get
  if parsing.depth < Parsing.deepest then set { parsing with depth := parsing.depth + 1 }
  else throw (.mishap .endless)

/-- Puts into a collection what was read for it, and goes out of it. -/
def finish (id : NodeId) (content : Content) : Parser NodeId := do
  modify fun parsing =>
    { parsing with graph := parsing.graph.setContent id content, depth := parsing.depth - 1 }
  pure id

def beginSequence (tag name : Option String) : Parser NodeId := do
  descend
  begin name ⟨collectionTag .sequence tag, .sequence []⟩

def beginMapping (tag name : Option String) : Parser NodeId := do
  descend
  begin name ⟨collectionTag .mapping tag, .mapping []⟩

def scalar (tag name : Option String) (text : String) (plain : Bool) : Parser NodeId :=
  begin name ⟨scalarTag tag text plain, .scalar text⟩

def missing : Parser NodeId :=
  scalar none none "" true

/-- A node of which only the tag or the name is written. -/
def nothing (tag name : Option String) : Parser NodeId :=
  if tag.isNone && name.isNone then broken else scalar tag name "" true

def aliased (name : String) : Parser NodeId := do
  let parsing ← get
  match parsing.named.get? name with
  | some id => pure id
  | none => broken

/-- A separator between entries in brackets; the first entry has none. -/
def separator (first : Bool) : Parser Unit :=
  if first then pure () else expect .flowEntry

mutual

/-- A node. Outside brackets it may be a collection shown by indentation; after the colon of a
mapping also a sequence that is not indented. -/
def node (isBlock isLoose : Bool) : Nat → Parser NodeId
  | 0 => broken
  | fuel + 1 => do
    match ← peek with
    | some (.alias name) =>
      advance
      aliased name
    | _ =>
      let (tag, name) ← properties
      match ← peek with
      | some (.scalar text plain) =>
        advance
        scalar tag name text plain
      | some .flowSequenceStart =>
        let id ← beginSequence tag name
        advance
        let items ← flowItems true fuel
        finish id (.sequence items)
      | some .flowMappingStart =>
        let id ← beginMapping tag name
        advance
        let entries ← flowEntries true fuel
        finish id (.mapping entries)
      | some .blockEntry =>
        if isLoose then
          let id ← beginSequence tag name
          let items ← looseItems fuel
          finish id (.sequence items)
        else nothing tag name
      | some .blockSequenceStart =>
        if isBlock then
          let id ← beginSequence tag name
          advance
          let items ← blockItems fuel
          finish id (.sequence items)
        else nothing tag name
      | some .blockMappingStart =>
        if isBlock then
          let id ← beginMapping tag name
          advance
          let entries ← blockEntries fuel
          finish id (.mapping entries)
        else nothing tag name
      | _ => nothing tag name

/-- A node, or none where one of several tokens comes next. -/
def nodeUnless (tokens : List Token) (isBlock isLoose : Bool) : Nat → Parser NodeId
  | 0 => broken
  | fuel + 1 => do
    if ← sees tokens then missing else node isBlock isLoose fuel

def blockItems : Nat → Parser (List NodeId)
  | 0 => broken
  | fuel + 1 => do
    if ← sees [.blockEntry] then
      advance
      let item ← nodeUnless [.blockEntry, .blockEnd] true false fuel
      let items ← blockItems fuel
      pure (item :: items)
    else
      expect .blockEnd
      pure []

/-- The items of a sequence that is not indented. -/
def looseItems : Nat → Parser (List NodeId)
  | 0 => broken
  | fuel + 1 => do
    if ← sees [.blockEntry] then
      advance
      let item ← nodeUnless [.blockEntry, .key, .value, .blockEnd] true false fuel
      let items ← looseItems fuel
      pure (item :: items)
    else pure []

/-- The value after a key, which may be missing. -/
def valueUnless (tokens : List Token) (isBlock : Bool) : Nat → Parser NodeId
  | 0 => broken
  | fuel + 1 => do
    if ← sees [.value] then
      advance
      nodeUnless tokens isBlock isBlock fuel
    else missing

def blockEntries : Nat → Parser (List (NodeId × NodeId))
  | 0 => broken
  | fuel + 1 => do
    if ← sees [.key] then
      advance
      let key ← nodeUnless [.key, .value, .blockEnd] true true fuel
      let value ← valueUnless [.key, .value, .blockEnd] true fuel
      let entries ← blockEntries fuel
      pure ((key, value) :: entries)
    else
      expect .blockEnd
      pure []

/-- The items of a sequence in brackets. An item that is a key with a value is a mapping. -/
def flowItems (first : Bool) : Nat → Parser (List NodeId)
  | 0 => broken
  | fuel + 1 => do
    if ← sees [.flowSequenceEnd] then
      advance
      pure []
    else
      separator first
      if ← sees [.flowSequenceEnd] then
        advance
        pure []
      else
        let item ←
          if ← sees [.key] then
            let id ← beginMapping none none
            advance
            let key ← nodeUnless [.value, .flowEntry, .flowSequenceEnd] false false fuel
            let value ← valueUnless [.flowEntry, .flowSequenceEnd] false fuel
            finish id (.mapping [(key, value)])
          else node false false fuel
        let items ← flowItems false fuel
        pure (item :: items)

/-- The entries of a mapping in braces. An entry may have no value. -/
def flowEntries (first : Bool) : Nat → Parser (List (NodeId × NodeId))
  | 0 => broken
  | fuel + 1 => do
    if ← sees [.flowMappingEnd] then
      advance
      pure []
    else
      separator first
      if ← sees [.flowMappingEnd] then
        advance
        pure []
      else
        let entry ←
          if ← sees [.key] then
            advance
            let key ← nodeUnless [.value, .flowEntry, .flowMappingEnd] false false fuel
            let value ← valueUnless [.flowEntry, .flowMappingEnd] false fuel
            pure (key, value)
          else
            let key ← node false false fuel
            let value ← missing
            pure (key, value)
        let entries ← flowEntries false fuel
        pure (entry :: entries)

end

/-- The handles that need no directive. -/
def standardHandles : Keyed String :=
  [("!", "!"), ("!!", "tag:yaml.org,2002:")]

/-- Handles with the standard ones where they are missing. -/
def withStandard (handles : Keyed String) : Keyed String :=
  standardHandles.foldl
    (fun handles entry => if handles.holds entry.1 then handles else handles.put entry.1 entry.2)
    handles

/-- Reads the directives of a document; the version is given once, and each handle once. -/
def directives (versioned : Bool) (handles : Keyed String) : Nat → Parser (Keyed String)
  | 0 => broken
  | fuel + 1 => do
    match ← peek with
    | some (.directive (.version major)) =>
      advance
      if versioned || major != 1 then broken else directives true handles fuel
    | some (.directive (.tag handle tagPrefix)) =>
      advance
      if handles.holds handle then broken
      else directives versioned (handles.put handle tagPrefix) fuel
    | some (.directive .other) =>
      advance
      directives versioned handles fuel
    | _ => pure (withStandard handles)

def beginMarked (fuel : Nat) : Parser Unit := do
  let handles ← directives false [] fuel
  expect .documentStart
  modify fun parsing => { parsing with handles }

/-- Moves past marks of the end of a document. -/
def skipEnds : Nat → Parser Unit
  | 0 => pure ()
  | fuel + 1 => do
    if ← sees [.documentEnd] then
      advance
      skipEnds fuel
    else pure ()

def markedDocument (fuel : Nat) : Parser NodeId := do
  match ← peek with
  | none => missing
  | some (.directive _) | some .documentStart | some .documentEnd => missing
  | some _ => node true false fuel

/-- The end of the text after its only document. A second one breaks the rules. -/
def endOfText (fuel : Nat) : Parser Unit := do
  skipEnds fuel
  match ← peek with
  | none => pure ()
  | some _ => do
    beginMarked fuel
    broken

/-- The node of the only document, if there is one. -/
def document (fuel : Nat) : Parser (Option NodeId) := do
  match ← peek with
  | none => pure none
  | some (.directive _) | some .documentStart => do
    beginMarked fuel
    let root ← markedDocument fuel
    endOfText fuel
    pure (some root)
  | some _ => do
    modify fun parsing => { parsing with handles := standardHandles }
    let root ← node true false fuel
    endOfText fuel
    pure (some root)

end Parser

/-- The graph of a text with its root; an empty text has none. -/
def Graph.ofText (text : List Char) : Checked (Option (NodeId × Graph)) :=
  let (rest, problem) := tokens text
  ((Parser.document (4 * rest.length + 16)).run { rest, problem }).map fun (root, parsing) =>
    root.map fun id => (id, parsing.graph)

end ProfilePolicy.Yaml
