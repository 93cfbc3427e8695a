import ProfilePolicy.Yaml.Graph.Merge
import ProfilePolicy.Yaml.Single

/-!
# What a YAML text holds

The nodes of a document are read as values, from the root outwards: a collection that is met waits
in a queue until those met before it are done, and its parts are met when its turn comes. So of
several problems the one met first counts. A mapping is merged when its turn comes; an entry that
comes later replaces an earlier one with the same key, and a key is a single value. A node is read
once, however often it stands somewhere.
-/

namespace ProfilePolicy.Yaml

/-- What a node was read as. The parts of a collection are missing until its turn comes. -/
inductive Reading
  | single (value : Value)
  | sequence (items : List NodeId)
  | pairs (count : Nat)
  | set (keys : List Value)
  | mapping (entries : List (Value × NodeId))
  deriving Inhabited

structure Progress where
  graph : Graph
  readings : Array (Option Reading)
  /-- The collections that wait for their turn. -/
  queue : List NodeId := []
  deriving Inhabited

abbrev Reader := StateT Progress Checked

/-- The text that stands for a node: of a scalar its own, of a mapping that of the value under its
key for values. One whose values lead back to itself has no end. -/
def Graph.text (graph : Graph) : Nat → NodeId → Checked String
  | 0, _ => .error (.mishap .endless)
  | fuel + 1, id =>
    match graph.content id with
    | .scalar text => .ok text
    | .sequence _ => malformed
    | .mapping entries =>
      match entries.find? fun entry => graph.tag entry.1 == .value with
      | some entry => graph.text fuel entry.2
      | none => malformed

/-- The single value of a node. A date is only read off a scalar. -/
def Graph.single (graph : Graph) (id : NodeId) : Checked Value := do
  let tag := graph.tag id
  if !tag.isSingle then malformed
  else
    let text ← graph.text (graph.nodes.size + 1) id
    match tag, graph.content id with
    | .timestamp, .mapping _ => .error (.mishap (.notMatchable "list"))
    | _, _ => singleValue tag text

/-- What a collection is read as before its turn comes. -/
def waiting : Tag → Option Reading
  | .sequence => some (.sequence [])
  | .orderedMapping | .pairs => some (.pairs 0)
  | .set => some (.set [])
  | .mapping => some (.mapping [])
  | _ => none

namespace Reader

/-- Remembers what a node was read as. -/
def keep (id : NodeId) (reading : Reading) : Reader Unit :=
  modify fun progress => { progress with readings := progress.readings.setIfInBounds id reading }

def meet (id : NodeId) : Reader Reading := do
  let progress ← get
  match progress.readings.getD id none, waiting (progress.graph.tag id) with
  | some reading, _ => pure reading
  | none, some reading =>
    keep id reading
    modify fun progress => { progress with queue := progress.queue ++ [id] }
    pure reading
  | none, none =>
    let value ← progress.graph.single id
    keep id (.single value)
    pure (.single value)

def meetAll (ids : List NodeId) : Reader Unit :=
  ids.forM fun id => discard (meet id)

/-- Meets a key, which is a single value. -/
def meetKey (id : NodeId) : Reader Value := do
  match ← meet id with
  | .single value => pure value
  | _ => throw .malformed

/-- The entries of a mapping with the values of their keys, merged. -/
def entriesOf (id : NodeId) : Reader (List (Value × NodeId)) := do
  let progress ← get
  match progress.graph.content id with
  | .mapping _ =>
    let graph ← progress.graph.merged id
    set { progress with graph }
    (graph.entries id).mapM fun (key, value) => do
      let name ← meetKey key
      let _ ← meet value
      pure (name, value)
  | _ => throw .malformed

def itemsOf (id : NodeId) : Reader (List NodeId) := do
  let progress ← get
  match progress.graph.content id with
  | .sequence items => pure items
  | _ => throw .malformed

/-- Meets the only entry of a mapping; nothing is merged into it. -/
def meetPair (id : NodeId) : Reader Unit := do
  let progress ← get
  match progress.graph.content id with
  | .mapping [(key, value)] => meetAll [key, value]
  | _ => throw .malformed

/-- Reads the parts of a collection whose turn has come. -/
def serve (id : NodeId) : Reader Unit := do
  match ← meet id with
  | .single _ => pure ()
  | .sequence _ => do
    let items ← itemsOf id
    meetAll items
    keep id (.sequence items)
  | .pairs _ => do
    let items ← itemsOf id
    items.forM meetPair
    keep id (.pairs items.length)
  | .set _ => do
    let entries ← entriesOf id
    keep id (.set (entries.map (·.1)))
  | .mapping _ => do
    let entries ← entriesOf id
    keep id (.mapping entries)

/-- Serves the queue. No node waits twice, so their number bounds the turns. -/
def serveAll : Nat → Reader Unit
  | 0 => pure ()
  | fuel + 1 => do
    let progress ← get
    match progress.queue with
    | [] => pure ()
    | id :: queue =>
      set { progress with queue }
      serve id
      serveAll fuel

end Reader

/-! ## Values -/

def distinctValues (values : List Value) : List Value :=
  values.foldl (fun kept value => if kept.any value.same then kept else kept ++ [value]) []

namespace Progress

def readingOf (progress : Progress) (id : NodeId) : Reading :=
  (progress.readings.getD id none).getD (.single .null)

/-- The value of a mapping. One whose keys are not all texts is known by its keys only. -/
def mappingValue (pairs : List (Value × Value)) : Value :=
  match pairs.mapM fun pair => pair.1.text?.map fun name => (name, pair.2) with
  | some entries => .record (Keyed.ofPairs entries)
  | none => .list (pairs.map (·.1))

/-- The value of a node, down to a depth. Of a collection that lies deeper only its type is told. -/
def valueOf (progress : Progress) : Nat → NodeId → Value
  | depth, id =>
    match progress.readingOf id, depth with
    | .single value, _ => value
    | .sequence _, 0 | .pairs _, 0 => .other "list"
    | .set _, 0 => .other "set"
    | .mapping _, 0 => .other "dict"
    | .sequence items, depth + 1 => .list (items.map (progress.valueOf depth))
    | .pairs count, _ + 1 => .list (List.replicate count (.other "tuple"))
    | .set keys, _ + 1 => .list (distinctValues keys)
    | .mapping entries, depth + 1 =>
      mappingValue (entries.map fun entry => (entry.1, progress.valueOf depth entry.2))

end Progress

/-! ## Documents -/

inductive Document
  | empty
  /-- A mapping, by those of its keys that are texts. -/
  | mapping (entries : Keyed Value)
  | other
  deriving Repr, Inhabited

namespace Document

/-- The depth down to which the values of a document are told. -/
def shownDepth : Nat := 2

def ofProgress (root : NodeId) (progress : Progress) : Document :=
  match progress.readingOf root with
  | .single .null => empty
  | .mapping entries =>
    mapping (Keyed.ofPairs (entries.filterMap fun entry =>
      entry.1.text?.map fun name => (name, progress.valueOf shownDepth entry.2)))
  | _ => other

/-- Reads a graph from its root. -/
def ofGraph (root : NodeId) (graph : Graph) : Checked Document := do
  let readings := Array.replicate graph.nodes.size none
  let read : Reader Unit := do
    let _ ← Reader.meet root
    Reader.serveAll (graph.nodes.size + 1)
  let (_, progress) ← read.run { graph, readings }
  pure (ofProgress root progress)

/-- A text with a line feed at the end of every line, however that was marked. -/
def withLineFeeds : List Char → List Char
  | [] => []
  | '\r' :: '\n' :: rest => '\n' :: withLineFeeds rest
  | '\r' :: rest => '\n' :: withLineFeeds rest
  | c :: rest => c :: withLineFeeds rest

def read (text : String) : Checked Document := do
  match ← Graph.ofText (withLineFeeds text.toList) with
  | none => pure empty
  | some (root, graph) => ofGraph root graph

end Document

end ProfilePolicy.Yaml
