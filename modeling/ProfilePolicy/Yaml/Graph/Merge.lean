import ProfilePolicy.Yaml.Graph

/-!
# Merging mappings

The value under a key for merging is a mapping, or a sequence of mappings, whose entries are merged
into the mapping around it. The graph is changed: the entry for merging goes, and the entries merged
in go before all others, those of the first mapping of a sequence last. A mapping is merged itself
before its entries are taken. The key for values counts as a text once its mapping was merged.
-/

namespace ProfilePolicy.Yaml.Graph

/-- The first entry for merging among entries, and the entries without it. -/
def takeMerge (graph : Graph) :
    List (NodeId × NodeId) → Option (NodeId × List (NodeId × NodeId))
  | [] => none
  | entry :: rest =>
    if graph.tag entry.1 == .merge then some (entry.2, rest)
    else (takeMerge graph rest).map fun (source, others) => (source, entry :: others)

/-- Makes texts of the keys for values among entries. -/
def nameValueKeys (graph : Graph) (entries : List (NodeId × NodeId)) : Graph :=
  entries.foldl
    (fun graph entry => if graph.tag entry.1 == .value then graph.setTag entry.1 .text else graph)
    graph

def mergeCount (graph : Graph) : Nat :=
  graph.nodes.toList.foldl
    (fun count node =>
      match node.content with
      | .mapping entries => count + entries.countP fun entry => graph.tag entry.1 == .merge
      | _ => count)
    0

/-- Merges into a mapping; `collected` holds the entries that were taken for it already. Every step
takes an entry for merging away. -/
def mergeInto : Nat → List (NodeId × NodeId) → NodeId → Graph → Checked Graph
  | 0, _, _, _ => malformed
  | fuel + 1, collected, id, graph =>
    let entries := graph.entries id
    match takeMerge graph entries with
    | none =>
      .ok ((graph.nameValueKeys entries).setContent id (.mapping (collected ++ entries)))
    | some (source, others) =>
      let graph := graph.setContent id (.mapping others)
      match graph.content source with
      | .mapping _ => do
        let graph ← mergeInto fuel [] source graph
        mergeInto fuel (collected ++ graph.entries source) id graph
      | .sequence items => do
        let (taken, graph) ← items.foldlM
          (fun (state : List (NodeId × NodeId) × Graph) item =>
            match state.2.content item with
            | .mapping _ => do
              let graph ← mergeInto fuel [] item state.2
              pure (graph.entries item ++ state.1, graph)
            | _ => malformed)
          ([], graph)
        mergeInto fuel (collected ++ taken) id graph
      | .scalar _ => malformed

def merged (graph : Graph) (id : NodeId) : Checked Graph :=
  graph.mergeInto (graph.mergeCount + 1) [] id

end ProfilePolicy.Yaml.Graph
