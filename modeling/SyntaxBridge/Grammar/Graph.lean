import SyntaxBridge.Grammar.Category
import SyntaxBridge.Grammar.Group
import SyntaxBridge.Grammar.Order

/-!
# The graph of references

A category refers directly to those that its alternatives hold as such, not as lists. A category
from which a chain of direct references leads back to itself is recursive: its values could not be
laid out in place.

Main definitions: `Graph.reaches` searches for a chain of one or more references, and
`recursiveTypes` lists the recursive categories. The search visits no node twice: it takes a node
out of the graph when it follows the references of that node.
-/

namespace SyntaxBridge

/-- Nodes with their successors. A successor need not be a node of its own, and then has none. -/
abbrev Graph := List (String × List String)

namespace Graph

/-- Give a node its successors, in place of those that it had. -/
def insert (graph : Graph) (node : String) (successors : List String) : Graph :=
  if graph.any (·.1 == node) then
    graph.map fun entry => if entry.1 == node then (node, successors) else entry
  else graph ++ [(node, successors)]

/-- The graph with a list of nodes, of which a later one replaces an earlier one of its name. -/
def ofList (entries : List (String × List String)) : Graph :=
  entries.foldl (fun graph entry => graph.insert entry.1 entry.2) []

/-- The successors of a node. -/
def successors (graph : Graph) (node : String) : List String :=
  (graph.lookup node).getD []

/-- The graph without a node. Other nodes may still lead to it. -/
def remove (graph : Graph) (node : String) : Graph :=
  graph.filter (·.1 != node)

/-- Removing a node that the graph holds makes the graph smaller. -/
theorem remove_length_lt {graph : Graph} {node : String} {next : List String}
    (h : graph.lookup node = some next) : (graph.remove node).length < graph.length := by
  induction graph with
  | nil => simp at h
  | cons entry graph ih =>
    obtain ⟨name, edges⟩ := entry
    by_cases same : node = name
    · subst same
      have := List.length_filter_le (fun entry : String × List String => entry.1 != node) graph
      simp [remove]
      omega
    · have differs : (name != node) = true := by simpa using Ne.symm same
      rw [List.lookup_cons] at h
      have : (node == name) = false := by simpa using same
      simp only [this] at h
      have := ih h
      simp [remove, differs] at this ⊢
      omega

/-- Whether one of the pending nodes is the target or leads to it through the graph. -/
def search (target : String) (graph : Graph) : List String → Bool
  | [] => false
  | node :: pending =>
    if node = target then true
    else
      match h : graph.lookup node with
      | none => search target graph pending
      | some next =>
        have := remove_length_lt h
        search target (graph.remove node) (next ++ pending)
termination_by pending => (graph.length, pending.length)

/-- Whether a chain of one or more references leads from one node to another. -/
def reaches (graph : Graph) (start target : String) : Bool :=
  search target graph (graph.successors start)

end Graph

/-- The categories that alternatives hold as such, in order. -/
def directReferences (rules : List Constructor) : List String :=
  ordered ((rules.flatMap (·.construction)).filter (!Category.isList ·))

/-- The direct references between the categories of a grammar. -/
def referenceGraph (groups : List (String × Members)) : Graph :=
  groups.map fun (type, members) => (type, directReferences members.constructors)

/-- The categories that refer to themselves through a chain of direct references, in order. -/
def recursiveTypes (groups : List (String × Members)) : List String :=
  let graph := referenceGraph groups
  ordered ((groups.map (·.1)).filter fun type => graph.reaches type type)

end SyntaxBridge
