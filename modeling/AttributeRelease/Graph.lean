/-!
Cycles in directed graphs over names.

The search goes depth first along all edges, from one node after the other. It keeps the path on
which it stands and the nodes it is done with, so that it enters no node twice, and it stops where
an edge leads back to the path.
-/

namespace AttributeRelease.Graph

variable (edges : String → List String)

/-- The part of a path, nearest node first, that an edge to one of its nodes closes. -/
def closedBy (path : List String) (node : String) : List String :=
  node :: (path.takeWhile (· ≠ node)).reverse ++ [node]

/-- Visits a node and all that can be reached from it, and adds them to the nodes that are done.
The error is a cycle. -/
def visit : Nat → List String → List String → String → Except (List String) (List String)
  | 0, _, done, _ => .ok done
  | fuel + 1, path, done, node =>
    if done.contains node then .ok done
    else if path.contains node then .error (closedBy path node)
    else do
      let done ← (edges node).foldlM (visit fuel (node :: path)) done
      return node :: done

/-- The first cycle that is met from some nodes on, which must be all nodes that have edges. No
path is longer than there are nodes. -/
def findCycle? (nodes : List String) : Option (List String) :=
  match nodes.foldlM (visit edges (nodes.length + 1) []) [] with
  | .ok _ => none
  | .error cycle => some cycle

end AttributeRelease.Graph
