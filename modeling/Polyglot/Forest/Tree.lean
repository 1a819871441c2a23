import Polyglot.Failure

/-!
# Regression trees

A tree asks for the value of a feature at every split and ends in a leaf with a
prediction.  It is stored as a list of nodes that name their children by
position, which is also the form in which a bundle may hold any nodes at all, so
the descent through stored nodes has to expect missing children and cycles.
-/

namespace Polyglot

def unknownFeature : Float32 := Float32.ofBits 0xff7fffff

/--
A stored node.  `missing` says where an unknown feature leads: to the left child
if it is -1, nowhere if it is 0, and to the right child otherwise.
-/
structure Node where
  feature : Nat
  threshold : Float32
  prediction : Float32
  missing : Int
  isLeaf : Bool
  index : Nat
  left : Nat
  right : Nat
  deriving DecidableEq

namespace Node

/-- Where a descent goes on: it ends with a prediction or moves to a child. -/
inductive Turn where
  | stop (prediction : Float32)
  | child (index : Nat)
  deriving DecidableEq

def turn (node : Node) (sample : Array Float32) : Except Fault Turn :=
  if node.isLeaf then .ok (.stop node.prediction)
  else
    match sample[node.feature]? with
    | none => .error .featureOutOfRange
    | some x =>
        if x == unknownFeature then
          if node.missing = -1 then .ok (.child node.left)
          else if node.missing = 0 then .ok (.stop node.prediction)
          else .ok (.child node.right)
        else if x < node.threshold then .ok (.child node.left)
        else .ok (.child node.right)

end Node

abbrev StoredTree := Array Node

namespace StoredTree

/-- Descends from a node, visiting at most `fuel` nodes. -/
def descend (nodes : StoredTree) (sample : Array Float32) :
    Nat → Nat → Except Fault Float32
  | 0, _ => .error .endlessDescent
  | fuel + 1, index =>
      match nodes[index]? with
      | none => .error .noNode
      | some node =>
          match node.turn sample with
          | .error f => .error f
          | .ok (.stop prediction) => .ok prediction
          | .ok (.child next) => nodes.descend sample fuel next

/--
The prediction for a sample.  A descent that visits more nodes than there are
comes back to one of them and never ends.
-/
def predict (nodes : StoredTree) (sample : Array Float32) : Except Fault Float32 :=
  nodes.descend sample (nodes.size + 1) 0

end StoredTree

/-- A tree as it grows; every node carries the mean of the targets that reach it. -/
inductive GrownTree where
  | leaf (mean : Float32)
  | split (feature : Nat) (threshold mean : Float32) (left right : GrownTree)
  deriving DecidableEq

namespace GrownTree

def size : GrownTree → Nat
  | .leaf _ => 1
  | .split _ _ _ left right => 1 + left.size + right.size

def depth : GrownTree → Nat
  | .leaf _ => 0
  | .split _ _ _ left right => 1 + max left.depth right.depth

/-- The nodes from position `index` on: a node, its left subtree, its right subtree. -/
def nodesFrom (index : Nat) : GrownTree → List Node
  | .leaf mean => [⟨0, 0, mean, 0, true, index, 0, 0⟩]
  | .split feature threshold mean left right =>
      ⟨feature, threshold, mean, 0, false, index, index + 1, index + 1 + left.size⟩ ::
        left.nodesFrom (index + 1) ++ right.nodesFrom (index + 1 + left.size)

def stored (tree : GrownTree) : StoredTree :=
  (tree.nodesFrom 0).toArray

end GrownTree
end Polyglot
