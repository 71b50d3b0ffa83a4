import Navigation.ErrorBranches

/-! Trees of faults, grouped by graph route: how they are filled, joined, listed and printed. -/

namespace Navigation

namespace ErrorBranches

/-- Every fault below a point, route by route, each route's own before those below it. -/
def errors : ErrorBranches → List SetupError
  | .nil => []
  | .cons _ messages below rest => messages ++ (below.errors ++ rest.errors)

/-- The number of faults below a point. -/
def count : ErrorBranches → Nat
  | .nil => 0
  | .cons _ messages below rest => messages.length + below.count + rest.count

/-- Whether there is no fault below a point; routes without faults do not matter. -/
def isEmpty : ErrorBranches → Bool
  | .nil => true
  | .cons _ messages below rest => messages.isEmpty && below.isEmpty && rest.isEmpty

end ErrorBranches

namespace ErrorNode

/-- Joins two nodes, the left side's messages first wherever both have some. -/
def merge (left right : ErrorNode) : ErrorNode :=
  ⟨left.messages ++ right.messages, left.children.merge right.children⟩

/-- Every fault at a node or below it, those at the node first. -/
def errors (node : ErrorNode) : List SetupError :=
  node.messages ++ node.children.errors

/-- The number of faults at a node and below it. -/
def count (node : ErrorNode) : Nat :=
  node.messages.length + node.children.count

/-- Whether there is no fault at a node or below it. -/
def isEmpty (node : ErrorNode) : Bool :=
  node.messages.isEmpty && node.children.isEmpty

/-- Whether a fault is at a node or anywhere below it. -/
def contains (error : SetupError) (node : ErrorNode) : Bool :=
  node.errors.contains error

/-- The label of a route below a label; the empty label leaves no trace. -/
def labelBelow (label route : String) : String :=
  if label = "" then route else label ++ "." ++ route

/-- The line one fault is printed as. -/
def record (label : String) (error : SetupError) : String :=
  if label = "" then error.message ++ "\n" else label ++ ": " ++ error.message ++ "\n"

/-- The lines of the faults at one node. -/
def records (label : String) (messages : List SetupError) : String :=
  String.join (messages.map (record label))

end ErrorNode

/-- The lines of every fault below the point with a label. -/
def ErrorBranches.render (label : String) : ErrorBranches → String
  | .nil => ""
  | .cons route messages below rest =>
    let inner := ErrorNode.labelBelow label route
    ErrorNode.records inner messages ++ below.render inner ++ rest.render label

namespace ErrorNode

/-- A node as text, one line for each fault, labelled by its routes. -/
def render (node : ErrorNode) : String :=
  records "" node.messages ++ node.children.render ""

/-- The message a run ends with when its destinations have faults. -/
def report (node : ErrorNode) : String :=
  "validation failed:\n" ++ node.render

end ErrorNode

/-- A tree of faults: its top node, on the condition that every level is in order. -/
structure ErrorTree extends ErrorNode where
  ordered : children.Ordered
  deriving DecidableEq

namespace ErrorTree

/-- The tree without faults. -/
def empty : ErrorTree :=
  ⟨.empty, trivial⟩

/-- The tree with one fault at the top. -/
def single (error : SetupError) : ErrorTree :=
  ⟨⟨[error], .nil⟩, trivial⟩

/-- Adds a fault behind those already at the top. -/
def add (error : SetupError) (tree : ErrorTree) : ErrorTree :=
  ⟨tree.toErrorNode.add error, tree.ordered⟩

/-- The tree below a route; there is an empty one where the route is missing. -/
def below (route : String) (tree : ErrorTree) : ErrorTree :=
  match found : tree.children.child? route with
  | some node => ⟨node, tree.ordered.child found⟩
  | none => empty

/-- Puts a tree below a route, in place of any that is there. -/
def put (route : String) (tree made : ErrorTree) : ErrorTree :=
  ⟨⟨tree.messages, tree.children.alter route fun _ => made.toErrorNode⟩,
    tree.ordered.alter route fun _ _ => made.ordered⟩

/-- Changes the tree at the end of a path of routes, making what is missing on the way. -/
def alterAt (change : ErrorTree → ErrorTree) : List String → ErrorTree → ErrorTree
  | [], tree => change tree
  | route :: path, tree => tree.put route (alterAt change path (tree.below route))

/-- Adds a fault to the graph at a route. -/
def addFor (route : String) (error : SetupError) (tree : ErrorTree) : ErrorTree :=
  tree.alterAt (add error) [route]

/-- Joins two trees, the left side's messages first wherever both have some. -/
def merge (left right : ErrorTree) : ErrorTree :=
  ⟨left.toErrorNode.merge right.toErrorNode, left.ordered.merge right.ordered⟩

/-- Fails with the tree unless it has no fault. -/
def check (tree : ErrorTree) : Except ErrorTree Unit :=
  if tree.isEmpty then .ok () else .error tree

end ErrorTree

end Navigation
