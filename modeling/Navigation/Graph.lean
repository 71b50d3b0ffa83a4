import Navigation.Destination

/-! Navigation graphs, as they are declared in generated code. -/

namespace Navigation

/-- A destination as its graph lists it. -/
structure GraphEntry where
  route : String
  simpleName : String
  deriving DecidableEq

/-- One graph that is ready to be declared. -/
structure NavGraph where
  route : String
  /-- Name of the field that declares the graph. -/
  identifier : String
  /-- Simple name of the destination the graph opens with. -/
  start : String
  /-- The graph's destinations in input order. -/
  entries : List GraphEntry
  /-- Fields of the graphs nested in this one; only the root graph has any. -/
  nested : List String
  optIns : NameSet
  deriving DecidableEq

namespace NavGraph

/-- Whether a graph is the one at the top. -/
def isRoot (graph : NavGraph) : Bool :=
  graph.route == rootRoute

/-- Whether graphs are nested in this one. -/
def hasNested (graph : NavGraph) : Bool :=
  !graph.nested.isEmpty

end NavGraph

/-- The graphs of a program: those nested in the root graph, and the root graph itself. -/
structure GraphTree where
  nested : List NavGraph
  root : NavGraph
  deriving DecidableEq

namespace GraphTree

/-- Every graph, the root graph last. -/
def graphs (tree : GraphTree) : List NavGraph :=
  tree.nested ++ [tree.root]

/-- The graph at a route. -/
def graph? (route : String) (tree : GraphTree) : Option NavGraph :=
  tree.graphs.find? (·.route == route)

end GraphTree

end Navigation
