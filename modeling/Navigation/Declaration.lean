import Navigation.Fragment
import Navigation.Graph
import Navigation.Layout
import Navigation.Literal

/-! The declaration of a program's graphs: one object, with a field for each graph. -/

namespace Navigation.Declaration

open Layout (Step)

/-- An entry of the map from routes to destinations. -/
def entry (destination : GraphEntry) : String :=
  Literal.quote destination.route ++ " to " ++ destination.simpleName

/-- The part of the root graph's field that lists the nested graphs. -/
def nestedSteps (graph : NavGraph) : List Step :=
  if graph.isRoot && graph.hasNested then
    [.closes "),", .opens "nestedNavGraphs = listOf("] ++ Layout.listed graph.nested
  else []

/-- The field of one graph, its annotations first. -/
def graphSteps (graphType : String) (graph : NavGraph) : List Step :=
  graph.optIns.names.map (fun name => .line ("@" ++ name)) ++
    [.opens ("val " ++ graph.identifier ++ " = " ++ graphType ++ "("),
      .line ("route = " ++ Literal.quote graph.route ++ ","),
      .line ("startDestination = " ++ graph.start ++ ","),
      .opens "destinations = mapOf("] ++
    Layout.listed (graph.entries.map entry) ++ nestedSteps graph ++ [.closes ")", .closes ")"]

/-- The object of all graphs, with an empty line in front of each field. -/
def steps (graphType object : String) (tree : GraphTree) : List Step :=
  .opens ("object " ++ object ++ " \x7b") ::
    tree.graphs.flatMap (fun graph => .blank :: graphSteps graphType graph) ++ [.closes "\x7d"]

/-- The declaration of a tree's graphs, which needs no imports of its own. -/
def fragment (graphType object : String) (tree : GraphTree) : Fragment :=
  .plain (Layout.render (steps graphType object tree))

end Navigation.Declaration
