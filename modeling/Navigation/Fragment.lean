import Navigation.NameSet

/-! Generated text together with the imports it needs. -/

namespace Navigation

/-- A piece of generated text, and the names it has to import. -/
structure Fragment where
  text : String := ""
  imports : NameSet := NameSet.empty
  deriving DecidableEq

namespace Fragment

/-- A text that needs no imports. -/
def plain (text : String) : Fragment :=
  ⟨text, NameSet.empty⟩

/-- Adds a name to the imports. -/
def withImport (fragment : Fragment) (name : String) : Fragment :=
  { fragment with imports := fragment.imports.insert name }

/-- Hands the imports over to a set, and gives the text with what the set has become. -/
def release (fragment : Fragment) (imports : NameSet) : String × NameSet :=
  (fragment.text, imports.union fragment.imports)

end Fragment

end Navigation
