import SchemaGraph.Decimal.Style
import SchemaGraph.Text.Shown
import SchemaGraph.Value.Basic

/-! The shown form of a value: the name of its sort and its content. -/

namespace SchemaGraph.Value

/-- Floats have the fewest digits that read back. They are written without an exponent from `1e-4`
up to `1e16`, and then with at least one place. -/
def floatStyle : Decimal.Style where
  leastPositional := -4
  firstExponential := 16
  exponentMark := 'e'
  wholeSuffix := ['.', '0']
  infinity := ['i', 'n', 'f']
  notANumber := ['N', 'a', 'N']

mutual
def shown : Value → String
  | null => "Null"
  | bool flag => Shown.variant "Bool" [Shown.bool flag]
  | int number => Shown.variant "Int" [toString number]
  | float number => Shown.variant "Float" [floatStyle.text number]
  | text content => Shown.variant "String" [quoted content]
  | list items => Shown.variant "List" [Shown.list (shownItems items)]
  | object entries => Shown.variant "Object" [Shown.table (shownEntries entries)]

def shownItems : List Value → List String
  | [] => []
  | item :: rest => shown item :: shownItems rest

def shownEntries : List (String × Value) → List (String × String)
  | [] => []
  | (key, value) :: rest => (quoted key, shown value) :: shownEntries rest
end

end SchemaGraph.Value
