import SchemaGraph.Text.Quoted

/-! Shown forms of structured data.
Records name their fields between braces, variants carry their parts between parentheses, and a
variant without parts is its bare name.
-/

namespace SchemaGraph.Shown

def commas (items : List String) : String :=
  String.intercalate ", " items

def list (items : List String) : String :=
  "[" ++ commas items ++ "]"

def table (entries : List (String × String)) : String :=
  "\x7b" ++ commas (entries.map fun entry => entry.1 ++ ": " ++ entry.2) ++ "\x7d"

def variant (name : String) (parts : List String) : String :=
  name ++ "(" ++ commas parts ++ ")"

def record (name : String) (fields : List (String × String)) : String :=
  name ++ " \x7b " ++ commas (fields.map fun field => field.1 ++ ": " ++ field.2) ++ " \x7d"

def bool (flag : Bool) : String :=
  if flag then "true" else "false"

def option (content : Option String) : String :=
  match content with
  | some shown => variant "Some" [shown]
  | none => "None"

/-- A name that may be missing. -/
def optionText (content : Option String) : String :=
  option (content.map quoted)

end SchemaGraph.Shown
