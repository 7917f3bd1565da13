import SchemaGraph.Kind
import SchemaGraph.Text.Casing

/-! Names that schema types and fields get from host types and members.
The work is done on lists of characters.
-/

namespace SchemaGraph

structure Naming where
  /-- What the names of input objects end with. -/
  inputSuffix : String
  casing : Casing

namespace Naming

def standard : Naming := ⟨"Input", Casing.unicode⟩

instance : Inhabited Naming := ⟨standard⟩

def isNameStart (char : Char) : Bool :=
  char = '_' || char.isAlpha

def isNamePart (char : Char) : Bool :=
  char = '_' || char.isAlphanum

def isValidChars : List Char → Bool
  | [] => false
  | first :: rest => isNameStart first && rest.all isNamePart

/-- Letters, digits and underscores of ASCII, and no digit in front. -/
def isValidName (name : String) : Bool :=
  isValidChars name.toList

mutual
/-- The names of the arguments, and then the name of the type itself. -/
def flatName : RuntimeType → List Char
  | .generic name arguments => flatNames arguments ++ name.toList

def flatNames : List RuntimeType → List Char
  | [] => []
  | argument :: rest => flatName argument ++ flatNames rest
end

/-- An `I` in front of an upper-case letter is dropped. -/
def interfaceName (name : List Char) : List Char :=
  match name with
  | 'I' :: second :: rest => if second.isUpper then second :: rest else name
  | _ => name

def inputName (suffix name : List Char) : List Char :=
  if suffix.isSuffixOf name then name else name ++ suffix

def directiveSuffix : List Char := "Directive".toList

/-- The suffix `Directive` is dropped unless it is all there is, and the first letter made small. -/
def directiveName (casing : Casing) (name : List Char) : List Char :=
  if directiveSuffix.isSuffixOf name && directiveSuffix.length < name.length then
    casing.lowerFirst (name.take (name.length - directiveSuffix.length))
  else
    casing.lowerFirst name

/-- The name of a type of the kind that a host type backs. -/
def typeName (naming : Naming) (runtime : RuntimeType) (kind : Kind) : String :=
  let name := flatName runtime
  String.ofList <|
    match kind with
    | .interface => interfaceName name
    | .inputObject => inputName naming.inputSuffix.toList name
    | .directive => directiveName naming.casing name
    | _ => name

/-- Drops `get_`, or `Get` in front of an upper-case letter. -/
def dropGet (member : List Char) : List Char :=
  match member with
  | 'g' :: 'e' :: 't' :: '_' :: rest => rest
  | 'G' :: 'e' :: 't' :: first :: rest => if first.isUpper then first :: rest else member
  | _ => member

/-- Drops underscores and makes the character after them large. The flag says whether an underscore
was just dropped. -/
def foldUnderscores (casing : Casing) (raise : Bool) : List Char → List Char
  | [] => []
  | '_' :: rest => foldUnderscores casing true rest
  | char :: rest =>
      (if raise then casing.upper char else [char]) ++ foldUnderscores casing false rest

/-- An underscore in front of everything stays. -/
def camelCase (casing : Casing) : List Char → List Char
  | [] => []
  | first :: rest => first :: foldUnderscores casing false rest

def memberChars (casing : Casing) (member : List Char) : List Char :=
  casing.lowerFirst (camelCase casing (dropGet member))

/-- The name of the field for a member. -/
def memberName (naming : Naming) (member : String) : String :=
  String.ofList (memberChars naming.casing member.toList)

end Naming
end SchemaGraph
