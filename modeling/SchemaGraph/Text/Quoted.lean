import SchemaGraph.Text.Printable

/-! Text between double quotes.
The quote, the backslash and four control characters have short escapes; any other character that
does not stand alone is written by its code point.
-/

namespace SchemaGraph.Quoted

/-- The code point in lower-case hexadecimal between `\u{` and `}`. -/
def codePoint (char : Char) : List Char :=
  '\\' :: 'u' :: '\x7b' :: (Nat.toDigits 16 char.toNat ++ ['\x7d'])

def escape (char : Char) : List Char :=
  match char with
  | '"' => ['\\', '"']
  | '\\' => ['\\', '\\']
  | '\n' => ['\\', 'n']
  | '\r' => ['\\', 'r']
  | '\t' => ['\\', 't']
  | '\x00' => ['\\', '0']
  | _ => if Printable.standsAlone char then [char] else codePoint char

def encode (text : List Char) : List Char :=
  '"' :: (text.flatMap escape ++ ['"'])

end SchemaGraph.Quoted

namespace SchemaGraph

/-- The text between double quotes, with escapes. -/
def quoted (text : String) : String :=
  String.ofList (Quoted.encode text.toList)

end SchemaGraph
