/-!
# Structural text

The text that shows how a value is built: a name with its fields between braces, a name with its
arguments between parentheses, a list between brackets. Parts are separated by a comma and one
blank.
-/
namespace Chip8.Text.Structural

def commas (parts : List String) : String :=
  String.intercalate ", " parts

def list (items : List String) : String :=
  "[" ++ commas items ++ "]"

def applied (name : String) (arguments : List String) : String :=
  name ++ "(" ++ commas arguments ++ ")"

def field (entry : String × String) : String :=
  entry.1 ++ ": " ++ entry.2

def record (name : String) (fields : List (String × String)) : String :=
  name ++ " \x7b " ++ commas (fields.map field) ++ " \x7d"

/-- A name with named fields of which some are left out, which two dots at the end say. -/
def openRecord (name : String) (fields : List (String × String)) : String :=
  name ++ " \x7b " ++ commas (fields.map field ++ [".."]) ++ " \x7d"

def option : Option String → String
  | none => "None"
  | some text => applied "Some" [text]

def bool : Bool → String
  | true => "true"
  | false => "false"

end Chip8.Text.Structural
