import Chip8.Numeral
import Chip8.Text.Hidden

/-!
# Quoted text

Text between double quotes and single characters between single quotes. The quote in use and the
backslash are written after a backslash, some control characters as a backslash and a letter, and
what cannot be shown as its number between braces.
-/
namespace Chip8.Text.Quoted

def shown (quote : Char) (c : Char) : String :=
  if c = quote ∨ c = '\\' then String.ofList ['\\', c]
  else if c = '\n' then "\\n"
  else if c = '\r' then "\\r"
  else if c = '\t' then "\\t"
  else if c = '\x00' then "\\0"
  else if isHidden c then "\\u\x7b" ++ Numeral.hex 1 c.toNat ++ "\x7d"
  else String.singleton c

def string (text : String) : String :=
  "\"" ++ String.join (text.toList.map (shown '"')) ++ "\""

def char (c : Char) : String :=
  "'" ++ shown '\'' c ++ "'"

end Chip8.Text.Quoted
