/-!
# JSON text

Values laid out in lines, two spaces to a level. A layout is a text that depends on the level it
starts at.
-/

namespace SeriesIndex.Text.Json

abbrev Layout := Nat → String

def hexDigits (code : Nat) : List Char :=
  ['0', '0', Nat.digitChar (code / 16), Nat.digitChar (code % 16)]

/-- A character as it stands in a string: quotes, backslashes and controls are escaped. -/
def escape (char : Char) : List Char :=
  if char = '"' || char = '\\' then ['\\', char]
  else if char = '\x08' then ['\\', 'b']
  else if char = '\x0C' then ['\\', 'f']
  else if char = '\n' then ['\\', 'n']
  else if char = '\r' then ['\\', 'r']
  else if char = '\t' then ['\\', 't']
  else if char.toNat < 0x20 then ['\\', 'u'] ++ hexDigits char.toNat
  else [char]

def quote (text : String) : String :=
  String.ofList (['"'] ++ text.toList.flatMap escape ++ ['"'])

def string (text : String) : Layout := fun _ => quote text

def number (value : Nat) : Layout := fun _ => toString value

def boolean (truth : Bool) : Layout := fun _ => toString truth

def indent (level : Nat) : String := String.ofList (List.replicate (2 * level) ' ')

/-- Parts between brackets, each on a line of its own. -/
def block (opening closing : String) (parts : List Layout) : Layout := fun level =>
  if parts.isEmpty then opening ++ closing
  else
    let lines := parts.map fun part => indent (level + 1) ++ part (level + 1)
    opening ++ "\n" ++ ",\n".intercalate lines ++ "\n" ++ indent level ++ closing

def array (items : List Layout) : Layout := block "[" "]" items

def object (fields : List (String × Layout)) : Layout :=
  block "\x7b" "\x7d" (fields.map fun (name, value) level => quote name ++ ": " ++ value level)

/-- A value that starts a text. -/
def render (value : Layout) : String := value 0

end SeriesIndex.Text.Json
