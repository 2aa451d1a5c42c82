import CriteriaSql.Floating.Text
import CriteriaSql.Json.Basic
import CriteriaSql.Text.Hex

/-!
# JSON text, written

The compact form: no blanks, members in order, and in strings only what must be escaped is escaped.

* `quote`: a string in quotes.
* `render`: the text of a value.
-/

namespace CriteriaSql.Json

open CriteriaSql.Text CriteriaSql.Floating

/-- A character inside a string: quotes, backslashes and control characters are escaped. -/
def escape (c : Char) : List Char :=
  if c = '"' then ['\\', '"']
  else if c = '\\' then ['\\', '\\']
  else if c = '\n' then ['\\', 'n']
  else if c = '\r' then ['\\', 'r']
  else if c = '\t' then ['\\', 't']
  else if c = '\x08' then ['\\', 'b']
  else if c = '\x0c' then ['\\', 'f']
  else if c.toNat < 0x20 then
    ['\\', 'u', '0', '0', hexDigit (c.toNat / 16), hexDigit (c.toNat % 16)]
  else [c]

/-- A string in quotes. -/
def quote (s : String) : String :=
  String.ofList ('"' :: s.toList.flatMap escape ++ ['"'])

/-- A number: whole numbers as they are, others with a point or an exponent. -/
def Number.render : Number → String
  | .int n _ => String.ofList (integer n)
  | .float x _ => String.ofList (scientific x)

/-- Parts in brackets with commas between them. -/
def bracketed (left right : String) (parts : List String) : String :=
  left ++ ",".intercalate parts ++ right

mutual

/-- The compact text of a value. -/
def render : Json → String
  | .null => "null"
  | .bool b => if b then "true" else "false"
  | .number n => n.render
  | .string s => quote s
  | .array items => bracketed "[" "]" (renderItems items)
  | .object members => bracketed "\x7b" "\x7d" (renderMembers members)

/-- The texts of the items of an array. -/
def renderItems : List Json → List String
  | [] => []
  | item :: rest => item.render :: renderItems rest

/-- The texts of the members of an object. -/
def renderMembers : List (String × Json) → List String
  | [] => []
  | (name, value) :: rest => (quote name ++ ":" ++ value.render) :: renderMembers rest

end

end CriteriaSql.Json
