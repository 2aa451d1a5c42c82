import CriteriaSql.Text.Hex

/-!
# Unique identifiers as text

The sixteen bytes of an identifier and their written forms.

* `text`: lower-case digits in groups with hyphens between them.
* `read?`: digits of either case, with or without hyphens; the form with hyphens may stand in braces
  or after a scheme.
-/

namespace CriteriaSql.Identifier

/-- The digits of each group. -/
def groups : List Nat := [8, 4, 4, 4, 12]

/-- The count of bytes. -/
def byteCount : Nat := 16

/-- Puts hyphens between groups of the given sizes. -/
def hyphenate : List Nat → List Char → List Char
  | [], cs => cs
  | [_], cs => cs
  | n :: ns, cs => cs.take n ++ '-' :: hyphenate ns (cs.drop n)

/-- Takes the hyphens out from between groups of the given sizes. -/
def dehyphenate? : List Nat → List Char → Option (List Char)
  | [], cs => if cs = [] then some [] else none
  | [n], cs => if cs.length = n then some cs else none
  | n :: ns, cs =>
    match cs.drop n with
    | '-' :: rest => (dehyphenate? ns rest).map (cs.take n ++ ·)
    | _ => none

/-- The digits of an identifier in groups. -/
def text (bytes : Bytes) : List Char :=
  hyphenate groups (Text.hexBytes bytes)

/-- What may stand before the form with hyphens, in letters of either case. -/
def scheme : List Char := "urn:uuid:".toList

/-- The digits of any accepted form. -/
def digits? (cs : List Char) : Option (List Char) :=
  if cs.length = 2 * byteCount then some cs
  else if (cs.take scheme.length).map Char.toLower = scheme then
    dehyphenate? groups (cs.drop scheme.length)
  else if cs.head? = some '\x7b' ∧ cs.getLast? = some '\x7d' then
    dehyphenate? groups (cs.drop 1).dropLast
  else dehyphenate? groups cs

/-- Reads an identifier in any accepted form. -/
def read? (cs : List Char) : Option Bytes :=
  (digits? cs).bind Text.hexBytes?

end CriteriaSql.Identifier
