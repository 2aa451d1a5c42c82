import CriteriaSql.Identifier.Digest
import CriteriaSql.Identifier.Uuid

/-!
# Where row identifiers come from

A new row's identifier is made from a seed that names the table and the instant. A source turns seeds
into identifiers; the default one hashes the seed, salted so that two rows of one instant differ.

* `seed`: table and instant.
* `Source.generate`: the identifier of a new row.
* `Source.named`: the default source.
-/

namespace CriteriaSql.Identifier

/-- The seed for a new row of a table at an instant, given in nanoseconds as text. -/
def seed (table instant : String) : String :=
  table ++ ":" ++ instant

/-- A source of identifiers: the instant of the next row, and how a seed becomes an identifier. -/
structure Source where
  instant : String
  identify : String → String

/-- The identifier of a new row of a table. -/
def Source.generate (source : Source) (table : String) : String :=
  source.identify (seed table source.instant)

/-- The name space of object identifiers. -/
def objectSpace : Bytes :=
  [0x6B, 0xA7, 0xB8, 0x12, 0x9D, 0xAD, 0x11, 0xD1, 0x80, 0xB4, 0x00, 0xC0, 0x4F, 0xD4, 0x30, 0xC8]

/-- The identifier of a name: the digest of space and name, with version five and the standard
variant written over it. -/
def ofName (space name : Bytes) : Bytes :=
  ((digest (space ++ name)).take byteCount).mapIdx fun i b =>
    if i = 6 then b &&& 0x0F ||| 0x50 else if i = 8 then b &&& 0x3F ||| 0x80 else b

/-- The identifier that a seed and a salt give: the digits of their name, without hyphens. -/
def salted (salt seed : String) : String :=
  String.ofList (Text.hexBytes (ofName objectSpace (Bytes.ofText (seed ++ ":" ++ salt))))

/-- The default source: the salt is the text of a random identifier. -/
def Source.named (instant salt : String) : Source :=
  ⟨instant, salted salt⟩

end CriteriaSql.Identifier
