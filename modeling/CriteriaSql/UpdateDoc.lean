import CriteriaSql.Record

/-!
# Update documents

What to write when a row is found or inserted: fields to set in either case, and fields to set only
on insertion.

* `UpdateDoc.ofJson`: an object with the two keys and no others.
* `UpdateDoc.insertFields`: what an insertion writes.
-/

namespace CriteriaSql

/-- Fields to set, and fields to set only on insertion. -/
structure UpdateDoc where
  set : Option Record
  setOnInsert : Option Record
  deriving DecidableEq

namespace UpdateDoc

def empty : UpdateDoc := ⟨none, none⟩

/-- Only fields to set. -/
def ofSet (fields : Record) : UpdateDoc := ⟨some fields, none⟩

/-- Reads the members of a document in order. -/
def readMembers (doc : UpdateDoc) : List (String × Json) → Except Invalid UpdateDoc
  | [] => .ok doc
  | (key, fields) :: rest =>
    if key = "$set" then
      (Record.ofJson fields).bind fun r => readMembers { doc with set := some r } rest
    else if key = "$setOnInsert" then
      (Record.ofJson fields).bind fun r => readMembers { doc with setOnInsert := some r } rest
    else .error (.updateOperatorUnknown key)

/-- The document of a JSON object. -/
def ofJson : Json → Except Invalid UpdateDoc
  | .object members => empty.readMembers members
  | _ => .error .updateNotObject

/-- The fields that an insertion writes; those for insertion only win. -/
def insertFields (doc : UpdateDoc) : Record :=
  (doc.set.getD .empty).merge (doc.setOnInsert.getD .empty)

end UpdateDoc

end CriteriaSql
