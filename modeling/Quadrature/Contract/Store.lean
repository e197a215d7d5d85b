/-
# Quadrature.Contract.Store -- schema documents, read once

A store reads schema documents from a folder: the document called `name` is the file `name.json`,
which has to hold JSON that passes the store's check of schemas. What was read once is kept under
its name, so that later changes of the file do not matter; what could not be read is not kept.

Which values are schemas is for the check to say that a store is made with. Without another one it
is `MetaSchema.hasForms`, which looks at the forms of keywords only.
-/
import Quadrature.Contract.Document
import Quadrature.Contract.MetaSchema
import Quadrature.Folder
import Quadrature.Json.Reader
import Quadrature.Json.Writer
import Quadrature.Text.Utf8

namespace Quadrature

set_option autoImplicit false

open Quadrature.Text

/-- Why a document is not loaded. -/
inductive LoadError where
  | missing (name : String)
  | unreadable (e : Utf8Error)
  | malformed (e : Json.ReadError)
  /-- The document is JSON and does not pass the check. -/
  | notSchema (name : String)
deriving DecidableEq, Repr

/-- The wording of an error. -/
def LoadError.message : LoadError → String
  | .missing name => "Schema not found: " ++ name ++ ".json"
  | .unreadable e => e.message
  | .malformed e => e.message
  | .notSchema name => "Invalid JSON Schema in " ++ name ++ ".json"

/-- The check that a document has to pass, the files that documents are read from, and the documents
read so far with their names. -/
structure SchemaStore where
  isSchema : Value → Bool
  folder : Folder
  loaded : List (String × Value)

namespace SchemaStore

/-- A store that has read nothing. -/
def fresh (isSchema : Value → Bool) (folder : Folder) : SchemaStore := ⟨isSchema, folder, []⟩

/-- A store that has read nothing and checks the forms of keywords. -/
def ofFolder (folder : Folder) : SchemaStore := fresh MetaSchema.hasForms folder

/-- The document kept under a name. -/
def kept? (s : SchemaStore) (name : String) : Option Value := s.loaded.lookup name

/-- The JSON value in a file. -/
def readJson (bytes : Bytes) : Except LoadError Value := do
  let text ← (Utf8.decode bytes).mapError .unreadable
  (Json.read (unifyNewlines text)).mapError .malformed

/-- The document that the file of a name holds now. -/
def fetch (isSchema : Value → Bool) (folder : Folder) (name : String) : Except LoadError Value :=
  match folder.read (name ++ ".json") with
  | .error _ => .error (.missing name)
  | .ok bytes => do
    let document ← readJson bytes
    if isSchema document then return document else throw (.notSchema name)

/-- The document of a name, with the store afterwards. -/
def load (s : SchemaStore) (name : String) : Except LoadError Value × SchemaStore :=
  match s.kept? name with
  | some document => (.ok document, s)
  | none =>
    match fetch s.isSchema s.folder name with
    | .ok document => (.ok document, { s with loaded := (name, document) :: s.loaded })
    | .error e => (.error e, s)

/-- The store after a file was written. -/
def write (s : SchemaStore) (path : String) (bytes : Bytes) : SchemaStore :=
  { s with folder := s.folder.write path bytes }

/-- The store of the contracts that are always at hand. -/
def standard : SchemaStore :=
  ofFolder (Contract.all.map fun c =>
    (c.name ++ ".json", (Json.writeString c.document).toUTF8.toList))

end SchemaStore

end Quadrature
