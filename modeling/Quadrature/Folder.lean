/-
# Quadrature.Folder -- the files of a folder

A folder holds files under their paths from there. `read` finds the file that a path leads to, or
says why there is none. Paths are written in one way: without empty parts and parts `.`, and the
empty path as `.` itself.
-/
import Quadrature.Text.Quoted

namespace Quadrature

set_option autoImplicit false

open Quadrature.Text

/-- The content of a file. -/
abbrev Bytes := List UInt8

/-- The files of a folder with their paths. -/
abbrev Folder := List (String × Bytes)

/-- Why a path leads to no file. -/
inductive OpenError where
  | missing (path : String)
  | isFolder (path : String)
  /-- The path goes on behind a file. -/
  | underFile (path : String)
  | nameTooLong (path : String)
  | denied (path : String)
  /-- The path holds the character NUL. -/
  | nulCharacter
deriving DecidableEq, Repr

/-- The wording of an error of the file system; a path that it never sees has none of these. -/
def OpenError.message : OpenError → String
  | .missing path => "[Errno 2] No such file or directory: " ++ quoted path
  | .isFolder path => "[Errno 21] Is a directory: " ++ quoted path
  | .underFile path => "[Errno 20] Not a directory: " ++ quoted path
  | .nameTooLong path => "[Errno 36] File name too long: " ++ quoted path
  | .denied path => "[Errno 13] Permission denied: " ++ quoted path
  | .nulCharacter => "embedded null byte"

namespace Folder

/-- The parts of a text between its slashes. -/
def splitSlashes : List Char → List (List Char)
  | [] => [[]]
  | c :: cs =>
    if c = '/' then [] :: splitSlashes cs
    else match splitSlashes cs with
      | part :: parts => (c :: part) :: parts
      | [] => [[c]]

/-- The parts of a path. -/
def parts (path : String) : List String :=
  ((splitSlashes path.toList).filter fun p => !p.isEmpty && p ≠ ['.']).map String.ofList

/-- The start of a path from the root: one slash, or two if there are exactly two. -/
def rootOf (path : String) : String :=
  match (path.toList.takeWhile (· = '/')).length with
  | 0 => ""
  | 2 => "//"
  | _ => "/"

/-- The one way to write a path. -/
def normalPath (path : String) : String :=
  let s := rootOf path ++ "/".intercalate (parts path)
  if s.isEmpty then "." else s

/-- The most bytes that the name of a file or folder has. -/
def maxNameBytes : Nat := 255

/-- The most bytes that a path has. -/
def maxPathBytes : Nat := 4095

/-- The folder has a file below the given parts of a path. -/
def hasBelow (folder : Folder) (at' : List String) : Bool :=
  folder.any fun (path, _) =>
    let ps := parts path
    at'.isPrefixOf ps && at'.length < ps.length

/-- The file at the given parts of a path. -/
def fileAt? (folder : Folder) (at' : List String) : Option Bytes :=
  (folder.find? fun (path, _) => parts path = at').map (·.2)

/-- Follow the parts of a path from outside the folder, where folders are known to be and nothing
else. -/
def followOutside (path : String) : List String → Except OpenError Bytes
  | [] => .error (.isFolder path)
  | name :: rest =>
    if name = ".." then followOutside path rest
    else if maxNameBytes < name.utf8ByteSize then .error (.nameTooLong path)
    else .error (.missing path)

/-- Follow the parts of a path from the folder at `here`; `path` is what errors show. -/
def follow (folder : Folder) (path : String) (here : List String) :
    List String → Except OpenError Bytes
  | [] => .error (.isFolder path)
  | name :: rest =>
    if name = ".." then
      if here.isEmpty then followOutside path rest
      else follow folder path here.dropLast rest
    else if maxNameBytes < name.utf8ByteSize then .error (.nameTooLong path)
    else
      let there := here ++ [name]
      match fileAt? folder there with
      | some bytes => if rest.isEmpty then .ok bytes else .error (.underFile path)
      | none =>
        if hasBelow folder there then follow folder path there rest else .error (.missing path)

/-- The content of the file that a path leads to. Nothing is known outside the folder. -/
def read (folder : Folder) (path : String) : Except OpenError Bytes :=
  let path := normalPath path
  if path.toList.contains '\x00' then .error .nulCharacter
  else if maxPathBytes < path.utf8ByteSize then .error (.nameTooLong path)
  else if (rootOf path).isEmpty then follow folder path [] (parts path)
  else followOutside path (parts path)

/-- The folder after a file was written. -/
def write (folder : Folder) (path : String) (bytes : Bytes) : Folder :=
  (path, bytes) :: folder.filter fun file => parts file.1 ≠ parts path

end Folder

end Quadrature
