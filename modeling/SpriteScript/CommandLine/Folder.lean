/-!
# Folders in memory

A command runs in a folder: it reads the file it is given from there and writes its output there.
This module holds a folder as a value, so that a run is a function of what it is given. Paths are
resolved name by name. Of what lies outside of the folder only what every system has is known: a
few folders, and the device that is always empty. A file may be written outside, but it leaves no
trace here.
-/

namespace SpriteScript.CommandLine

/-- Files with their contents, and folders, by their paths inside of the top folder. -/
structure Folder where
  files : List (List String × ByteArray) := []
  folders : List (List String) := []

/-- Why a path cannot be used. -/
inductive PathError where
  | notFound
  | isFolder
  | notFolder
  | nameTooLong
  /-- The path holds a character that no path can hold. -/
  | notAPath
deriving DecidableEq

/-- The reason in words. -/
def PathError.text : PathError → String
  | .notFound => "No such file or directory"
  | .isFolder => "Is a directory"
  | .notFolder => "Not a directory"
  | .nameTooLong => "File name too long"
  | .notAPath => "embedded null byte"

/-- A folder on the way along a path. -/
inductive Place where
  /-- The top folder or one inside of it. -/
  | inside (path : List String)
  /-- A folder that the top folder lies in. -/
  | above
  /-- A folder by its path from the root of the system. -/
  | system (path : List String)

/-- What a path leads to. -/
inductive Entry where
  | folder
  | file (path : List String) (content : ByteArray)
  /-- Nothing yet, but its folder exists. -/
  | free (path : List String)
  /-- Nothing yet, in a folder outside. -/
  | freeOutside
  /-- The device that is always empty. -/
  | emptyDevice

/-- The folders that every system has. -/
def systemFolders : List (List String) := [
  [], ["bin"], ["boot"], ["dev"], ["etc"], ["home"], ["lib"], ["media"], ["mnt"], ["opt"], ["proc"],
  ["root"], ["run"], ["sbin"], ["srv"], ["sys"], ["tmp"], ["usr"], ["usr", "bin"], ["usr", "lib"],
  ["var"], ["var", "tmp"]]

/-- The path of the device that is always empty. -/
def emptyDevicePath : List String := ["dev", "null"]

namespace Folder

/-- The longest name and the longest path, in bytes. -/
def maxName : Nat := 255

/-- Paths must be shorter than this many bytes. -/
def maxPath : Nat := 4096

/-- The content of the file at a path. -/
def content? (folder : Folder) (path : List String) : Option ByteArray :=
  folder.files.lookup path

/-- There is a folder at a path. -/
def hasFolder (folder : Folder) (path : List String) : Bool :=
  path.isEmpty || folder.folders.contains path

/-- The names that stay in the same folder or leave it. -/
def isDots (name : String) : Bool :=
  name == "" || name == "." || name == ".."

/-- The folder that a folder lies in. -/
def parent : Place → Place
  | .inside [] => .above
  | .inside path => .inside path.dropLast
  | .above => .above
  | .system path => .system path.dropLast

/-- Looks up a name in a folder. -/
def look (folder : Folder) (place : Place) (name : String) : Except PathError Entry :=
  if isDots name then .ok .folder
  else if maxName < name.utf8ByteSize then .error .nameTooLong
  else
    match place with
    | .above => .ok .freeOutside
    | .system path =>
      let next := path ++ [name]
      if systemFolders.contains next then .ok .folder
      else if next == emptyDevicePath then .ok .emptyDevice
      else .ok .freeOutside
    | .inside path =>
      let next := path ++ [name]
      if folder.hasFolder next then .ok .folder
      else
        match folder.content? next with
        | some content => .ok (.file next content)
        | none => .ok (.free next)

/-- The place of a name in a folder. -/
def placeOf (place : Place) (name : String) : Place :=
  match place with
  | .inside path => .inside (path ++ [name])
  | .above => .above
  | .system path => .system (path ++ [name])

/-- Follows a name that must lead to a folder. -/
def enter (folder : Folder) (place : Place) (name : String) : Except PathError Place := do
  if name == "" || name == "." then return place
  else if name == ".." then return parent place
  else
    match ← folder.look place name with
    | .folder => return placeOf place name
    | .file .. => throw .notFolder
    | .emptyDevice => throw .notFolder
    | .free _ => throw .notFound
    | .freeOutside => throw .notFound

/-- A path that was followed up to its last name: the folder that the name stands in, and whether
slashes follow it. A path of slashes alone has no last name. -/
structure Followed where
  place : Place
  last : Option String
  slashed : Bool

/-- Follows a path up to its last name. -/
def follow (folder : Folder) (path : String) : Except PathError Followed := do
  if path.toList.contains (Char.ofNat 0) then throw .notAPath
  if path.isEmpty then throw .notFound
  if maxPath ≤ path.utf8ByteSize then throw .nameTooLong
  let names := path.splitOn "/"
  let backwards := names.reverse.dropWhile (· == "")
  let start := if path.startsWith "/" then Place.system [] else .inside []
  let place ← backwards.tail.reverse.foldlM folder.enter start
  return { place
           last := backwards.head?
           slashed := decide (backwards.length < names.length) }

/-- The content of the file that a path leads to. With slashes behind it, a path can only lead to
a folder. -/
def read (folder : Folder) (path : String) : Except PathError ByteArray := do
  let followed ← folder.follow path
  match followed.last with
  | none => throw .isFolder
  | some name =>
    match ← folder.look followed.place name, followed.slashed with
    | .folder, _ => throw .isFolder
    | .file _ content, false => return content
    | .file .., true => throw .notFolder
    | .emptyDevice, false => return ByteArray.empty
    | .emptyDevice, true => throw .notFolder
    | .free _, _ => throw .notFound
    | .freeOutside, _ => throw .notFound

/-- Puts a file at a path inside of the top folder. -/
def put (folder : Folder) (path : List String) (content : ByteArray) : Folder :=
  { folder with
    files := (folder.files.filter fun (other, _) => other != path) ++ [(path, content)] }

/-- Writes a file, which may or may not be there. A path with slashes behind it names a folder,
whatever it leads to. -/
def write (folder : Folder) (path : String) (content : ByteArray) : Except PathError Folder := do
  let followed ← folder.follow path
  match followed.last, followed.slashed with
  | none, _ => throw .isFolder
  | _, true => throw .isFolder
  | some name, false =>
    match ← folder.look followed.place name with
    | .folder => throw .isFolder
    | .file place _ => return folder.put place content
    | .free place => return folder.put place content
    | .emptyDevice => return folder
    | .freeOutside => return folder

/-- Adds a folder with the folders that it lies in. -/
def addFolder (folder : Folder) (path : List String) : Folder :=
  let inits := (List.range path.length).map fun count => path.take (count + 1)
  { folder with folders := folder.folders ++ inits }

/-- Adds a file with the folders that it lies in. -/
def addFile (folder : Folder) (path : List String) (content : ByteArray) : Folder :=
  (folder.addFolder path.dropLast).put path content

/-- The files that lie in the top folder itself, by their names in order. -/
def listing (folder : Folder) : List (String × ByteArray) :=
  (folder.files.filterMap fun (path, content) =>
    match path with
    | [name] => some (name, content)
    | _ => none).mergeSort fun left right => decide (left.1 ≤ right.1)

end Folder

end SpriteScript.CommandLine
