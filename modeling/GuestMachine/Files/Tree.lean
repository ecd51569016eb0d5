import GuestMachine.Files.Store

/-! # A tree of files

A file system that is only a value. Files are found by the names on the way to
them, and every way starts at the top directory, which is always there. A path
is relative to the top, or starts with the name that the top goes by.
-/

namespace GuestMachine

inductive FileEntry where
  | file (bytes : List UInt8)
  | directory
  deriving Repr, DecidableEq

structure FileTree where
  /-- What an absolute path to the top looks like. -/
  top : String := ""
  entries : List (List String × FileEntry) := []
  deriving Repr, DecidableEq

namespace FileTree

def find? (tree : FileTree) : List String → Option FileEntry
  | [] => some .directory
  | names => tree.entries.lookup names

def insert (tree : FileTree) (names : List String) (entry : FileEntry) : FileTree :=
  { tree with entries := (names, entry) :: tree.entries.filter (·.1 != names) }

/-- The names in a path, with empty ones for doubled or trailing slashes. An
    absolute path that does not start at the top leads out of the tree. -/
def namesOf (tree : FileTree) (path : String) : List String :=
  match path.splitOn "/" with
  | name :: names =>
      if name = tree.top && !names.isEmpty then names
      else if name = "" && names.any (· != "") then ".." :: names
      else name :: names
  | [] => []

/-- One step from a directory. Above the top there is nothing. -/
def enter (here : List String) (name : String) : Except FileError (List String) :=
  if name = "" || name = "." then .ok here
  else if name = ".." then
    match here with
    | [] => .error .notFound
    | _ => .ok here.dropLast
  else .ok (here ++ [name])

/-- Follow names through directories. What the last one names need not exist. -/
def walk (tree : FileTree) : (here : List String) → List String → Except FileError (List String)
  | here, [] => .ok here
  | here, name :: names =>
      match tree.find? here with
      | none => .error .notFound
      | some (.file _) => .error .notADirectory
      | some .directory => do walk tree (← enter here name) names

def resolve (tree : FileTree) (path : String) : Except FileError (List String) :=
  if path = "" then .error .notFound else tree.walk [] (tree.namesOf path)

def read (tree : FileTree) (path : String) : Except FileError (List UInt8) := do
  match tree.find? (← tree.resolve path) with
  | some (.file bytes) => return bytes
  | some .directory => throw .isADirectory
  | none => throw .notFound

def write (tree : FileTree) (path : String) (bytes : List UInt8) : Except FileError FileTree := do
  let names ← tree.resolve path
  match tree.find? names with
  | some .directory => throw .isADirectory
  | _ => return tree.insert names (.file bytes)

/-- Follow names and create the directories that are missing. -/
def extend (tree : FileTree) : (here : List String) → List String → Except FileError FileTree
  | _, [] => .ok tree
  | here, name :: names => do
      let there ← enter here name
      match tree.find? there with
      | some .directory => extend tree there names
      | some (.file _) => throw (if names.isEmpty then .alreadyExists else .notADirectory)
      | none => extend (tree.insert there .directory) there names

def makeDirectories (tree : FileTree) (path : String) : Except FileError FileTree :=
  tree.extend [] (tree.namesOf path)

/-- Change the tree, unless the change is refused. -/
def changing (change : FileTree → Except FileError FileTree) :
    ExceptT FileError (StateM FileTree) Unit :=
  ExceptT.mk fun tree =>
    match change tree with
    | .ok tree => (.ok (), tree)
    | .error e => (.error e, tree)

/-- The tree as a store of files. -/
def store : FileStore (StateM FileTree) where
  read path := ExceptT.mk fun tree => (tree.read path, tree)
  write path bytes := changing (·.write path bytes)
  makeDirectories path := changing (·.makeDirectories path)

end FileTree

end GuestMachine
