import StaticInjection.Files.Access
import StaticInjection.Text.Split

namespace StaticInjection

/-! A tree of directories and files as a value. -/

inductive FileEntry where
  | file (content : String)
  | directory
deriving DecidableEq, Repr

/-- Files and directories by the names on the way to them. The top directory is always there. -/
structure FileTree where
  entries : List (List String × FileEntry) := []
deriving DecidableEq, Repr, Inhabited

namespace FileTree

def get? (tree : FileTree) (path : List String) : Option FileEntry :=
  if path.isEmpty then some .directory else tree.entries.lookup path

def set (tree : FileTree) (path : List String) (entry : FileEntry) : FileTree :=
  { entries := tree.entries.filter (fun (other, _) => other != path) ++ [(path, entry)] }

def erase (tree : FileTree) (path : List String) : FileTree :=
  { entries := tree.entries.filter fun (other, _) => other != path }

/-! ## Paths -/

/-- The names in a path. Slashes next to each other count once, and a single point stands for the
directory that it is in. -/
def names (path : String) : List String :=
  ((Text.pieces '/' path.toList).map String.ofList).filter fun name => name != "" && name != "."

/-- Names have 255 bytes at most. -/
def nameLimit : Nat := 255

/-- Follow names from a directory. All of them but the last lead through directories. -/
def walk (tree : FileTree) : List String → List String → Except FileFault (List String)
  | place, [] => .ok place
  | place, name :: rest =>
    match tree.get? place with
    | none => .error .notFound
    | some (.file _) => .error .notDirectory
    | some .directory =>
      if name = ".." then walk tree place.dropLast rest
      else if nameLimit < name.utf8ByteSize then .error .nameTooLong
      else walk tree (place ++ [name]) rest

/-- The place that a path leads to. There may be nothing yet. -/
def resolve (tree : FileTree) (path : String) : Except FileFault (List String) :=
  if path.toList.contains '\x00' then .error .zeroInName
  else if path = "" then .error .notFound
  else tree.walk [] (names path)

/-! ## Operations -/

def read (tree : FileTree) (path : String) : Except FileFault String := do
  let place ← tree.resolve path
  match tree.get? place with
  | none => .error .notFound
  | some .directory => .error .isDirectory
  | some (.file content) => .ok content

def write (tree : FileTree) (path content : String) : Except FileFault FileTree := do
  let place ← tree.resolve path
  match tree.get? place with
  | some .directory => .error .isDirectory
  | _ => .ok (tree.set place (.file content))

def remove (tree : FileTree) (path : String) : Except FileFault FileTree := do
  let place ← tree.resolve path
  match tree.get? place with
  | none => .error .notFound
  | some .directory => .error .isDirectory
  | some (.file _) => .ok (tree.erase place)

def rename (tree : FileTree) (source target : String) : Except FileFault FileTree := do
  let content ← tree.read source
  let place ← tree.resolve source
  let goal ← tree.resolve target
  match tree.get? goal with
  | some .directory => .error .isDirectory
  | _ => .ok ((tree.erase place).set goal (.file content))

/-- Make the directories on a way, from the place reached so far. -/
def createAlong (tree : FileTree) : List String → List String → Except FileFault FileTree
  | _, [] => .ok tree
  | place, name :: rest => do
    let place ← tree.walk place [name]
    match tree.get? place with
    | none => createAlong (tree.set place .directory) place rest
    | some .directory => createAlong tree place rest
    | some (.file _) => .error (if rest.isEmpty then .alreadyThere else .notDirectory)

def createDirectories (tree : FileTree) (path : String) : Except FileFault FileTree :=
  if path.toList.contains '\x00' then .error .zeroInName
  else tree.createAlong [] (names path)

/-- A refused operation leaves the tree as it is. -/
def change (operation : FileTree → Except FileFault FileTree) :
    StateM FileTree (Except FileFault Unit) := fun tree =>
  match operation tree with
  | .ok changed => (.ok (), changed)
  | .error fault => (.error fault, tree)

def access : FileAccess (StateM FileTree) :=
  { createDirectories := fun path => change (·.createDirectories path)
    write := fun path content => change (·.write path content)
    rename := fun source target => change (·.rename source target)
    remove := fun path => change (·.remove path) }

end FileTree

end StaticInjection
