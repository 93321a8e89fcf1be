import LatexRepair.FileAccess

/-!
# Trees of files

A file system as a value: a tree of directories and files below a root, which is the
current directory. A path is resolved name by name, and every name on the way has to be
that of a directory. What lies outside the tree does not exist.

`FileTree.find?_put_self` and `FileTree.find?_put_of_ne` say what storing a file does to
the tree.
-/

namespace LatexRepair

/-- What is stored at a place of a tree. -/
inductive FileNode where
  | directory
  | file (content : ByteArray)
deriving Inhabited

/-- The names that lead from the root to a place of a tree. -/
abbrev Location := List Text

/-- A tree of files, as the list of its places but for the root. -/
structure FileTree where
  entries : List (Location × FileNode) := []
deriving Inhabited

namespace FileTree

/-! ## Places -/

/-- What is stored at a place. -/
def find? (tree : FileTree) (l : Location) : Option FileNode :=
  if l.isEmpty then some .directory else (tree.entries.find? (·.1 = l)).map (·.2)

/-- Store something at a place. -/
def put (tree : FileTree) (l : Location) (n : FileNode) : FileTree :=
  ⟨(l, n) :: tree.entries.filter (·.1 ≠ l)⟩

/-- Clear a place. -/
def clear (tree : FileTree) (l : Location) : FileTree :=
  ⟨tree.entries.filter (·.1 ≠ l)⟩

/-- Clear a place and all places below it. -/
def clearBelow (tree : FileTree) (l : Location) : FileTree :=
  ⟨tree.entries.filter fun e => !l.isPrefixOf e.1⟩

/-- Make a directory at a place, with the directories that it lies in. -/
def makeDirectories (tree : FileTree) (l : Location) : FileTree :=
  (List.range l.length).foldl
    (fun t i =>
      let above := l.take (i + 1)
      if (t.find? above).isSome then t else t.put above .directory)
    tree

theorem find?_put_self (tree : FileTree) {l : Location} (h : l ≠ []) (n : FileNode) :
    (tree.put l n).find? l = some n := by
  simp [find?, put, h]

theorem find?_put_of_ne (tree : FileTree) {k l : Location} (h : k ≠ l) (n : FileNode) :
    (tree.put l n).find? k = tree.find? k := by
  have h' : (decide (l = k)) = false := by simpa using fun e => h e.symm
  simp only [find?, put]
  split
  · rfl
  · simp only [List.find?_cons, h', List.find?_filter]
    congr 2
    funext e
    by_cases he : e.1 = k <;> simp [he, h]

/-! ## Resolving paths -/

/-- The names of a path. A slash at the end is a dot behind it: what stands before it has to
be a directory. -/
def pathNames (p : Path) : List Text :=
  let pieces := (p.splitOn '/')
  pieces.dropLast.filter (!·.isEmpty) ++ [if pieces.getLast? = some [] then ['.'] else
    pieces.getLast?.getD []]

/-- Follow names from a place. -/
def follow (tree : FileTree) (l : Location) : List Text → Except FileFault Location
  | [] => .ok l
  | name :: names =>
    match tree.find? l with
    | none => .error .notFound
    | some (.file _) => .error .notDirectory
    | some .directory =>
      if name = ['.'] then tree.follow l names
      else if name = "..".toList then
        if l.isEmpty then .error .notFound else tree.follow l.dropLast names
      else tree.follow (l ++ [name]) names

/-- The place that a path leads to; nothing needs to be stored there. -/
def resolve (tree : FileTree) (p : Path) : Except FileFault Location :=
  if p.isEmpty || Path.isAbsolute p then .error .notFound else tree.follow [] (pathNames p)

/-! ## Operations -/

/-- The content of a file. -/
def read (tree : FileTree) (p : Path) : Except FileFault ByteArray :=
  match tree.resolve p with
  | .error fault => .error fault
  | .ok l =>
    match tree.find? l with
    | none => .error .notFound
    | some .directory => .error .isDirectory
    | some (.file content) => .ok content

/-- The path names a file. -/
def isFile (tree : FileTree) (p : Path) : Bool :=
  match tree.read p with
  | .ok _ => true
  | .error _ => false

/-- The path names a directory, or the fault of a file that is to be made in it. -/
def requireDirectory (tree : FileTree) (p : Path) : Except FileFault Unit :=
  match tree.resolve p with
  | .error fault => .error fault
  | .ok l =>
    match tree.find? l with
    | none => .error .notFound
    | some (.file _) => .error .notDirectory
    | some .directory => .ok ()

/-- The path ends in the name of an entry, not in a dot or in two. -/
def namesEntry (p : Path) : Bool :=
  match ((p.splitOn '/').filter (!·.isEmpty)).getLast? with
  | none => p.isEmpty
  | some name => name ≠ ['.'] && name ≠ "..".toList

/-- Store a content under a path that no directory has. -/
def write (tree : FileTree) (p : Path) (content : ByteArray) : Except FileFault FileTree :=
  if !namesEntry p then .error .busy
  else if p.getLast? = some '/' then .error .notDirectory
  else
    match tree.resolve p with
    | .error fault => .error fault
    | .ok l =>
      match tree.find? l with
      | some .directory => .error .isDirectory
      | _ =>
        match tree.find? l.dropLast with
        | some .directory => .ok (tree.put l (.file content))
        | some (.file _) => .error .notDirectory
        | none => .error .notFound

/-- Store a content in place of the one that a path has. The new content is first stored
beside it, so a missing directory is the fault of the directory. -/
def replace (tree : FileTree) (p : Path) (content : ByteArray) :
    Except (Path × FileFault) FileTree :=
  match tree.requireDirectory (Path.directory p) with
  | .error fault => .error (Path.directory p, fault)
  | .ok () =>
    match tree.write p content with
    | .error fault => .error (p, fault)
    | .ok tree' => .ok tree'

/-- Copy a file. -/
def copy (tree : FileTree) (source target : Path) : Except FileFault FileTree :=
  match tree.read source with
  | .error fault => .error fault
  | .ok content => tree.write target content

/-- Delete a file. -/
def remove (tree : FileTree) (p : Path) : Except FileFault FileTree :=
  match tree.resolve p with
  | .error fault => .error fault
  | .ok l =>
    match tree.find? l with
    | none => .error .notFound
    | some .directory => .error .isDirectory
    | some (.file _) => .ok (tree.clear l)

/-- The names of an entry relative to a place above it, if it is a file. -/
def fileBelow? (l : Location) (e : Location × FileNode) : Option (List Text) :=
  match e.2 with
  | .directory => none
  | .file _ => if l.isPrefixOf e.1 then some (e.1.drop l.length) else none

/-- All files below a directory. -/
def filesBelow (tree : FileTree) (p : Path) : Except (Path × FileFault) (List (List Text)) :=
  match tree.requireDirectory p with
  | .error fault => .error (p, fault)
  | .ok () =>
    match tree.resolve p with
    | .error fault => .error (p, fault)
    | .ok l => .ok (tree.entries.filterMap (fileBelow? l))

/-! ## Files as a state -/

/-- Do what may change the tree; a fault leaves it as it is. -/
def update {ε : Type} (f : FileTree → Except ε FileTree) : StateM FileTree (Except ε Unit) :=
  fun tree =>
    match f tree with
    | .ok tree' => (.ok (), tree')
    | .error e => (.error e, tree)

instance : FileAccess (StateM FileTree) where
  read p := fun tree => (tree.read p, tree)
  isFile p := fun tree => (tree.isFile p, tree)
  replace p content := update (·.replace p content)
  copy source target := update (·.copy source target)
  remove p := update (·.remove p)
  filesBelow p := fun tree => (tree.filesBelow p, tree)

end FileTree

end LatexRepair
