/-
This file defines a tree of files and directories and the operations on it, each of which may meet
an obstacle. The only obstacles are what stands in the tree, what is missing in it, and names and
paths that are too long. A file that is there can be read, written and removed.
-/

import ChatCalculator.Text.Bytes

namespace ChatCalculator

/-- A path lists the names that lead to a place. -/
abbrev Path := List Text

/-- A dot leads nowhere else. -/
def Path.dot : Text := ['.']

/-- This function divides a written path at its slashes. An absolute path begins with the name of
the root. Empty names are left out, and so are the dots before the last name. -/
def Path.ofText (text : Text) : Path :=
  let written := (Text.pieces '/' text).filter (· ≠ [])
  let names := written.filter (· ≠ dot)
  let ending := if names ≠ [] ∧ written.getLast? = some dot then [dot] else []
  match text with
  | '/' :: _ => ['/'] :: names ++ ending
  | _ => names ++ ending

/-- This function writes a path one name longer. -/
def Path.joined (directory name : Text) : Text :=
  if directory = [] ∨ directory.getLast? = some '/' then directory ++ name
  else directory ++ '/' :: name

/-- A place in the tree holds a file or is a directory. -/
inductive Node where
  | file (content : ByteArray)
  | directory
  deriving BEq

/-- The way to a place ends before it or is blocked by what stands there. -/
inductive Obstacle where
  | missing
  | blocked
  deriving DecidableEq, Repr

/-- A tree keeps what stands at each path. -/
structure Files where
  nodes : List (Path × Node) := []

namespace Files

/-- The current directory and the root always exist. -/
def node? (files : Files) (path : Path) : Option Node :=
  if path = [] ∨ path = [['/']] then some .directory else files.nodes.lookup path

def put (files : Files) (path : Path) (node : Node) : Files :=
  ⟨(path, node) :: files.nodes.filter fun entry => entry.1 ≠ path⟩

def drop (files : Files) (path : Path) : Files :=
  ⟨files.nodes.filter fun entry => entry.1 ≠ path⟩

/-- A name has at most this many bytes. -/
def nameLimit : Nat := 255

/-- A path has at most this many bytes, each name counted with its slash. -/
def pathLimit : Nat := 4096

def isTooLong (path : Path) : Bool :=
  pathLimit < path.foldr (fun name total => Text.byteLength name + 1 + total) 0

/-- This function goes one name further from a directory to a directory. -/
def enter (files : Files) (place : Path) (name : Text) : Except Obstacle Path :=
  if name = Path.dot then .ok place
  else if name = "..".toList then .ok (if place = [['/']] then place else place.dropLast)
  else if nameLimit < Text.byteLength name then .error .blocked
  else
    match files.node? (place ++ [name]) with
    | some .directory => .ok (place ++ [name])
    | some (.file _) => .error .blocked
    | none => .error .missing

/-- This function finds the directory to which a path leads. -/
def directory (files : Files) (path : Path) : Except Obstacle Path :=
  if isTooLong path then .error .blocked else path.foldlM files.enter []

/-- A file is read whole, and a directory in its place cannot be read. -/
def read (files : Files) (path : Path) (name : Text) : Except Obstacle ByteArray := do
  let place ← files.directory path
  match files.node? (place ++ [name]) with
  | some (.file content) => return content
  | some .directory => throw .blocked
  | none => throw .missing

/-- This function goes one name further and makes the directory that is missing there. -/
def enterOrMake (place : Path) (name : Text) : EStateM Obstacle Files Path := fun files =>
  match files.enter place name with
  | .ok next => .ok next files
  | .error .missing => .ok (place ++ [name]) (files.put (place ++ [name]) .directory)
  | .error .blocked => .error .blocked files

/-- The directories that are made for a path are those of its names. Before a dot at the end the
last name is not made, because it has to lead somewhere already. -/
def namesToMake (path : Path) : Path :=
  if path.getLast? = some Path.dot then path.dropLast.dropLast else path

/-- A directory is made together with those that lead to it, unless it exists. -/
def makeDirectory (path : Path) : EStateM Obstacle Files Unit := fun files =>
  match files.directory path with
  | .ok _ => .ok () files
  | .error .blocked => .error .blocked files
  | .error .missing =>
      match (namesToMake path).foldlM enterOrMake [] files with
      | .error obstacle files => .error obstacle files
      | .ok _ files =>
          match files.directory path with
          | .ok _ => .ok () files
          | .error obstacle => .error obstacle files

/-- A file is written whole in an existing directory. -/
def write (path : Path) (name : Text) (content : ByteArray) : EStateM Obstacle Files Unit :=
  fun files =>
    match files.directory path with
    | .error obstacle => .error obstacle files
    | .ok place =>
        match files.node? (place ++ [name]) with
        | some .directory => .error .blocked files
        | _ => .ok () (files.put (place ++ [name]) (.file content))

/-- A file is removed, and a directory in its place is not. -/
def remove (path : Path) (name : Text) : EStateM Obstacle Files Unit := fun files =>
  match files.directory path with
  | .error obstacle => .error obstacle files
  | .ok place =>
      match files.node? (place ++ [name]) with
      | some (.file _) => .ok () (files.drop (place ++ [name]))
      | some .directory => .error .blocked files
      | none => .error .missing files

theorem lookup_filter_ne (nodes : List (Path × Node)) (path other : Path) :
    (nodes.filter fun entry => entry.1 ≠ path).lookup other =
      if other = path then none else nodes.lookup other := by
  induction nodes with
  | nil => simp
  | cons entry rest inductionHypothesis =>
      by_cases same : entry.1 = path
      · rw [List.filter_cons_of_neg (by simp [same]), inductionHypothesis]
        by_cases asked : other = path
        · rw [if_pos asked, if_pos asked]
        · have different : (other == entry.1) = false := by simp [same, asked]
          rw [if_neg asked, if_neg asked, List.lookup_cons, different]
      · rw [List.filter_cons_of_pos (by simp [same]), List.lookup_cons, List.lookup_cons,
          inductionHypothesis]
        by_cases asked : other = path
        · have different : (other == entry.1) = false := by simp [asked, Ne.symm same]
          simp only [different, if_pos asked]
        · simp only [if_neg asked]

/-- At the given path stands what was put there, and everywhere else what stood there before. -/
theorem node?_put (files : Files) (path other : Path) (node : Node)
    (named : ¬(path = [] ∨ path = [['/']])) :
    (files.put path node).node? other = if other = path then some node else files.node? other := by
  by_cases asked : other = path
  · rw [if_pos asked, asked, node?, if_neg named, put, List.lookup_cons_self]
  · have different : (other == path) = false := beq_eq_false_iff_ne.mpr asked
    simp only [node?, put, List.lookup_cons, different, lookup_filter_ne, if_neg asked]

/-- Nothing stands at a path that was dropped. -/
theorem node?_drop (files : Files) (path other : Path)
    (named : ¬(path = [] ∨ path = [['/']])) :
    (files.drop path).node? other = if other = path then none else files.node? other := by
  by_cases asked : other = path
  · rw [if_pos asked, asked, node?, if_neg named, drop, lookup_filter_ne, if_pos rfl]
  · simp only [node?, drop, lookup_filter_ne, if_neg asked]

end Files

end ChatCalculator
