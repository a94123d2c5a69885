import GuestPlugin.Path
import GuestPlugin.Storage.Directory
import GuestPlugin.Storage.Stream

/-! # A mounted tree of files

Paths are taken relative to the mount, an absolute one from its first name to its last: slashes and
single dots around these do not count. A relative path is followed as it stands, so a slash behind
the name of a file asks for a directory and fails. Above the mount there are directories in which
nothing is found, and a path that is too long is not followed at all.
-/

set_option autoImplicit false

namespace GuestPlugin

inductive FileTree where
  | file (content : ByteArray)
  | directory (entries : List (String × FileTree))

namespace FileTree

def empty : FileTree := .directory []

def isDirectory : FileTree → Bool
  | .file _ => false
  | .directory _ => true

def child? (name : String) : FileTree → Option FileTree
  | .file _ => none
  | .directory entries => entries.lookup name

/-- Whether a component names the directory it stands in. -/
def staysHere (component : String) : Bool := component == "" || component == "."

/-- Follows components from a node, whose ancestors are given from the nearest on. -/
def follow : List FileTree → FileTree → List String → Option FileTree
  | _, node, [] => some node
  | ancestors, node, component :: rest =>
    if staysHere component then
      if node.isDirectory then follow ancestors node rest else none
    else if component == ".." then
      match node.isDirectory, ancestors with
      | true, parent :: others => follow others parent rest
      | true, [] => follow [] empty rest
      | false, _ => none
    else
      match node.child? component with
      | some next => follow (node :: ancestors) next rest
      | none => none

/-- The components of a path as they are followed from the mount. -/
def components (path : Path) : List String :=
  let parts := path.text.splitOn "/"
  if path.isAbsolute then ((parts.dropWhile staysHere).reverse.dropWhile staysHere).reverse
  else parts

/-- Bytes of the longest path that is followed, those of the mount included. -/
def longestPath : Nat := 4095

/-- Bytes that the mount and the slash behind it take of a path. -/
def mountLength : Nat := 32

def isFollowable (components : List String) : Bool :=
  mountLength + ("/".intercalate components).utf8ByteSize ≤ longestPath

def node? (tree : FileTree) (path : Path) : Option FileTree :=
  let parts := components path
  if isFollowable parts then follow [] tree parts else none

def list? (tree : FileTree) (path : Path) : Option (List Entry) :=
  match tree.node? path with
  | some (.directory entries) => some (entries.map fun (name, node) => ⟨name, node.isDirectory⟩)
  | _ => none

/-- A directory opens like a file, but has no byte that can be read. -/
def open? (tree : FileTree) (path : Path) : Option Stream :=
  (tree.node? path).map fun
    | .file content => .ofContent content
    | .directory _ => .ofContent .empty

/-- Puts `node` at a path of names, making the directories it needs. Files on the way stay. -/
def insert (node : FileTree) : List String → FileTree → FileTree
  | _, .file content => .file content
  | [], tree => tree
  | [name], .directory entries =>
    match entries.lookup name, node with
    | some (.directory _), .directory [] => .directory entries
    | _, _ => .directory ((entries.filter (·.1 != name)) ++ [(name, node)])
  | name :: rest, .directory entries =>
    let below := insert node rest ((entries.lookup name).getD empty)
    .directory ((entries.filter (·.1 != name)) ++ [(name, below)])

/-- The tree with a file or an empty directory at a path. -/
def add (tree : FileTree) (path : Path) (node : FileTree) : FileTree :=
  insert node ((path.text.splitOn "/").filter fun part => !staysHere part) tree

end FileTree
end GuestPlugin
