import VolumeMigration.Access

/-!
# File trees

A file tree holds the texts of files under the names that lead to them from the root; a name that
leads on to a file is a directory. `FileTree.text?` follows a path one name at a time: each name but
the last has to lead to a directory, and a path that ends with a slash means a directory, which has
no text.
-/

namespace VolumeMigration

/-- The files of a tree, each under the names that lead to it. -/
structure FileTree where
  files : List (List String × String)

namespace FileTree

/-- Where one more name leads that is taken for what it says, without a look at any tree. -/
def follow (place : List String) (name : String) : List String :=
  if name = "" || name = "." then place
  else if name = ".." then place.dropLast
  else place ++ [name]

/-- The tree with a text in each of some files. -/
def ofFiles (files : List (LocalPath × String)) : FileTree :=
  ⟨files.map fun file => ((Text.split '/' file.1.text).foldl follow [], file.2)⟩

/-- Whether a place is a directory. The root is one. -/
def isDirectory (tree : FileTree) (place : List String) : Bool :=
  place.isEmpty || tree.files.any fun file => place.isPrefixOf file.1 && place != file.1

/-- Where a name in a directory leads. -/
def step (tree : FileTree) (place : List String) (name : String) : Option (List String) :=
  let next := follow place name
  if tree.isDirectory place && (tree.isDirectory next || (tree.files.lookup next).isSome) then
    some next
  else none

/-- The text of the file at a path, which is followed from the root. -/
def text? (tree : FileTree) (path : LocalPath) : Option String := do
  let place ← (Text.split '/' path.text).foldlM tree.step []
  tree.files.lookup place

end FileTree

end VolumeMigration
