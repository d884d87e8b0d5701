import TaskBoard.Text.Split
import TaskBoard.Text.Utf8

/-!
# Files

The files in a directory and in those within it, and how a name leads to a file.
-/

namespace TaskBoard

open Text

/-- A path from a directory, by the names of the directories on the way. -/
abbrev Path := List (List Char)

structure File where
  path : Path
  contents : Bytes
deriving DecidableEq, Repr

namespace File

/-- Parts of a name that lead nowhere. -/
def isIdle (part : List Char) : Bool := part.isEmpty || part = ['.']

def ofName (name : List Char) (contents : Bytes) : File :=
  ⟨(splitAll '/' name).filter (!isIdle ·), contents⟩

end File

abbrev Directory := List File

namespace Directory

/-- Whether a path leads to a directory: to this one, or to one with a file in it. -/
def isDirectory (d : Directory) (path : Path) : Bool :=
  path.isEmpty || d.any fun file => path.isPrefixOf file.path && path != file.path

/-- Goes on from a directory: to the same place, to the place above, or to one within. What is above
the directory itself is not known. -/
def walk? (d : Directory) (path : Path) (part : List Char) : Option Path :=
  if !d.isDirectory path then none
  else if File.isIdle part then some path
  else if part = ['.', '.'] then if path.isEmpty then none else some path.dropLast
  else some (path ++ [part])

/-- What is in the file that a name leads to. A name from the root leads to none. -/
def read? (d : Directory) (name : List Char) : Option Bytes :=
  if name.head? = some '/' then none
  else do
    let path ← (splitAll '/' name).foldlM d.walk? []
    let file ← d.find? (·.path = path)
    some file.contents

end Directory

end TaskBoard
