import MapBench.Files.Tree

/-!
# `MapBench.Files.Reader`: looking at files

Whoever only looks at files needs no more than to know whether there
is something at a path, and to read its text. Where the files are is
left open: in a tree, or in the world.
-/

set_option autoImplicit false

namespace MapBench

/-- How files are looked at. -/
structure FileReader (m : Type → Type) where
  /-- Is there anything at a path? -/
  hasEntry : String → m Bool
  /-- The text of a file. -/
  readText : String → m (Except FileError String)

/-- Looking at the files of a tree. -/
def FileTree.reader (t : FileTree) : FileReader Id where
  hasEntry path := t.hasEntry path
  readText path := t.readText path

end MapBench
