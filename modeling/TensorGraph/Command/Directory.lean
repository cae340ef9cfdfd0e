import TensorGraph.Command.Run

/-!
# Command/Directory — files given as texts

A directory of texts, named by their paths in it, can be read in place of the file system.
-/

namespace TensorGraph.Command

/-- The texts of a directory by their paths. -/
abbrev Directory := List (String × String)

/-- The steps of a path; a step to the same place does not count. -/
def steps (path : String) : List String :=
  ((splitAt '/' path.toList).map String.ofList).filter fun s => s ≠ "" ∧ s ≠ "."

/-- Reads the text at a path. -/
def Directory.read (d : Directory) : FileReader := fun path =>
  let wanted := steps path
  if path = "" then .error .missing
  else if path.startsWith "/" then .error .missing
  else match d.find? (steps ·.1 == wanted) with
    | some (_, text) => if path.endsWith "/" then .error .notDirectory else .ok text
    | none =>
      if d.any fun (name, _) => (steps name).isPrefixOf wanted then .error .notDirectory
      else if wanted.isEmpty || d.any fun (name, _) => wanted.isPrefixOf (steps name) then
        .error .directory
      else .error .missing

end TensorGraph.Command
