import ODataExplorer.Csdl.Outline

/-!
The command line: prints the outline of the metadata document that a file holds.
-/

namespace ODataExplorer

/-- The file that is read unless another one is named. -/
def standardFile : String := "metadata.xml"

end ODataExplorer

/-- Prints the outline of a document, or why there is none. -/
def main (args : List String) : IO UInt32 := do
  let content ← IO.FS.readFile (args.headD ODataExplorer.standardFile)
  match ODataExplorer.Csdl.outlineOf content with
  | .ok outline =>
    IO.print outline
    return 0
  | .error reason =>
    IO.eprintln reason.message
    return 1
