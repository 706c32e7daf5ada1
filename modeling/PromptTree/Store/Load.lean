import PromptTree.Error
import PromptTree.Files.Reader
import PromptTree.Store.Basic
import PromptTree.Store.Reader

/-!
# Packages from files

A store filled from the package document in a file.

## Main Definitions

* `Directory.loadPackage` — the store of a package file.
-/

namespace PromptTree

/-- The store of a package file. -/
def Directory.loadPackage [NestingLimits] (files : Directory) (file : String) : Except Stop Store :=
  let path := Path.ofString file
  match files.readJson path with
  | .error (.missing fault _) =>
    .error (.refused (.unavailablePackage path.text (fault.message path)))
  | .error (.malformed fault) =>
    .error (.refused (.malformedPackage path.text fault.message))
  | .error (.failed failure) => .error (.failed failure)
  | .ok document =>
    match (readPackage document 0).1 with
    | .ok package => .ok (.ofPackage package)
    | .faulty faults => .error (.refused (.unreadablePackage faults))

end PromptTree
