import PromptTree.Error
import PromptTree.Files.Reader
import PromptTree.Settings.Basic
import PromptTree.Settings.Bindings
import PromptTree.Text.Case

/-!
# Settings from the environment

The settings that variables of the environment spell, and those in a file `.env` where the
environment says nothing.

## Main Definitions

* `Settings.load` — the settings of an environment and a directory.

## Design Notes

The names of variables are compared without regard to case, and the last of several that
are the same then counts.  In each of the two sources the full name of a setting goes before
the short one; across the sources it does so too, even if the short one is in the
environment.
-/

namespace PromptTree.Settings

/-- The value of the last variable of a name, without regard to case. -/
def lastValue? (bindings : List Variables.Binding) (name : String) : Option String :=
  match bindings.reverse.find? fun binding => Text.lower binding.1 == Text.lower name with
  | some (_, value) => value
  | none => none

/-- The document of the settings that variables spell. -/
def entriesOf (bindings : List Variables.Binding) : Entries :=
  names.filterMap fun (full, short) =>
    match lastValue? bindings full with
    | some value => some (full, .str value)
    | none => (lastValue? bindings short).map fun value => (short, .str value)

/-- The bindings of the file `.env`, none if there is no such file. -/
def fileBindings (files : Directory) (environment : List (String × String)) :
    Except Stop (List Variables.Binding) :=
  match files.readText (.ofString ".env") with
  | .ok text => .ok (Variables.assignAll environment (Variables.bindingsOf text))
  | .error (.failed failure) => .error (.failed failure)
  | .error _ => .ok []

/-- The settings of an environment and of the directory a run works in. -/
def load (files : Directory) (environment : List (String × String)) : Except Stop Settings := do
  let below ← fileBindings files environment
  let above := environment.map fun (name, value) => (name, some value)
  match read (Entries.overlay (entriesOf below) (entriesOf above)) with
  | .ok settings => return settings
  | .faulty faults => throw (.faulty faults)

end PromptTree.Settings
