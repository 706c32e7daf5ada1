import PromptTree.Text.Cut
import PromptTree.Text.Quoted

/-!
# Refused command lines

Why a command line is not accepted.

## Main Definitions

* `UsageFault` — the causes.
* `UsageFault.message` — a cause in words.
* `Halt` — the end of a program before it does anything: help, or a refusal.
-/

namespace PromptTree.Command

/-- Why a command line is not accepted. -/
inductive UsageFault where
  /-- The beginning of several options. -/
  | ambiguous (argument : String) (options : List String)
  /-- An option without its value. -/
  | withoutValue (option : String)
  /-- A value of an option that takes none. -/
  | ignoredValue (option value : String)
  /-- A value that is no integer. -/
  | notInteger (option value : String)
  /-- An option beside another one that excludes it. -/
  | excluded (option other : String)
  /-- Arguments that have to be there. -/
  | required (names : List String)
  /-- Options one of which has to be there. -/
  | oneRequired (options : List String)
  /-- A word that is none of the choices for an argument. -/
  | noChoice (name value : String) (choices : List String)
  /-- Arguments that mean nothing. -/
  | unrecognized (arguments : List String)
  deriving Repr, DecidableEq

/-- The cause in words. -/
def UsageFault.message : UsageFault → String
  | .ambiguous argument options =>
    "ambiguous option: " ++ argument ++ " could match " ++ Text.join ", " options
  | .withoutValue option => "argument " ++ option ++ ": expected one argument"
  | .ignoredValue option value =>
    "argument " ++ option ++ ": ignored explicit argument " ++ Text.quoted value
  | .notInteger option value =>
    "argument " ++ option ++ ": invalid int value: " ++ Text.quoted value
  | .excluded option other => "argument " ++ option ++ ": not allowed with argument " ++ other
  | .required names => "the following arguments are required: " ++ Text.join ", " names
  | .oneRequired options => "one of the arguments " ++ Text.join " " options ++ " is required"
  | .noChoice name value choices =>
    "argument " ++ name ++ ": invalid choice: " ++ Text.quoted value ++ " (choose from " ++
      Text.join ", " (choices.map Text.quoted) ++ ")"
  | .unrecognized arguments => "unrecognized arguments: " ++ Text.join " " arguments

/-- The end of a program before it does anything: it was asked for help, or its command line
is refused in the name of a program. -/
inductive Halt where
  | help
  | refused (program : String) (fault : UsageFault)
  deriving Repr, DecidableEq

namespace Halt

/-- The exit status. -/
def status : Halt → Nat
  | .help => 0
  | .refused _ _ => 2

/-- The line that says why, empty if it is no refusal. -/
def line : Halt → String
  | .help => ""
  | .refused program fault => program ++ ": error: " ++ fault.message

end Halt

end PromptTree.Command
