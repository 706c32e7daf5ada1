import PromptTree.Schema.Record

/-!
# Settings

What can be configured from outside, with defaults and bounds.

## Main Definitions

* `Settings` — the settings.
* `Settings.read` — the settings that named texts spell.
-/

namespace PromptTree

open Schema

/-- The settings. -/
structure Settings where
  logLevel : String := "INFO"
  jsonLogs : Bool := false
  maxSectionDepth : Int := 32
  maxOutputCount : Int := 1000
  /-- The separator set of nodes that name none. -/
  defaultSeparatorSet : String := "oxford-comma"
  apiHost : String := "127.0.0.1"
  apiPort : Int := 5050
  deriving Repr, DecidableEq, Inhabited

namespace Settings

/-- The names of the settings: the full one, and the short one. -/
def names : List (String × String) :=
  [("PROMPTGEN_LOG_LEVEL", "log_level"), ("PROMPTGEN_JSON_LOGS", "json_logs"),
   ("PROMPTGEN_MAX_SECTION_DEPTH", "max_section_depth"),
   ("PROMPTGEN_MAX_OUTPUT_COUNT", "max_output_count"),
   ("PROMPTGEN_DEFAULT_SEPARATOR_SET", "default_separator_set"),
   ("PROMPTGEN_API_HOST", "api_host"), ("PROMPTGEN_API_PORT", "api_port")]

/-- The settings of a document.  The full name of a setting goes before the short one. -/
def read (entries : Entries) : Checked Settings :=
  Settings.mk
    <$> withDefaultAs entries ["PROMPTGEN_LOG_LEVEL", "log_level"] "INFO" string
    <*> withDefaultAs entries ["PROMPTGEN_JSON_LOGS", "json_logs"] false boolean
    <*> withDefaultAs entries ["PROMPTGEN_MAX_SECTION_DEPTH", "max_section_depth"] 32 (atLeast 1)
    <*> withDefaultAs entries ["PROMPTGEN_MAX_OUTPUT_COUNT", "max_output_count"] 1000 (atLeast 1)
    <*> withDefaultAs entries ["PROMPTGEN_DEFAULT_SEPARATOR_SET", "default_separator_set"]
      "oxford-comma" string
    <*> withDefaultAs entries ["PROMPTGEN_API_HOST", "api_host"] "127.0.0.1" string
    <*> withDefaultAs entries ["PROMPTGEN_API_PORT", "api_port"] 5050 integer

end Settings

end PromptTree
