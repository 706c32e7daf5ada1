import PromptTree.Separator.Rules

/-!
# Built-in separator sets

The rules that every prompt can name.  They are looked up before any stored set, so that
no stored set can take their place.

## Main Definitions

* `builtinSets` — the sets by name, in the order in which they are listed.
* `builtin?` — the set of a name.
-/

namespace PromptTree.Separator

/-- The template of two items without anything around them. -/
def pairTemplate : String := "\x7bfirst\x7d\x7bseparator\x7d\x7bsecond\x7d"

/-- The template of many items without anything around them. -/
def manyTemplate : String := "\x7bitems\x7d\x7blast_separator\x7d\x7blast\x7d"

/-- Rules that put separators between items and nothing around them. -/
def between (pair item last : String) : SeparatorRules :=
  ⟨"\x7bitem\x7d", ⟨pair, pairTemplate⟩, ⟨item, last, manyTemplate, false⟩⟩

/-- The built-in sets. -/
def builtinSets : List (String × SeparatorRules) :=
  [("oxford-comma", between " and " ", " ", and "),
   ("simple-comma", between ", " ", " ", "),
   ("or-list", between " or " ", " ", or "),
   ("and-list-no-oxford", between " and " ", " " and "),
   ("bullet-list",
     ⟨"• \x7bitem\x7d", ⟨"\n• ", "• " ++ pairTemplate⟩,
       ⟨"\n• ", "\n• ", "• " ++ manyTemplate, false⟩⟩),
   ("numbered-list",
     ⟨"1. \x7bitem\x7d", ⟨"\n", "1. \x7bfirst\x7d\n2. \x7bsecond\x7d"⟩,
       ⟨"\n", "\n", "\x7bnumbered\x7d", true⟩⟩),
   ("newline", between "\n" "\n" "\n"),
   ("space", between " " " " " ")]

/-- The built-in set of a name. -/
def builtin? (name : String) : Option SeparatorRules :=
  builtinSets.lookup name

/-- The names of the built-in sets. -/
def builtinNames : List String :=
  builtinSets.map Prod.fst

end PromptTree.Separator
