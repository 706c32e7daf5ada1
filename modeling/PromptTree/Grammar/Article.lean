import PromptTree.Text.Case
import PromptTree.Text.Cut

/-!
# Articles

The English article of a word or phrase, by the first letter of its first word and lists
of words that sound different from how they are spelled.

## Main Definitions

* `anWords`, `aWords` — the exceptions.
* `indefiniteArticle` — "a" or "an".
* `chooseArticle` — the article of a phrase, none for an empty one.
-/

namespace PromptTree

/-- Which article. -/
inductive ArticleStyle where
  | indefinite
  | definite
  deriving Repr, DecidableEq

namespace ArticleStyle

/-- The names of the styles in documents. -/
def names : List (String × ArticleStyle) :=
  [("indefinite", .indefinite), ("definite", .definite)]

/-- The name of a style in documents. -/
def name : ArticleStyle → String
  | .indefinite => "indefinite"
  | .definite => "definite"

end ArticleStyle

namespace Grammar

/-- Words that take "an" although they start with no vowel letter. -/
def anWords : List String :=
  ["hour", "hours", "honest", "honor", "honour", "heir", "heirloom", "herb", "herbs",
   "html", "http", "sql", "mri", "fbi", "nba", "nfl", "mba"]

/-- Words that take "a" although they start with a vowel letter. -/
def aWords : List String :=
  ["one", "once", "university", "unicorn", "uniform", "union", "unique", "unit", "united",
   "universe", "universal", "use", "used", "useful", "user", "usual", "usually", "utility",
   "utensil", "euphoria", "european", "eucalyptus", "ewe"]

/-- Vowel letters. -/
def isVowel (c : Char) : Bool :=
  ['a', 'e', 'i', 'o', 'u'].contains c

/-- The indefinite article of a phrase in lower case. -/
def indefiniteArticle (phrase : List Char) : String :=
  let word := ((Text.words phrase).headD [])
  if anWords.contains (String.ofList word) then "an"
  else if aWords.contains (String.ofList word) then "a"
  else if word.head?.any isVowel then "an"
  else "a"

/-- The article of a phrase, none for one without a word. -/
def chooseArticle (phrase : String) (style : ArticleStyle) (capitalize : Bool) : String :=
  let normal := Text.lower (Text.strip phrase)
  if normal.isEmpty then ""
  else
    let article := match style with
      | .definite => "the"
      | .indefinite => indefiniteArticle normal.toList
    if capitalize then Text.sentence article else article

end Grammar

end PromptTree
