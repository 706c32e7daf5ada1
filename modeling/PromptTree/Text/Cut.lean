import PromptTree.Text.Class

/-!
# Cutting, searching and joining text

The text operations of the renderer, on lists of characters where a proof wants to
recurse and on strings where a caller wants to call.  Lengths and positions count
code points.

## Main Definitions

* `strip`, `words` — without outer white space; split at white space.
* `splitAt`, `cut` — all pieces between separators; the piece before the first.
* `contains`, `replaceAll` — searching and replacing literally.
* `keep`, `join` — a text cut to a length; texts joined by a separator.
-/

namespace PromptTree.Text

/-- Characters without the leading and trailing ones of a class. -/
def stripChars (drop : Char → Bool) (cs : List Char) : List Char :=
  ((cs.dropWhile drop).reverse.dropWhile drop).reverse

/-- A string without leading and trailing white space. -/
def strip (s : String) : String :=
  String.ofList (stripChars isBlank s.toList)

/-- The words of a text; `word` holds the characters, last first, of the word that is
being read. -/
def wordsFrom (word : List Char) : List Char → List (List Char)
  | [] => if word.isEmpty then [] else [word.reverse]
  | c :: rest =>
    if isBlank c then
      if word.isEmpty then wordsFrom [] rest else word.reverse :: wordsFrom [] rest
    else wordsFrom (c :: word) rest

/-- The pieces of a text between white space, none of them empty. -/
def words (cs : List Char) : List (List Char) :=
  wordsFrom [] cs

/-- The pieces of a text between separators, empty ones included. -/
def splitChars (separator : Char) : List Char → List (List Char)
  | [] => [[]]
  | c :: rest =>
    if c = separator then [] :: splitChars separator rest
    else
      match splitChars separator rest with
      | piece :: pieces => (c :: piece) :: pieces
      | [] => [[c]]

/-- The pieces of a string between separators, empty ones included. -/
def splitAt (separator : Char) (s : String) : List String :=
  (splitChars separator s.toList).map String.ofList

/-- What stands before the first separator, and what after it if there is one. -/
def cutChars (separator : Char) : List Char → List Char × Option (List Char)
  | [] => ([], none)
  | c :: rest =>
    if c = separator then ([], some rest)
    else
      let (before, after) := cutChars separator rest
      (c :: before, after)

/-- What stands before the first separator, and what after it if there is one. -/
def cut (separator : Char) (s : String) : String × Option String :=
  let (before, after) := cutChars separator s.toList
  (String.ofList before, after.map String.ofList)

/-- Whether a text occurs in another. -/
def containsChars (needle : List Char) : List Char → Bool
  | [] => needle.isEmpty
  | c :: rest => needle.isPrefixOf (c :: rest) || containsChars needle rest

/-- Whether a string occurs in another. -/
def contains (needle hay : String) : Bool :=
  containsChars needle.toList hay.toList

/-- Whether a string starts with another. -/
def startsWith (start s : String) : Bool :=
  start.toList.isPrefixOf s.toList

/-- Whether a string ends with another. -/
def endsWith (ending s : String) : Bool :=
  ending.toList.isSuffixOf s.toList

/-- Replaces the occurrences of a non-empty text from left to right; `skip` counts the
characters of an occurrence that are still to be passed over. -/
def replaceFrom (old new : List Char) : Nat → List Char → List Char
  | _, [] => []
  | skip + 1, _ :: rest => replaceFrom old new skip rest
  | 0, c :: rest =>
    if old.isPrefixOf (c :: rest) then new ++ replaceFrom old new (old.length - 1) rest
    else c :: replaceFrom old new 0 rest

/-- Replaces every occurrence of a text.  The empty text occurs before every character
and at the end. -/
def replaceAllChars (old new cs : List Char) : List Char :=
  if old.isEmpty then new ++ cs.flatMap fun c => c :: new
  else replaceFrom old new 0 cs

/-- Replaces every occurrence of a string. -/
def replaceAll (old new s : String) : String :=
  String.ofList (replaceAllChars old.toList new.toList s.toList)

/-- The first `size` characters of a string. -/
def keep (size : Nat) (s : String) : String :=
  String.ofList (s.toList.take size)

/-- Strings joined by a separator. -/
def join (separator : String) : List String → String
  | [] => ""
  | [s] => s
  | s :: rest => s ++ (separator ++ join separator rest)

end PromptTree.Text
