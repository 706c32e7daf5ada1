/-!
# How deep things may be nested

Whatever follows the nesting of a text or of a value needs room for every level, and a run has
room for so many only.

## Main Definitions

* `NestingLimits` — how far the room reaches, for everything that is nested.

## Design Notes

How much room is left depends on where a run was called from, and on what else waits at the same
time, so the limits are parameters.  Each is a number of levels for which there is certainly room,
measured for one kind of nesting by itself: within the limits nothing fails for want of it.  What
is said about runs is said for all limits, and what lies beyond them is left open.

Readings of JSON texts and of patterns and the checks of documents take the limits; what has
none, such as a rendering, reads patterns with the usual ones.  A rendering itself, the readers of
records and the comparison and the text of values are taken to have the room they need: their
results are those of runs that do not run out of it.  Where that matters to a statement, it asks
for values within the limits.

The nesting of sections in a rendering is another matter: it is limited by a setting, and is
recorded as an issue.
-/

namespace PromptTree

/-- How many levels there is certainly room for. -/
class NestingLimits where
  /-- The lists and objects of a JSON text that are open at once. -/
  brackets : Nat
  /-- The readers of a pattern that wait for each other, of which an open group takes two, and
  the groups, choices and repetitions of a pattern inside each other. -/
  groups : Nat
  /-- The nodes of a document that are checked inside each other. -/
  nodes : Nat
  /-- The lists and objects of a value, and the conditions, that are followed inside each
  other. -/
  values : Nat

/-- The usual limits: a thousand calls less those that a run has made when it begins to read; for
values a quarter of them, since what follows a value makes several calls for a level of it. -/
instance NestingLimits.usual : NestingLimits :=
  { brackets := 980, groups := 980, nodes := 980, values := 240 }

end PromptTree
