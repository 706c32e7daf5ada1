import PromptTree.Value.Basic

/-!
# Equality of values

Two notions of equality.  Loose equality compares numbers by value across kinds and
takes booleans for the numbers 0 and 1, at every depth.  Strict equality compares two
values loosely if they are of one kind, and never takes a boolean for a number at the
top.

## Main Definitions

* `Value.looseEquals` — equality by value.
* `Value.strictEquals` — the equality of conditions and of the cases of a switch.
-/

namespace PromptTree

namespace Value

/-- Whether a value counts as a given number. -/
def equalsNumber (n : Number) (v : Value) : Bool :=
  match v.numeric? with
  | some m => n.equals m
  | none => false

mutual

/-- Equality by value: numbers of all kinds by size, lists and tuples item by item,
objects regardless of the order of their entries. -/
def looseEquals : Value → Value → Bool
  | .null, .null => true
  | .str a, .str b => a == b
  | .list as, .list bs => looseEqualsAll as bs
  | .tuple as, .tuple bs => looseEqualsAll as bs
  | .object as, .object bs => as.length == bs.length && looseEqualsEntries as bs
  | .bool a, other => equalsNumber (.int (if a then 1 else 0)) other
  | .int a, other => equalsNumber (.int a) other
  | .float a, other => equalsNumber (.float a) other
  | _, _ => false

/-- Equality of two lists of values, item by item. -/
def looseEqualsAll : List Value → List Value → Bool
  | [], [] => true
  | a :: as, b :: bs => looseEquals a b && looseEqualsAll as bs
  | _, _ => false

/-- Whether every entry has an equal one under the same key. -/
def looseEqualsEntries : List (String × Value) → List (String × Value) → Bool
  | [], _ => true
  | (key, a) :: as, bs =>
    (match bs.lookup key with
      | some b => looseEquals a b
      | none => false) && looseEqualsEntries as bs

end

/-- Whether two values are of one kind, where integers and floating point numbers are two. -/
def sameKind : Value → Value → Bool
  | .null, .null => true
  | .bool _, .bool _ => true
  | .int _, .int _ => true
  | .float _, .float _ => true
  | .str _, .str _ => true
  | .list _, .list _ => true
  | .tuple _, .tuple _ => true
  | .object _, .object _ => true
  | _, _ => false

/-- Equality that takes no boolean for a number: two numbers are compared by value, other
values loosely and only if they are of one kind. -/
def strictEquals (a b : Value) : Bool :=
  match a.number?, b.number? with
  | some m, some n => m.equals n
  | _, _ => sameKind a b && looseEquals a b

end Value

end PromptTree
