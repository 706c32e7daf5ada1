import PromptTree.Store.Basic
import PromptTree.Store.Reader

/-!
# Definitions added by their documents

A document is read before the definition that it holds is added, so a document with faults
leaves the store as it is.  An id that was given out to such a document stays given out.

## Main Definitions

* `Store.submit` — a document added to a store, given how it is read and where it belongs.
* `Store.submitSection`, `Store.submitSeparatorSet`, `Store.submitDataType` — for each kind.
-/

namespace PromptTree.Store

open Schema

/-- Adds the definition that a document holds.  Comes with the definition or the faults of
the document, and with the number of ids given out since. -/
def submit {α : Type} (read : Supplied α) (add : Store → α → Store) (store : Store)
    (document : Value) (given : Supply) : Checked α × Store × Supply :=
  match read document given with
  | (.ok entity, given) => (.ok entity, add store entity, given)
  | (.faulty faults, given) => (.faulty faults, store, given)

/-- Adds the section that a document holds. -/
def submitSection : Store → Value → Supply → Checked Section × Store × Supply :=
  submit readSection addSection

/-- Adds the separator set that a document holds. -/
def submitSeparatorSet : Store → Value → Supply → Checked SeparatorSet × Store × Supply :=
  submit readSeparatorSet addSeparatorSet

/-- Adds the data type that a document holds. -/
def submitDataType : Store → Value → Supply → Checked DataType × Store × Supply :=
  submit readDataType addDataType

end PromptTree.Store
