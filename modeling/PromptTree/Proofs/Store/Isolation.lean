import PromptTree.Proofs.Store.Lookup

/-!
# Isolation of namespaces

What does a section that is added to a store change for lookups that have nothing to do with
it?  An addition is not seen by a search for what is neither the section that is added nor
the one it takes the place of (`Shelf.find?_put`), so it is enough to say, for each of the
three searches that a lookup is made of, which sections it passes over:

* the search in a namespace passes over sections of all others (`Shelf.findIn?_put`), and so
  does the search in the current namespace (`Store.currentSection?_addSection`);
* the search among exportable sections passes over all that are not exportable
  (`Store.exportedSection?_addSection`).

`addSection_isolated` puts them together, and adds that a lookup without a namespace never
leads to a section that is neither exportable nor of the current namespace.
-/

namespace PromptTree

/-- A search in one namespace does not see additions to others. -/
theorem Shelf.findIn?_put {α : Type} {shelf : Shelf α} {entity : Stored α} {scope : String}
    (h : scope ≠ entity.identity.scope) (key : String) :
    Shelf.findIn? (shelf.put entity) scope key = Shelf.findIn? shelf scope key := by
  refine Shelf.find?_put ?_ fun old _ hsame => ?_
  · simp [Ne.symm h]
  · have hscope : old.identity.scope = entity.identity.scope :=
      (Prod.mk_inj.mp (Identity.sameKey_iff.mp hsame)).1
    simp [hscope, Ne.symm h]

namespace Store

variable {store : Store} {entity found : Section} {key scope : String}

/-! ## Searches after an addition -/

theorem section?_addSection_of_scoped (hscoped : (splitScopedId key).1 = some scope)
    (h : scope ≠ entity.identity.scope) :
    (store.addSection entity).section? key = store.section? key := by
  have hsplit : splitScopedId key = (some scope, (splitScopedId key).2) := by
    rw [← hscoped]
  rw [section?_of_scoped hsplit, section?_of_scoped hsplit]
  exact Shelf.findIn?_put h _

theorem currentSection?_addSection (h : store.current ≠ some entity.identity.scope) :
    (store.addSection entity).currentSection? key = store.currentSection? key := by
  cases hcurrent : store.current with
  | none => simp [currentSection?, addSection, hcurrent]
  | some scope =>
      have hscope : scope ≠ entity.identity.scope := by
        rintro rfl
        exact h hcurrent
      simp only [currentSection?, addSection, hcurrent]
      rw [Shelf.findIn?_put hscope]

theorem exportedSection?_addSection (hnew : entity.body.exportable = false)
    (hold : ∀ old ∈ store.sections, old.identity.sameKey entity.identity = true →
      old.body.exportable = false) :
    (store.addSection entity).exportedSection? key = store.exportedSection? key := by
  refine Shelf.find?_put ?_ fun old hmem hsame => ?_
  · simp [hnew]
  · simp [hold old hmem hsame]

/-! ## What a lookup without a namespace leads to -/

/-- What is found in the current namespace belongs to it. -/
theorem current_of_currentSection? (h : store.currentSection? key = some found) :
    store.current = some found.identity.scope := by
  unfold currentSection? at h
  cases hcurrent : store.current with
  | none =>
      rw [hcurrent] at h
      cases h
  | some scope =>
      rw [hcurrent] at h
      simp only at h
      split at h
      · cases h
      · have hmatch := List.find?_some h
        rw [Bool.and_eq_true, beq_iff_eq] at hmatch
        rw [hmatch.1]

theorem exportable_of_exportedSection? (h : store.exportedSection? key = some found) :
    found.body.exportable = true ∧ found.identity.matchesKey key = true := by
  simpa using List.find?_some h

/-- A section of the current namespace that a key without a namespace leads to is found by
the search in this namespace: the other search comes too late for it. -/
theorem currentSection?_of_section? (hkey : (splitScopedId key).1 = none)
    (hcurrent : store.current = some found.identity.scope) (hne : found.identity.scope ≠ "")
    (h : store.section? key = some found) : store.currentSection? key = some found := by
  rw [section?_of_unscoped hkey] at h
  rcases Option.or_eq_some_iff.mp h with hfound | ⟨hnone, hexported⟩
  · exact hfound
  · -- The first search would not have passed over a section of its namespace that matches.
    rw [currentSection?_of_current hcurrent hne] at hnone
    have hmem : found ∈ store.sections := List.mem_of_find?_eq_some hexported
    have hmatch := (exportable_of_exportedSection? hexported).2
    have hpassed := List.find?_eq_none.mp hnone found hmem
    simp [hmatch] at hpassed

end Store

/-- **Namespaces are isolated.**  For every store and every section that is added to it:

* no lookup scoped to another namespace than that of the section changes;
* if there is a current namespace, and the section is of another one, then no lookup without
  a namespace changes that leads to a section of the current namespace;
* if the section is not of the current namespace, not exportable, and takes the place of no
  exportable section, then no lookup without a namespace changes.

And a lookup without a namespace leads to sections only that are exportable or belong to the
current namespace. -/
theorem addSection_isolated (store : Store) (entity : Section) :
    (∀ key scope, (splitScopedId key).1 = some scope → scope ≠ entity.identity.scope →
      (store.addSection entity).section? key = store.section? key) ∧
    (∀ current, store.current = some current → current ≠ "" → entity.identity.scope ≠ current →
      ∀ key found, (splitScopedId key).1 = none → store.section? key = some found →
        found.identity.scope = current → (store.addSection entity).section? key = some found) ∧
    (store.current ≠ some entity.identity.scope → entity.body.exportable = false →
      (∀ old ∈ store.sections, old.identity.sameKey entity.identity = true →
        old.body.exportable = false) →
      ∀ key, (splitScopedId key).1 = none →
        (store.addSection entity).section? key = store.section? key) ∧
    ∀ key found, (splitScopedId key).1 = none → store.section? key = some found →
      found.body.exportable = true ∨ store.current = some found.identity.scope := by
  refine ⟨?_, ?_, ?_, ?_⟩
  · intro key scope hscoped hne
    exact Store.section?_addSection_of_scoped hscoped hne
  · intro current hcurrent hnonempty hother key found hkey hfound hscope
    have hforeign : store.current ≠ some entity.identity.scope := by
      rw [hcurrent]
      exact fun heq => hother (Option.some_inj.mp heq).symm
    have hsearch : store.currentSection? key = some found :=
      Store.currentSection?_of_section? hkey (hcurrent.trans (by rw [hscope]))
        (hscope ▸ hnonempty) hfound
    rw [Store.section?_of_unscoped hkey, Store.currentSection?_addSection hforeign, hsearch,
      Option.some_or]
  · intro hforeign hnew hold key hkey
    rw [Store.section?_of_unscoped hkey, Store.section?_of_unscoped hkey,
      Store.currentSection?_addSection hforeign, Store.exportedSection?_addSection hnew hold]
  · intro key found hkey hfound
    rw [Store.section?_of_unscoped hkey] at hfound
    rcases Option.or_eq_some_iff.mp hfound with hcurrent | ⟨-, hexported⟩
    · exact .inr (Store.current_of_currentSection? hcurrent)
    · exact .inl (Store.exportable_of_exportedSection? hexported).1

/-- A greeting of the namespace that is current. -/
def demoGreeting : Section :=
  ⟨{ id := "greeting", scope := "demo" }, { content := .text "Hello" }⟩

/-- A signature of a library. -/
def libSignature : Section :=
  ⟨{ id := "signature", scope := "lib" }, { content := .text "Yours", exportable := true }⟩

/-- A greeting of the library that only the library may refer to. -/
def libGreeting : Section :=
  ⟨{ id := "greeting", scope := "lib", name := "signature" }, { content := .text "Hi" }⟩

/-- The greeting of the library hides neither the greeting of the current namespace nor the
signature, although it matches both keys, and is found in its own namespace only. -/
theorem addSection_isolated_greeting :
    let store := Store.ofAdditions (some "demo") [.ofSection demoGreeting, .ofSection libSignature]
    let after := store.addSection libGreeting
    libGreeting.body.exportable = false ∧ store.current ≠ some libGreeting.identity.scope ∧
      after.section? "demo:greeting" = some demoGreeting ∧
      after.section? "greeting" = some demoGreeting ∧
      after.section? "signature" = some libSignature ∧
      after.section? "lib:greeting" = some libGreeting ∧
      (libSignature.body.exportable = true ∨
        store.current = some libSignature.identity.scope) := by
  intro store after
  obtain ⟨hscoped, hcurrent, hforeign, honly⟩ := addSection_isolated store libGreeting
  have hold : ∀ old ∈ store.sections, old.identity.sameKey libGreeting.identity = true →
      old.body.exportable = false := by
    intro old hmem hsame
    rcases List.mem_pair.mp hmem with rfl | rfl
    · rfl
    · exact absurd hsame (by decide)
  refine ⟨rfl, by decide, ?_, ?_, ?_, rfl, ?_⟩
  · exact hscoped "demo:greeting" "demo" (by decide +kernel) (by decide)
  · exact hcurrent "demo" rfl (by decide) (by decide) "greeting" demoGreeting
      (by decide +kernel) rfl rfl
  · exact hforeign (by decide) rfl hold "signature" (by decide +kernel)
  · exact honly "signature" libSignature (by decide +kernel) rfl

end PromptTree
