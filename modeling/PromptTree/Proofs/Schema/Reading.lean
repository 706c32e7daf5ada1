import PromptTree.Schema.Record

/-!
# Reading that succeeds

What follows for the parts of a document if the whole of it could be read: one lemma for
each of the ways in which readers are put together.  A theorem about what was read takes
the reader apart with them, down to the field that it is about.

What is read in the fields of a value is less deep than the value.  `Reads` says of a reader
what it gives for values up to a depth; it serves theorems about readers that call
themselves, which are by induction on the depth.

## Main Definitions

* `Reads` — a property of what a reader gives for values up to a depth.
-/

namespace PromptTree.Schema

namespace Checked

variable {α β : Type} {a : Checked α} {b : β}

theorem map_eq_ok {f : α → β} : f <$> a = Checked.ok b ↔ ∃ x, a = .ok x ∧ f x = b := by
  change map f a = .ok b ↔ _
  cases a with
  | ok x => simp [map]
  | faulty faults => simp [map]

theorem seq_eq_ok {f : Checked (α → β)} :
    f <*> a = Checked.ok b ↔ ∃ g x, f = .ok g ∧ a = .ok x ∧ g x = b := by
  change ap f a = .ok b ↔ _
  cases f with
  | ok g =>
      cases a with
      | ok x => simp [ap]
      | faulty faults => simp [ap]
  | faulty faults =>
      cases a with
      | ok x => simp [ap]
      | faulty more => simp [ap]

theorem below_eq_ok {step : Step} {x : α} : a.below step = .ok x ↔ a = .ok x := by
  cases a with
  | ok x => simp [below]
  | faulty faults => simp [below]

theorem sequence_cons_eq_ok {rest : List (Checked α)} {as : List α} :
    sequence (a :: rest) = .ok as ↔ ∃ x xs, a = .ok x ∧ sequence rest = .ok xs ∧ x :: xs = as := by
  cases a with
  | ok x =>
      cases hrest : sequence rest with
      | ok xs => simp [sequence, hrest, map, ap]
      | faulty faults => simp [sequence, hrest, map, ap]
  | faulty faults =>
      cases hrest : sequence rest with
      | ok xs => simp [sequence, hrest, map, ap]
      | faulty more => simp [sequence, hrest, map, ap]

theorem andThen_eq_ok {f : α → Checked β} :
    a.andThen f = .ok b ↔ ∃ x, a = .ok x ∧ f x = .ok b := by
  cases a with
  | ok x => simp [andThen]
  | faulty faults => simp [andThen]

end Checked

variable {α : Type} {read : Reader α} {a : α}

theorem record_eq_ok {name : String} {fields : Entries → Checked α} {v : Value}
    (h : record name fields v = .ok a) : ∃ entries, fields entries = .ok a := by
  unfold record at h
  split at h
  · exact ⟨_, h⟩
  · cases h

/-- The value of a field that may be missing is its default, or it was read. -/
theorem withDefault_eq_ok {entries : Entries} {name : String} {fallback : α}
    (h : withDefault entries name fallback read = .ok a) : a = fallback ∨ ∃ v, read v = .ok a := by
  unfold withDefault withDefaultAs at h
  split at h
  · rename_i found v _
    exact .inr ⟨v, Checked.below_eq_ok.mp h⟩
  · cases h
    exact .inl rfl

theorem le_of_atLeast {least n : Int} {v : Value} (h : atLeast least v = .ok n) : least ≤ n := by
  unfold atLeast at h
  obtain ⟨m, _, hm⟩ := Checked.andThen_eq_ok.mp h
  split at hm
  · cases hm
  · rename_i hle
    cases hm
    exact Int.not_lt.mp hle

/-! ## Depth -/

theorem depth_le_of_mem {v : Value} {items : List Value} (h : v ∈ items) :
    v.depth ≤ Value.depthOfItems items := by
  induction h with
  | head rest => exact Nat.le_max_left ..
  | tail other _ ih => exact Nat.le_trans ih (Nat.le_max_right ..)

theorem depth_le_of_lookup {entries : Entries} {name : String} {v : Value}
    (h : entries.lookup name = some v) : v.depth ≤ Value.depthOfEntries entries := by
  induction entries with
  | nil => cases h
  | cons entry rest ih =>
      obtain ⟨key, first⟩ := entry
      simp only [List.lookup_cons] at h
      split at h
      · cases h
        exact Nat.le_max_left ..
      · exact Nat.le_trans (ih h) (Nat.le_max_right ..)

theorem depth_getD_le (entries : Entries) (name : String) :
    (Entries.getD entries name).depth ≤ Value.depthOfEntries entries := by
  unfold Entries.getD
  cases hlookup : entries.lookup name with
  | none => exact Nat.zero_le _
  | some v => exact depth_le_of_lookup hlookup

theorem depth_lt_of_lookup_list {entries : Entries} {name : String} {items : List Value} {v : Value}
    (h : entries.lookup name = some (.list items)) (hv : v ∈ items) :
    v.depth < Value.depthOfEntries entries :=
  Nat.lt_of_lt_of_le (Nat.lt_succ_of_le (depth_le_of_mem hv)) (depth_le_of_lookup h)

theorem depth_le_of_entry {entries : Entries} {names : List String} {name : String} {v : Value}
    (h : entry? entries names = some (name, v)) : v.depth ≤ Value.depthOfEntries entries := by
  induction names with
  | nil => cases h
  | cons first rest ih =>
      simp only [Entries.get?, entry?] at h
      split at h
      · rename_i v' hlookup
        cases h
        exact depth_le_of_lookup hlookup
      · exact ih h

theorem depth_lt_of_items {v item : Value} {items : List Value} (h : v.items? = some items)
    (hitem : item ∈ items) : item.depth < v.depth := by
  cases v with
  | list items | tuple items =>
      cases h
      exact Nat.lt_succ_of_le (depth_le_of_mem hitem)
  | _ => cases h

/-! ## Readers that agree -/

section Agreement

variable {read' : Reader α} {v : Value}

theorem nullable_congr (h : read v = read' v) : nullable read v = nullable read' v := by
  unfold nullable
  rw [h]

/-- Lists are read alike if their items are. -/
theorem list_congr (h : ∀ item : Value, item.depth < v.depth → read item = read' item) :
    list read v = list read' v := by
  have hitems : ∀ (items : List Value) (index : Nat),
      (∀ item ∈ items, read item = read' item) →
        itemsFrom read index items = itemsFrom read' index items := by
    intro items
    induction items with
    | nil => exact fun _ _ => rfl
    | cons first rest ih =>
        intro index hread
        obtain ⟨hfirst, hrest⟩ := List.forall_mem_cons.mp hread
        rw [itemsFrom, itemsFrom, hfirst, ih _ hrest]
  unfold list
  cases hv : v.items? with
  | none => rfl
  | some items => simp only [hitems items 0 fun item hitem => h item (depth_lt_of_items hv hitem)]

/-- Fields are read alike if the values in them are. -/
theorem withDefaultAs_congr {entries : Entries} {names : List String} {fallback : α}
    (h : ∀ v : Value, v.depth ≤ Value.depthOfEntries entries → read v = read' v) :
    withDefaultAs entries names fallback read = withDefaultAs entries names fallback read' := by
  unfold withDefaultAs
  cases hentry : entry? entries names with
  | none => rfl
  | some entry =>
      obtain ⟨name, v⟩ := entry
      simp only [h v (depth_le_of_entry hentry)]

end Agreement

/-- What a reader gives for values up to a depth has a property. -/
def Reads (depth : Nat) (read : Reader α) (P : α → Prop) : Prop :=
  ∀ v a, v.depth ≤ depth → read v = .ok a → P a

namespace Reads

variable {depth : Nat} {P : α → Prop} {entries : Entries} {name : String}

theorem required (h : Reads depth read P) (hdepth : Value.depthOfEntries entries ≤ depth)
    (hread : Schema.required entries name read = .ok a) : P a := by
  unfold Schema.required requiredAs at hread
  split at hread
  · rename_i found v hentry
    exact h v a (Nat.le_trans (depth_le_of_entry hentry) hdepth) (Checked.below_eq_ok.mp hread)
  · cases hread

theorem withDefault {fallback : α} (h : Reads depth read P) (hfallback : P fallback)
    (hdepth : Value.depthOfEntries entries ≤ depth)
    (hread : Schema.withDefault entries name fallback read = .ok a) : P a := by
  unfold Schema.withDefault withDefaultAs at hread
  split at hread
  · rename_i found v hentry
    exact h v a (Nat.le_trans (depth_le_of_entry hentry) hdepth) (Checked.below_eq_ok.mp hread)
  · cases hread
    exact hfallback

theorem nullable (h : Reads depth read P) :
    Reads depth (Schema.nullable read) fun value => ∀ a ∈ value, P a := by
  intro v value hdepth hread
  unfold Schema.nullable at hread
  split at hread
  · cases hread
    exact nofun
  · obtain ⟨a, ha, rfl⟩ := Checked.map_eq_ok.mp hread
    intro b hb
    cases hb
    exact h v a hdepth ha

theorem optional {value : Option α} (h : Reads depth read P)
    (hdepth : Value.depthOfEntries entries ≤ depth)
    (hread : Schema.optional entries name read = .ok value) : ∀ a ∈ value, P a := by
  refine h.nullable.withDefault ?_ hdepth hread
  exact nofun

theorem list (h : Reads depth read P) : Reads depth (Schema.list read) fun as => ∀ a ∈ as, P a := by
  intro v as hdepth hread
  unfold Schema.list at hread
  split at hread
  · rename_i items hitems
    have hbelow : Value.depthOfItems items ≤ depth := by
      cases v with
      | list items | tuple items =>
          cases hitems
          exact Nat.le_of_succ_le hdepth
      | _ => cases hitems
    clear hdepth hitems
    generalize 0 = index at hread
    induction items generalizing index as with
    | nil =>
        cases hread
        exact nofun
    | cons first rest ih =>
        obtain ⟨b, bs, hb, hbs, rfl⟩ := Checked.sequence_cons_eq_ok.mp hread
        have hrest := ih bs (Nat.le_trans (Nat.le_max_right ..) hbelow) (index + 1) hbs
        rw [List.forall_mem_cons]
        refine ⟨?_, hrest⟩
        exact h first b (Nat.le_trans (Nat.le_max_left ..) hbelow) (Checked.below_eq_ok.mp hb)
  · cases hread

theorem record {fields : Entries → Checked α}
    (h : ∀ entries a, Value.depthOfEntries entries ≤ depth → fields entries = .ok a → P a) :
    Reads depth (Schema.record name fields) P := by
  intro v a hdepth hread
  unfold Schema.record at hread
  cases v with
  | object entries => exact h entries a (Nat.le_of_succ_le hdepth) hread
  | _ => cases hread

end Reads

end PromptTree.Schema
