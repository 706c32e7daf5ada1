import Mathlib.Data.List.Basic
import PromptTree.Command.Basic
import PromptTree.Proofs.Answers

/-!
# Alternatives on command lines

Of some options a command line has to have one and only one.  Each argument that is taken keeps
them apart (`Given.Fits.take`), so a command line that is accepted has one of them
(`Syntax.existsUnique_alternative`): a preview names a separator set or a file of rules, never
both and never neither (`preview_alternatives`).
-/

namespace PromptTree.Command

/-! ## Options -/

/-- A command line whose options all take a text. -/
def Syntax.TakesTexts (rules : Syntax) : Prop :=
  ∀ rule ∈ rules.options, rule.kind = .text

/-- An argument that is an option with a text, or asks for help. -/
def Token.TakesText (token : Token) : Prop :=
  ∀ rule value, token = .option rule value → rule.kind = .text ∨ rule.kind = .help

section Tokens

variable {rules : Syntax} (htexts : rules.TakesTexts)

include htexts

theorem kind_of_mem_spellings {name : String} {rule : OptionRule}
    (h : (name, rule) ∈ rules.spellings) : rule.kind = .text ∨ rule.kind = .help := by
  simp only [Syntax.spellings, List.mem_cons, List.mem_map, Prod.mk.injEq] at h
  obtain ⟨-, rfl⟩ | ⟨-, rfl⟩ | ⟨other, hmem, -, rfl⟩ := h
  · exact .inr rfl
  · exact .inr rfl
  · exact .inl (htexts _ hmem)

theorem kind_of_lookup {name : String} {rule : OptionRule}
    (h : rules.spellings.lookup name = some rule) : rule.kind = .text ∨ rule.kind = .help := by
  obtain ⟨before, after, heq, -⟩ := List.lookup_eq_some_iff.mp h
  have hmem : (name, rule) ∈ rules.spellings := by
    rw [heq]
    simp
  exact kind_of_mem_spellings htexts hmem

theorem takesText_token {argument : String} {token : Token}
    (h : rules.token argument = .ok token) : token.TakesText := by
  have hother : (Syntax.otherToken argument).TakesText := by
    intro rule value heq
    unfold Syntax.otherToken at heq
    dsimp only at heq
    split at heq
    · cases heq
    · cases heq
  unfold Syntax.token at h
  split at h
  · dsimp only at h
    split at h
    · rename_i hlookup
      cases h
      rintro _ _ ⟨⟩
      exact kind_of_lookup htexts hlookup
    · rename_i hlookup
      cases h
      rintro _ _ ⟨⟩
      exact kind_of_lookup htexts hlookup
    · split at h
      · split at h
        · cases h
          exact hother
        · rename_i name rule value hcandidates
          cases h
          have hmem : (name, rule, value) ∈ rules.candidates argument := by
            rw [hcandidates]
            exact List.mem_cons_self
          obtain ⟨⟨name', rule'⟩, hspelling, heq⟩ := List.mem_map.mp hmem
          rintro _ _ ⟨⟩
          cases heq
          exact kind_of_mem_spellings htexts (List.mem_of_mem_filter hspelling)
        · cases h
      · split at h
        · cases h
          nofun
        · cases h
          exact hother
  · cases h
    nofun

theorem takesText_tokens {arguments : List String} {tokens : List Token}
    (h : rules.tokens arguments = .ok tokens) : ∀ token ∈ tokens, token.TakesText := by
  fun_induction Syntax.tokens rules arguments generalizing tokens with
  | case1 =>
      cases h
      nofun
  | case2 rest =>
      cases h
      intro token hmem
      obtain rfl | hmem := List.mem_cons.mp hmem
      · nofun
      · obtain ⟨word, -, rfl⟩ := List.mem_map.mp hmem
        nofun
  | case3 argument rest hdashes ih =>
      obtain ⟨first, hfirst, h⟩ := bind_eq_ok_iff.mp h
      obtain ⟨others, hothers, h⟩ := bind_eq_ok_iff.mp h
      cases h
      intro token hmem
      obtain rfl | hmem := List.mem_cons.mp hmem
      · exact takesText_token htexts hfirst
      · exact ih hothers token hmem

end Tokens

/-! ## What is given -/

/-- A command line as far as it was read, if all its options take texts: there is nothing but
texts, and of the alternatives there is one at most. -/
structure Given.Fits (given : Given) (rules : Syntax) : Prop where
  integers : given.integers = []
  flags : given.flags = []
  owed : ∀ rule, given.owed = some rule → rule.kind = .text
  exclusive : ∀ a ∈ rules.alternatives, ∀ b ∈ rules.alternatives,
    (given.texts.lookup a).isSome → (given.texts.lookup b).isSome → a = b

namespace Given.Fits

variable {given next : Given} {rules : Syntax}

theorem has_iff (h : given.Fits rules) (option : String) :
    given.has option = (given.texts.lookup option).isSome := by
  simp [has, h.integers, h.flags]

theorem initial : Given.Fits {} rules :=
  ⟨rfl, rfl, nofun, nofun⟩

/-- What is given may change in its words. -/
theorem of_texts_eq (h : given.Fits rules) (htexts : next.texts = given.texts)
    (hintegers : next.integers = given.integers) (hflags : next.flags = given.flags)
    (howed : ∀ rule, next.owed = some rule → rule.kind = .text) : next.Fits rules where
  integers := hintegers.trans h.integers
  flags := hflags.trans h.flags
  owed := howed
  exclusive := htexts ▸ h.exclusive

theorem takeValue (h : given.Fits rules) {rule : OptionRule} {value : String}
    (hkind : rule.kind = .text) (htake : given.takeValue rules rule value = .ok next) :
    next.Fits rules := by
  unfold Given.takeValue at htake
  rw [hkind] at htake
  obtain ⟨middle, ⟨⟩, htake⟩ := bind_eq_ok_iff.mp htake
  dsimp only at htake
  split at htake
  · rename_i hmem
    split at htake
    · cases htake
    · rename_i hnone
      cases htake
      refine ⟨h.integers, h.flags, h.owed, ?_⟩
      -- the option that is given now is the only one
      have honly : ∀ a ∈ rules.alternatives,
          (((rule.name, value) :: given.texts).lookup a).isSome → a = rule.name := by
        intro a ha hgiven
        by_contra hne
        have hno := List.find?_eq_none.mp hnone a ha
        refine hno (Bool.and_eq_true_iff.mpr ⟨decide_eq_true hne, ?_⟩)
        simp [has, hgiven]
      intro a ha b hb hgiven hgiven'
      rw [honly a ha hgiven, honly b hb hgiven']
  · rename_i hmem
    cases htake
    refine ⟨h.integers, h.flags, h.owed, ?_⟩
    have hother : ∀ a ∈ rules.alternatives,
        ((rule.name, value) :: given.texts).lookup a = given.texts.lookup a := by
      intro a ha
      have hne : a ≠ rule.name := by
        rintro rfl
        exact hmem (List.contains_iff_mem.mpr ha)
      rw [List.lookup_cons, beq_false_of_ne hne]
    intro a ha b hb hgiven hgiven'
    rw [hother a ha] at hgiven
    rw [hother b hb] at hgiven'
    exact h.exclusive a ha b hb hgiven hgiven'

theorem closeWords (h : given.Fits rules) : given.closeWords.Fits rules := by
  unfold Given.closeWords
  split
  · exact h.of_texts_eq rfl rfl rfl h.owed
  · exact h

theorem takeOption (h : given.Fits rules) {rule : OptionRule} {value : Option String}
    (hkind : rule.kind = .text ∨ rule.kind = .help)
    (htake : given.takeOption rules rule value = .ok next) : next.Fits rules := by
  unfold Given.takeOption at htake
  obtain hkind | hkind := hkind
  · rw [hkind] at htake
    cases value with
    | none =>
        cases htake
        refine h.closeWords.of_texts_eq rfl rfl rfl ?_
        rintro _ ⟨⟩
        exact hkind
    | some value => exact h.closeWords.takeValue hkind (mapError_eq_ok_iff.mp htake)
  · rw [hkind] at htake
    cases value with
    | none => cases htake
    | some value => cases htake

theorem takeWord (h : given.Fits rules) (word : String) :
    (given.takeWord rules word).Fits rules := by
  unfold Given.takeWord
  split
  all_goals exact h.of_texts_eq rfl rfl rfl h.owed

theorem takeDashes (h : given.Fits rules) : (given.takeDashes rules).Fits rules := by
  unfold Given.takeDashes
  split
  · exact h.of_texts_eq rfl rfl rfl h.owed
  · exact h
  · exact h
  · exact h
  · exact h.of_texts_eq rfl rfl rfl h.owed

/-- **Every argument keeps the alternatives apart.** -/
theorem take (h : given.Fits rules) {token : Token} (htoken : token.TakesText)
    (htake : given.take rules token = .ok next) : next.Fits rules := by
  unfold Given.take at htake
  dsimp only at htake
  split at htake
  · rename_i rule howed
    have hsettled : Given.Fits { given with owed := none } rules :=
      h.of_texts_eq rfl rfl rfl nofun
    split at htake
    · exact hsettled.takeValue (h.owed rule howed) (mapError_eq_ok_iff.mp htake)
    · cases htake
  · split at htake
    · cases htake
      exact h.takeWord _
    · cases htake
      exact h.takeDashes
    · exact h.takeOption (htoken _ _ rfl) htake
    · cases htake
    · cases htake
      exact h.closeWords.of_texts_eq rfl rfl rfl h.closeWords.owed

theorem foldlM_take {tokens : List Token} (htokens : ∀ token ∈ tokens, token.TakesText)
    (h : given.Fits rules)
    (hfold : tokens.foldlM (fun given token => Given.take given rules token) given = .ok next) :
    next.Fits rules := by
  induction tokens generalizing given with
  | nil =>
      cases hfold
      exact h
  | cons token rest ih =>
      rw [List.foldlM_cons] at hfold
      obtain ⟨middle, htake, hfold⟩ := bind_eq_ok_iff.mp hfold
      exact ih (fun other hmem => htokens other (List.mem_cons_of_mem _ hmem))
        (h.take (htokens token List.mem_cons_self) htake) hfold

end Given.Fits

/-- **Of the alternatives of a command line that is accepted, there is one and only one.** -/
theorem Syntax.existsUnique_alternative {rules : Syntax} (htexts : rules.TakesTexts)
    (hsome : rules.alternatives ≠ []) {arguments : List String} {given : Given}
    (h : rules.parse arguments = .ok given) :
    ∃! option, option ∈ rules.alternatives ∧ (given.texts.lookup option).isSome := by
  unfold Syntax.parse at h
  dsimp only at h
  obtain ⟨tokens, htokens, h⟩ := bind_eq_ok_iff.mp h
  obtain ⟨read, hread, h⟩ := bind_eq_ok_iff.mp h
  have hfits := Given.Fits.initial.foldlM_take
    (takesText_tokens htexts (mapError_eq_ok_iff.mp htokens)) hread
  split at h
  · cases h
  split at h
  · split at h
    · rename_i halternatives
      cases h
      rw [List.isEmpty_eq_false_iff.mpr hsome, Bool.false_or, List.any_eq_true] at halternatives
      obtain ⟨option, hmem, hhas⟩ := halternatives
      rw [hfits.has_iff] at hhas
      refine ⟨option, ⟨hmem, hhas⟩, ?_⟩
      rintro other ⟨hother, hgiven⟩
      exact hfits.exclusive other hother option hmem hgiven hhas
    · cases h
  · cases h

/-! ## Commands -/

/-- An accepted command line is that of a name among the choices. -/
theorem exists_choice {arguments : List String} {command : Command}
    (h : parse arguments = .ok command) :
    ∃ name rules make rest given, (name, rules, make) ∈ choices ∧
      Syntax.parse rules rest = .ok given ∧ command = make given := by
  have hname : ∀ extras name rest, ofName extras name rest = .ok command →
      ∃ name rules make rest given, (name, rules, make) ∈ choices ∧
        Syntax.parse rules rest = .ok given ∧ command = make given := by
    intro extras name rest hname
    unfold ofName at hname
    split at hname
    · cases hname
    · rename_i rules make hlookup
      obtain ⟨before, after, hsplit, -⟩ := List.lookup_eq_some_iff.mp hlookup
      obtain ⟨given, hgiven, hmake⟩ := bind_eq_ok_iff.mp hname
      split at hmake
      · cases hmake
        exact ⟨name, rules, make, rest, given, by rw [hsplit]; simp, hgiven, rfl⟩
      · cases hmake
  have hfrom : ∀ arguments extras, parseFrom extras arguments = .ok command →
      ∃ name rules make rest given, (name, rules, make) ∈ choices ∧
        Syntax.parse rules rest = .ok given ∧ command = make given := by
    intro arguments
    induction arguments with
    | nil => nofun
    | cons argument rest ih =>
        intro extras h
        rw [parseFrom] at h
        split at h
        · split at h
          · cases h
          · cases h
        · split at h
          · exact hname _ _ _ h
          · exact ih _ h
          · cases h
          · cases h
          · cases h
          · cases h
  exact hfrom arguments [] h

/-- **A preview names a separator set or a file of rules, and not both.** -/
theorem preview_alternatives {arguments : List String} {set rules : Option String}
    {items : List String} (h : parse arguments = .ok (.preview set rules items)) :
    (∃ name, set = some name ∧ rules = none) ∨ (∃ file, set = none ∧ rules = some file) := by
  obtain ⟨name, options, make, rest, given, hmem, hgiven, heq⟩ := exists_choice h
  simp only [choices, List.mem_cons, Prod.mk.injEq, List.not_mem_nil, or_false] at hmem
  obtain ⟨-, -, rfl⟩ | ⟨-, rfl, rfl⟩ | ⟨-, -, rfl⟩ | ⟨-, -, rfl⟩ := hmem
  · cases heq
  · cases heq
    have htexts : previewSyntax.TakesTexts := by
      unfold Syntax.TakesTexts
      decide
    obtain ⟨option, ⟨hoption, hsome⟩, honly⟩ :=
      Syntax.existsUnique_alternative htexts (by decide) hgiven
    have hoption : option = "--set" ∨ option = "--rules" := by
      simpa [previewSyntax] using hoption
    obtain rfl | rfl := hoption
    · obtain ⟨name, hname⟩ := Option.isSome_iff_exists.mp hsome
      refine .inl ⟨name, hname, Option.eq_none_iff_forall_ne_some.mpr fun file hfile => ?_⟩
      have heq := honly "--rules" ⟨by decide, Option.isSome_iff_exists.mpr ⟨file, hfile⟩⟩
      exact absurd heq (by decide)
    · obtain ⟨file, hfile⟩ := Option.isSome_iff_exists.mp hsome
      refine .inr ⟨file, Option.eq_none_iff_forall_ne_some.mpr fun name hname => ?_, hfile⟩
      have heq := honly "--set" ⟨by decide, Option.isSome_iff_exists.mpr ⟨name, hname⟩⟩
      exact absurd heq (by decide)
  · cases heq
  · cases heq

end PromptTree.Command
