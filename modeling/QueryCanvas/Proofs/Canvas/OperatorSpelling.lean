import QueryCanvas.Proofs.Canvas.Change
import QueryCanvas.Proofs.Text.LowerCase

/-!
# How operators are spelled

An operator is spelled by its wire name, or by the wire name with any of its underscores dropped and the letter
behind it raised; the first letter may be small or capital. Since small forms are taken over all scripts, the
Kelvin sign stands for a `k` as well. That is the whole grammar: a further capital, an underscore in front of a
capital or any other letter of another script spells no operator.

* `Spelling`: the spellings of a wire name.
* `map_markCapitals_iff`, `normalize_eq_name_iff`: they are what the reader takes for the name when it marks the
  capitals and takes small forms.
* `operators_spelled`: what a text is read as, on its own and as the operator of a filter.
-/

namespace QueryCanvas

/-! ## The grammar -/

/-- How what follows the first letter of a wire name may be spelled. -/
inductive Respelled : List Char → List Char → Prop
  | done : Respelled [] []
  | kept (c : Char) {w s : List Char} (h : Respelled w s) : Respelled (c :: w) (c :: s)
  | raised {c : Char} {w s : List Char} (hc : c.isLower = true) (h : Respelled w s) :
      Respelled ('_' :: c :: w) (c.toUpper :: s)
  | kelvin {w s : List Char} (h : Respelled w s) : Respelled ('k' :: w) ('\u212a' :: s)

/-- **The spellings of a wire name.** -/
inductive Spelling : List Char → List Char → Prop
  | first {c d : Char} {w s : List Char} (hd : d = c ∨ d = c.toUpper ∨ c = 'k' ∧ d = '\u212a')
      (h : Respelled w s) : Spelling (c :: w) (d :: s)

/-- An operator is spelled by a text. -/
def FilterOperator.SpelledBy (o : FilterOperator) (s : String) : Prop :=
  Spelling o.name.toList s.toList

namespace FilterOperator

open Text

variable {c d : Char} {w cs : List Char} {o o' : FilterOperator} {s : String}

/-! ## Name characters -/

/-- The characters of wire names. -/
def IsNameChar (c : Char) : Prop :=
  c.isLower = true ∨ c = '_'

theorem IsNameChar.plain (h : IsNameChar c) : c.toNat < 128 := by
  rcases h with h | rfl
  · have := isLower_iff.1 h
    omega
  · decide

theorem IsNameChar.not_isUpper (h : IsNameChar c) : ¬c.isUpper = true := by
  rcases h with h | rfl
  · exact Char.not_isUpper_of_isLower h
  · decide

/-- Besides its capital a name character is the small form of itself, and `k` of the Kelvin sign. -/
theorem lowerChar_eq_name_iff (hd : IsNameChar d) (hc : ¬c.isUpper = true) :
    lowerChar c = d ↔ c = d ∨ d = 'k' ∧ c = '\u212a' := by
  rw [lowerChar_eq_iff hd.plain, Char.toLower_eq_of_not_isUpper hc, and_comm (a := c = '\u212a')]
  constructor
  · rintro (⟨-, rfl⟩ | h)
    · exact .inl rfl
    · exact .inr h
  · rintro (rfl | h)
    · exact .inl ⟨hd.plain, rfl⟩
    · exact .inr h

/-! ## What is read -/

theorem map_markCapitals_capital (hc : c.isUpper = true) (cs : List Char) :
    (markCapitals (c :: cs)).map lowerChar = '_' :: c.toLower :: (markCapitals cs).map lowerChar := by
  rw [markCapitals, List.flatMap_cons, if_pos hc, List.map_append, List.map_cons, List.map_singleton,
    lowerChar_isUpper hc]
  rfl

theorem map_markCapitals_other (hc : ¬c.isUpper = true) (cs : List Char) :
    (markCapitals (c :: cs)).map lowerChar = lowerChar c :: (markCapitals cs).map lowerChar := by
  rw [markCapitals, List.flatMap_cons, if_neg hc, List.map_append, List.map_singleton]
  rfl

/-- A capital respells an underscore and the small letter behind it. -/
theorem respelled_capital_iff (hw : ∀ d ∈ w, IsNameChar d) (hc : c.isUpper = true) :
    Respelled w (c :: cs) ↔ ∃ w', w = '_' :: c.toLower :: w' ∧ Respelled w' cs := by
  constructor
  · intro h
    cases h with
    | kept _ h => exact absurd hc (hw c List.mem_cons_self).not_isUpper
    | @raised d w' _ hd h =>
      refine ⟨w', ?_, h⟩
      rw [← lowerChar_isUpper hc, lowerChar_toUpper hd]
    | kelvin h => exact absurd hc (by decide)
  · rintro ⟨w', rfl, h⟩
    have hlower : c.toLower.isLower = true := by
      rw [Char.isLower_toLower_eq_isAlpha, Char.isAlpha, hc, Bool.true_or]
    have hraised := Respelled.raised hlower h
    rwa [Char.toUpper_toLower_eq_toUpper, Char.toUpper_eq_of_not_isLower (Char.not_isLower_of_isUpper hc)]
      at hraised

/-- Any other character respells its small form. -/
theorem respelled_other_iff (hw : ∀ d ∈ w, IsNameChar d) (hc : ¬c.isUpper = true) :
    Respelled w (c :: cs) ↔ ∃ w', w = lowerChar c :: w' ∧ Respelled w' cs := by
  constructor
  · intro h
    cases h with
    | kept _ h =>
      have hkept := (lowerChar_eq_name_iff (hw c List.mem_cons_self) hc).2 (.inl rfl)
      exact ⟨_, by rw [hkept], h⟩
    | raised hd h => exact absurd (isUpper_toUpper hd) hc
    | kelvin h => exact ⟨_, rfl, h⟩
  · rintro ⟨w', rfl, h⟩
    rcases (lowerChar_eq_name_iff (hw _ List.mem_cons_self) hc).1 rfl with heq | ⟨hk, rfl⟩
    · rw [← heq]
      exact .kept c h
    · rw [hk]
      exact .kelvin h

/-- **What the reader takes for the rest of a name**: the texts that respell it. -/
theorem map_markCapitals_iff (hw : ∀ d ∈ w, IsNameChar d) :
    (markCapitals cs).map lowerChar = w ↔ Respelled w cs := by
  induction cs generalizing w with
  | nil =>
    constructor
    · rintro rfl
      exact .done
    · rintro ⟨⟩
      rfl
  | cons c cs ih =>
    by_cases hc : c.isUpper = true
    · rw [map_markCapitals_capital hc, respelled_capital_iff hw hc]
      constructor
      · rintro rfl
        exact ⟨_, rfl, (ih fun d hd => hw d (.tail _ (.tail _ hd))).1 rfl⟩
      · rintro ⟨w', rfl, h⟩
        rw [(ih fun d hd => hw d (.tail _ (.tail _ hd))).2 h]
    · rw [map_markCapitals_other hc, respelled_other_iff hw hc]
      constructor
      · rintro rfl
        exact ⟨_, rfl, (ih fun d hd => hw d (.tail _ hd)).1 rfl⟩
      · rintro ⟨w', rfl, h⟩
        rw [(ih fun d hd => hw d (.tail _ hd)).2 h]

/-- A small letter is the small form of itself and of its capital, and `k` of the Kelvin sign. -/
theorem lowerChar_eq_letter_iff (hd : d.isLower = true) :
    lowerChar c = d ↔ c = d ∨ c = d.toUpper ∨ d = 'k' ∧ c = '\u212a' := by
  by_cases hc : c.isUpper = true
  · constructor
    · intro h
      rw [lowerChar_isUpper hc] at h
      rw [← h, Char.toUpper_toLower_eq_toUpper, Char.toUpper_eq_of_not_isLower (Char.not_isLower_of_isUpper hc)]
      exact .inr (.inl rfl)
    · rintro (rfl | rfl | ⟨-, rfl⟩)
      · exact absurd hd (Char.not_isLower_of_isUpper hc)
      · exact lowerChar_toUpper hd
      · exact absurd hc (by decide)
  · rw [lowerChar_eq_name_iff (.inl hd) hc]
    have hcapital : c ≠ d.toUpper := by
      rintro rfl
      exact hc (isUpper_toUpper hd)
    simp [hcapital]

/-- A wire name is a small letter and name characters behind it. -/
theorem name_eq_cons (o : FilterOperator) :
    ∃ c w, o.name.toList = c :: w ∧ c.isLower = true ∧ ∀ d ∈ w, IsNameChar d := by
  have hhead : o.name.toList.head?.any Char.isLower = true := by cases o <;> decide
  have hchars : (o.name.toList.all fun d => d.isLower || d == '_') = true := by cases o <;> decide
  simp only [List.all_eq_true, Bool.or_eq_true, beq_iff_eq] at hchars
  cases hname : o.name.toList with
  | nil => simp [hname] at hhead
  | cons c w =>
    rw [hname] at hhead hchars
    exact ⟨c, w, rfl, hhead, fun d hd => hchars d (.tail _ hd)⟩

/-- **What is read as a name** are its spellings. -/
theorem normalize_eq_name_iff : normalize s = o.name ↔ o.SpelledBy s := by
  obtain ⟨d, w, hname, hd, hw⟩ := name_eq_cons o
  have hplain : ∀ e ∈ d :: w, e.toNat < 128 :=
    List.forall_mem_cons.2 ⟨IsNameChar.plain (.inl hd), fun e he => (hw e he).plain⟩
  rw [SpelledBy, ← String.toList_inj, hname, normalize]
  split
  · next hs =>
    rw [hs]
    refine iff_of_false (by simp) ?_
    rintro ⟨⟩
  · next c cs hs =>
    rw [hs, Text.lower, String.toList_ofList, String.toList_ofList, Text.lowerFrom_eq_iff hplain, List.map_cons,
      List.cons.injEq, map_markCapitals_iff hw, lowerChar_eq_letter_iff hd]
    constructor
    · rintro ⟨hc, h⟩
      exact .first hc h
    · rintro ⟨hc, h⟩
      exact ⟨hc, h⟩

instance : Decidable (o.SpelledBy s) :=
  decidable_of_iff _ normalize_eq_name_iff

theorem name_injective : Function.Injective name := by
  intro o o'
  cases o <;> cases o' <;> decide

/-- A wire name spells its operator. -/
theorem spelledBy_name (o : FilterOperator) : o.SpelledBy o.name := by
  cases o <;> decide +kernel

/-- **One operator at most** is spelled by a text. -/
theorem SpelledBy.unique (h : o.SpelledBy s) (h' : o'.SpelledBy s) : o = o' :=
  name_injective ((normalize_eq_name_iff.2 h).symm.trans (normalize_eq_name_iff.2 h'))

theorem mem_all (o : FilterOperator) : o ∈ all := by
  cases o <;> decide

theorem find?_name_eq_some_iff : (all.find? fun o => o.name == s) = some o ↔ o.name = s := by
  constructor
  · exact fun h => beq_iff_eq.1 (List.find?_some (p := fun o : FilterOperator => o.name == s) h)
  · rintro rfl
    exact chosen?_name name_injective (mem_all o)

/-- **The operator of a text** is the one that it spells. -/
theorem ofText?_eq_some_iff : ofText? s = some o ↔ o.SpelledBy s := by
  rw [ofText?]
  split
  · next o' h =>
    obtain rfl := find?_name_eq_some_iff.1 h
    rw [Option.some.injEq]
    exact ⟨fun h => h ▸ spelledBy_name o', (spelledBy_name o').unique⟩
  · rw [find?_name_eq_some_iff, eq_comm, normalize_eq_name_iff]

theorem ofText?_eq_none_iff : ofText? s = none ↔ ∀ o : FilterOperator, ¬o.SpelledBy s := by
  simp only [Option.eq_none_iff_forall_ne_some, ne_eq, ofText?_eq_some_iff]

end FilterOperator

/-! ## The operator of a filter -/

namespace Canvas

variable {cat : Catalog} {d d' : Draft} {table column value connective : Value} {s : String} {o : FilterOperator}

theorem chooseOperator_text_iff : chooseOperator (.text s) = .ok o ↔ o.SpelledBy s := by
  rw [← FilterOperator.ofText?_eq_some_iff, chooseOperator, Value.text?, Option.bind_some]
  split <;> simp [*]

theorem chooseOperator_refused (h : ∀ o : FilterOperator, ¬o.SpelledBy s) :
    chooseOperator (.text s) =
      .error (.notAChoice "filter operator" (.text s) (FilterOperator.all.map FilterOperator.name)) := by
  rw [chooseOperator, Value.text?, Option.bind_some, FilterOperator.ofText?_eq_none_iff.2 h]

/-- Adding a filter depends on the spelling of its operator only by what the spelling is read as. -/
theorem perform_addFilter_congr {op op' : Value} (h : chooseOperator op = chooseOperator op') :
    perform cat (.addFilter table column op value connective) d =
      perform cat (.addFilter table column op' value connective) d := by
  rw [perform, perform, edit, edit, addFilter, addFilter, h]

/-- An operator that cannot be chosen is refused before anything is done. -/
theorem perform_addFilter_refused {op : Value} {e : EditError} (h : chooseOperator op = .error e) :
    perform cat (.addFilter table column op value connective) d = (.error e, d) := by
  rw [perform, edit, addFilter, h, Editing.outcome_error_bind]

/-- A filter that is added has the operator that was chosen. -/
theorem perform_addFilter_eq_ok {op : Value} {r : Reply}
    (h : perform cat (.addFilter table column op value connective) d = (.ok r, d')) :
    ∃ f, r = .filter f ∧ chooseOperator op = .ok f.operator := by
  obtain ⟨hr⟩ | ⟨ha⟩ := perform_eq_ok.1 h
  · cases hr
  · cases ha with
    | filter href hop hk hv hu => exact ⟨_, rfl, hop⟩

/-- **Operators are spelled** by their wire names and the camel-case forms of these, and by nothing else: each text
spells one operator at most, and is read as the operator that it spells. A filter whose operator is spelled so is
added or refused as under the wire name; under any other text it is refused by a message that lists the names, and
changes nothing. -/
theorem operators_spelled (s : String) :
    (∀ o, FilterOperator.ofText? s = some o ↔ o.SpelledBy s) ∧
    (∀ o o' : FilterOperator, o.SpelledBy s → o'.SpelledBy s → o = o') ∧
    ((∀ o : FilterOperator, ¬o.SpelledBy s) → FilterOperator.ofText? s = none) ∧
    ∀ (cat : Catalog) (d : Draft) (table column value connective : Value),
      (∀ o : FilterOperator, o.SpelledBy s →
        perform cat (.addFilter table column (.text s) value connective) d =
          perform cat (.addFilter table column (.text o.name) value connective) d) ∧
      (∀ r d', perform cat (.addFilter table column (.text s) value connective) d = (.ok r, d') →
        ∃ f, r = .filter f ∧ f.operator.SpelledBy s) ∧
      ((∀ o : FilterOperator, ¬o.SpelledBy s) →
        perform cat (.addFilter table column (.text s) value connective) d =
          (.error (.notAChoice "filter operator" (.text s) (FilterOperator.all.map FilterOperator.name)), d)) := by
  refine ⟨fun o => FilterOperator.ofText?_eq_some_iff, fun o o' => FilterOperator.SpelledBy.unique,
    FilterOperator.ofText?_eq_none_iff.2, fun cat d table column value connective => ⟨fun o h => ?_, fun r d' h => ?_,
      fun h => perform_addFilter_refused (chooseOperator_refused h)⟩⟩
  · exact perform_addFilter_congr
      ((chooseOperator_text_iff.2 h).trans (chooseOperator_text_iff.2 o.spelledBy_name).symm)
  · obtain ⟨f, rfl, hf⟩ := perform_addFilter_eq_ok h
    exact ⟨f, rfl, chooseOperator_text_iff.1 hf⟩

/-- A capital takes the place of an underscore and does not follow one. -/
example : FilterOperator.notEquals.SpelledBy "NotEquals" ∧ FilterOperator.like.SpelledBy "li\u212ae" ∧
    ¬FilterOperator.notEquals.SpelledBy "not_Equals" ∧ ¬FilterOperator.like.SpelledBy "LIKE" := by
  decide +kernel

end Canvas

end QueryCanvas
