import Mathlib.Data.List.TakeWhile
import QueryCanvas.Proofs.Part.FilterValue
import QueryCanvas.Proofs.Sql.Reads
import QueryCanvas.Proofs.Sql.Tokens
import QueryCanvas.Proofs.Text.Digit

/-!
# Which numbers are written

A canvas has a statement exactly if its numbers fit. The only numbers that are refused are whole ones:
decimals and doubles of any size are written, and so is every number that was read from text, because it
has no more digits than the text.

* `numericForm_refused_iff`: a text is refused exactly if it spells a whole number that is too long.
* `conditionOf_given_iff`: a filter has a condition exactly if its numbers fit.
* `statement_given_iff`: a canvas has a statement exactly if its numbers fit (`NumbersFit`).
* `numbersFit_iff`: if every operand is plain, that is to say that the canvas is not overlong.
-/

namespace QueryCanvas

namespace Sql

open Numeral

/-- The numbers of a filter fit: its operands can be written, and it does not compare a numeric column by
size with a text that spells a number that is too long. -/
def FitsFilter (cat : Catalog) (f : Filter) : Prop :=
  (∀ v ∈ f.value.operands, isWritable v = true) ∧
    ¬(f.operator.isNumericComparison = true ∧ isNumericIn cat f = true ∧
      ∃ s, f.value = .scalar (.text s) ∧ SpellsTooLong s)

/-- **The numbers of a canvas fit**: those of its filters do, and its limit can be written. -/
def NumbersFit (cat : Catalog) (c : Canvas) : Prop :=
  (∀ f ∈ c.filters, FitsFilter cat f) ∧ ∀ n, c.limit = some n → isWritable (.int n) = true

/-- A number that can be written: a whole one that is not too long, or a finite decimal. -/
def IsShortNumber : Value → Prop
  | .int n => ¬IsTooLong (.int n)
  | .decimal (.finite ..) => True
  | _ => False

variable {d : Dialect} {cat : Catalog} {c : Canvas} {f : Filter} {v w : Value} {s : String}

/-! ## Values -/

theorem writable_given_iff : (∃ w, writable v = .ok w) ↔ isWritable v = true := by
  by_cases h : isWritable v = true <;> simp [writable, h]

theorem isWritable_int_iff {n : Int} : isWritable (.int n) = true ↔ ¬IsTooLong (.int n) := by
  rw [IsTooLong, Nat.not_lt, isWritable, decide_eq_true_eq]

/-- A plain value can be written unless it is too long. -/
theorem isWritable_plain_iff (h : IsPlain v) : isWritable v = true ↔ ¬IsTooLong v := by
  cases v with
  | int n => exact isWritable_int_iff
  | bool | text | date | moment | time | float | decimal => simp [isWritable, IsTooLong]
  | null | torn | list | tuple | record | range | unordered | object => exact absurd h id

theorem IsShortNumber.isPlain (h : IsShortNumber v) : IsPlain v := by
  cases v with
  | int n => trivial
  | decimal x => cases x <;> trivial
  | _ => exact absurd h id

theorem IsShortNumber.isWritable (h : IsShortNumber v) : isWritable v = true := by
  refine (isWritable_plain_iff h.isPlain).2 fun hlong => ?_
  cases v <;> first | exact h hlong | exact hlong

theorem writable_eq_ok (h : writable v = .ok w) : w = v := by
  simp only [writable] at h
  split at h
  · exact (Except.ok.inj h).symm
  · cases h

/-! ## Text that spells a number -/

theorem head_not_sign {ds : List Char} (h : ∀ c ∈ ds, Text.isDigit c = true) :
    ∀ c, ds.head? = some c → c ≠ '-' ∧ c ≠ '+' :=
  fun c hc => not_sign_of_isDigit (h c (List.mem_of_head? hc))

theorem spanDigits_append {ds rest : List Char} (h : ∀ c ∈ ds, Text.isDigit c = true)
    (hrest : ∀ c, rest.head? = some c → Text.isDigit c = false) : spanDigits (ds ++ rest) = (ds, rest) := by
  rw [spanDigits, takeWhile_append_stop h hrest, dropWhile_append_stop h hrest]

theorem spanDigits_all {ds : List Char} (h : ∀ c ∈ ds, Text.isDigit c = true) : spanDigits ds = (ds, []) := by
  have hspan : spanDigits (ds ++ []) = (ds, []) := spanDigits_append h nofun
  rwa [List.append_nil] at hspan

theorem of_spanDigits {cs whole rest : List Char} (h : spanDigits cs = (whole, rest)) :
    cs = whole ++ rest ∧ ∀ c ∈ whole, Text.isDigit c = true := by
  simp only [spanDigits, Prod.mk.injEq] at h
  obtain ⟨rfl, rfl⟩ := h
  exact ⟨List.takeWhile_append_dropWhile.symm, fun _ hc => List.mem_takeWhile_imp hc⟩

/-- Digits, possibly with a sign, are taken as a whole number unless they are too many. -/
theorem numericForm_digits {sign ds : List Char} (hchars : Text.trimChars s.toList = sign ++ ds)
    (hsign : sign ∈ [[], ['-'], ['+']]) (hne : ds ≠ []) (hds : ∀ c ∈ ds, Text.isDigit c = true) :
    numericForm s = if maxDigits < ds.length then .error (.read ds.length)
      else .ok (some (.int (signed (sign == ['-']) (Text.digitsValue ds)))) := by
  simp only [numericForm, hchars, splitSign_append hsign (head_not_sign hds), spanDigits_all hds]
  rw [if_neg (by simpa using hne)]

/-- What a text is taken as: a whole number, which may be too long, a number with a point, or no number. -/
inductive Taken (s : String) : Except NumeralTooLong (Option Value) → Prop
  | tooLong {sign ds : List Char} (hchars : Text.trimChars s.toList = sign ++ ds) (hsign : sign ∈ [[], ['-'], ['+']])
    (hds : ∀ c ∈ ds, Text.isDigit c = true) (hlong : maxDigits < ds.length) : Taken s (.error (.read ds.length))
  | whole {sign ds : List Char} (hchars : Text.trimChars s.toList = sign ++ ds) (hsign : sign ∈ [[], ['-'], ['+']])
    (hne : ds ≠ []) (hds : ∀ c ∈ ds, Text.isDigit c = true) (hshort : ds.length ≤ maxDigits) :
    Taken s (.ok (some (.int (signed (sign == ['-']) (Text.digitsValue ds)))))
  | point {sign whole fraction : List Char} (hchars : Text.trimChars s.toList = sign ++ (whole ++ '.' :: fraction))
    (hsign : sign ∈ [[], ['-'], ['+']]) (hne : whole ≠ [] ∨ fraction ≠ [])
    (hwhole : ∀ c ∈ whole, Text.isDigit c = true) (hfraction : ∀ c ∈ fraction, Text.isDigit c = true) :
    Taken s (.ok (some (.decimal
      (.finite (sign == ['-']) (Text.digitsValue (whole ++ fraction)) (-(fraction.length : Int))))))
  | text : Taken s (.ok none)

/-- What is read from a text is what it is taken as. -/
theorem taken_numericForm (s : String) : Taken s (numericForm s) := by
  obtain ⟨sign, hsign, hchars, hnegative⟩ := splitSign_spec (Text.trimChars s.toList)
  cases hspan : spanDigits (splitSign (Text.trimChars s.toList)).2 with
  | mk whole rest =>
  obtain ⟨hsplit, hwhole⟩ := of_spanDigits hspan
  rw [hsplit] at hchars
  simp only [numericForm, hspan, hnegative]
  split
  · rw [List.append_nil] at hchars
    split
    · exact .text
    · rename_i hne
      split
      · rename_i hlong
        exact .tooLong hchars hsign hwhole hlong
      · rename_i hshort
        exact .whole hchars hsign (by simpa using hne) hwhole (Nat.le_of_not_lt hshort)
  · rename_i rest
    cases hfrac : spanDigits rest with
    | mk fraction rest' =>
    obtain ⟨rfl, hfraction⟩ := of_spanDigits hfrac
    split
    · rename_i hrest
      simp only [Bool.and_eq_true, List.isEmpty_iff] at hrest
      obtain ⟨rfl, hne⟩ := hrest
      rw [List.append_nil] at hchars
      exact .point hchars hsign (by simpa [imp_iff_not_or] using hne) hwhole hfraction
    · exact .text
  · exact .text

/-- **Refused text.** Text compared with a number is refused exactly if it spells a whole number with
too many digits. -/
theorem numericForm_refused_iff : (∃ e, numericForm s = .error e) ↔ SpellsTooLong s := by
  constructor
  · rintro ⟨e, h⟩
    have htaken := taken_numericForm s
    rw [h] at htaken
    cases htaken with
    | @tooLong sign ds hchars hsign hds hlong => exact ⟨sign, ds, hchars, hsign, hds, hlong⟩
  · rintro ⟨sign, ds, hchars, hsign, hall, hlong⟩
    have hne : ds ≠ [] := by
      rintro rfl
      exact absurd hlong (by decide)
    exact ⟨.read ds.length, by rw [numericForm_digits hchars hsign hne hall, if_pos hlong]⟩

/-- A number that a text spells is short. -/
theorem numericForm_isShortNumber (h : numericForm s = .ok (some w)) : IsShortNumber w := by
  have htaken := taken_numericForm s
  rw [h] at htaken
  cases htaken with
  | point => trivial
  | @whole sign ds _ _ _ _ hshort =>
    have hpow := Nat.lt_of_lt_of_le (Text.digitsValue_lt ds) (Nat.pow_le_pow_right (n := 10) (by decide) hshort)
    have habs : (signed (sign == ['-']) (Text.digitsValue ds)).natAbs = Text.digitsValue ds := by
      rw [signed]
      split <;> simp
    rw [IsShortNumber, IsTooLong, habs, Nat.not_lt]
    exact (Nat.length_toDigits_le_iff (by decide) (by decide)).2 hpow

theorem numericIfPossible_given_iff {numeric : Bool} :
    (∃ w, numericIfPossible numeric v = .ok w) ↔
      ¬(numeric = true ∧ ∃ s, v = .text s ∧ SpellsTooLong s) := by
  cases v with
  | text s =>
    cases numeric with
    | false => simp [numericIfPossible]
    | true =>
      simp only [numericIfPossible, if_true, Value.text.injEq, true_and, exists_eq_left']
      rw [← numericForm_refused_iff, exists_error_iff, not_not]
      cases numericForm s <;> simp
  | _ => simp [numericIfPossible]

/-- What a value is compared as is the value itself, or a short number if the value is a text. -/
theorem numericIfPossible_cases {numeric : Bool} (h : numericIfPossible numeric v = .ok w) :
    w = v ∨ (∃ s, v = .text s) ∧ IsShortNumber w := by
  cases v with
  | text s =>
    simp only [numericIfPossible] at h
    split at h
    · obtain ⟨n, hn, h⟩ := bind_eq_ok.1 h
      cases n with
      | none => exact .inl (Except.ok.inj h).symm
      | some x =>
        cases h
        exact .inr ⟨⟨s, rfl⟩, numericForm_isShortNumber hn⟩
    · exact .inl (Except.ok.inj h).symm
  | _ => exact .inl (Except.ok.inj h).symm

/-- What a plain value is compared as is plain. -/
theorem numericIfPossible_plain {numeric : Bool} (h : numericIfPossible numeric v = .ok w) (hv : IsPlain v) :
    IsPlain w := by
  rcases numericIfPossible_cases h with rfl | ⟨-, hw⟩
  · exact hv
  · exact hw.isPlain

theorem isWritable_numericIfPossible {numeric : Bool} (h : numericIfPossible numeric v = .ok w) :
    isWritable w = isWritable v := by
  rcases numericIfPossible_cases h with rfl | ⟨⟨s, rfl⟩, hw⟩
  · rfl
  · exact hw.isWritable

/-- What a filter compares with by size is written if it can be, unless it spells what is too long. -/
theorem comparand_given_iff {numeric : Bool} :
    (∃ w, numericIfPossible numeric v = .ok w ∧ ∃ u, writable w = .ok u) ↔
      isWritable v = true ∧ ¬(numeric = true ∧ ∃ s, v = .text s ∧ SpellsTooLong s) := by
  rw [← numericIfPossible_given_iff]
  constructor
  · rintro ⟨w, hw, hu⟩
    rw [writable_given_iff, isWritable_numericIfPossible hw] at hu
    exact ⟨hu, w, hw⟩
  · rintro ⟨hv, w, hw⟩
    rw [← isWritable_numericIfPossible hw] at hv
    exact ⟨w, hw, writable_given_iff.2 hv⟩

/-! ## Filters and statements -/

/-- **A filter has a condition** exactly if its numbers fit. -/
theorem conditionOf_given_iff (hshape : f.value.shape = f.operator.shape) :
    (∃ k, conditionOf cat f = .ok k) ↔ FitsFilter cat f := by
  rw [FitsFilter]
  cases hval : f.value with
  | none =>
    rw [hval] at hshape
    rcases FilterOperator.shape_eq_none.1 hshape.symm with hop | hop <;>
      simp [conditionOf, hop, FilterValue.operands, FilterOperator.isNumericComparison]
  | list vs =>
    rw [hval] at hshape
    have hop := FilterOperator.shape_eq_list.1 hshape.symm
    simp only [conditionOf, hop, hval, exists_bind_eq_ok, liftM_eq_ok, pure_eq_ok, Except.ok.injEq, exists_eq', and_true,
      exists_mapM_eq_ok, writable_given_iff]
    simp [FilterValue.operands, FilterOperator.isNumericComparison]
  | range lo hi =>
    rw [hval] at hshape
    have hop := FilterOperator.shape_eq_range.1 hshape.symm
    simp only [conditionOf, hop, hval, exists_bind_eq_ok, liftM_eq_ok, pure_eq_ok, Except.ok.injEq, exists_eq', and_true]
    rw [exists_and_right, writable_given_iff, writable_given_iff]
    simp [FilterValue.operands, FilterOperator.isNumericComparison]
  | scalar v =>
    rw [hval] at hshape
    rcases FilterOperator.shape_eq_scalar.1 hshape.symm with hop | hop | hop | hop | hop <;>
      simp only [conditionOf, hop, hval, exists_bind_eq_ok, liftM_eq_ok, pure_eq_ok, Except.ok.injEq, exists_eq', and_true]
    case inr.inr.inl | inr.inr.inr.inl =>
      rw [comparand_given_iff]
      simp [FilterValue.operands, FilterOperator.isNumericComparison]
    all_goals
      rw [writable_given_iff]
      simp [FilterValue.operands, FilterOperator.isNumericComparison]

/-- The condition that a filter asks for, operator by operator. What compares by size may compare with a number
where the filter has a text. -/
inductive Asks (cat : Catalog) (f : Filter) : Condition → Prop
  | isNull (hop : f.operator = .isNull) : Asks cat f (.isNull ⟨f.table, f.column⟩)
  | isNotNull (hop : f.operator = .isNotNull) : Asks cat f (.isNotNull ⟨f.table, f.column⟩)
  | oneOf {vs : List Value} (hop : f.operator = .isIn) (hval : f.value = .list vs) :
    Asks cat f (.oneOf ⟨f.table, f.column⟩ vs)
  | between {lo hi : Value} (hop : f.operator = .between) (hval : f.value = .range lo hi) :
    Asks cat f (.between ⟨f.table, f.column⟩ lo hi)
  | like {v : Value} (hop : f.operator = .like) (hval : f.value = .scalar v) :
    Asks cat f (.like ⟨f.table, f.column⟩ v.toText)
  | equal {v : Value} (hop : f.operator = .equals) (hval : f.value = .scalar v) :
    Asks cat f (.compare ⟨f.table, f.column⟩ .equal v)
  | notEqual {v : Value} (hop : f.operator = .notEquals) (hval : f.value = .scalar v) :
    Asks cat f (.compare ⟨f.table, f.column⟩ .notEqual v)
  | greater {v w : Value} (hop : f.operator = .greaterThan) (hval : f.value = .scalar v)
    (hw : numericIfPossible (isNumericIn cat f) v = .ok w) : Asks cat f (.compare ⟨f.table, f.column⟩ .greater w)
  | less {v w : Value} (hop : f.operator = .lessThan) (hval : f.value = .scalar v)
    (hw : numericIfPossible (isNumericIn cat f) v = .ok w) : Asks cat f (.compare ⟨f.table, f.column⟩ .less w)

/-- The condition of a filter is the one that it asks for. -/
theorem asks_of_conditionOf {k : Condition} (hk : conditionOf cat f = .ok k)
    (hshape : f.value.shape = f.operator.shape) : Asks cat f k := by
  cases hval : f.value with
  | none =>
    rw [hval] at hshape
    rcases FilterOperator.shape_eq_none.1 hshape.symm with hop | hop <;>
      simp only [conditionOf, hop, Except.ok.injEq] at hk <;>
      subst hk
    · exact .isNull hop
    · exact .isNotNull hop
  | list vs =>
    rw [hval] at hshape
    have hop := FilterOperator.shape_eq_list.1 hshape.symm
    simp only [conditionOf, hop, hval, bind_eq_ok, liftM_eq_ok, pure_eq_ok, Except.ok.injEq] at hk
    obtain ⟨ws, hws, rfl⟩ := hk
    obtain rfl := mapM_self writable_eq_ok hws
    exact .oneOf hop hval
  | range lo hi =>
    rw [hval] at hshape
    have hop := FilterOperator.shape_eq_range.1 hshape.symm
    simp only [conditionOf, hop, hval, bind_eq_ok, liftM_eq_ok, pure_eq_ok, Except.ok.injEq] at hk
    obtain ⟨lo', hlo', hi', hhi', rfl⟩ := hk
    obtain rfl := writable_eq_ok hlo'
    obtain rfl := writable_eq_ok hhi'
    exact .between hop hval
  | scalar v =>
    rw [hval] at hshape
    rcases FilterOperator.shape_eq_scalar.1 hshape.symm with hop | hop | hop | hop | hop <;>
      simp only [conditionOf, hop, hval, bind_eq_ok, liftM_eq_ok, pure_eq_ok, Except.ok.injEq] at hk
    case inr.inr.inl =>
      obtain ⟨u, hu, w, hw, rfl⟩ := hk
      obtain rfl := writable_eq_ok hw
      exact .greater hop hval hu
    case inr.inr.inr.inl =>
      obtain ⟨u, hu, w, hw, rfl⟩ := hk
      obtain rfl := writable_eq_ok hw
      exact .less hop hval hu
    all_goals
      obtain ⟨w, hw, rfl⟩ := hk
      obtain rfl := writable_eq_ok hw
    · exact .equal hop hval
    · exact .notEqual hop hval
    · exact .like hop hval

theorem writableLimit_eq_ok {limit limit' : Option Int} (h : writableLimit limit = .ok limit') :
    limit' = limit := by
  cases limit with
  | none => exact (Except.ok.inj h).symm
  | some n =>
    obtain ⟨-, -, h⟩ := bind_eq_ok.1 h
    exact (Except.ok.inj h).symm

theorem writableLimit_given_iff {limit : Option Int} :
    (∃ l, writableLimit limit = .ok l) ↔ ∀ n, limit = some n → isWritable (.int n) = true := by
  cases limit with
  | none => simp [writableLimit]
  | some n =>
    simp only [writableLimit, exists_bind_eq_ok, pure_eq_ok, Except.ok.injEq, exists_eq', and_true,
      Option.some.injEq, forall_eq']
    exact writable_given_iff

/-- **A canvas with a table has a statement** exactly if its numbers fit. -/
theorem statement_given_iff (htables : c.tables ≠ [])
    (hshaped : ∀ f ∈ c.filters, f.value.shape = f.operator.shape) :
    (∃ s, statement? cat c = .ok s) ↔ NumbersFit cat c := by
  cases ht : c.tables with
  | nil => exact absurd ht htables
  | cons t ts =>
    simp only [statement?, ht, exists_bind_eq_ok, liftM_eq_ok, pure_eq_ok, Except.ok.injEq, exists_eq', and_true]
    rw [exists_and_right, exists_mapM_eq_ok, writableLimit_given_iff, NumbersFit]
    simp only [exists_bind_eq_ok, Except.ok.injEq, exists_eq', and_true]
    rw [forall₂_congr fun f hf => conditionOf_given_iff (hshaped f hf)]

/-- With plain operands the numbers fit exactly if none is too long. -/
theorem numbersFit_iff (hplain : HasPlainOperands c) : NumbersFit cat c ↔ ¬IsOverlong cat c := by
  have hfilter : ∀ f ∈ c.filters, FitsFilter cat f ↔ ¬IsOverlongFilter cat f := fun f hf => by
    rw [FitsFilter, IsOverlongFilter, not_or, not_exists]
    refine and_congr_left fun _ => forall_congr' fun v => ?_
    rw [not_and]
    exact forall_congr' fun hv => isWritable_plain_iff (hplain f hf v hv)
  rw [NumbersFit, IsOverlong, not_or, forall₂_congr hfilter]
  simp only [not_exists, not_and]
  exact and_congr_right fun _ => forall₂_congr fun n _ => isWritable_plain_iff trivial

end Sql

end QueryCanvas
