import QueryCanvas.Proofs.Numeral.Spelling
import QueryCanvas.Proofs.Sql.Writable
import QueryCanvas.Setting

/-!
# What numeric settings are read as

A setting that is not given, or as blanks only, is its default. Any other text is used if the number that it spells is
not found to be at most zero, and else there is a warning with the default. A double that is no number is not at most
zero, so it is used: settings of doubles are not always positive. A warning shows the default, and one of too many
digits cannot be shown.

* `NumberKind.Spells`: the number that a text spells.
* `Read`: the ways in which a setting is read, and `read_spec`: it is read in one of them.
* `Usable`: the value and the warning that a setting has in every case.
* `settings_read`: every setting with a positive default is usable, unless a warning would show a default that cannot
  be written.
* `NumericSetting.read_usable`: the settings of the console are usable, and the whole ones are positive.
-/

namespace QueryCanvas

open Numeral

/-- **A number greater than zero.** -/
inductive Value.IsPositive : Value → Prop
  | truth : IsPositive (.bool true)
  | int {n : Int} (h : 0 < n) : IsPositive (.int n)
  | double {m : Nat} {e : Int} (h : 0 < m) : IsPositive (.float (.finite false m e))
  | infiniteDouble : IsPositive (.float (.infinite false))
  | decimal {c : Nat} {e : Int} (h : 0 < c) : IsPositive (.decimal (.finite false c e))
  | infiniteDecimal : IsPositive (.decimal (.infinite false))

namespace Setting

/-- **The number that a text spells**, of a kind. -/
inductive NumberKind.Spells : NumberKind → String → Value → Prop
  | whole {s : String} {n : Int} (h : SpellsWhole s n) : Spells .whole s (.int n)
  | real {s : String} {x : Binary64} (h : SpellsDouble s x) : Spells .real s (.float x)

/-- **The text of a setting**: one with more than blanks. -/
def IsGiven (raw : Option String) (s : String) : Prop :=
  raw = some s ∧ ¬Text.Blanks s.toList

/-- **A usable setting**: its value and its warning, by its text. -/
structure Usable (kind : NumberKind) (default : Value) (raw : Option String) (r : Reading) : Prop where
  /-- The value is positive unless the text spells what is no number. -/
  positive_iff : r.value.IsPositive ↔ ¬∃ s, raw = some s ∧ kind.Spells s (.float .nan)
  /-- It is the default or the number that the text spells. -/
  source : r.value = default ∨ ∃ s, raw = some s ∧ kind.Spells s r.value
  /-- A positive number that the text spells is used. -/
  used : ∀ s v, raw = some s → kind.Spells s v → v.IsPositive → r.value = v
  /-- There is a warning exactly if there is a text that was not used. -/
  warned_iff : r.warning.isSome = true ↔ ∃ s, IsGiven raw s ∧ ¬kind.Spells s r.value

/-- A value that is used: a positive one, or the double that is no number. -/
def IsUsed (v : Value) : Prop :=
  v.IsPositive ∨ v = .float .nan

/-- **A warning that cannot be written**: there is a text that is not used, and the default has too many digits. -/
def Unwarned (kind : NumberKind) (default : Value) (raw : Option String) : Prop :=
  Sql.IsTooLong default ∧ ∃ s, IsGiven raw s ∧ ∀ v, kind.Spells s v → ¬IsUsed v

/-- **How a setting is read**, by its text. -/
inductive Read (name : String) (kind : NumberKind) (default : Value) :
    Option String → Except Sql.NumeralTooLong Reading → Prop
  | absent : Read name kind default none (.ok ⟨default, none⟩)
  | blank {s : String} (hs : Text.Blanks s.toList) : Read name kind default (some s) (.ok ⟨default, none⟩)
  | used {s : String} {v : Value} (hs : kind.Spells s v) (hv : IsUsed v) :
      Read name kind default (some s) (.ok ⟨v, none⟩)
  | invalid {s : String} (hs : ¬Text.Blanks s.toList) (hv : ∀ v, ¬kind.Spells s v) :
      Read name kind default (some s) (notUsed "Invalid" s name default)
  | nonPositive {s : String} {v : Value} (hs : kind.Spells s v) (hv : ¬IsUsed v) :
      Read name kind default (some s) (notUsed "Non-positive" s name default)

variable {name reason s : String} {kind : NumberKind} {default v w : Value} {raw : Option String} {r : Reading}
  {x : Binary64} {result : Except Sql.NumeralTooLong Reading}

/-! ## Spelled numbers -/

/-- **What is read from a text** is the number that it spells. -/
theorem read?_eq_some_iff : kind.read? s = some v ↔ kind.Spells s v := by
  cases kind with
  | whole =>
    rw [NumberKind.read?, Option.map_eq_some_iff]
    constructor
    · rintro ⟨n, hn, rfl⟩
      exact .whole (readInt?_eq_some.1 hn)
    · intro h
      cases h with
      | whole h => exact ⟨_, readInt?_eq_some.2 h, rfl⟩
  | real =>
    rw [NumberKind.read?, Option.map_eq_some_iff]
    constructor
    · rintro ⟨x, hx, rfl⟩
      exact .real (read?_eq_some.1 hx)
    · intro h
      cases h with
      | real h => exact ⟨_, read?_eq_some.2 h, rfl⟩

/-- A text spells one number. -/
theorem NumberKind.Spells.unique (h : kind.Spells s v) (h' : kind.Spells s w) : v = w :=
  Option.some.inj ((read?_eq_some_iff.2 h).symm.trans (read?_eq_some_iff.2 h'))

/-- A text that spells a number has more than blanks. -/
theorem NumberKind.Spells.not_blanks (h : kind.Spells s v) : ¬Text.Blanks s.toList := by
  cases h with
  | whole h => exact h.not_blanks
  | real h => exact h.not_blanks

/-! ## Positive numbers -/

theorem not_isPositive_nan : ¬(Value.float .nan).IsPositive := nofun

/-- A double is used unless it is found to be at most zero. -/
theorem isUsed_float_iff : IsUsed (.float x) ↔ x.nonPositive = false := by
  constructor
  · rintro (h | h)
    · cases h with
      | double hm => simpa [Binary64.nonPositive] using hm.ne'
      | infiniteDouble => rfl
    · cases h
      rfl
  · intro h
    cases x with
    | finite negative m e =>
      simp only [Binary64.nonPositive, Bool.or_eq_false_iff, beq_eq_false_iff_ne] at h
      obtain ⟨rfl, hm⟩ := h
      exact .inl (.double (Nat.pos_of_ne_zero hm))
    | infinite negative =>
      obtain rfl : negative = false := h
      exact .inl .infiniteDouble
    | nan => exact .inr rfl

theorem isPositive_float (h : x.nonPositive = false) (hx : x ≠ .nan) : (Value.float x).IsPositive :=
  (isUsed_float_iff.2 h).resolve_right fun heq => hx (Value.float.inj heq)

/-- **A number is used** unless it is found to be at most zero. -/
theorem isUsed_iff (h : kind.Spells s v) : IsUsed v ↔ isNonPositive v = false := by
  cases h with
  | whole h =>
    simp only [isNonPositive, decide_eq_false_iff_not, not_le]
    constructor
    · rintro (h | h)
      · cases h with
        | int hn => exact hn
      · cases h
    · exact fun hn => .inl (.int hn)
  | real h => exact isUsed_float_iff

/-! ## Readings -/

/-- **A setting is read** in one of these ways. -/
theorem read_spec (name : String) (kind : NumberKind) (default : Value) (raw : Option String) :
    Read name kind default raw (read name kind default raw) := by
  cases raw with
  | none => exact .absent
  | some s =>
    rw [read]
    split
    · rename_i hblank
      exact .blank (List.all_eq_true.1 hblank)
    · rename_i hblank
      have hblanks : ¬Text.Blanks s.toList := fun h => hblank (List.all_eq_true.2 h)
      split
      · rename_i hnone
        exact .invalid hblanks fun v hv => Option.some_ne_none v ((read?_eq_some_iff.2 hv).symm.trans hnone)
      · rename_i v hv
        have hs := read?_eq_some_iff.1 hv
        split
        · rename_i hpos
          exact .nonPositive hs fun hused => absurd ((isUsed_iff hs).1 hused) (by simp [hpos])
        · rename_i hpos
          exact .used hs ((isUsed_iff hs).2 (by simpa using hpos))

/-- A positive number can be written unless it is too long. -/
theorem isWritable_positive_iff (h : v.IsPositive) : Sql.isWritable v = true ↔ ¬Sql.IsTooLong v := by
  cases h with
  | int => exact Sql.isWritable_int_iff
  | truth | double | infiniteDouble | decimal | infiniteDecimal => simp [Sql.isWritable, Sql.IsTooLong]

/-- **What is not used** leaves the default and a warning, if the default can be written. -/
theorem notUsed_eq_ok (h : default.IsPositive) (hshort : ¬Sql.IsTooLong default) (reason s name : String) :
    ∃ w, notUsed reason s name default = .ok ⟨default, some w⟩ := by
  rw [notUsed, Sql.writable, if_pos ((isWritable_positive_iff h).2 hshort)]
  exact ⟨_, rfl⟩

theorem notUsed_eq_error (h : default.IsPositive) (hlong : Sql.IsTooLong default) (reason s name : String) :
    notUsed reason s name default = .error .written := by
  rw [notUsed, Sql.writable, if_neg fun hw => (isWritable_positive_iff h).1 hw hlong]
  rfl

/-- A default without a text is usable. -/
theorem usable_default (h : default.IsPositive) (hraw : ∀ s, raw = some s → Text.Blanks s.toList) :
    Usable kind default raw ⟨default, none⟩ where
  positive_iff := by
    refine iff_of_true h ?_
    rintro ⟨s, hs, hnan⟩
    exact hnan.not_blanks (hraw s hs)
  source := .inl rfl
  used s _ hs hspells _ := absurd (hraw s hs) hspells.not_blanks
  warned_iff := by
    refine iff_of_false Bool.false_ne_true ?_
    rintro ⟨s, ⟨hs, hblanks⟩, -⟩
    exact hblanks (hraw s hs)

/-- A number that is used is usable. -/
theorem usable_used (hs : kind.Spells s v) (hv : IsUsed v) : Usable kind default (some s) ⟨v, none⟩ where
  positive_iff := by
    constructor
    · rintro hpos ⟨_, ⟨⟩, hnan⟩
      rw [hs.unique hnan] at hpos
      exact not_isPositive_nan hpos
    · intro hnan
      refine hv.resolve_right ?_
      rintro rfl
      exact hnan ⟨s, rfl, hs⟩
  source := .inr ⟨s, rfl, hs⟩
  used := by
    rintro _ w ⟨⟩ hspells -
    exact hs.unique hspells
  warned_iff := by
    refine iff_of_false Bool.false_ne_true ?_
    rintro ⟨_, ⟨⟨⟩, -⟩, hspells⟩
    exact hspells hs

/-- A default that stands in for what is not used is usable. -/
theorem usable_notUsed (h : default.IsPositive) (hs : ¬Text.Blanks s.toList)
    (hv : ∀ v, kind.Spells s v → ¬IsUsed v) (hshort : ¬Sql.IsTooLong default) :
    ∃ r, notUsed reason s name default = .ok r ∧ Usable kind default (some s) r := by
  obtain ⟨w, hw⟩ := notUsed_eq_ok h hshort reason s name
  refine ⟨_, hw, ⟨?_, .inl rfl, ?_, ?_⟩⟩
  · refine iff_of_true h ?_
    rintro ⟨_, ⟨⟩, hnan⟩
    exact hv _ hnan (.inr rfl)
  · rintro _ v ⟨⟩ hspells hpos
    exact absurd (.inl hpos) (hv v hspells)
  · exact iff_of_true rfl ⟨s, ⟨rfl, hs⟩, fun hspells => hv default hspells (.inl h)⟩

/-- **A setting is usable** unless there is a warning that cannot be written. -/
theorem Read.usable (hread : Read name kind default raw result) (h : default.IsPositive)
    (hwarned : ¬Unwarned kind default raw) : ∃ r, result = .ok r ∧ Usable kind default raw r := by
  -- Wherever there is something to warn of, the default can be shown.
  have hshort : ∀ s, raw = some s → ¬Text.Blanks s.toList → (∀ v, kind.Spells s v → ¬IsUsed v) →
      ¬Sql.IsTooLong default := fun s hraw hs hv hlong => hwarned ⟨hlong, s, ⟨hraw, hs⟩, hv⟩
  cases hread with
  | absent => exact ⟨_, rfl, usable_default h nofun⟩
  | blank hs =>
    refine ⟨_, rfl, usable_default h ?_⟩
    rintro _ ⟨⟩
    exact hs
  | used hs hv => exact ⟨_, rfl, usable_used hs hv⟩
  | invalid hs hv =>
    have hv' : ∀ v, kind.Spells _ v → ¬IsUsed v := fun v hspells => absurd hspells (hv v)
    exact usable_notUsed h hs hv' (hshort _ rfl hs hv')
  | nonPositive hs hv =>
    have hv' : ∀ v, kind.Spells _ v → ¬IsUsed v := fun w hspells => hs.unique hspells ▸ hv
    exact usable_notUsed h hs.not_blanks hv' (hshort _ rfl hs.not_blanks hv')

/-- **Without its warning** a setting is not read. -/
theorem Read.unwarned (hread : Read name kind default raw result) (h : default.IsPositive)
    (hunwarned : Unwarned kind default raw) : result = .error .written := by
  obtain ⟨hlong, t, ⟨rfl, hblanks⟩, hunused⟩ := hunwarned
  cases hread with
  | blank hs => exact absurd hs hblanks
  | used hs hv => exact absurd hv (hunused _ hs)
  | invalid | nonPositive => exact notUsed_eq_error h hlong _ _ _

/-- **Numeric settings are usable** with any text and a positive default, unless a warning would show a default that
cannot be written. -/
theorem settings_read (name : String) (kind : NumberKind) (raw : Option String) (h : default.IsPositive) :
    (¬Unwarned kind default raw → ∃ r, read name kind default raw = .ok r ∧ Usable kind default raw r) ∧
      (Unwarned kind default raw → read name kind default raw = .error .written) :=
  ⟨(read_spec name kind default raw).usable h, (read_spec name kind default raw).unwarned h⟩

/-- A number is too long from the first power of ten with too many digits on. -/
theorem isTooLong_natCast {n : Nat} : Sql.IsTooLong (.int n) ↔ 10 ^ maxDigits ≤ n := by
  rw [Sql.IsTooLong, Int.natAbs_natCast, ← not_le, Nat.length_toDigits_le_iff (by decide) (by decide), not_lt]

/-- The least default that is too long. -/
def hugeDefault : Value :=
  .int (10 ^ maxDigits : Nat)

/-- A text in the digits of two scripts is used; a zero is not, and its warning cannot show a default that is too
long. -/
theorem settings_read_digits :
    ((Value.float (.ofInt 30)).IsPositive ∧
      ∃ r, read "EXECUTION_TIMEOUT" .real (.float (.ofInt 30)) (some "\u00a0+1_\u0662.5E-1\n") = .ok r ∧
        r.value = .float (.ofDecimal false 125 (-2)) ∧ r.value.IsPositive ∧ r.warning.isSome = false) ∧
      hugeDefault.IsPositive ∧ Unwarned .whole hugeDefault (some " -0 ") ∧
        read "MAX_SESSIONS" .whole hugeDefault (some " -0 ") = .error .written := by
  have hdefault : (Value.float (.ofInt 30)).IsPositive := isPositive_float (by decide +kernel) (by decide +kernel)
  have hspells : NumberKind.Spells .real "\u00a0+1_\u0662.5E-1\n" (.float (.ofDecimal false 125 (-2))) :=
    .real (read?_eq_some.1 (by decide +kernel))
  have hpos : (Value.float (.ofDecimal false 125 (-2))).IsPositive :=
    isPositive_float (by decide +kernel) (by decide +kernel)
  have hhuge : hugeDefault.IsPositive := .int (Int.natCast_pos.2 (Nat.pow_pos (by decide)))
  have hzero : NumberKind.Spells .whole " -0 " (.int 0) := .whole (readInt?_eq_some.1 (by decide +kernel))
  have hunwarned : Unwarned .whole hugeDefault (some " -0 ") := by
    refine ⟨isTooLong_natCast.2 le_rfl, _, ⟨rfl, hzero.not_blanks⟩, fun v hv hused => ?_⟩
    rw [hv.unique hzero] at hused
    exact absurd ((isUsed_iff hzero).1 hused) (by decide)
  refine ⟨⟨hdefault, ?_⟩, hhuge, hunwarned, (settings_read _ _ _ hhuge).2 hunwarned⟩
  obtain ⟨r, hr, husable⟩ := (settings_read "EXECUTION_TIMEOUT" .real (some "\u00a0+1_\u0662.5E-1\n") hdefault).1
    fun hlong => hlong.1
  have hvalue := husable.used _ _ rfl hspells hpos
  refine ⟨r, hr, hvalue, hvalue ▸ hpos, Bool.eq_false_iff.2 fun hwarned => ?_⟩
  obtain ⟨_, ⟨⟨⟩, -⟩, hunused⟩ := husable.warned_iff.1 hwarned
  exact hunused (hvalue ▸ hspells)

end Setting

namespace NumericSetting

open Setting

/-- The settings have positive defaults. -/
theorem default_isPositive (s : NumericSetting) : s.default.IsPositive := by
  cases s with
  | batchSize | maxSessions => exact .int (by decide)
  | batchDelay | executionTimeout => exact isPositive_float (by decide +kernel) (by decide +kernel)

/-- The defaults can be written. -/
theorem not_isTooLong_default (s : NumericSetting) : ¬Sql.IsTooLong s.default := by
  cases s with
  | batchSize | maxSessions => exact Sql.isWritable_int_iff.1 (by decide +kernel)
  | batchDelay | executionTimeout => exact id

/-- **The settings of the console are usable** with any texts, and those that are whole are positive. -/
theorem read_usable (s : NumericSetting) (texts : String → Option String) :
    ∃ r, s.read texts = .ok r ∧ Usable s.kind s.default (texts s.name) r ∧
      (s.kind = .whole → r.value.IsPositive) := by
  obtain ⟨r, hr, husable⟩ := (read_spec s.name s.kind s.default (texts s.name)).usable s.default_isPositive
    fun hunwarned => s.not_isTooLong_default hunwarned.1
  refine ⟨r, hr, husable, fun hkind => husable.positive_iff.2 ?_⟩
  rintro ⟨t, -, hnan⟩
  rw [hkind] at hnan
  cases hnan

/-- **A timeout that is no number**: it is used instead of the default, and there is no warning. -/
theorem timeout_notNumber :
    executionTimeout.default.IsPositive ∧
      ∃ r, executionTimeout.read (fun _ => some "nan") = .ok r ∧ ¬r.value.IsPositive ∧
        r.value ≠ executionTimeout.default ∧ r.warning = none := by
  have hdefault : executionTimeout.default.IsPositive := executionTimeout.default_isPositive
  refine ⟨hdefault, ⟨.float .nan, none⟩, rfl, not_isPositive_nan, fun heq => ?_, rfl⟩
  rw [← heq] at hdefault
  exact not_isPositive_nan hdefault

end NumericSetting

end QueryCanvas
