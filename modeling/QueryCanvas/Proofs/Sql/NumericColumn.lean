import QueryCanvas.Proofs.Sql.NumericText
import QueryCanvas.Proofs.Text.LowerCase

/-!
# Which columns are numeric

A column is numeric if its declared type, without the blanks around it and in small letters, is the name of a
numeric type, possibly with a list of arguments behind it. What follows the first parenthesis is not looked at, so
the same holds when the arguments are not closed or something follows them. An array of numbers is told from a number
by its brackets, unless they follow a precision.

* `IsScalarNumber`: the texts that name a numeric type.
* `Overruns`: those that open like one and go on otherwise.
* `isNumeric_iff`: the columns that count as numeric are these two kinds.
* `numeric_columns`: what this comes to, for arrays and for the text that a column is compared with.
-/

namespace QueryCanvas

open Text

namespace Column

/-! ## Type texts -/

/-- The text of a declared type without the blanks around it, in small letters. -/
def spelledType (col : Column) : List Char :=
  (lower (trim col.declaredType)).toList

/-- The parentheses of a text are closed. -/
inductive Balanced : List Char → Prop
  | nil : Balanced []
  | plain {c : Char} {cs : List Char} (hopen : c ≠ '(') (hclose : c ≠ ')') (h : Balanced cs) : Balanced (c :: cs)
  | nested {args cs : List Char} (hargs : Balanced args) (h : Balanced cs) : Balanced ('(' :: (args ++ ')' :: cs))

/-- A list of arguments is closed by the last character. -/
def Closes (rest : List Char) : Prop :=
  ∃ args, Balanced args ∧ rest = args ++ [')']

/-- The name of a numeric type and an opening parenthesis, before the rest of a text. -/
def Opens (cs rest : List Char) : Prop :=
  ∃ name ∈ numericTypes, ∃ gap, Blanks gap ∧ cs = name.toList ++ (gap ++ '(' :: rest)

/-- **A numeric type**: its name, possibly with one closed list of arguments, and nothing else. -/
inductive IsScalarNumber (cs : List Char) : Prop
  | bare {name : String} (hname : name ∈ numericTypes) (heq : cs = name.toList)
  | withArguments {rest : List Char} (hopens : Opens cs rest) (hcloses : Closes rest)

/-- **Something else** that opens like a numeric type: its arguments are not closed, or more follows them. -/
def Overruns (cs : List Char) : Prop :=
  ∃ rest, Opens cs rest ∧ ¬Closes rest

variable {col : Column} {cs rest rest' gap w : List Char} {name elem : String}

/-! ## What is read of them -/

theorem trimmed_spelledType (col : Column) : Trimmed col.spelledType := by
  rw [spelledType, lower, String.toList_ofList, trim, String.toList_ofList]
  exact trimmed_lowerFrom (trimmed_trimChars _)

/-- The names of the numeric types have neither blanks at their ends nor a parenthesis. -/
theorem trimmed_numericType (h : name ∈ numericTypes) : trimChars name.toList = name.toList ∧ '(' ∉ name.toList := by
  have hnames : ∀ name ∈ numericTypes,
      (trimChars name.toList == name.toList && !name.toList.contains '(') = true := by
    decide +kernel
  simpa using hnames name h

/-- A text is split at its first parenthesis. -/
theorem split_paren (hw : '(' ∉ w) (rest : List Char) : (w ++ '(' :: rest).takeWhile (· ≠ '(') = w ∧
    (w ++ '(' :: rest).dropWhile (· ≠ '(') = '(' :: rest := by
  have hall : ∀ c ∈ w, (decide (c ≠ '(')) = true := fun c hc => decide_eq_true (ne_of_mem_of_not_mem hc hw)
  rw [List.takeWhile_append_of_pos hall, List.dropWhile_append_of_pos hall]
  simp

theorem not_mem_blanks (hgap : Blanks gap) : '(' ∉ gap :=
  fun h => absurd (hgap _ h) (by decide)

theorem Opens.split (h : Opens cs rest) : ∃ name ∈ numericTypes,
    trimChars (cs.takeWhile (· ≠ '(')) = name.toList ∧ cs.dropWhile (· ≠ '(') = '(' :: rest := by
  obtain ⟨name, hname, gap, hgap, rfl⟩ := h
  obtain ⟨htrim, hparen⟩ := trimmed_numericType hname
  have hfront : '(' ∉ name.toList ++ gap := by
    rw [List.mem_append, not_or]
    exact ⟨hparen, not_mem_blanks hgap⟩
  obtain ⟨htake, hdrop⟩ := split_paren hfront rest
  rw [← List.append_assoc]
  refine ⟨name, hname, ?_, hdrop⟩
  rw [htake, trimChars_eq_iff]
  exact ⟨htrim ▸ trimmed_trimChars _, [], gap, by simp [Blanks], hgap, rfl⟩

/-- What follows the first parenthesis is fixed. -/
theorem Opens.unique (h : Opens cs rest) (h' : Opens cs rest') : rest = rest' := by
  obtain ⟨-, -, -, hdrop⟩ := h.split
  obtain ⟨-, -, -, hdrop'⟩ := h'.split
  exact (List.cons.inj (hdrop.symm.trans hdrop')).2

theorem isNumeric_iff_base : col.isNumeric = true ↔
    ∃ name ∈ numericTypes, trimChars (col.spelledType.takeWhile (· ≠ '(')) = name.toList := by
  rw [isNumeric, List.contains_iff_mem, typeBase, ← spelledType]
  constructor
  · exact fun h => ⟨_, h, (String.toList_ofList).symm⟩
  · rintro ⟨name, hname, heq⟩
    rwa [heq, String.ofList_toList]

/-- What a text is split into at its first parenthesis. -/
theorem dropWhile_paren (cs : List Char) :
    cs.dropWhile (· ≠ '(') = [] ∨ ∃ rest, cs.dropWhile (· ≠ '(') = '(' :: rest := by
  have hhead := List.head?_dropWhile_not (· ≠ '(') cs
  cases hdrop : cs.dropWhile (· ≠ '(') with
  | nil => exact .inl rfl
  | cons c rest =>
    rw [hdrop] at hhead
    obtain rfl : c = '(' := by simpa using hhead
    exact .inr ⟨rest, rfl⟩

/-- A type counts as numeric if it is the bare name of a numeric type, or opens like one. -/
theorem isNumeric_iff_opens : col.isNumeric = true ↔
    (∃ name ∈ numericTypes, col.spelledType = name.toList) ∨ ∃ rest, Opens col.spelledType rest := by
  rw [isNumeric_iff_base]
  constructor
  · rintro ⟨name, hname, htrim⟩
    obtain ⟨-, lead, gap, hlead, hgap, hfront⟩ := trimChars_eq_iff.1 htrim
    have hsplit : col.spelledType = lead ++ (name.toList ++ (gap ++ col.spelledType.dropWhile (· ≠ '('))) := by
      conv_lhs => rw [← List.takeWhile_append_dropWhile (p := (· ≠ '(')) (l := col.spelledType), hfront]
      simp only [List.append_assoc]
    have htrimmed := trimmed_spelledType col
    rw [hsplit] at htrimmed
    obtain rfl := htrimmed.lead_eq_nil hlead
    rcases dropWhile_paren col.spelledType with hdrop | ⟨rest, hdrop⟩
    · rw [hdrop, List.append_nil, List.nil_append] at hsplit htrimmed
      obtain rfl := htrimmed.gap_eq_nil hgap
      exact .inl ⟨name, hname, by simpa using hsplit⟩
    · exact .inr ⟨rest, name, hname, gap, hgap, hdrop ▸ hsplit⟩
  · rintro (⟨name, hname, heq⟩ | ⟨rest, hopens⟩)
    · obtain ⟨htrim, hparen⟩ := trimmed_numericType hname
      refine ⟨name, hname, ?_⟩
      rw [heq, List.takeWhile_eq_self_iff.2 fun c hc => decide_eq_true (ne_of_mem_of_not_mem hc hparen), htrim]
    · obtain ⟨name, hname, htrim, -⟩ := hopens.split
      exact ⟨name, hname, htrim⟩

/-- **The columns that count as numeric** have a numeric type, or one that only opens like it. -/
theorem isNumeric_iff : col.isNumeric = true ↔ IsScalarNumber col.spelledType ∨ Overruns col.spelledType := by
  rw [isNumeric_iff_opens]
  constructor
  · rintro (⟨name, hname, heq⟩ | ⟨rest, hopens⟩)
    · exact .inl (.bare hname heq)
    · by_cases hcloses : Closes rest
      · exact .inl (.withArguments hopens hcloses)
      · exact .inr ⟨rest, hopens, hcloses⟩
  · rintro ((⟨hname, heq⟩ | ⟨hopens, -⟩) | ⟨rest, hopens, -⟩)
    · exact .inl ⟨_, hname, heq⟩
    · exact .inr ⟨_, hopens⟩
    · exact .inr ⟨rest, hopens⟩

theorem Opens.mem_paren (h : Opens cs rest) : '(' ∈ cs := by
  obtain ⟨name, -, gap, -, rfl⟩ := h
  simp

/-- No text is of both kinds. -/
theorem IsScalarNumber.not_overruns (h : IsScalarNumber cs) : ¬Overruns cs := by
  rintro ⟨rest, hopens, hnot⟩
  rcases h with ⟨hname, rfl⟩ | ⟨hopens', hcloses⟩
  · exact (trimmed_numericType hname).2 hopens.mem_paren
  · exact hnot (hopens.unique hopens' ▸ hcloses)

/-! ## Arrays -/

/-- A numeric type does not end with a bracket. -/
theorem IsScalarNumber.getLast?_ne (h : IsScalarNumber cs) : cs.getLast? ≠ some ']' := by
  rcases h with ⟨hname, rfl⟩ | ⟨⟨name, -, gap, -, rfl⟩, args, -, rfl⟩
  · have hnames : ∀ name ∈ numericTypes, name.toList.getLast? ≠ some ']' := by decide +kernel
    exact hnames _ hname
  · have hlast : name.toList ++ (gap ++ '(' :: (args ++ [')'])) = (name.toList ++ (gap ++ '(' :: args)) ++ [')'] := by
      simp
    rw [hlast, List.getLast?_concat]
    decide

/-- Trimming leaves the brackets of an array where they are. -/
theorem trimChars_brackets (cs : List Char) :
    trimChars (cs ++ ['[', ']']) = cs.dropWhile isBlank ++ ['[', ']'] := by
  refine trimChars_eq_iff.2 ⟨⟨fun c hc => ?_, fun c hc => ?_⟩, cs.takeWhile isBlank, [],
    fun _ => List.mem_takeWhile_imp, by simp [Blanks], ?_⟩
  · have hhead := List.head?_dropWhile_not isBlank cs
    cases hdrop : cs.dropWhile isBlank with
    | nil =>
      rw [hdrop] at hc
      cases hc
      decide
    | cons d ds =>
      rw [hdrop] at hc hhead
      cases hc
      simpa using hhead
  · have hlast : ((cs.dropWhile isBlank ++ ['[']) ++ [']']).getLast? = some c := by simpa using hc
    rw [List.getLast?_concat] at hlast
    cases hlast
    decide
  · rw [List.append_nil, ← List.append_assoc, List.takeWhile_append_dropWhile]

theorem lowerFrom_brackets (before : List Char) : lowerFrom before ['[', ']'] = ['[', ']'] :=
  (lowerFrom_eq_iff (by simp)).2 (by decide)

/-- An array's type ends with a bracket, and has a parenthesis only if that of its elements has one. -/
theorem spelledType_array (h : col.declaredType = elem ++ "[]") :
    col.spelledType.getLast? = some ']' ∧ ('(' ∈ col.spelledType → '(' ∈ elem.toList) := by
  have hchars : col.spelledType = lowerFrom [] (elem.toList.dropWhile isBlank ++ ['[', ']']) := by
    rw [spelledType, lower, String.toList_ofList, trim, String.toList_ofList, h, String.toList_append]
    exact congrArg _ (trimChars_brackets _)
  rw [hchars]
  constructor
  · obtain ⟨front, hfront⟩ := exists_lowerFrom_append [] (elem.toList.dropWhile isBlank) ['[', ']']
    rw [hfront, lowerFrom_brackets]
    simp
  · intro hmem
    rcases mem_lowerFrom hmem with ⟨c, hc, heq⟩ | ⟨form, hform, hparen⟩
    · obtain rfl := (lowerChar_eq_sign_iff (by decide) (by decide)).1 heq.symm
      rcases List.mem_append.1 hc with hc | hc
      · exact (List.dropWhile_suffix _).subset hc
      · exact absurd hc (by decide)
    · have hforms : ∀ form ∈ ownForms, '(' ∉ form := by decide
      exact absurd hparen (hforms form hform)

/-- An array is no numeric type, and counts as one only if its elements have a parenthesis. -/
theorem not_isScalarNumber_array (h : col.declaredType = elem ++ "[]") :
    ¬IsScalarNumber col.spelledType ∧ ('(' ∉ elem.toList → col.isNumeric = false) := by
  obtain ⟨hlast, hparen⟩ := spelledType_array h
  have hscalar : ¬IsScalarNumber col.spelledType := fun hscalar => hscalar.getLast?_ne hlast
  refine ⟨hscalar, fun helem => Bool.eq_false_iff.2 fun hnumeric => ?_⟩
  rcases isNumeric_iff.1 hnumeric with hyes | ⟨rest, hopens, -⟩
  · exact hscalar hyes
  · exact helem (hparen hopens.mem_paren)

end Column

namespace Sql

open Column

variable {cat : Catalog} {f : Filter} {t : Table} {col : Column} {s : String}

/-- The column of a filter is numeric in a catalog as it is in its table. -/
theorem isNumericIn_eq (ht : cat.lookup? f.table = some t) (hcol : t.column? f.column = some col) :
    isNumericIn cat f = col.isNumeric := by
  rw [isNumericIn, ht, Option.bind_some, hcol, Option.any_some]

/-- A text that a column is compared with stays a text if the column is not numeric. -/
theorem conditionOf_text (hnumeric : isNumericIn cat f = false)
    (hop : f.operator ∈ [.equals, .notEquals, .greaterThan, .lessThan]) (hval : f.value = .scalar (.text s)) :
    ∃ op, conditionOf cat f = .ok (.compare ⟨f.table, f.column⟩ op (.text s)) := by
  simp only [List.mem_cons, List.not_mem_nil, or_false] at hop
  rcases hop with hop | hop | hop | hop
  · exact ⟨.equal, by simp only [conditionOf, hop, hval]; rfl⟩
  · exact ⟨.notEqual, by simp only [conditionOf, hop, hval]; rfl⟩
  · exact ⟨.greater, by simp only [conditionOf, hop, hval, hnumeric]; rfl⟩
  · exact ⟨.less, by simp only [conditionOf, hop, hval, hnumeric]; rfl⟩

/-- **Which columns are numeric.** A column counts as numeric exactly if its declared type is a numeric one, or opens
like one and then goes on otherwise, never both. Arrays are never of a numeric type, and count as numeric only if
their elements have a parenthesis. What a column that is not numeric is compared with stays in quotes. -/
theorem numeric_columns (col : Column) :
    (col.isNumeric = true ↔ IsScalarNumber col.spelledType ∨ Overruns col.spelledType) ∧
    (IsScalarNumber col.spelledType → ¬Overruns col.spelledType) ∧
    (∀ elem, col.declaredType = elem ++ "[]" →
      ¬IsScalarNumber col.spelledType ∧ ('(' ∉ elem.toList → col.isNumeric = false)) ∧
    ∀ (cat : Catalog) (t : Table) (f : Filter) (s : String),
      cat.lookup? f.table = some t → t.column? f.column = some col → col.isNumeric = false →
      f.operator ∈ [.equals, .notEquals, .greaterThan, .lessThan] → f.value = .scalar (.text s) →
      ∃ op, conditionOf cat f = .ok (.compare ⟨f.table, f.column⟩ op (.text s)) ∧
        ∀ d, (Condition.compare ⟨f.table, f.column⟩ op (.text s)).chars d =
          ColumnRef.chars d ⟨f.table, f.column⟩ ++ ' ' :: op.sign.toList ++ ' ' :: textLiteral d s.toList := by
  refine ⟨isNumeric_iff, IsScalarNumber.not_overruns, fun elem => not_isScalarNumber_array,
    fun cat t f s ht hcol hnumeric hop hval => ?_⟩
  obtain ⟨op, hcond⟩ := conditionOf_text ((isNumericIn_eq ht hcol).trans hnumeric) hop hval
  exact ⟨op, hcond, fun d => rfl⟩

/-- A column of arrays of numbers with a precision. -/
def pricesColumn : Column :=
  ⟨"prices", "numeric(10,2)[]", false, false, true, .null, .null⟩

/-- **An array that counts as a number**: what follows its precision is not looked at, and a text that it is
compared with stands without quotes. -/
theorem array_counted_numeric :
    pricesColumn.isNumeric = true ∧ pricesColumn.declaredType = "numeric(10,2)" ++ "[]" ∧
      ¬IsScalarNumber pricesColumn.spelledType ∧ Overruns pricesColumn.spelledType ∧
      ∃ k, conditionOf ⟨[⟨"orders", [pricesColumn]⟩], []⟩
          ⟨"id-1", "orders", "prices", .greaterThan, .scalar (.text "10"), none⟩ = .ok k ∧
        k.chars .ansi = "orders.prices > 10".toList := by
  have hnumeric : pricesColumn.isNumeric = true := by decide +kernel
  have harray : pricesColumn.declaredType = "numeric(10,2)" ++ "[]" := rfl
  have hscalar := (not_isScalarNumber_array harray).1
  exact ⟨hnumeric, harray, hscalar, (isNumeric_iff.1 hnumeric).resolve_left hscalar, _, rfl, by decide +kernel⟩

end Sql

end QueryCanvas
