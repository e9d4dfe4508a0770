import QueryCanvas.Proofs.Catalog.Load
import QueryCanvas.Proofs.Text.LowerCase

/-!
# Flags as truth values and as texts

A row may report a flag as a truth value or as the text that an information schema has for it. Whether a column may be
null is read the same from either. Whether it is a key is read from a text as from any other value: a text counts as
true unless it is empty, so a key that is off is read as on from its text.

* `SpellsFlag`: the texts for a truth value, in letters of any case and with blanks around them.
* `RowSpelled`: a row, and the same row with the truth values of some flags spelled.
* `Misread`: a key that is off by its truth value and spelled.
* `flags_read`: columns, tables and keys are read the same from texts exactly if no key is misread, and so are the joins
  that a catalog suggests.
* `key_misread`: a key that is misread, and the join that comes of it.
-/

namespace QueryCanvas

/-! ## Rows with texts for truth values -/

/-- The flags of a row. -/
inductive RowFlag where
  | primaryKey
  | foreignKey
  | nullable
  deriving DecidableEq, Repr

/-- The field of a flag. -/
def RowFlag.field : RowFlag → String
  | .primaryKey => "is_primary_key"
  | .foreignKey => "is_foreign_key"
  | .nullable => "is_nullable"

/-- The word that an information schema has for a truth value. -/
def flagWord : Bool → List Char
  | true => ['Y', 'E', 'S']
  | false => ['N', 'O']

/-- **A text that spells a truth value**: its word, in letters of any case and with any blanks around it. -/
def SpellsFlag (b : Bool) (s : String) : Prop :=
  ∃ lead word gap, Text.Blanks lead ∧ Text.Blanks gap ∧ word.map Char.toUpper = flagWord b ∧
    s.toList = lead ++ (word ++ gap)

/-- **A field of a row**, and the field that may be reported instead: the same one, or the one with the truth value of
its flag spelled. -/
inductive FieldSpelled : String × Value → String × Value → Prop
  | kept (f : String × Value) : FieldSpelled f f
  | spelled (flag : RowFlag) {b : Bool} {s : String} (h : SpellsFlag b s) :
      FieldSpelled (flag.field, .bool b) (flag.field, .text s)

/-- **A row**, and the row with some of its flags spelled. -/
inductive RowSpelled : Value → Value → Prop
  | record {fs fs' : List (String × Value)} (h : List.Forall₂ FieldSpelled fs fs') :
      RowSpelled (.record fs) (.record fs')

/-- **A key that is misread**: it is off by its truth value, and spelled. -/
inductive Misread (flag : RowFlag) : Value → Value → Prop
  | record {fs fs' : List (String × Value)} {s : String} (hkey : flag ≠ .nullable)
      (hoff : Value.field? fs flag.field = some (.bool false)) (htext : Value.field? fs' flag.field = some (.text s)) :
      Misread flag (.record fs) (.record fs')

/-- No key of any row is misread. -/
def NoneMisread (rows rows' : List Value) : Prop :=
  List.Forall₂ (fun r r' => ∀ flag, ¬Misread flag r r') rows rows'

/-- **Two readers of one warehouse**, of which the second spells some flags, but for keys that are off. -/
structure SchemaReader.Spelled (reader reader' : SchemaReader) : Prop where
  listing : reader'.listing = reader.listing
  rows : ∀ name, reader'.rows name = reader.rows name ∨
    ∃ rows rows', reader.rows name = .ok (.list rows) ∧ reader'.rows name = .ok (.list rows') ∧
      List.Forall₂ RowSpelled rows rows' ∧ NoneMisread rows rows'

/-! ## Columns -/

/-- The value that a row gives as the name of its column. -/
def rowName (fs : List (String × Value)) : Value :=
  (Value.field? fs "column_name").getD (Value.fieldOr fs "name" .null)

namespace Column

/-- A flag of a column. -/
def flag (c : Column) : RowFlag → Bool
  | .primaryKey => c.isPrimaryKey
  | .foreignKey => c.isForeignKey
  | .nullable => c.isNullable

/-- **The column that a row describes**, if the row has a name for it. -/
structure Describes (fs : List (String × Value)) (c : Column) : Prop where
  named : (rowName fs).truthy = true
  name : c.name = (rowName fs).toText
  declaredType : c.declaredType =
    (((Value.field? fs "data_type").getD (Value.fieldOr fs "type" .null)).orElse (.text "unknown")).toText
  keys : ∀ flag, flag ≠ .nullable → c.flag flag = (Value.fieldOr fs flag.field (.bool false)).truthy
  isNullable : c.isNullable = flagOf (Value.fieldOr fs (RowFlag.field .nullable) (.bool true))
  referencedTable : c.referencedTable = if c.isForeignKey then Value.fieldOr fs "referenced_table" .null else .null
  referencedColumn : c.referencedColumn = if c.isForeignKey then Value.fieldOr fs "referenced_column" .null else .null

/-- **A column that is read from a row with flags spelled**, next to the one that is read from truth values. -/
structure Reread (r r' : Value) (c c' : Column) : Prop where
  name : c'.name = c.name
  isNullable : c'.isNullable = c.isNullable
  /-- Keys that were on are on, and of those that were off the ones that are misread. -/
  keys : ∀ flag, flag ≠ .nullable → (c'.flag flag = true ↔ c.flag flag = true ∨ Misread flag r r')
  off : ∀ flag, Misread flag r r' → c.flag flag = false
  same : c' = c ↔ ∀ flag, ¬Misread flag r r'

end Column

open Column

variable {fs fs' : List (String × Value)} {f f' : String × Value} {flag : RowFlag} {b : Bool} {s name : String}
  {r r' : Value} {rows rows' : List Value} {c c' : Column} {t : Table}

/-! ## Spelled truth values -/

/-- A plain letter has one capital form. -/
theorem Text.upperPlain_of_isAlpha {c : Char} (h : c.isAlpha = true) : Text.upperPlain c = [c.toUpper] := by
  have hcode := Text.isAlpha_iff.1 h
  unfold Text.upperPlain
  split <;> first | omega | rfl

theorem SpellsFlag.ne_empty (h : SpellsFlag b s) : s ≠ "" := by
  obtain ⟨lead, word, gap, -, -, hword, hs⟩ := h
  rintro rfl
  rw [String.toList_empty, eq_comm, List.append_eq_nil_iff, List.append_eq_nil_iff] at hs
  rw [hs.2.1] at hword
  cases b <;> cases hword

/-- **What is read from a spelled truth value** is that truth value. -/
theorem SpellsFlag.flagOf (h : SpellsFlag b s) : flagOf (.text s) = b := by
  obtain ⟨lead, word, gap, hlead, hgap, hword, hs⟩ := h
  have hletters : ∀ c ∈ word, c.isAlpha = true := fun c hc => by
    have hcapital : ∀ d ∈ flagWord b, d.isUpper = true := by cases b <;> simp [flagWord, Char.isUpper]
    rw [← Char.isUpper_toUpper_eq_isAlpha]
    exact hcapital _ (hword ▸ List.mem_map_of_mem hc)
  have hblank : ∀ c ∈ word, Text.isBlank c = false := fun c hc =>
    Text.not_isBlank_of_plain (.inl (by rw [Char.isAlphanum, hletters c hc, Bool.true_or]))
  have htrimmed : Text.Trimmed word :=
    ⟨fun c hc => hblank c (List.mem_of_head? hc), fun c hc => hblank c (List.mem_of_getLast? hc)⟩
  have htrim : Text.trimChars s.toList = word := Text.trimChars_eq_iff.2 ⟨htrimmed, lead, gap, hlead, hgap, hs⟩
  have hupper : word.flatMap Text.upperPlain = flagWord b := by
    rw [List.flatMap_congr fun c hc => Text.upperPlain_of_isAlpha (hletters c hc), ← List.map_eq_flatMap, hword]
  rw [QueryCanvas.flagOf, Text.upper, Text.trim, String.toList_ofList, htrim, hupper]
  cases b <;> decide

/-! ## Fields -/

theorem FieldSpelled.name_eq (h : FieldSpelled f f') : f'.1 = f.1 := by
  cases h <;> rfl

/-- What is found under a name differs in its spelling at most. -/
theorem find?_spelled (h : List.Forall₂ FieldSpelled fs fs') (name : String) :
    Option.Rel FieldSpelled (fs.find? (·.1 == name)) (fs'.find? (·.1 == name)) := by
  induction h with
  | nil => exact .none
  | @cons f f' fs fs' hf hfs ih =>
    rw [List.find?_cons, List.find?_cons, hf.name_eq]
    split
    · exact .some hf
    · exact ih

/-- **A field is found as it was**, or with its truth value spelled. -/
theorem field?_spelled (h : List.Forall₂ FieldSpelled fs fs') (name : String) :
    Value.field? fs' name = Value.field? fs name ∨ ∃ flag b s, name = RowFlag.field flag ∧ SpellsFlag b s ∧
      Value.field? fs name = some (.bool b) ∧ Value.field? fs' name = some (.text s) := by
  have hfound := find?_spelled (List.forall₂_reverse_iff.2 h) name
  unfold Value.field?
  generalize hx : fs.reverse.find? (·.1 == name) = x at hfound
  generalize hx' : fs'.reverse.find? (·.1 == name) = x' at hfound
  cases hfound with
  | none => exact .inl rfl
  | some hf =>
    cases hf with
    | kept => exact .inl rfl
    | @spelled flag b s hs =>
      have hname : (flag.field == name) = true := List.find?_some (p := fun f : String × Value => f.1 == name) hx
      exact .inr ⟨flag, b, s, (eq_of_beq hname).symm, hs, rfl, rfl⟩

/-- What is no flag is found as it was. -/
theorem field?_unspelled (h : List.Forall₂ FieldSpelled fs fs') (hname : ∀ flag, name ≠ RowFlag.field flag) :
    Value.field? fs' name = Value.field? fs name :=
  (field?_spelled h name).resolve_right fun ⟨flag, _, _, hflag, _⟩ => hname flag hflag

/-- Whether a column may be null is read the same. -/
theorem flagOf_nullable (h : List.Forall₂ FieldSpelled fs fs') (default : Value) :
    flagOf (Value.fieldOr fs' (RowFlag.field .nullable) default) =
      flagOf (Value.fieldOr fs (RowFlag.field .nullable) default) := by
  unfold Value.fieldOr
  rcases field?_spelled h (RowFlag.field .nullable) with heq | ⟨flag, b, s, -, hs, hfound, hfound'⟩
  · rw [heq]
  · rw [hfound, hfound', Option.getD_some, Option.getD_some, hs.flagOf]
    rfl

theorem misread_record : Misread flag (.record fs) (.record fs') ↔ flag ≠ .nullable ∧
    Value.field? fs flag.field = some (.bool false) ∧ ∃ s, Value.field? fs' flag.field = some (.text s) := by
  constructor
  · rintro ⟨hkey, hoff, htext⟩
    exact ⟨hkey, hoff, _, htext⟩
  · rintro ⟨hkey, hoff, s, htext⟩
    exact ⟨hkey, hoff, htext⟩

theorem Misread.isKey (h : Misread flag r r') : flag ≠ .nullable := by
  cases h
  assumption

/-- **Which keys are on** if some are spelled: those that were on, and those that are misread. -/
theorem truthy_key (h : List.Forall₂ FieldSpelled fs fs') (hflag : flag ≠ .nullable) :
    (Value.fieldOr fs' flag.field (.bool false)).truthy = true ↔
      (Value.fieldOr fs flag.field (.bool false)).truthy = true ∨ Misread flag (.record fs) (.record fs') := by
  rw [misread_record]
  unfold Value.fieldOr
  rcases field?_spelled h flag.field with heq | ⟨flag', b, s, -, hs, hfound, hfound'⟩
  · rw [heq, or_iff_left]
    rintro ⟨-, hoff, s, htext⟩
    rw [hoff] at htext
    cases htext
  · rw [hfound, hfound']
    simp only [Option.getD_some, Value.truthy, bne_iff_ne, ne_eq, hs.ne_empty, not_false_eq_true, hflag, true_iff,
      Option.some.injEq, Value.bool.injEq, Value.text.injEq, exists_eq', and_true, true_and]
    cases b <;> simp

/-! ## Reading a row -/

namespace Column

theorem rowName_eq : (Value.field? fs "column_name").getD (Value.fieldOr fs "name" .null) = rowName fs := rfl

/-- What is read from a row is the column that it describes. -/
theorem ofRow_eq_ok : ofRow (.record fs) = .ok c ↔ Describes fs c := by
  unfold ofRow
  simp only [rowName_eq]
  by_cases hnamed : (rowName fs).truthy = true
  · simp only [hnamed, Bool.not_true, Bool.false_eq_true, if_false, Except.ok.injEq]
    constructor
    · rintro rfl
      refine ⟨hnamed, rfl, rfl, fun flag hflag => ?_, rfl, rfl, rfl⟩
      cases flag with
      | primaryKey | foreignKey => rfl
      | nullable => exact absurd rfl hflag
    · rintro ⟨-, hn, ht, hkeys, hnull, htable, hcolumn⟩
      have hprimary : c.isPrimaryKey = _ := hkeys .primaryKey (by decide)
      have hforeign : c.isForeignKey = _ := hkeys .foreignKey (by decide)
      rw [hforeign] at htable hcolumn
      cases c
      simp only [Column.mk.injEq]
      exact ⟨hn.symm, ht.symm, hprimary.symm, hforeign.symm, hnull.symm, htable.symm, hcolumn.symm⟩
  · simp only [hnamed, Bool.not_false, if_true, reduceCtorEq, false_iff]
    exact fun h => hnamed h.named

/-- A row with a name describes a column. -/
theorem exists_describes (h : (rowName fs).truthy = true) : ∃ c, Describes fs c := by
  simp only [← ofRow_eq_ok, ofRow, rowName_eq, h, Bool.not_true, Bool.false_eq_true, if_false, Except.ok.injEq, exists_eq']

/-- A row describes one column. -/
theorem Describes.eq (h : Describes fs c) (h' : Describes fs c') : c' = c :=
  Except.ok.inj ((ofRow_eq_ok.2 h').symm.trans (ofRow_eq_ok.2 h))

/-- The name is no flag. -/
theorem rowName_spelled (h : List.Forall₂ FieldSpelled fs fs') : rowName fs' = rowName fs := by
  have hcolumn : ∀ flag, "column_name" ≠ RowFlag.field flag := by intro flag; cases flag <;> decide
  have hname : ∀ flag, "name" ≠ RowFlag.field flag := by intro flag; cases flag <;> decide
  rw [rowName, rowName, Value.fieldOr, Value.fieldOr, field?_unspelled h hcolumn, field?_unspelled h hname]

/-- A row of which no key is misread describes the column that it describes with truth values. -/
theorem Describes.spelled (hc : Describes fs c) (h : List.Forall₂ FieldSpelled fs fs')
    (hnone : ∀ flag, ¬Misread flag (.record fs) (.record fs')) : Describes fs' c := by
  have hfield : ∀ name ∈ ["data_type", "type", "referenced_table", "referenced_column"],
      Value.field? fs' name = Value.field? fs name := by
    intro name hname
    refine field?_unspelled h fun flag => ?_
    cases flag <;> revert name <;> decide
  have hdefault : ∀ name ∈ ["data_type", "type", "referenced_table", "referenced_column"], ∀ default,
      Value.fieldOr fs' name default = Value.fieldOr fs name default := fun name hname default => by
    rw [Value.fieldOr, Value.fieldOr, hfield name hname]
  exact
    { named := rowName_spelled h ▸ hc.named
      name := rowName_spelled h ▸ hc.name
      declaredType := by
        rw [hfield "data_type" (by simp), hdefault "type" (by simp)]
        exact hc.declaredType
      keys := fun flag hflag => by
        rw [hc.keys flag hflag, Bool.eq_iff_iff, truthy_key h hflag, or_iff_left (hnone flag)]
      isNullable := by
        rw [flagOf_nullable h]
        exact hc.isNullable
      referencedTable := by
        rw [hdefault "referenced_table" (by simp)]
        exact hc.referencedTable
      referencedColumn := by
        rw [hdefault "referenced_column" (by simp)]
        exact hc.referencedColumn }

/-- A row is read if the row with flags spelled is. -/
theorem exists_ofRow_of_spelled (h : RowSpelled r r') (hc : ofRow r' = .ok c') : ∃ c, ofRow r = .ok c := by
  cases h with
  | record hfields =>
    obtain ⟨c, hold⟩ := exists_describes (rowName_spelled hfields ▸ (ofRow_eq_ok.1 hc).named)
    exact ⟨c, ofRow_eq_ok.2 hold⟩

/-- **A row with flags spelled is read**, and as it is with truth values exactly if no key is misread. -/
theorem ofRow_spelled (h : RowSpelled r r') (hc : ofRow r = .ok c) : ∃ c', ofRow r' = .ok c' ∧ Reread r r' c c' := by
  cases h with
  | @record fs fs' hfields =>
    have hold := ofRow_eq_ok.1 hc
    obtain ⟨c', hnew⟩ := exists_describes (rowName_spelled hfields ▸ hold.named)
    have hkeys : ∀ flag, flag ≠ .nullable →
        (c'.flag flag = true ↔ c.flag flag = true ∨ Misread flag (.record fs) (.record fs')) := fun flag hflag => by
      rw [hnew.keys flag hflag, hold.keys flag hflag, truthy_key hfields hflag]
    have hoff : ∀ flag, Misread flag (.record fs) (.record fs') → c.flag flag = false := fun flag hmisread => by
      obtain ⟨hkey, hfalse, -⟩ := misread_record.1 hmisread
      rw [hold.keys flag hkey, Value.fieldOr, hfalse]
      rfl
    refine ⟨c', ofRow_eq_ok.2 hnew, ⟨?_, ?_, hkeys, hoff, ?_, fun hnone => (hold.spelled hfields hnone).eq hnew⟩⟩
    · rw [hnew.name, hold.name, rowName_spelled hfields]
    · rw [hnew.isNullable, hold.isNullable, flagOf_nullable hfields]
    · rintro rfl flag hmisread
      have hon := (hkeys flag hmisread.isKey).2 (.inr hmisread)
      rw [hoff flag hmisread] at hon
      cases hon

end Column

/-! ## Reading a table -/

/-- How often a flag is on among the columns that are read from rows, next to those from truth values. -/
structure Recounted (rows rows' : List Value) (columns columns' : List Column) : Prop where
  names : columns'.map (·.name) = columns.map (·.name)
  same : columns' = columns ↔ NoneMisread rows rows'
  more : ∀ flag, flag ≠ .nullable → columns.countP (·.flag flag) ≤ columns'.countP (·.flag flag)
  /-- If no key is on more often, none is misread. -/
  none : (∀ flag, flag ≠ .nullable → columns'.countP (·.flag flag) ≤ columns.countP (·.flag flag)) →
    NoneMisread rows rows'

variable {columns columns' : List Column}

/-- One more row. -/
theorem Recounted.cons (h : Reread r r' c c') (hrest : Recounted rows rows' columns columns') :
    Recounted (r :: rows) (r' :: rows') (c :: columns) (c' :: columns') := by
  have hkept : ∀ flag, flag ≠ .nullable → c.flag flag = true → c'.flag flag = true := fun flag hflag hon =>
    (h.keys flag hflag).2 (.inl hon)
  refine ⟨?_, ?_, fun flag hflag => ?_, fun hfew => .cons (fun flag hmisread => ?_) (hrest.none fun flag hflag => ?_)⟩
  · rw [List.map_cons, List.map_cons, h.name, hrest.names]
  · rw [List.cons.injEq, h.same, hrest.same, NoneMisread, NoneMisread, List.forall₂_cons]
  · have hmore := hrest.more flag hflag
    have hhead := hkept flag hflag
    rw [List.countP_cons, List.countP_cons]
    split <;> split <;> first | omega | simp_all
  · -- The key counts for the new column and not for the old one, so that the others cannot make up for it.
    have hkey := hmisread.isKey
    have hmore := hrest.more flag hkey
    have hcount := hfew flag hkey
    rw [List.countP_cons, List.countP_cons, if_pos ((h.keys flag hkey).2 (.inr hmisread)),
      if_neg (by simp [h.off flag hmisread])] at hcount
    omega
  · have hhead := hkept flag hflag
    have hcount := hfew flag hflag
    rw [List.countP_cons, List.countP_cons] at hcount
    split at hcount <;> split at hcount <;> first | omega | simp_all

/-- **Rows with flags spelled are read**, one after the other. -/
theorem mapM_ofRow_spelled (h : List.Forall₂ RowSpelled rows rows') (hc : rows.mapM Column.ofRow = .ok columns) :
    ∃ columns', rows'.mapM Column.ofRow = .ok columns' ∧ Recounted rows rows' columns columns' := by
  simp only [mapM_eq_ok] at hc ⊢
  induction h generalizing columns with
  | nil =>
    cases hc
    exact ⟨[], .nil, rfl, iff_of_true rfl .nil, fun _ _ => Nat.le_refl _, fun _ => .nil⟩
  | cons hrow hrows ih =>
    cases hc with
    | cons hread hreads =>
      obtain ⟨c', hread', hreread⟩ := ofRow_spelled hrow hread
      obtain ⟨columns', hreads', hrecounted⟩ := ih hreads
      exact ⟨c' :: columns', .cons hread' hreads', hrecounted.cons hreread⟩

/-- **A table with flags spelled is read**, and as it is with truth values exactly if no key is misread. So are its keys,
taken together. -/
theorem ofRows_spelled (h : List.Forall₂ RowSpelled rows rows') (ht : Table.ofRows name (.list rows) = .ok t) :
    ∃ t', Table.ofRows name (.list rows') = .ok t' ∧ (t' = t ↔ NoneMisread rows rows') ∧
      (t'.primaryKeys = t.primaryKeys ∧ t'.foreignKeys = t.foreignKeys ↔ NoneMisread rows rows') := by
  obtain ⟨_, columns, ⟨⟩, hread, hnames, rfl⟩ := Catalog.ofRows_eq_ok.1 ht
  obtain ⟨columns', hread', hrecounted⟩ := mapM_ofRow_spelled h hread
  have hcounts : ∀ flag, columns'.filter (·.flag flag) = columns.filter (·.flag flag) →
      columns'.countP (·.flag flag) ≤ columns.countP (·.flag flag) := fun flag heq => by
    rw [List.countP_eq_length_filter, List.countP_eq_length_filter, heq]
  refine ⟨⟨name, columns'⟩, Catalog.ofRows_eq_ok.2 ⟨_, columns', rfl, hread', ?_, rfl⟩, ?_, ?_⟩
  · rwa [hrecounted.names]
  · rw [Table.mk.injEq, eq_self, true_and, hrecounted.same]
  · constructor
    · rintro ⟨hprimary, hforeign⟩
      refine hrecounted.none fun flag hflag => ?_
      cases flag with
      | primaryKey => exact hcounts .primaryKey hprimary
      | foreignKey => exact hcounts .foreignKey hforeign
      | nullable => exact absurd rfl hflag
    · intro hnone
      rw [hrecounted.same.2 hnone]
      exact ⟨rfl, rfl⟩

theorem exists_mapM_of_spelled (h : List.Forall₂ RowSpelled rows rows')
    (hread : ∃ columns', rows'.mapM Column.ofRow = .ok columns') : ∃ columns, rows.mapM Column.ofRow = .ok columns := by
  rw [exists_mapM_eq_ok] at hread ⊢
  induction h with
  | nil => simp
  | cons hrow hrows ih =>
    obtain ⟨⟨c', hc'⟩, hrest⟩ := List.forall_mem_cons.1 hread
    exact List.forall_mem_cons.2 ⟨exists_ofRow_of_spelled hrow hc', ih hrest⟩

/-- A table is read if the one with flags spelled is. -/
theorem exists_ofRows_of_spelled (h : List.Forall₂ RowSpelled rows rows')
    (ht : Table.ofRows name (.list rows') = .ok t) : ∃ t, Table.ofRows name (.list rows) = .ok t := by
  obtain ⟨_, columns', ⟨⟩, hread', hnames, -⟩ := Catalog.ofRows_eq_ok.1 ht
  obtain ⟨columns, hread⟩ := exists_mapM_of_spelled h ⟨columns', hread'⟩
  obtain ⟨_, hagain, hrecounted⟩ := mapM_ofRow_spelled h hread
  obtain rfl := Except.ok.inj (hread'.symm.trans hagain)
  exact ⟨_, Catalog.ofRows_eq_ok.2 ⟨_, columns, rfl, hread, hrecounted.names ▸ hnames, rfl⟩⟩

/-! ## Loading a catalog -/

namespace Catalog

/-- Two catalogs of the same tables, with warnings of the same tables. -/
structure SameTables (cat cat' : Catalog) : Prop where
  tables : cat'.tables = cat.tables
  warned : cat'.warnings.map (·.table) = cat.warnings.map (·.table)

/-- Two answers of which the second may give another reason for which there is no table. -/
inductive SameAnswer : Except Fault Table → Except Fault Table → Prop
  | same (a : Except Fault Table) : SameAnswer a a
  | refused {f f' : Fault} (h : f.kind ≠ .abandoned) (h' : f'.kind ≠ .abandoned) : SameAnswer (.error f) (.error f')

variable {reader reader' : SchemaReader} {cat cat' d : Catalog}

/-- A table that is not read is not read from texts either: the reason, which shows the row, is another one. -/
theorem sameAnswer_spelled (h : reader.Spelled reader') (name : Value) :
    SameAnswer (loadTable reader name) (loadTable reader' name) := by
  rcases h.rows name with heq | ⟨rows, rows', hrows, hrows', hspelled, hnone⟩
  · have hsame : loadTable reader' name = loadTable reader name := by
      unfold loadTable
      rw [heq]
    rw [hsame]
    exact .same _
  · rw [loadTable_of_rows hrows (by simp), loadTable_of_rows hrows' (by simp)]
    cases ht : Table.ofRows name.toText (.list rows) with
    | ok t =>
      obtain ⟨t', ht', hsame, -⟩ := ofRows_spelled hspelled ht
      rw [ht', hsame.2 hnone]
      exact .same _
    | error e =>
      cases ht' : Table.ofRows name.toText (.list rows') with
      | ok t' =>
        obtain ⟨t, hread⟩ := exists_ofRows_of_spelled hspelled ht'
        cases ht.symm.trans hread
      | error e' => exact .refused (fault_ne_abandoned e) (fault_ne_abandoned e')

theorem addAnswer_same {a a' : Except Fault Table} {name : Value} (hcat : SameTables cat cat') (ha : SameAnswer a a')
    (h : cat.addAnswer name a = .ok d) : ∃ d', cat'.addAnswer name a' = .ok d' ∧ SameTables d d' := by
  cases ha with
  | same =>
    cases a with
    | ok t =>
      cases h
      exact ⟨_, rfl, by rw [hcat.tables], hcat.warned⟩
    | error f =>
      unfold addAnswer at h ⊢
      dsimp only at h ⊢
      split at h
      · cases h
      · next hkind =>
        cases h
        rw [if_neg hkind]
        exact ⟨_, rfl, hcat.tables, by simp [hcat.warned]⟩
  | refused hkind hkind' =>
    rw [addAnswer_of_error hkind] at h
    cases h
    exact ⟨_, addAnswer_of_error hkind', hcat.tables, by simp [hcat.warned]⟩

/-- What each step keeps is kept by all of them. -/
theorem foldlM_same {α : Type} {f f' : Catalog → α → Except LoadError Catalog}
    (hf : ∀ x cat cat' d, SameTables cat cat' → f cat x = .ok d → ∃ d', f' cat' x = .ok d' ∧ SameTables d d')
    (hcat : SameTables cat cat') {xs : List α} (h : xs.foldlM f cat = .ok d) :
    ∃ d', xs.foldlM f' cat' = .ok d' ∧ SameTables d d' := by
  induction xs generalizing cat cat' with
  | nil =>
    cases h
    exact ⟨cat', rfl, hcat⟩
  | cons x xs ih =>
    rw [List.foldlM_cons] at h
    obtain ⟨e, he, hrest⟩ := bind_eq_ok.1 h
    obtain ⟨e', he', hsame⟩ := hf x cat cat' e hcat he
    obtain ⟨d', hd', hsame'⟩ := ih hsame hrest
    exact ⟨d', by rw [List.foldlM_cons, he', ok_bind, hd'], hsame'⟩

theorem addBatch_same (h : reader.Spelled reader') (hcat : SameTables cat cat') {batch : List Value}
    (hd : cat.addBatch (answersOf reader batch) = .ok d) :
    ∃ d', cat'.addBatch (answersOf reader' batch) = .ok d' ∧ SameTables d d' := by
  unfold addBatch answersOf at hd ⊢
  rw [List.foldlM_map] at hd ⊢
  refine foldlM_same (fun name cat cat' d hcat hd => ?_) hcat hd
  exact addAnswer_same hcat (sameAnswer_spelled h name) hd

/-- **A catalog is loaded from texts** as it is from truth values, but for the reasons that its warnings give. -/
theorem load_spelled (h : reader.Spelled reader') {setting : Option Int} {report : LoadReport}
    (hload : load reader setting = .ok report) :
    ∃ report', load reader' setting = .ok report' ∧ SameTables report.catalog report'.catalog := by
  have hlisted : listedNames reader' = listedNames reader := by
    unfold listedNames
    rw [h.listing]
  unfold load at hload ⊢
  obtain ⟨names, hnames, hload⟩ := bind_eq_ok.1 hload
  obtain ⟨loaded, hbatches, hload⟩ := bind_eq_ok.1 hload
  obtain ⟨cat, hbuilt, hload⟩ := bind_eq_ok.1 hload
  cases hload
  have hbatch : ∀ (batch : List Value) (cat cat' d : Catalog), SameTables cat cat' →
      cat.addBatch (answersOf reader batch) = .ok d →
      ∃ d', cat'.addBatch (answersOf reader' batch) = .ok d' ∧ SameTables d d' :=
    fun _ _ _ _ hcat hd => addBatch_same h hcat hd
  obtain ⟨loaded', hbatches', hsame⟩ := foldlM_same hbatch ⟨rfl, rfl⟩ hbatches
  rw [hlisted, hnames]
  simp only [ok_bind, hbatches']
  unfold built at hbuilt ⊢
  rw [hsame.tables]
  split at hbuilt
  · next distinct hdistinct =>
    cases hbuilt
    exact ⟨_, rfl, rfl, hsame.warned⟩
  · cases hbuilt

/-- What a catalog suggests depends on its tables. -/
theorem SameTables.suggestJoins (h : SameTables cat cat') (left right : Value) (ids : IdSupply) :
    cat'.suggestJoins left right ids = cat.suggestJoins left right ids := by
  have hlookup : ∀ v, cat'.lookupOf? v = cat.lookupOf? v := fun v => by
    unfold lookupOf? lookup?
    rw [h.tables]
  unfold Catalog.suggestJoins
  rw [hlookup, hlookup]

end Catalog

/-! ## When flags read the same -/

/-- **Truth values and texts.** A row is read with flags spelled exactly if it is read with their truth values. The column
is the same exactly if no key is misread; in any case it may be null exactly if it may be so by its truth value, and a
key is on exactly if it is so by its truth value or is misread. The same goes for the rows of a table, and for its keys.
If no key is misread, the catalog that is loaded suggests the same joins. -/
theorem flags_read (r r' : Value) :
    (RowSpelled r r' → ((∃ c, Column.ofRow r = .ok c) ↔ ∃ c', Column.ofRow r' = .ok c') ∧
      ∀ c, Column.ofRow r = .ok c → ∃ c', Column.ofRow r' = .ok c' ∧ Reread r r' c c') ∧
    (∀ name rows rows' t, List.Forall₂ RowSpelled rows rows' → Table.ofRows name (.list rows) = .ok t →
      ∃ t', Table.ofRows name (.list rows') = .ok t' ∧ (t' = t ↔ NoneMisread rows rows') ∧
        (t'.primaryKeys = t.primaryKeys ∧ t'.foreignKeys = t.foreignKeys ↔ NoneMisread rows rows')) ∧
    ∀ reader reader' setting report, reader.Spelled reader' → Catalog.load reader setting = .ok report →
      ∃ report', Catalog.load reader' setting = .ok report' ∧ report'.catalog.tables = report.catalog.tables ∧
        ∀ left right ids, report'.catalog.suggestJoins left right ids = report.catalog.suggestJoins left right ids := by
  refine ⟨fun h => ⟨⟨?_, ?_⟩, fun c hc => ofRow_spelled h hc⟩, fun name rows rows' t => ofRows_spelled, ?_⟩
  · rintro ⟨c, hc⟩
    obtain ⟨c', hc', -⟩ := ofRow_spelled h hc
    exact ⟨c', hc'⟩
  · rintro ⟨c', hc'⟩
    exact exists_ofRow_of_spelled h hc'
  · intro reader reader' setting report h hload
    obtain ⟨report', hload', hsame⟩ := Catalog.load_spelled h hload
    exact ⟨report', hload', hsame.tables, hsame.suggestJoins⟩

/-- A row for the key of orders, with its flags as they are reported. -/
def orderKey (primary nullable : Value) : List (String × Value) :=
  [("name", .text "id"), ("data_type", .text "integer"), ("is_primary_key", primary), ("is_nullable", nullable)]

/-- A key that is on and a column that may not be null, spelled in letters of both cases and with blanks. -/
theorem flags_read_orderKey :
    RowSpelled (.record (orderKey (.bool true) (.bool false))) (.record (orderKey (.text "Yes") (.text " nO\t"))) ∧
      ∃ c, Column.ofRow (.record (orderKey (.bool true) (.bool false))) = .ok c ∧
        Column.ofRow (.record (orderKey (.text "Yes") (.text " nO\t"))) = .ok c := by
  have hyes : SpellsFlag true "Yes" :=
    ⟨[], ['Y', 'e', 's'], [], by simp [Text.Blanks], by simp [Text.Blanks], by decide, by decide⟩
  have hno : SpellsFlag false " nO\t" :=
    ⟨[' '], ['n', 'O'], ['\t'], List.forall_mem_singleton.2 (by decide), List.forall_mem_singleton.2 (by decide),
      by decide, by decide⟩
  have hspelled : RowSpelled (.record (orderKey (.bool true) (.bool false)))
      (.record (orderKey (.text "Yes") (.text " nO\t"))) :=
    .record (.cons (.kept _) (.cons (.kept _) (.cons (.spelled .primaryKey hyes)
      (.cons (.spelled .nullable hno) .nil))))
  obtain ⟨c', hc', hreread⟩ := ((flags_read _ _).1 hspelled).2 _ rfl
  have hnone : ∀ flag, ¬Misread flag (.record (orderKey (.bool true) (.bool false)))
      (.record (orderKey (.text "Yes") (.text " nO\t"))) := by
    rintro flag ⟨hkey, hoff, -⟩
    cases flag with
    | primaryKey | foreignKey => cases hoff
    | nullable => exact hkey rfl
  exact ⟨hspelled, _, rfl, hreread.same.2 hnone ▸ hc'⟩

/-- A row for a column of orders that could refer to customers, with its flag as it is reported. -/
def orderCustomer (foreign : Value) : List (String × Value) :=
  [("name", .text "customer_id"), ("data_type", .text "integer"), ("is_foreign_key", foreign),
    ("referenced_table", .text "customers"), ("referenced_column", .text "id")]

/-- The catalog of customers, and of orders with one column. -/
def ordersAnd (c : Column) : Catalog :=
  ⟨[⟨"orders", [c]⟩, ⟨"customers", [⟨"id", "integer", true, false, false, .null, .null⟩]⟩], []⟩

/-- **A key that is misread**: a column that is no foreign key is read as one from the text, so that a join is suggested
that is none from the truth value. -/
theorem key_misread :
    RowSpelled (.record (orderCustomer (.bool false))) (.record (orderCustomer (.text "NO"))) ∧
      ∃ c c', Column.ofRow (.record (orderCustomer (.bool false))) = .ok c ∧
        Column.ofRow (.record (orderCustomer (.text "NO"))) = .ok c' ∧ c' ≠ c ∧
        c.isForeignKey = false ∧ c'.isForeignKey = true ∧
        ((ordersAnd c).suggestJoins (.text "orders") (.text "customers") .fresh).1 = [] ∧
        ((ordersAnd c').suggestJoins (.text "orders") (.text "customers") .fresh).1 =
          [⟨"id-1", "orders", "customer_id", "customers", "id", .inner⟩] := by
  have hno : SpellsFlag false "NO" :=
    ⟨[], ['N', 'O'], [], by simp [Text.Blanks], by simp [Text.Blanks], by decide, by decide⟩
  refine ⟨.record (.cons (.kept _) (.cons (.kept _) (.cons (.spelled .foreignKey hno)
    (.cons (.kept _) (.cons (.kept _) .nil))))), _, _, rfl, rfl, fun heq => ?_, rfl, rfl, by decide +kernel,
    by decide +kernel⟩
  exact Bool.false_ne_true (congrArg Column.isForeignKey heq).symm

end QueryCanvas
