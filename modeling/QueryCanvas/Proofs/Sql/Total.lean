import QueryCanvas.Proofs.Sql.Compile

/-!
# Compiling does not fail, but for numbers

A canvas whose operands have the shapes that their operators require compiles to a text over every catalog,
unless one of its numbers has too many digits to be written. Nothing else goes wrong: no operand is a misfit
and no operator is without its comparison.

* `failsOnly_compile`: the only errors of compiling.
* `compile_cases`: what compiling comes to.
-/

namespace QueryCanvas

namespace Sql

open Canvas

variable {d : Dialect} {cat : Catalog} {c : Canvas} {f : Filter}

/-- An error about a number that is too long. -/
def CompileError.IsNumeral (e : CompileError) : Prop :=
  ∃ n, e = .numeral n

theorem failsOnly_lift {α : Type} (x : Except NumeralTooLong α) :
    FailsOnly CompileError.IsNumeral (liftM x : Except CompileError α) := by
  cases x with
  | ok a => exact failsOnly_ok a
  | error e => exact failsOnly_error ⟨e, rfl⟩

/-- An operand of the shape that its operator requires fails as a number only. -/
theorem failsOnly_conditionOf (hshape : f.value.shape = f.operator.shape) :
    FailsOnly CompileError.IsNumeral (conditionOf cat f) := by
  cases hval : f.value with
  | none =>
    rw [hval] at hshape
    rcases FilterOperator.shape_eq_none.1 hshape.symm with hop | hop <;>
      simp only [conditionOf, hop] <;>
      exact failsOnly_ok _
  | list vs =>
    rw [hval] at hshape
    have hop := FilterOperator.shape_eq_list.1 hshape.symm
    simp only [conditionOf, hop, hval]
    exact failsOnly_bind (failsOnly_lift _) fun ws => failsOnly_ok _
  | range lo hi =>
    rw [hval] at hshape
    have hop := FilterOperator.shape_eq_range.1 hshape.symm
    simp only [conditionOf, hop, hval]
    exact failsOnly_bind (failsOnly_lift _) fun l => failsOnly_bind (failsOnly_lift _) fun h => failsOnly_ok _
  | scalar v =>
    rw [hval] at hshape
    rcases FilterOperator.shape_eq_scalar.1 hshape.symm with hop | hop | hop | hop | hop <;>
      simp only [conditionOf, hop, hval]
    case inr.inr.inl | inr.inr.inr.inl =>
      exact failsOnly_bind (failsOnly_lift _) fun w => failsOnly_bind (failsOnly_lift _) fun u => failsOnly_ok _
    all_goals exact failsOnly_bind (failsOnly_lift _) fun w => failsOnly_ok _

/-- **Compiling fails** as a number only. -/
theorem failsOnly_compile (hshaped : ∀ f ∈ c.filters, f.value.shape = f.operator.shape) :
    FailsOnly CompileError.IsNumeral (compile d cat c) := by
  have hstatement : FailsOnly CompileError.IsNumeral (statement? cat c) := by
    unfold statement?
    cases c.tables with
    | nil => exact failsOnly_ok none
    | cons t ts =>
      refine failsOnly_bind (failsOnly_mapM fun f hf => ?_) fun ks => ?_
      · exact failsOnly_bind (failsOnly_conditionOf (hshaped f hf)) fun k => failsOnly_ok _
      · exact failsOnly_bind (failsOnly_lift _) fun l => failsOnly_ok _
  refine failsOnly_bind hstatement fun s => ?_
  cases s with
  | none => exact failsOnly_ok noTables
  | some s => exact failsOnly_ok _

/-- What a canvas compiles to: nothing to run without a table, a query if the numbers fit, and otherwise an
error about a number. -/
inductive Compiles (d : Dialect) (cat : Catalog) (c : Canvas) : Prop
  | nothing (htables : c.tables = []) (h : compile d cat c = .ok noTables)
  | query {sql : String} (htables : c.tables ≠ []) (hfits : NumbersFit cat c) (h : compile d cat c = .ok sql)
      (hquery : sql ≠ noTables) (hselect : "SELECT ".toList <+: sql.toList)
  | tooLong {e : NumeralTooLong} (htables : c.tables ≠ []) (hlong : ¬NumbersFit cat c)
      (h : compile d cat c = .error (.numeral e))

/-- **What compiling comes to**, over every catalog and in every dialect. -/
theorem compile_cases (d : Dialect) (cat : Catalog) (hshaped : ∀ f ∈ c.filters, f.value.shape = f.operator.shape) :
    Compiles d cat c := by
  by_cases htables : c.tables = []
  · exact .nothing htables (by simp [compile, statement?, htables])
  · have hgiven : (∃ sql, compile d cat c = .ok sql) ↔ NumbersFit cat c :=
      compile_given_of_shaped hshaped htables
    by_cases hfits : NumbersFit cat c
    · obtain ⟨sql, hsql⟩ := hgiven.2 hfits
      obtain ⟨s, -, hchars⟩ := compile_eq_ok htables hsql
      obtain ⟨rest, hrest⟩ := chars_eq_select d s
      refine .query htables hfits hsql (bne_iff_ne.1 (isExecutable_of_compile htables hsql)) ?_
      rw [hchars, hrest]
      exact List.prefix_append _ _
    · obtain ⟨e, he⟩ := exists_error_iff.2 (mt hgiven.1 hfits)
      obtain ⟨n, rfl⟩ := failsOnly_compile hshaped e he
      exact .tooLong htables hfits he

end Sql

end QueryCanvas
