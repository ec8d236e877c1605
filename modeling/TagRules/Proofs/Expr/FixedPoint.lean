import TagRules.Proofs.Expr.Shaped

/-!
# The canonical text as a fixed point

The canonical text of what was compiled is compiled to the same tree if the tree is stable.
-/

namespace TagRules

theorem Compile.fixed_of_stable {text : String} {c : Compiled} (h : compile none text = .ok c)
    (stable : c.expr.Stable) : ∃ c', compile none c.expr.canonical = .ok c' ∧ c'.expr = c.expr :=
  stable.compile_canonical (shaped_of_compile h).1 (shaped_of_compile h).2

theorem Compile.notTrue_fixed : ∃ c, compile none "!(true)" = .ok c ∧ c.expr.Stable ∧
    ∃ c', compile none c.expr.canonical = .ok c' ∧ c'.expr = c.expr := by
  have formed : (Expr.not (.literal (.bool true))).Formed Operand.Legible := .notLiteral true
  obtain ⟨c, compiled, same⟩ := formed.compile_canonical rfl
  have stable : c.expr.Stable := by
    rw [same]
    exact .inr formed
  exact ⟨c, compiled, stable, fixed_of_stable compiled stable⟩

end TagRules
