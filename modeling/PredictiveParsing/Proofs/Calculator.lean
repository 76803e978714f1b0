import PredictiveParsing.Grammar.Calculator
import PredictiveParsing.Proofs.Budget

/-!
# The calculator's grammar

The rules of the calculator call each other, and its operators stand in chains. Even so
every parser in it knows whether it accepts empty input and on which symbols it begins,
and no chain has an operand that accepts empty input.
-/

namespace PredictiveParsing.Calculator

/-- A property of the whole grammar is one of the two bodies, since these contain both rules. -/
theorem throughout {P : (α : Type) → Parser Char (fun _ => Int64) α → Prop}
    (hexpr : (exprBody (.rule factorRule)).Everywhere P)
    (hfactor : (factorBody (.rule exprRule) (.rule factorRule)).Everywhere P) :
    rules.Throughout P calculator := by
  constructor
  · exact hfactor.2.1.2.2.2.2.1.2.2.2
  · intro i body hi
    match i with
    | 0 =>
        cases hi
        exact hexpr
    | 1 =>
        cases hi
        exact hfactor
    | _ + 2 => cases hi

theorem isPremade : rules.Throughout Parser.IsPremade calculator := by
  refine throughout ?_ ?_
  · repeat' constructor
  · repeat' constructor

theorem guarded : rules.Throughout rules.Guarded calculator := by
  refine throughout ?_ ?_
  · repeat' constructor
    -- What is left are the operands of the three chains.
    all_goals exact nofun
  · repeat' constructor

theorem answers : rules.Throughout (fun _ p =>
    (∃ b m, Memory.askAcceptsEmpty rules p {} = .ok b m) ∧
      ∃ set m, Memory.askFirstSet rules p {} = .ok set m) calculator := by
  refine throughout ?_ ?_
  · simp only [exprBody, operator, Parser.chainl1, Parser.chainr1, Parser.valueAs,
      Parser.constant, Parser.value, Parser.Everywhere]
    repeat' apply And.intro
    all_goals exact ⟨_, _, rfl⟩
  · simp only [factorBody, number, digit, Parser.between, Parser.andL, Parser.andR,
      Parser.symbolWhere, Parser.value, Parser.Everywhere]
    repeat' apply And.intro
    all_goals exact ⟨_, _, rfl⟩

theorem founded : rules.Throughout rules.Founded calculator :=
  (answers.and guarded).mono fun _ _ h => ⟨h.1.1, h.1.2, h.2⟩

theorem premade : rules.Throughout rules.Premade calculator :=
  (isPremade.and guarded).mono fun _ _ h => ⟨h.1, Rules.Guarded.chainsRead h.2⟩

end PredictiveParsing.Calculator
