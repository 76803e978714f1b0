import PredictiveParsing.Parser

/-!
# Properties of all parsers of a grammar

`p.Everywhere P` says that a property holds of `p`, of the parsers it is put together
from, and of every parser that a `flatMap` in it can go on with. `rules.Throughout P p`
says so of `p` and of the bodies of all rules: of the whole grammar that starts at `p`.
-/

namespace PredictiveParsing

variable {σ : Type} {ρ : Nat → Type} {α β : Type}

namespace Parser

def Everywhere (P : (α : Type) → Parser σ ρ α → Prop) : {α : Type} → Parser σ ρ α → Prop
  | _, .pure a => P _ (.pure a)
  | α, .fail message => P α (.fail message)
  | _, .eof => P _ .eof
  | _, .satisfy set => P _ (.satisfy set)
  | _, .literal name first rest => P _ (.literal name first rest)
  | _, .longest r => P _ (.longest r)
  | _, .map f p => P _ (.map f p) ∧ p.Everywhere P
  | _, .tryMap f p => P _ (.tryMap f p) ∧ p.Everywhere P
  | _, .and p q => P _ (.and p q) ∧ p.Everywhere P ∧ q.Everywhere P
  | _, .or p q => P _ (.or p q) ∧ p.Everywhere P ∧ q.Everywhere P
  | _, .flatMap p k => P _ (.flatMap p k) ∧ p.Everywhere P ∧ ∀ a, (k a).Everywhere P
  | _, .label name p => P _ (.label name p) ∧ p.Everywhere P
  | _, .lookahead p => P _ (.lookahead p) ∧ p.Everywhere P
  | _, .not p => P _ (.not p) ∧ p.Everywhere P
  | _, .optional p => P _ (.optional p) ∧ p.Everywhere P
  | _, .sequence ps => P _ (.sequence ps) ∧ ∀ i, (ps i).Everywhere P
  | _, .many p => P _ (.many p) ∧ p.Everywhere P
  | _, .many1 p => P _ (.many1 p) ∧ p.Everywhere P
  | _, .skipMany p => P _ (.skipMany p) ∧ p.Everywhere P
  | _, .times min max p => P _ (.times min max p) ∧ p.Everywhere P
  | _, .manyTill p stop => P _ (.manyTill p stop) ∧ p.Everywhere P ∧ stop.Everywhere P
  | _, .chain side operand op =>
    P _ (.chain side operand op) ∧ operand.Everywhere P ∧ op.Everywhere P
  | _, .declared acceptsEmpty firstSet p =>
    P _ (.declared acceptsEmpty firstSet p) ∧ p.Everywhere P
  | _, .recording failure p => P _ (.recording failure p) ∧ p.Everywhere P
  | _, .rule i => P _ (.rule i)

variable {P Q : (α : Type) → Parser σ ρ α → Prop}

theorem Everywhere.here {p : Parser σ ρ α} (h : p.Everywhere P) : P α p := by
  cases p with
  | pure | fail | eof | satisfy | literal | longest | rule => exact h
  | map | tryMap | and | or | flatMap | label | lookahead | not | optional | sequence | many
  | many1 | skipMany | times | manyTill | chain | declared | recording => exact h.1

theorem Everywhere.mono (hPQ : ∀ α (p : Parser σ ρ α), P α p → Q α p) {p : Parser σ ρ α}
    (h : p.Everywhere P) : p.Everywhere Q := by
  induction p with
  | pure | fail | eof | satisfy | literal | longest | rule => exact hPQ _ _ h
  | map _ _ ih | tryMap _ _ ih | label _ _ ih | lookahead _ ih | not _ ih | optional _ ih
  | many _ ih | many1 _ ih | skipMany _ ih | times _ _ _ ih | declared _ _ _ ih
  | recording _ _ ih => exact ⟨hPQ _ _ h.1, ih h.2⟩
  | and _ _ ihp ihq | or _ _ ihp ihq | manyTill _ _ ihp ihq | chain _ _ _ ihp ihq =>
      exact ⟨hPQ _ _ h.1, ihp h.2.1, ihq h.2.2⟩
  | flatMap _ _ ihp ihk => exact ⟨hPQ _ _ h.1, ihp h.2.1, fun a => ihk a (h.2.2 a)⟩
  | sequence _ ih => exact ⟨hPQ _ _ h.1, fun i => ih i (h.2 i)⟩

theorem Everywhere.of_forall (hP : ∀ α (p : Parser σ ρ α), P α p) (p : Parser σ ρ α) :
    p.Everywhere P := by
  induction p with
  | pure | fail | eof | satisfy | literal | longest | rule => exact hP _ _
  | map _ _ ih | tryMap _ _ ih | label _ _ ih | lookahead _ ih | not _ ih | optional _ ih
  | many _ ih | many1 _ ih | skipMany _ ih | times _ _ _ ih | declared _ _ _ ih
  | recording _ _ ih => exact ⟨hP _ _, ih⟩
  | and _ _ ihp ihq | or _ _ ihp ihq | manyTill _ _ ihp ihq | chain _ _ _ ihp ihq =>
      exact ⟨hP _ _, ihp, ihq⟩
  | flatMap _ _ ihp ihk => exact ⟨hP _ _, ihp, ihk⟩
  | sequence _ ih => exact ⟨hP _ _, ih⟩

theorem Everywhere.and {p : Parser σ ρ α} (h : p.Everywhere P) (h' : p.Everywhere Q) :
    p.Everywhere fun α p => P α p ∧ Q α p := by
  induction p with
  | pure | fail | eof | satisfy | literal | longest | rule => exact ⟨h, h'⟩
  | map _ _ ih | tryMap _ _ ih | label _ _ ih | lookahead _ ih | not _ ih | optional _ ih
  | many _ ih | many1 _ ih | skipMany _ ih | times _ _ _ ih | declared _ _ _ ih
  | recording _ _ ih => exact ⟨⟨h.1, h'.1⟩, ih h.2 h'.2⟩
  | and _ _ ihp ihq | or _ _ ihp ihq | manyTill _ _ ihp ihq | chain _ _ _ ihp ihq =>
      exact ⟨⟨h.1, h'.1⟩, ihp h.2.1 h'.2.1, ihq h.2.2 h'.2.2⟩
  | flatMap _ _ ihp ihk =>
      exact ⟨⟨h.1, h'.1⟩, ihp h.2.1 h'.2.1, fun a => ihk a (h.2.2 a) (h'.2.2 a)⟩
  | sequence _ ih => exact ⟨⟨h.1, h'.1⟩, fun i => ih i (h.2 i) (h'.2 i)⟩

/-- Made by the combinators alone: no recognizer, nothing declared or recorded from outside,
and the bounds of a repetition in order. -/
def IsPremade : (α : Type) → Parser σ ρ α → Prop
  | _, .longest _ => False
  | _, .declared .. => False
  | _, .recording .. => False
  | _, .times min max _ => min ≤ max
  | _, _ => True

def BoundsInOrder : (α : Type) → Parser σ ρ α → Prop
  | _, .times min max _ => min ≤ max
  | _, _ => True

theorem IsPremade.boundsInOrder {p : Parser σ ρ α} (h : IsPremade α p) : BoundsInOrder α p := by
  cases p with
  | times => exact h
  | pure | fail | eof | satisfy | literal | longest | rule | map | tryMap | and | or | flatMap
  | label | lookahead | not | optional | sequence | many | many1 | skipMany | manyTill | chain
  | declared | recording => exact trivial

end Parser

namespace Rules

/-- The property holds of the parser, of the bodies of the rules, and of every parser in them. -/
structure Throughout (rules : Rules σ ρ) (P : (α : Type) → Parser σ ρ α → Prop)
    (p : Parser σ ρ α) : Prop where
  start : p.Everywhere P
  body : ∀ i body, rules.body? i = some body → body.Everywhere P

variable {rules : Rules σ ρ} {P Q : (α : Type) → Parser σ ρ α → Prop} {p : Parser σ ρ α}

theorem Throughout.mono (hPQ : ∀ α (p : Parser σ ρ α), P α p → Q α p)
    (h : rules.Throughout P p) : rules.Throughout Q p :=
  ⟨h.start.mono hPQ, fun i body hi => (h.body i body hi).mono hPQ⟩

theorem Throughout.of_forall (hP : ∀ α (p : Parser σ ρ α), P α p) : rules.Throughout P p :=
  ⟨.of_forall hP p, fun _ body _ => .of_forall hP body⟩

theorem Throughout.and (h : rules.Throughout P p) (h' : rules.Throughout Q p) :
    rules.Throughout (fun α p => P α p ∧ Q α p) p :=
  ⟨h.start.and h'.start, fun i body hi => (h.body i body hi).and (h'.body i body hi)⟩

/-- Without rules, what holds of the parsers in a parser holds throughout the grammar. -/
theorem throughout_empty (h : p.Everywhere P) : Rules.empty.Throughout P p := ⟨h, nofun⟩

end Rules

end PredictiveParsing
