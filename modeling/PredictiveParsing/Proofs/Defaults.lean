import PredictiveParsing.Proofs.Chains

/-!
# Chains with a default

A chain that may have no operand is a choice between the chain with one and a value
(`Parser.chainl`, `Parser.chainr`). The choice takes the value for any failure of the chain
(`Rules.ComesTo.or_pure`), and a chain fails in two ways: at its first operand, or in a later round
that got further than it began (`Rules.chain_default`). So the value is given also behind operands
and operators that could be read, if an operator has nothing behind it
(`Subtraction.default_behind_operand`).
-/

namespace PredictiveParsing

variable {σ : Type} {ρ : Nat → Type} {S α : Type}

/-- The outcome, or a value at the cursor in place of a failure. -/
def Outcome.orValue (d : α) (c : Cursor) : Outcome σ α → Outcome σ α
  | .success a next => .success a next
  | .failure _ => .success d c

namespace Rules

variable [BEq σ] {rules : Rules σ ρ} {symbols : List σ} {p operand : Parser σ ρ α}
  {op : Parser σ ρ (α → α → α)} {side : Side} {c : Cursor} {out : Outcome σ α}

/-- A choice with a value comes to what the parser does, with the value in place of any failure. At
the end of the input, where a parser that needs a symbol is not applied, it would have to fail. -/
theorem ComesTo.or_pure (d : α) (h : rules.ComesTo symbols p c out)
    (hneeds : rules.AcceptsEmpty p false → symbols.length ≤ c.position → ∃ f, out = .failure f)
    (hmisused : ¬rules.Misused symbols (p.or (.pure d)) c) :
    rules.ComesTo symbols (p.or (.pure d)) c (out.orValue d c) := by
  obtain ⟨budget, h, hpos⟩ := (h.and (Filter.eventually_gt_atTop 0)).exists
  obtain ⟨rounds, rfl⟩ := Nat.exists_eq_add_one.mpr hpos
  refine comesTo_of_yields (E := NotExhausted) (rounds + 1) (fun _ hnot => ⟨hnot, hmisused⟩) ?_
  have hhost := Session.host_faithful (S := Array σ) rules symbols
  have hboth : Yields (Session.Consistent rules symbols) NotExhausted
      ((Session.host (S := Array σ) rules).both (rules.apply (Session.host rules) (rounds + 1) p)
        (rules.apply (Session.host rules) (rounds + 1) (.pure d)) c) (· = out.orValue d c) := by
    refine (h (Array σ)).yields.bind ?_
    rintro out rfl
    cases out with
    | success a next => exact Yields.pure rfl
    | failure f =>
        refine (hhost.recover c f).bind ?_
        intro _ _
        exact Yields.pure rfl
  refine (hhost.atEnd c).bind ?_
  intro ended hended
  cases ended with
  | false => exact hboth
  | true =>
      refine (Session.acceptsEmpty_yields (rfl : rules.AcceptsEmpty (.pure d) true)).bind ?_
      rintro _ rfl
      refine (Inquiry.act_yields (fun _ => nofun) (hhost.acceptsEmpty p)).bind ?_
      intro accepts haccepts
      cases accepts with
      | true => exact hboth
      | false =>
          obtain ⟨f, rfl⟩ := hneeds haccepts (hended.mp rfl)
          exact Yields.pure rfl

/-- With a default, a chain on either side comes to what it does without one, with the default in
place of any failure: where the first operand fails, and where it succeeds, but after a number of
rounds one fails further on than it began. The operand keeps its word at the end of the input. -/
theorem chain_default (d : α) (h : rules.ComesTo symbols (.chain side operand op) c out)
    (hneeds : rules.AcceptsEmpty operand false → symbols.length ≤ c.position →
      ∃ f, rules.ComesTo symbols operand c (.failure f))
    (hmisused : ¬rules.Misused symbols ((Parser.chain side operand op).or (.pure d)) c) :
    rules.ComesTo symbols ((Parser.chain side operand op).or (.pure d)) c (out.orValue d c) ∧
      (∀ f, rules.ComesTo symbols operand c (.failure f) → out = .failure f) ∧
      ∀ f, out = .failure f → rules.ComesTo symbols operand c (.failure f) ∨
        ∃ x next pairs e, rules.ComesTo symbols operand c (.success x next) ∧
          Steps (rules.Link symbols operand op) next pairs e ∧
          rules.LinkFails symbols operand op e f ∧ e.position < f.position := by
  refine ⟨?_, fun f hoperand => h.unique (hoperand.chain_first side op), ?_⟩
  · refine h.or_pure d ?_ hmisused
    intro hempty hended
    obtain ⟨f, hoperand⟩ := hneeds hempty hended
    exact ⟨f, h.unique (hoperand.chain_first side op)⟩
  · rintro f rfl
    rcases h.chain_failure.1 with hoperand | ⟨x, next, hx, pairs, e, hpairs, hfails, hlt⟩
    · exact .inl hoperand
    · exact .inr ⟨x, next, pairs, e, hx, hpairs, hfails, hlt⟩

end Rules

/-! ### An operator without an operand -/

namespace Subtraction

/-- Behind `7-` there is no operand, so the chain fails. -/
theorem chain_default_minus :
    ∃ f, Rules.empty.ComesTo "7-".toList (.chainl1 digit minus) .start (.failure f) ∧
      Rules.empty.ComesTo "7-".toList (.chainl digit minus (-1)) .start (.success (-1) .start) ∧
      ∃ x next pairs e, Rules.empty.ComesTo "7-".toList digit .start (.success x next) ∧
        Steps (Rules.empty.Link "7-".toList digit minus) next pairs e ∧
        Rules.empty.LinkFails "7-".toList digit minus e f ∧ e.position < f.position := by
  have hs := Session.consistent_array (Rules.empty : Rules Char fun _ => Unit) "7-".toList
  have hdigit : Rules.empty.ComesTo "7-".toList digit .start (.success 7 ⟨1, false⟩) :=
    Rules.comesTo_of_run 1 hs rfl
  have hchain : ∃ f, Rules.empty.ComesTo "7-".toList (.chainl1 digit minus) .start (.failure f) :=
    ⟨_, Rules.comesTo_of_run 3 hs rfl⟩
  have hdefault : Rules.empty.ComesTo "7-".toList (.chainl digit minus (-1)) .start
      (.success (-1) .start) :=
    Rules.comesTo_of_run 3 hs rfl
  obtain ⟨f, hchain⟩ := hchain
  obtain ⟨hvalue, _, hfails⟩ :=
    Rules.chain_default (-1) hchain (fun _ hended => absurd hended (by decide)) hdefault.not_misused
  refine ⟨f, hchain, hvalue, ?_⟩
  rcases hfails f rfl with hoperand | hround
  · cases hdigit.unique hoperand
  · exact hround

/-- There is an operand at the beginning of `7-`, and without a default the chain fails behind the
operator. With one it gives the default, and has read nothing. -/
theorem default_behind_operand :
    Rules.empty.ComesTo "7-".toList digit .start (.success 7 ⟨1, false⟩) ∧
      (∃ f, Rules.empty.ComesTo "7-".toList (.chainl1 digit minus) .start (.failure f) ∧
        Rules.empty.ComesTo "7-".toList (.chainr1 digit minus) .start (.failure f) ∧
        f.position = 2) ∧
      Rules.empty.ComesTo "7-".toList (.chainl digit minus (-1)) .start (.success (-1) .start) ∧
      Rules.empty.ComesTo "7-".toList (.chainr digit minus (-1)) .start (.success (-1) .start) := by
  have hs := Session.consistent_array (Rules.empty : Rules Char fun _ => Unit) "7-".toList
  have hfails : ∃ f, Rules.empty.ComesTo "7-".toList (.chainl1 digit minus) .start (.failure f) ∧
      Rules.empty.ComesTo "7-".toList (.chainr1 digit minus) .start (.failure f) ∧
      f.position = 2 :=
    ⟨_, Rules.comesTo_of_run 3 hs rfl, Rules.comesTo_of_run 3 hs rfl, rfl⟩
  refine ⟨?_, hfails, ?_, ?_⟩
  · exact Rules.comesTo_of_run 1 hs rfl
  · exact Rules.comesTo_of_run 3 hs rfl
  · exact Rules.comesTo_of_run 3 hs rfl

end Subtraction

end PredictiveParsing
