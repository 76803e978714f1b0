import PredictiveParsing.Proofs.Calculator
import PredictiveParsing.Proofs.Combinators

/-!
# Parsers keep their word

Whatever a premade grammar does on an input is what its parsers say of themselves: a
parser that accepts no empty input reads a symbol when it succeeds, and a parser gets
past the position where it began only on a symbol of its first set. The proof goes
through the tree for one level of rules (`Parser.run_yields`) and by induction on the
budget through the levels (`Rules.apply_yields`). In the same pass the faults are
followed: where the budget covers the run, it is never exhausted.
-/

namespace PredictiveParsing

variable {σ : Type} {ρ : Nat → Type} {S St α β : Type}

namespace Rules

/-- A premade parser, and a chain only of operands that need a symbol where `sure` holds. -/
def Sure (rules : Rules σ ρ) (sure : Prop) (α : Type) (p : Parser σ ρ α) : Prop :=
  Parser.IsPremade α p ∧ (sure → rules.ChainsRead α p)

theorem Throughout.sure_of_premade {rules : Rules σ ρ} {p : Parser σ ρ α}
    (hp : rules.Throughout rules.Premade p) : rules.Throughout (rules.Sure True) p :=
  hp.mono fun _ _ h => ⟨h.1, fun _ => h.2⟩

theorem Throughout.sure_of_isPremade {rules : Rules σ ρ} {p : Parser σ ρ α}
    (hp : rules.Throughout Parser.IsPremade p) : rules.Throughout (rules.Sure False) p :=
  hp.mono fun _ _ h => ⟨h, False.elim⟩

variable [BEq σ] {rules : Rules σ ρ} {symbols : List σ} {sure : Prop}

theorem Sure.chain_needs {side : Side} {operand : Parser σ ρ α} {op : Parser σ ρ (α → α → α)}
    (hp : (Parser.chain side operand op).Everywhere (rules.Sure sure))
    (hrules : ∀ i body, rules.body? i = some body → body.Everywhere (rules.Sure sure))
    (set : SymbolSet σ) (hsure : sure) (hset : rules.FirstSet operand set) :
    rules.AcceptsEmpty operand false := by
  have hbounds : ∀ i body, rules.body? i = some body → body.Everywhere Parser.BoundsInOrder :=
    fun i body hi => (hrules i body hi).mono fun _ _ h => Parser.IsPremade.boundsInOrder h.1
  obtain ⟨b, hb⟩ :=
    exists_acceptsEmpty (hp.2.1.mono fun _ _ h => Parser.IsPremade.boundsInOrder h.1) hbounds hset
  cases b with
  | false => exact hb
  | true => exact absurd hb (NeedsSymbol.not_acceptsEmpty (hp.here.2 hsure))

end Rules

/-! ### Through the tree -/

section Run

variable [BEq σ] {host : Host σ ρ St} {rules : Rules σ ρ} {symbols : List σ} {I : St → Prop}
  {E : Halt → Prop} {sure : Prop} {rule : (i : Nat) → Action St σ (ρ i)} {rounds : Nat}

theorem Parser.run_sequence (host : Host σ ρ St) (rule : (i : Nat) → Action St σ (ρ i))
    (rounds : Nat) {n : Nat} (ps : Fin n → Parser σ ρ α) (c : Cursor) :
    (sequence ps).run host rule rounds c =
      host.sequenceFrom [] c ((List.ofFn ps).map fun p =>
        run.operand host p (p.run host rule rounds)) := by
  rw [List.map_ofFn]
  rfl

theorem Host.Faithful.inTurn {ps : List (Parser σ ρ α)} {operand : Parser σ ρ α → Operand St σ α}
    {c : Cursor} (hf : E .exhausted ∨ rules.FundedAll symbols rounds ps c.position)
    (hp : ∀ p ∈ ps, ∀ c : Cursor, E .exhausted ∨ rules.Funded symbols rounds p c.position →
      Yields I E ((operand p).apply c) (rules.Allows symbols sure p c)) :
    InTurn rules symbols I E sure operand ps c := by
  induction ps generalizing c with
  | nil => exact trivial
  | cons p ps ih =>
      rw [List.forall_mem_cons] at hp
      refine ⟨hp.1 c (hf.imp_right Rules.FundedAll.head), ?_⟩
      intro next hnext
      exact ih (hf.imp_right fun h => h.tail hnext) hp.2

/-- If the rules keep their word where the budget covers them, so does every parser over them. -/
theorem Parser.run_yields (h : host.Faithful rules symbols I) (hE : Halt.CoversMisuse E)
    (hrules : ∀ i body, rules.body? i = some body → body.Everywhere (rules.Sure sure))
    (hrule : ∀ i (c : Cursor), E .exhausted ∨ rules.Funded symbols rounds (.rule i) c.position →
      Yields I E (rule i c) (rules.Allows symbols sure (.rule i : Parser σ ρ _) c))
    (p : Parser σ ρ α) (hp : p.Everywhere (rules.Sure sure)) (c : Cursor)
    (hf : E .exhausted ∨ rules.Funded symbols rounds p c.position) :
    Yields I E (p.run host rule rounds c) (rules.Allows symbols sure p c) := by
  have speaks : ∀ {α : Type} (p : Parser σ ρ α) (apply : Action St σ α),
      (Parser.run.operand host p apply).Speaks rules I E p := h.operand_speaks hE
  induction p generalizing c with
  | pure a => exact Yields.pure (Honours.rest (Rules.not_acceptsEmpty_false rfl))
  | fail message =>
      cases message with
      | none => exact Yields.pure Honours.fail
      | some message => exact Yields.pure Honours.fail
  | eof => exact h.eof_yields
  | satisfy set => exact h.satisfy_yields set
  | literal name first rest => exact h.literal_yields name first rest
  | longest | declared | recording => exact absurd hp.here.1 id
  | map f p ih =>
      exact Host.Faithful.map_yields (ih hp.2 c (hf.imp_right fun h => ⟨h.founded.2, h.depth⟩))
  | tryMap f p ih =>
      exact Host.Faithful.tryMap_yields (ih hp.2 c (hf.imp_right fun h => ⟨h.founded.2, h.depth⟩))
  | and p q ihp ihq =>
      refine h.and_yields (speaks q _) (ihp hp.2.1 c (hf.imp_right Rules.Funded.and_left)) ?_
      intro next hnext
      exact ihq hp.2.2 next (hf.imp_right fun h => h.and_right hnext)
  | or p q ihp ihq =>
      exact h.or_yields (speaks p _) (speaks q _)
        (ihp hp.2.1 c (hf.imp_right Rules.Funded.or_left))
        (ihq hp.2.2 c (hf.imp_right Rules.Funded.or_right))
  | flatMap p k ihp ihk =>
      refine Host.Faithful.flatMap_yields
        (ihp hp.2.1 c (hf.imp_right Rules.Funded.flatMap_left)) ?_
      intro a next hnext
      exact ihk a (hp.2.2 a) next (hf.imp_right fun h => h.flatMap_right hnext)
  | label name p ih =>
      exact Host.Faithful.label_yields (speaks p _)
        (ih hp.2 c (hf.imp_right Rules.Funded.label))
  | lookahead p ih =>
      exact Host.Faithful.lookahead_yields
        (ih hp.2 c (hf.imp_right fun h => ⟨h.founded.2, h.depth⟩))
  | not p ih =>
      exact Host.Faithful.not_yields (ih hp.2 c.untracked (hf.imp_right Rules.Funded.not))
  | optional p ih =>
      exact h.optional_yields (speaks p _)
        (ih hp.2 c (hf.imp_right fun h => ⟨h.founded.2, h.depth⟩))
  | sequence ps ih =>
      have hin : Host.Faithful.InTurn rules symbols I E sure
          (fun p => Parser.run.operand host p (p.run host rule rounds)) (List.ofFn ps) c := by
        refine Host.Faithful.inTurn (hf.imp_right Rules.Funded.sequence) ?_
        intro p hmem
        obtain ⟨i, rfl⟩ := List.mem_ofFn.mp hmem
        exact ih i (hp.2 i)
      rw [Parser.run_sequence]
      exact (h.sequenceFrom_yields _ [] c (fun p _ => speaks p _) hin).mono
        fun out hout => Rules.keeps_sequence hout
  | many p ih =>
      refine h.many_yields hE (speaks p _) ?_ (hf.imp_right Rules.Funded.lt_rounds)
      intro next hle
      exact ih hp.2 next (hf.imp_right fun h => Rules.Funded.forward ⟨h.founded.2, h.depth⟩ hle)
  | many1 p ih =>
      refine h.many1_yields hE (speaks p _) ?_ (hf.imp_right Rules.Funded.lt_rounds)
      intro next hle
      exact ih hp.2 next (hf.imp_right fun h => Rules.Funded.forward ⟨h.founded.2, h.depth⟩ hle)
  | skipMany p ih =>
      refine h.skipMany_yields hE (speaks p _) ?_ (hf.imp_right Rules.Funded.lt_rounds)
      intro next hle
      exact ih hp.2 next (hf.imp_right fun h => Rules.Funded.forward ⟨h.founded.2, h.depth⟩ hle)
  | times min max p ih =>
      refine h.times_yields hE (speaks p _) hp.here.1 ?_
      intro hmax next hle
      exact ih hp.2 next (hf.imp_right fun h => (h.times hmax).forward hle)
  | manyTill p stop ihp ihs =>
      refine h.manyTill_yields hE (speaks p _) (speaks stop _) ?_ ?_
        (hf.imp_right Rules.Funded.lt_rounds)
      · intro next hle
        exact ihp hp.2.1 next (hf.imp_right fun h => h.manyTill_round.forward hle)
      · intro next hle
        exact ihs hp.2.2 next (hf.imp_right fun h => h.manyTill_stop.forward hle)
  | chain side operand op ihp iho =>
      refine h.chain_yields hE (speaks operand _) (speaks op _)
        (Rules.Sure.chain_needs hp hrules) ?_ ?_
        (hf.imp_right fun h => ⟨h.chain_needs, h.lt_rounds⟩)
      · intro next hnext next' hle
        exact iho hp.2.2 next' (hf.imp_right fun h => (h.chain_op hnext).forward hle)
      · intro next hle
        exact ihp hp.2.1 next (hf.imp_right fun h => h.chain_operand.forward hle)
  | rule i => exact hrule i c hf

end Run

/-! ### Through the rules -/

namespace Rules

variable [BEq σ] {rules : Rules σ ρ} {symbols : List σ} {sure : Prop} {c : Cursor}

theorem keeps_rule {i : Nat} {body : Parser σ ρ (ρ i)} {e : Nat} {ok : Bool}
    (hi : rules.body? i = some body) (h : rules.Keeps symbols sure body c.position ok e) :
    rules.Keeps symbols sure (.rule i : Parser σ ρ (ρ i)) c.position ok e := by
  refine Keeps.weaken h ?_ ?_
  · intro hfalse
    obtain ⟨body', hi', hbody⟩ := acceptsEmpty_rule.mp hfalse
    rw [hi] at hi'
    cases hi'
    exact hbody
  · intro set hset
    obtain ⟨body', hi', hbody⟩ := firstSet_rule.mp hset
    rw [hi] at hi'
    cases hi'
    exact ⟨set, hbody, fun _ hs => hs⟩

/-- A run under a faithful host is what the answers allow, and stops short with a misuse only,
unless the budget does not cover it. -/
theorem apply_yields {host : Host σ ρ St} {I : St → Prop} {E : Halt → Prop}
    (h : host.Faithful rules symbols I) (hE : Halt.CoversMisuse E)
    (hrules : ∀ i body, rules.body? i = some body → body.Everywhere (rules.Sure sure))
    (hfounded : E .exhausted ∨
      ∀ i body, rules.body? i = some body → body.Everywhere rules.Founded)
    (budget : Nat) (p : Parser σ ρ α) (hp : p.Everywhere (rules.Sure sure)) (c : Cursor)
    (hf : E .exhausted ∨
      ∃ rounds, budget = rounds + 1 ∧ rules.Funded symbols rounds p c.position) :
    Yields I E (rules.apply host budget p c) (rules.Allows symbols sure p c) := by
  induction budget generalizing α p c with
  | zero =>
      rcases hf with hE | ⟨rounds, hzero, _⟩
      · exact Yields.throw hE
      · omega
  | succ budget ih =>
      have hfp : E .exhausted ∨ rules.Funded symbols budget p c.position := by
        refine hf.imp_right ?_
        rintro ⟨rounds, heq, hfunded⟩
        cases heq
        exact hfunded
      refine Parser.run_yields h hE hrules ?_ p hp c hfp
      intro i c hfi
      cases hi : rules.body? i with
      | none => exact Yields.throw (hE _)
      | some body =>
          refine (ih body (hrules i body hi) c ?_).mono fun out hout => keeps_rule hi hout
          rcases hfounded with hE | hfounded
          · exact .inl hE
          · refine hfi.imp_right ?_
            intro hfunded
            have hlt := hfunded.lt_rounds
            obtain ⟨rounds, rfl⟩ : ∃ n, budget = n + 1 := ⟨budget - 1, by omega⟩
            exact ⟨rounds, rfl, hfunded.rule hi (hfounded i body hi)⟩

/-- What a run that ends is, whatever the budget. -/
theorem apply_allows {host : Host σ ρ St} {I : St → Prop} (h : host.Faithful rules symbols I)
    {p : Parser σ ρ α} (hp : rules.Throughout (rules.Sure sure) p) (budget : Nat) (c : Cursor) :
    Yields I (fun _ => True) (rules.apply host budget p c) (rules.Allows symbols sure p c) :=
  apply_yields h (fun _ => trivial) hp.body (.inl trivial) budget p hp.start c (.inl trivial)

/-- A parse of the whole input succeeds where its parser does at the end. -/
theorem wholeInput_yields {host : Host σ ρ St} {I : St → Prop} {E : Halt → Prop}
    (h : host.Faithful rules symbols I) (c : Cursor) (out : Outcome σ α) :
    Yields I E (wholeInput host c out) fun out' => ∀ v,
      (∃ c', out' = .success v c') ↔
        ∃ next, out = .success v next ∧ symbols.length ≤ next.position := by
  cases out with
  | failure e => exact Yields.pure fun v => by simp
  | success a next =>
      refine (h.atEnd next).bind ?_
      intro ended hended
      cases ended with
      | true =>
          have hle : symbols.length ≤ next.position := hended.mp rfl
          exact Yields.pure fun v => by simp [hle]
      | false =>
          have hlt : ¬symbols.length ≤ next.position := fun hle => nomatch hended.mpr hle
          exact Yields.pure fun v => by simp [hlt]

/-! ### Sessions -/

/-- What a parser of a premade grammar says of itself, asked at any time, holds of each of its
runs. If it does not accept empty input, it never succeeds where it began, and at the end of the
input it fails. Wherever it gets past its beginning, by a success or by a failure, the symbol
there is in its first set. -/
theorem answers_hold_of_runs [Source S σ] {p : Parser σ ρ α}
    (hp : rules.Throughout rules.Premade p) {s s' : Session σ S}
    (hs : s.Consistent rules symbols) {budget : Nat} {c : Cursor} {out : Outcome σ α}
    (hrun : rules.apply (Session.host rules) budget p c s = .ok out s') {m : Memory σ}
    (hm : m.Sound rules) :
    (∀ m', Memory.askAcceptsEmpty rules p m = .ok false m' →
      (∀ a next, out = .success a next → c.position < next.position) ∧
        (symbols.length ≤ c.position → ∃ f, out = .failure f)) ∧
    ∀ set m', Memory.askFirstSet rules p m = .ok set m' → c.position < out.position →
      ∃ x, symbols[c.position]? = some x ∧ set.contains x = true := by
  have hout : rules.Allows symbols True p c out :=
    ((apply_allows (Session.host_faithful rules symbols) hp.sure_of_premade budget c).of_ok hs
      hrun).1
  constructor
  · intro m' hask
    have hneeds := Memory.acceptsEmpty_of_ask hm hask
    constructor
    · intro a next hsuccess
      rw [hsuccess] at hout
      exact hout.moves rfl hneeds
    · intro hend
      have hfails := hout.ok_eq_false hend hneeds
      cases out with
      | failure f => exact ⟨f, rfl⟩
      | success a next => cases hfails
  · intro set m' hask hlt
    obtain ⟨x, hx, hbegins⟩ := hout.spans.first hlt
    exact ⟨x, hx, hbegins trivial set (Memory.firstSet_of_ask hm hask)⟩

/-- An expression of the calculator begins on a symbol of the calculator's first set. -/
theorem answers_hold_of_runs_calculator :
    ∃ out s', Calculator.rules.apply (Session.host Calculator.rules) 20 Calculator.calculator .start
        { source := "2*(3+4)".toList.toArray : Session Char (Array Char) } = .ok out s' ∧
      out.position = 7 ∧
      (∀ m', Memory.askAcceptsEmpty Calculator.rules Calculator.calculator {} = .ok false m' →
        ∀ a next, out = .success a next → 0 < next.position) ∧
      ∀ set m', Memory.askFirstSet Calculator.rules Calculator.calculator {} = .ok set m' →
        ∃ x, "2*(3+4)".toList[0]? = some x ∧ set.contains x = true := by
  refine ⟨_, _, rfl, rfl, ?_⟩
  have hsound := answers_hold_of_runs (p := Calculator.calculator) (S := Array Char)
    Calculator.premade (Session.consistent_start (Source.holds_array "2*(3+4)".toList.toArray))
    (c := .start) (rfl : Calculator.rules.apply (Session.host Calculator.rules) 20 _ _ _ = .ok _ _)
    Memory.sound_empty
  exact ⟨fun m' hask => (hsound.1 m' hask).1, fun set m' hask => hsound.2 set m' hask (by decide)⟩

end Rules

end PredictiveParsing
