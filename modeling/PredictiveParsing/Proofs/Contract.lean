import PredictiveParsing.Proofs.Verdict

/-!
# The contract of a parser

Parsers that others rely on keep a contract: a success of one that accepts no empty input
reads a symbol, and a success that reads anything begins on a symbol of the first set.
`Contract` says so of one success and `Rules.KeepsContract` of a parser. Of two successes in
turn the second decides on the beginning only if the first need not read (`Contract.trans`).

Premade grammars whose chains are over operands that need a symbol keep the contract. A chain
over an operand that accepts empty input need not: what it begins on is in the first set of
its operand, or else in the one of its operator (`Rules.chain_contract`), and the second one it
leaves out of its own first set (`OptionalOperand.first_missed`).
-/

namespace PredictiveParsing

variable {σ : Type} {ρ : Nat → Type} {S St α β : Type}

/-! ### Successes -/

/-- From `c`, a success goes on at `e`: not before `c`, behind it if the success `needs` a symbol,
and where it is behind, a symbol that `begins` stands at `c`. -/
structure Contract (symbols : List σ) (needs : Prop) (begins : σ → Prop) (c e : Nat) : Prop where
  le : c ≤ e
  moves : needs → c < e
  first : c < e → ∃ x, symbols[c]? = some x ∧ begins x

namespace Contract

variable {symbols : List σ} {needs needs' : Prop} {begins begins' : σ → Prop} {c d e : Nat}

theorem rest (h : ¬needs) : Contract symbols needs begins c c :=
  ⟨Nat.le_refl c, fun hneeds => absurd hneeds h, fun hlt => absurd hlt (Nat.lt_irrefl c)⟩

theorem mono (h : Contract symbols needs begins c e) (hn : needs' → needs)
    (hb : ∀ x, begins x → begins' x) : Contract symbols needs' begins' c e := by
  refine ⟨h.le, fun hneeds => h.moves (hn hneeds), ?_⟩
  intro hlt
  obtain ⟨x, hx, hbegins⟩ := h.first hlt
  exact ⟨x, hx, hb x hbegins⟩

/-- One success behind another needs a symbol if either does, and begins as the second one only if
the first does not. -/
theorem trans (h : Contract symbols needs begins c d) (h' : Contract symbols needs' begins' d e) :
    Contract symbols (needs ∨ needs') (fun x => begins x ∨ ¬needs ∧ begins' x) c e := by
  refine ⟨Nat.le_trans h.le h'.le, ?_, ?_⟩
  · rintro (hneeds | hneeds)
    · exact Nat.lt_of_lt_of_le (h.moves hneeds) h'.le
    · exact Nat.lt_of_le_of_lt h.le (h'.moves hneeds)
  · intro hlt
    rcases Nat.eq_or_lt_of_le h.le with rfl | hcd
    · obtain ⟨x, hx, hbegins⟩ := h'.first hlt
      exact ⟨x, hx, .inr ⟨fun hneeds => Nat.lt_irrefl c (h.moves hneeds), hbegins⟩⟩
    · obtain ⟨x, hx, hbegins⟩ := h.first hcd
      exact ⟨x, hx, .inl hbegins⟩

/-- At the end of the input nothing that needs a symbol succeeds. -/
theorem not_of_end (h : Contract symbols needs begins c e) (hend : symbols.length ≤ c) :
    ¬needs := by
  intro hneeds
  obtain ⟨x, hx, _⟩ := h.first (h.moves hneeds)
  rw [List.getElem?_eq_none_iff.mpr hend] at hx
  cases hx

end Contract

/-- A success that honours what is said of it is one by the contract. -/
theorem Honours.contract {symbols : List σ} {needs : Prop} {begins : σ → Prop} {c e : Nat}
    (h : Honours symbols needs begins c true e) : Contract symbols needs begins c e :=
  ⟨h.spans.le, h.moves rfl, h.spans.first⟩

def Outcome.Fulfils (symbols : List σ) (needs : Prop) (begins : σ → Prop) (c : Cursor) :
    Outcome σ α → Prop
  | .success _ next => Contract symbols needs begins c.position next.position
  | .failure _ => True

theorem Outcome.Fulfils.map {symbols : List σ} {needs : Prop} {begins : σ → Prop} {c : Cursor}
    {out : Outcome σ α} (f : α → β) (h : out.Fulfils symbols needs begins c) :
    (out.map f).Fulfils symbols needs begins c := by
  cases out with
  | success a next => exact h
  | failure e => exact h

/-- The symbol is in the first set of the parser, should it have one. -/
def Rules.InFirstSet [BEq σ] (rules : Rules σ ρ) (p : Parser σ ρ α) (x : σ) : Prop :=
  ∀ set, rules.FirstSet p set → set.contains x = true

/-! ### Chains -/

namespace Host.Faithful

variable [BEq σ] {host : Host σ ρ St} {rules : Rules σ ρ} {symbols : List σ} {I : St → Prop}
  {needs needs' : Prop} {begins begins' : σ → Prop}

omit [BEq σ] in
theorem chainRound_fulfils {act : Action St σ α} {op : Action St σ β}
    (hop : ∀ c, Yields I (fun _ => True) (op c) (Outcome.Fulfils symbols needs begins c))
    (hact : ∀ c, Yields I (fun _ => True) (act c) (Outcome.Fulfils symbols needs' begins' c))
    (c : Cursor) :
    Yields I (fun _ => True) (Host.chainRound act op c)
      (Outcome.Fulfils symbols (needs ∨ needs') (fun x => begins x ∨ ¬needs ∧ begins' x) c) := by
  refine (hop c).bind ?_
  intro out hout
  cases out with
  | failure e => exact Yields.pure trivial
  | success f next =>
      refine (hact next).bind ?_
      intro out' hout'
      cases out' with
      | failure e => exact Yields.pure trivial
      | success a next' => exact Yields.pure (Contract.trans hout hout')

/-- The rounds of a chain begin on a symbol of the operator's first set, unless the operator accepts
empty input: the chain looks for it before each round. -/
theorem chainFrom_fulfils {act : Action St σ α} {op : Action St σ β}
    (h : host.Faithful rules symbols I) (opEmpty : Bool) (opFirst : SymbolSet σ)
    (hround : ∀ c, Yields I (fun _ => True) (Host.chainRound act op c)
      (Outcome.Fulfils symbols needs begins c)) (rounds : Nat) (pairs : List (β × α))
    (c : Cursor) :
    Yields I (fun _ => True) (host.chainFrom opEmpty opFirst act op rounds pairs c)
      (Outcome.Fulfils symbols False (fun x => opEmpty = false → opFirst.contains x = true)
        c) := by
  induction rounds generalizing pairs c with
  | zero => exact Yields.throw trivial
  | succ rounds ih =>
      refine (h.chainEnds opEmpty opFirst c).bind ?_
      intro ends hends
      cases ends with
      | true => exact Yields.pure (Contract.rest not_false)
      | false =>
          refine (hround c).bind ?_
          intro out hout
          cases out with
          | success pair next =>
              refine (ih (pair :: pairs) next).mono ?_
              intro out' hrest
              cases out' with
              | failure e => exact trivial
              | success pairs' last =>
                  have hall := Contract.trans hout hrest
                  refine ⟨hall.le, False.elim, ?_⟩
                  intro hlt
                  obtain ⟨x, hx, _⟩ := hall.first hlt
                  refine ⟨x, hx, ?_⟩
                  intro hempty
                  have hpredicted : ∃ y, symbols[c.position]? = some y ∧
                      opFirst.contains y = true := by
                    by_contra hnone
                    exact Bool.false_ne_true (hends.mpr ⟨hempty, hnone⟩)
                  obtain ⟨y, hy, hcontains⟩ := hpredicted
                  rw [hx] at hy
                  obtain rfl : x = y := Option.some.inj hy
                  exact hcontains
          | failure e =>
              dsimp only
              split
              · exact Yields.pure trivial
              · refine (h.recover c e).bind ?_
                intro _ _
                exact Yields.pure (Contract.rest not_false)

theorem chain_fulfils {o : Operand St σ α} {oop : Operand St σ (α → α → α)} {p : Parser σ ρ α}
    {op : Parser σ ρ (α → α → α)} (h : host.Faithful rules symbols I)
    (hps : o.Speaks rules I (fun _ => True) p) (hos : oop.Speaks rules I (fun _ => True) op)
    (hp : ∀ c, Yields I (fun _ => True) (o.apply c)
      (Outcome.Fulfils symbols (rules.AcceptsEmpty p false) begins c))
    (hop : ∀ c, Yields I (fun _ => True) (oop.apply c) (Outcome.Fulfils symbols needs' begins' c))
    (rounds : Nat) (side : Side) (c : Cursor) :
    Yields I (fun _ => True) (host.chain rounds side o oop c)
      (Outcome.Fulfils symbols (rules.AcceptsEmpty p false)
        (fun x => begins x ∨ ¬rules.AcceptsEmpty p false ∧ rules.InFirstSet op x) c) := by
  refine (hp c).bind ?_
  intro out hout
  cases out with
  | failure e => exact Yields.pure trivial
  | success first next =>
      refine hos.firstSet.bind ?_
      intro opFirst hopFirst
      refine hos.acceptsEmpty.bind ?_
      intro opEmpty _
      -- A chain whose parts both accept empty input is refused here.
      have hguard : Yields I (fun _ => True) (Host.needsOperand opEmpty o) fun _ =>
          ¬rules.AcceptsEmpty p false → opEmpty = false := by
        cases opEmpty with
        | false => exact Yields.pure fun _ => rfl
        | true =>
            refine hps.acceptsEmpty.bind ?_
            intro accepts haccepts
            cases accepts with
            | true => exact Yields.throw trivial
            | false => exact Yields.pure fun hnot => absurd haccepts hnot
      refine hguard.bind ?_
      intro _ hneeds
      have hround := chainRound_fulfils hop hp
      refine (h.chainFrom_fulfils opEmpty opFirst hround rounds [] next).bind ?_
      intro out' hrest
      refine Yields.pure (Outcome.Fulfils.map _ ?_)
      cases out' with
      | failure e => exact trivial
      | success pairs last =>
          refine (Contract.trans hout hrest).mono .inl ?_
          rintro x (hbegins | ⟨hnot, hbegins⟩)
          · exact .inl hbegins
          · refine .inr ⟨hnot, ?_⟩
            intro set hset
            rw [hset.unique hopFirst]
            exact hbegins (hneeds hnot)

end Host.Faithful

/-! ### Sessions -/

/-- Whatever is parsed, a session stays consistent. -/
theorem Session.apply_consistent [BEq σ] [Source S σ] (rules : Rules σ ρ) (symbols : List σ)
    (budget : Nat) (p : Parser σ ρ α) (c : Cursor) :
    Yields (Consistent (S := S) rules symbols) (fun _ => True)
      (rules.apply (host rules) budget p c) fun _ => True := by
  intro s hs
  have hst := rules.apply_alike (host_alike (S := S) (T := S) rules symbols) trivial
    (Nat.le_refl budget) p c c rfl s s ⟨hs, hs⟩
  cases hm : rules.apply (host rules) budget p c s with
  | error e s' => exact trivial
  | ok out s' =>
      rw [hm] at hst
      obtain ⟨_, _, _, _, hs'⟩ := hst
      exact ⟨trivial, hs'.1⟩

namespace Rules

def Fulfils (S : Type) [BEq σ] [Source S σ] (rules : Rules σ ρ) (symbols : List σ)
    (p : Parser σ ρ α) (needs : Prop) (begins : σ → Prop) : Prop :=
  ∀ (budget : Nat) (c next : Cursor) (s s' : Session σ S) (a : α), s.Consistent rules symbols →
    rules.apply (Session.host rules) budget p c s = .ok (.success a next) s' →
    Contract symbols needs begins c.position next.position

/-- Each success of the parser reads a symbol if the parser does not accept empty input, and if it
reads one, that symbol is in the first set. -/
def KeepsContract (S : Type) [BEq σ] [Source S σ] (rules : Rules σ ρ) (symbols : List σ)
    (p : Parser σ ρ α) : Prop :=
  rules.Fulfils S symbols p (rules.AcceptsEmpty p false) (rules.InFirstSet p)

variable [BEq σ] [Source S σ] {rules : Rules σ ρ} {symbols : List σ} {p : Parser σ ρ α}

theorem Fulfils.yields {needs : Prop} {begins : σ → Prop}
    (h : rules.Fulfils S symbols p needs begins) (budget : Nat) (c : Cursor) :
    Yields (Session.Consistent (S := S) rules symbols) (fun _ => True)
      (rules.apply (Session.host rules) budget p c) (Outcome.Fulfils symbols needs begins c) := by
  refine (Session.apply_consistent rules symbols budget p c).of_run.mono ?_
  rintro out ⟨s, s', hs, hrun⟩
  cases out with
  | failure e => exact trivial
  | success a next => exact h budget c next s s' a hs hrun

theorem keepsContract_of_premade (hp : rules.Throughout rules.Premade p) :
    rules.KeepsContract S symbols p := by
  intro budget c next s s' a hs hrun
  have hallows := ((apply_allows (Session.host_faithful (S := S) rules symbols)
    hp.sure_of_premade budget c).of_ok hs hrun).1
  exact hallows.contract.mono id fun x hx => hx trivial

/-- Over parts that keep their contracts, whatever else they are, a success of a chain begins on a
symbol of the chain's first set, or else the operand may accept empty input and the symbol is in
the first set of the operator. So the chain keeps its own contract if its operand accepts no empty
input. -/
theorem chain_contract {side : Side} {operand : Parser σ ρ α} {op : Parser σ ρ (α → α → α)}
    (hoperand : rules.KeepsContract S symbols operand) (hop : rules.KeepsContract S symbols op) :
    rules.Fulfils S symbols (.chain side operand op)
      (rules.AcceptsEmpty (.chain side operand op) false)
      (fun x => rules.InFirstSet (.chain side operand op) x ∨
        ¬rules.AcceptsEmpty operand false ∧ rules.InFirstSet op x) ∧
    (rules.AcceptsEmpty operand false →
      rules.KeepsContract S symbols (.chain side operand op)) := by
  have hchain : rules.Fulfils S symbols (.chain side operand op)
      (rules.AcceptsEmpty (.chain side operand op) false)
      (fun x => rules.InFirstSet (.chain side operand op) x ∨
        ¬rules.AcceptsEmpty operand false ∧ rules.InFirstSet op x) := by
    intro budget c next s s' a hs hrun
    cases budget with
    | zero => cases hrun
    | succ budget =>
        have h := Session.host_faithful (S := S) rules symbols
        have hyields := h.chain_fulfils (h.operand_speaks (fun _ => trivial) operand _)
          (h.operand_speaks (fun _ => trivial) op _) (hoperand.yields (budget + 1))
          (hop.yields (budget + 1)) budget side c
        exact (hyields.of_ok hs hrun).1
  refine ⟨hchain, ?_⟩
  intro hneeds budget c next s s' a hs hrun
  refine (hchain budget c next s s' a hs hrun).mono id ?_
  rintro x (hbegins | ⟨hnot, _⟩)
  · exact hbegins
  · exact absurd hneeds hnot

end Rules

/-! ### A chain that leaves out its operator -/

namespace OptionalOperand

def operand : Parser Char (fun _ => Unit) (Option Char) := (Parser.value 'a').optional

def op : Parser Char (fun _ => Unit) (Option Char → Option Char → Option Char) :=
  .valueAs ',' fun left _ => left

def chain : Parser Char (fun _ => Unit) (Option Char) := .chainl1 operand op

theorem keepsContract_operand (symbols : List Char) :
    Rules.empty.KeepsContract (Array Char) symbols operand :=
  Rules.keepsContract_of_premade ⟨⟨⟨trivial, trivial⟩, trivial, trivial⟩, nofun⟩

theorem keepsContract_op (symbols : List Char) :
    Rules.empty.KeepsContract (Array Char) symbols op :=
  Rules.keepsContract_of_premade ⟨⟨⟨trivial, trivial⟩, trivial, trivial⟩, nofun⟩

/-- Before a comma the chain begins on the symbol of its operator. -/
theorem chain_contract_separator :
    ∃ a s', Rules.empty.apply (Session.host Rules.empty) 3 chain .start
        { source := #[','] : Session Char (Array Char) } = .ok (.success a ⟨1, false⟩) s' ∧
      Contract [','] (Rules.empty.AcceptsEmpty chain false)
        (fun x => Rules.empty.InFirstSet chain x ∨
          ¬Rules.empty.AcceptsEmpty operand false ∧ Rules.empty.InFirstSet op x) 0 1 := by
  refine ⟨_, _, rfl, ?_⟩
  exact (Rules.chain_contract (keepsContract_operand [',']) (keepsContract_op [','])).1 3 .start
    ⟨1, false⟩ _ _ _ (Session.consistent_start (Source.holds_array #[','])) rfl

/-- Both parts of the chain keep their contracts, and the chain does not: it reads a comma that is
not in its first set. So a repetition of the chain with an `x` behind it ends where a round would
have succeeded. -/
theorem first_missed :
    (∀ symbols, Rules.empty.KeepsContract (Array Char) symbols operand ∧
      Rules.empty.KeepsContract (Array Char) symbols op) ∧
    (∃ a s', Rules.empty.apply (Session.host Rules.empty) 3 chain .start
      { source := #[','] : Session Char (Array Char) } = .ok (.success a ⟨1, false⟩) s') ∧
    (∃ set, Rules.empty.FirstSet chain set ∧ set.contains ',' = false) ∧
    ¬Rules.empty.KeepsContract (Array Char) [','] chain ∧
    (∃ a s', Rules.empty.apply (Session.host Rules.empty) 3 (chain.andL (.value 'x')) .start
      { source := #[',', 'x'] : Session Char (Array Char) } = .ok (.success a ⟨2, false⟩) s') ∧
    ∃ s', Rules.empty.apply (Session.host Rules.empty) 3 (chain.andL (.value 'x')).many .start
      { source := #[',', 'x'] : Session Char (Array Char) } = .ok (.success [] .start) s' := by
  refine ⟨fun symbols => ⟨keepsContract_operand symbols, keepsContract_op symbols⟩, ⟨_, _, rfl⟩,
    ⟨_, rfl, rfl⟩, ?_, ⟨_, _, rfl⟩, _, rfl⟩
  intro hkeeps
  have hcontract := hkeeps 3 .start ⟨1, false⟩ { source := #[','] } _ _
    (Session.consistent_start (Source.holds_array #[','])) rfl
  obtain ⟨x, hx, hfirst⟩ := hcontract.first (by decide)
  cases hx
  exact Bool.false_ne_true (hfirst (.value 'a') rfl)

end OptionalOperand

end PredictiveParsing
