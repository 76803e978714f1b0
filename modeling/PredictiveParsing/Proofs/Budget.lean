import PredictiveParsing.Proofs.Honours
import PredictiveParsing.Proofs.Memory

/-!
# The budget of a run

Two things could keep a run from ending: a rule that is entered again where it was
entered before, and a loop that goes round without reading. Both are out of the question
when the answers of all parsers are known, since a first set that is known through a
chain of `d` rules leaves room for at most `d` rules before a symbol is read.

`Rules.cost` is what a run then needs at most, from a position with a known chain: for
each symbol that is left once more than there are rules, and the length of the chain.
`Rules.Funded` says that a budget covers it; what a parser has is enough for the parsers
it is put together from, at the place where each of them is tried.
-/

namespace PredictiveParsing

variable {σ : Type} {ρ : Nat → Type} {α β : Type}

namespace Parser

def IsNotRule : (α : Type) → Parser σ ρ α → Prop
  | _, .rule _ => False
  | _, _ => True

/-- A parser without rules says on which symbols it begins without asking any rule. -/
theorem firstSet_eq_of_everywhere [BEq σ] {κ : Type} {e : Nat → Inquiry κ Bool}
    (r r' : Nat → Inquiry κ (SymbolSet σ)) {p : Parser σ ρ α} (hp : p.Everywhere IsNotRule) :
    p.firstSet e r = p.firstSet e r' := by
  induction p with
  | pure | fail | eof | satisfy | literal | longest | not | declared => rfl
  | map _ _ ih | tryMap _ _ ih | lookahead _ ih | optional _ ih | many _ ih | many1 _ ih
  | skipMany _ ih | recording _ _ ih => exact ih hp.2
  | chain _ _ _ ih => exact ih hp.2.1
  | and p q ihp ihq =>
      refine bind_congr ?_
      intro accepts
      cases accepts with
      | true => rw [if_pos rfl, if_pos rfl, ihp hp.2.1, ihq hp.2.2]
      | false => exact ihp hp.2.1
  | or p q ihp ihq =>
      exact congrArg₂ (fun l r => do
        let left ← l
        return left.union (← r)) (ihp hp.2.1) (ihq hp.2.2)
  | flatMap p k ih =>
      refine bind_congr ?_
      intro accepts
      cases accepts with
      | true => rfl
      | false => exact ih hp.2.1
  | label name p ih =>
      exact congrArg (fun l => do
        let first ← l
        return SymbolSet.predicate name first.contains) (ih hp.2)
  | sequence ps ih =>
      rw [firstSet_sequence, firstSet_sequence]
      refine congrArg (Inquiry.unionUpToNonempty .empty) (List.map_congr_left ?_)
      intro p hmem
      obtain ⟨i, rfl⟩ := List.mem_ofFn.mp hmem
      rw [ih i (hp.2 i)]
  | times min max p ih => rw [firstSet_times, firstSet_times, ih hp.2]
  | manyTill p stop ihp ihs =>
      exact congrArg₂ (fun l r => do
        let first ← l
        return first.union (← r)) (ihs hp.2.2) (ihp hp.2.1)
  | rule i => exact absurd hp id

end Parser

namespace Rules

def ChainsRead (rules : Rules σ ρ) : (α : Type) → Parser σ ρ α → Prop
  | _, .chain _ operand _ => rules.NeedsSymbol operand
  | _, _ => True

/-- A premade parser, and a chain only of operands that need a symbol. -/
def Premade (rules : Rules σ ρ) (α : Type) (p : Parser σ ρ α) : Prop :=
  Parser.IsPremade α p ∧ rules.ChainsRead α p

/-- Nothing runs behind this parser's back: what its first set says nothing of is either free of
rules or comes behind a symbol. -/
def Guarded (rules : Rules σ ρ) : (α : Type) → Parser σ ρ α → Prop
  | _, .not p => p.Everywhere Parser.IsNotRule
  | _, .flatMap p _ => rules.NeedsSymbol p
  | _, .chain _ operand _ => rules.NeedsSymbol operand
  | _, _ => True

theorem Guarded.chainsRead {rules : Rules σ ρ} {p : Parser σ ρ α} (h : rules.Guarded α p) :
    rules.ChainsRead α p := by
  cases p with
  | chain side operand op => exact h
  | _ => exact trivial

/-- Asked afresh, the parser has both answers, and nothing runs behind its back. -/
structure Founded [BEq σ] (rules : Rules σ ρ) (α : Type) (p : Parser σ ρ α) : Prop where
  acceptsEmpty : ∃ b m, Memory.askAcceptsEmpty rules p {} = .ok b m
  firstSet : ∃ set m, Memory.askFirstSet rules p {} = .ok set m
  guarded : rules.Guarded α p

theorem Founded.exists_acceptsEmpty [BEq σ] {rules : Rules σ ρ} {p : Parser σ ρ α}
    (h : rules.Founded α p) : ∃ b, rules.AcceptsEmpty p b := by
  obtain ⟨b, m, hask⟩ := h.acceptsEmpty
  exact ⟨b, Memory.acceptsEmpty_of_ask Memory.sound_empty hask⟩

theorem Founded.exists_firstSet [BEq σ] {rules : Rules σ ρ} {p : Parser σ ρ α}
    (h : rules.Founded α p) : ∃ set, rules.FirstSet p set := by
  obtain ⟨set, m, hask⟩ := h.firstSet
  exact ⟨set, Memory.firstSet_of_ask Memory.sound_empty hask⟩

/-- What a run needs at most, from position `c` of `n` and with a chain of `d` rules known. -/
def cost (rules : Rules σ ρ) (n c d : Nat) : Nat :=
  (n - c) * (rules.size + 2) + d + 2

variable {rules : Rules σ ρ} {n c d e : Nat}

theorem cost_le_of_le (h : c ≤ e) : rules.cost n e d ≤ rules.cost n c d := by
  unfold cost
  have hmul : (n - e) * (rules.size + 2) ≤ (n - c) * (rules.size + 2) :=
    Nat.mul_le_mul_right _ (by omega)
  omega

/-- A symbol that is read pays for every rule anew. -/
theorem cost_size_le (h : c < e) (hc : c < n) : rules.cost n e rules.size ≤ rules.cost n c d := by
  unfold cost
  have hmul : (n - e + 1) * (rules.size + 2) ≤ (n - c) * (rules.size + 2) :=
    Nat.mul_le_mul_right _ (by omega)
  rw [Nat.add_mul, Nat.one_mul] at hmul
  omega

theorem lt_of_cost_le {rounds : Nat} (h : rules.cost n c d ≤ rounds + 1) : n - c < rounds := by
  unfold cost at h
  have hmul : (n - c) * 1 ≤ (n - c) * (rules.size + 2) := Nat.mul_le_mul_left _ (by omega)
  omega

variable [BEq σ] {symbols : List σ} {rounds : Nat} {sure : Prop}

structure Funded (rules : Rules σ ρ) (symbols : List σ) (rounds : Nat) (p : Parser σ ρ α)
    (c : Nat) : Prop where
  founded : p.Everywhere rules.Founded
  depth : ∃ d, (∃ set, rules.FirstWithin d p set) ∧ rules.cost symbols.length c d ≤ rounds + 1

/-- A success gets past a symbol, or stays where the parser accepts empty input. -/
theorem Keeps.reads_or_rests {p : Parser σ ρ α} (h : rules.Keeps symbols sure p c true e)
    (hp : ∃ b, rules.AcceptsEmpty p b) :
    c < e ∧ c < symbols.length ∨ e = c ∧ rules.AcceptsEmpty p true := by
  have hle := h.spans.le
  have hwithin := h.spans.within
  obtain ⟨b, hb⟩ := hp
  by_cases hlt : c < e
  · exact .inl ⟨hlt, by omega⟩
  · cases b with
    | true => exact .inr ⟨by omega, hb⟩
    | false => exact absurd (h.moves rfl hb) hlt

namespace Funded

theorem forward {p : Parser σ ρ α} (h : rules.Funded symbols rounds p c) (hle : c ≤ e) :
    rules.Funded symbols rounds p e := by
  obtain ⟨d, hd, hcost⟩ := h.depth
  exact ⟨h.founded, d, hd, Nat.le_trans (cost_le_of_le hle) hcost⟩

theorem lt_rounds {p : Parser σ ρ α} (h : rules.Funded symbols rounds p c) :
    symbols.length - c < rounds := by
  obtain ⟨d, _, hcost⟩ := h.depth
  exact lt_of_cost_le hcost

/-- Behind a symbol the budget covers any parser. -/
theorem later {p : Parser σ ρ α} {q : Parser σ ρ β} (h : rules.Funded symbols rounds p c)
    (hq : q.Everywhere rules.Founded) (hlt : c < e) (hc : c < symbols.length) :
    rules.Funded symbols rounds q e := by
  obtain ⟨d, _, hcost⟩ := h.depth
  exact ⟨hq, rules.size, hq.here.exists_firstSet, Nat.le_trans (cost_size_le hlt hc) hcost⟩

theorem and_left {p : Parser σ ρ α} {q : Parser σ ρ β}
    (h : rules.Funded symbols rounds (p.and q) c) : rules.Funded symbols rounds p c := by
  obtain ⟨d, ⟨set, hset⟩, hcost⟩ := h.depth
  refine ⟨h.founded.2.1, d, ?_, hcost⟩
  rcases firstWithin_and.mp hset with ⟨_, hp⟩ | ⟨_, l, r, hl, _, _⟩
  · exact ⟨set, hp⟩
  · exact ⟨l, hl⟩

theorem and_right {p : Parser σ ρ α} {q : Parser σ ρ β}
    (h : rules.Funded symbols rounds (p.and q) c) (hp : rules.Keeps symbols sure p c true e) :
    rules.Funded symbols rounds q e := by
  obtain ⟨_, hfp, hfq⟩ := h.founded
  rcases Keeps.reads_or_rests hp hfp.here.exists_acceptsEmpty with ⟨hlt, hc⟩ | ⟨rfl, htrue⟩
  · exact h.later hfq hlt hc
  · obtain ⟨d, ⟨set, hset⟩, hcost⟩ := h.depth
    refine ⟨hfq, d, ?_, hcost⟩
    rcases firstWithin_and.mp hset with ⟨hfalse, _⟩ | ⟨_, l, r, _, hr, _⟩
    · exact absurd hfalse (not_acceptsEmpty_false htrue)
    · exact ⟨r, hr⟩

theorem or_left {p q : Parser σ ρ α} (h : rules.Funded symbols rounds (p.or q) c) :
    rules.Funded symbols rounds p c := by
  obtain ⟨d, ⟨set, hset⟩, hcost⟩ := h.depth
  obtain ⟨l, r, hl, _, _⟩ := firstWithin_or.mp hset
  exact ⟨h.founded.2.1, d, ⟨l, hl⟩, hcost⟩

theorem or_right {p q : Parser σ ρ α} (h : rules.Funded symbols rounds (p.or q) c) :
    rules.Funded symbols rounds q c := by
  obtain ⟨d, ⟨set, hset⟩, hcost⟩ := h.depth
  obtain ⟨l, r, _, hr, _⟩ := firstWithin_or.mp hset
  exact ⟨h.founded.2.2, d, ⟨r, hr⟩, hcost⟩

theorem flatMap_left {p : Parser σ ρ α} {k : α → Parser σ ρ β}
    (h : rules.Funded symbols rounds (p.flatMap k) c) : rules.Funded symbols rounds p c := by
  obtain ⟨hfounded, hp, _⟩ := h.founded
  obtain ⟨d, ⟨set, hset⟩, hcost⟩ := h.depth
  rcases firstWithin_flatMap.mp hset with ⟨htrue, _⟩ | ⟨_, hset⟩
  · exact absurd htrue (NeedsSymbol.not_acceptsEmpty hfounded.guarded)
  · exact ⟨hp, d, ⟨set, hset⟩, hcost⟩

theorem flatMap_right {p : Parser σ ρ α} {k : α → Parser σ ρ β} {a : α}
    (h : rules.Funded symbols rounds (p.flatMap k) c)
    (hp : rules.Keeps symbols sure p c true e) : rules.Funded symbols rounds (k a) e := by
  obtain ⟨hfounded, hfp, hfk⟩ := h.founded
  rcases Keeps.reads_or_rests hp hfp.here.exists_acceptsEmpty with ⟨hlt, hc⟩ | ⟨_, htrue⟩
  · exact h.later (hfk a) hlt hc
  · exact absurd htrue (NeedsSymbol.not_acceptsEmpty hfounded.guarded)

theorem label {name : String} {p : Parser σ ρ α}
    (h : rules.Funded symbols rounds (.label name p) c) : rules.Funded symbols rounds p c := by
  obtain ⟨d, ⟨set, hset⟩, hcost⟩ := h.depth
  obtain ⟨first, hfirst, _⟩ := firstWithin_label.mp hset
  exact ⟨h.founded.2, d, ⟨first, hfirst⟩, hcost⟩

/-- A parser without rules needs no chain. -/
theorem not {p : Parser σ ρ α} (h : rules.Funded symbols rounds p.not c) :
    rules.Funded symbols rounds p c := by
  obtain ⟨hfounded, hp⟩ := h.founded
  obtain ⟨d, _, hcost⟩ := h.depth
  obtain ⟨set, hset⟩ := hp.here.exists_firstSet
  refine ⟨hp, d, ⟨set, ?_⟩, hcost⟩
  rw [FirstWithin, Parser.firstSet_eq_of_everywhere _ (rules.firstWithin rules.size)
    hfounded.guarded]
  exact hset

theorem times {min max : Nat} {p : Parser σ ρ α}
    (h : rules.Funded symbols rounds (.times min max p) c) (hmax : 0 < max) :
    rules.Funded symbols rounds p c := by
  obtain ⟨d, ⟨set, hset⟩, hcost⟩ := h.depth
  rw [firstWithin_times, if_neg (Nat.ne_of_gt hmax)] at hset
  exact ⟨h.founded.2, d, ⟨set, hset⟩, hcost⟩

theorem manyTill_stop {p : Parser σ ρ α} {stop : Parser σ ρ β}
    (h : rules.Funded symbols rounds (.manyTill p stop) c) :
    rules.Funded symbols rounds stop c := by
  obtain ⟨d, ⟨set, hset⟩, hcost⟩ := h.depth
  obtain ⟨l, r, hl, _, _⟩ := firstWithin_manyTill.mp hset
  exact ⟨h.founded.2.2, d, ⟨l, hl⟩, hcost⟩

theorem manyTill_round {p : Parser σ ρ α} {stop : Parser σ ρ β}
    (h : rules.Funded symbols rounds (.manyTill p stop) c) : rules.Funded symbols rounds p c := by
  obtain ⟨d, ⟨set, hset⟩, hcost⟩ := h.depth
  obtain ⟨l, r, _, hr, _⟩ := firstWithin_manyTill.mp hset
  exact ⟨h.founded.2.1, d, ⟨r, hr⟩, hcost⟩

theorem chain_needs {side : Side} {operand : Parser σ ρ α} {op : Parser σ ρ (α → α → α)}
    (h : rules.Funded symbols rounds (.chain side operand op) c) :
    rules.AcceptsEmpty operand false := by
  obtain ⟨hfounded, hoperand, _⟩ := h.founded
  obtain ⟨b, hb⟩ := hoperand.here.exists_acceptsEmpty
  cases b with
  | false => exact hb
  | true => exact absurd hb (NeedsSymbol.not_acceptsEmpty hfounded.guarded)

theorem chain_operand {side : Side} {operand : Parser σ ρ α} {op : Parser σ ρ (α → α → α)}
    (h : rules.Funded symbols rounds (.chain side operand op) c) :
    rules.Funded symbols rounds operand c :=
  ⟨h.founded.2.1, h.depth⟩

theorem chain_op {side : Side} {operand : Parser σ ρ α} {op : Parser σ ρ (α → α → α)}
    (h : rules.Funded symbols rounds (.chain side operand op) c)
    (hp : rules.Keeps symbols sure operand c true e) : rules.Funded symbols rounds op e := by
  have hlt := hp.moves rfl h.chain_needs
  have hwithin := hp.spans.within
  exact h.later h.founded.2.2 hlt (by omega)

/-- Entering a rule takes one off the chain. -/
theorem rule {i : Nat} {body : Parser σ ρ (ρ i)}
    (h : rules.Funded symbols (rounds + 1) (.rule i) c) (hi : rules.body? i = some body)
    (hbody : body.Everywhere rules.Founded) : rules.Funded symbols rounds body c := by
  obtain ⟨d, ⟨set, hset⟩, hcost⟩ := h.depth
  cases d with
  | zero => exact absurd hset (firstWithin_zero i set)
  | succ d =>
      obtain ⟨body', hi', hset⟩ := firstWithin_succ_ok_iff.mp hset
      rw [hi] at hi'
      cases hi'
      refine ⟨hbody, d, ⟨set, hset⟩, ?_⟩
      unfold cost at hcost ⊢
      omega

end Funded

/-! ### Parsers in turn -/

structure FundedAll (rules : Rules σ ρ) (symbols : List σ) (rounds : Nat)
    (ps : List (Parser σ ρ α)) (c : Nat) : Prop where
  founded : ∀ p ∈ ps, p.Everywhere rules.Founded
  depth : ∃ d, (∃ acc set, rules.FirstOfAll d acc ps set) ∧
    rules.cost symbols.length c d ≤ rounds + 1

theorem exists_firstOfAll {ps : List (Parser σ ρ α)} (acc : SymbolSet σ)
    (h : ∀ p ∈ ps, p.Everywhere rules.Founded) :
    ∃ set, rules.FirstOfAll rules.size acc ps set := by
  induction ps generalizing acc with
  | nil => exact ⟨acc, firstOfAll_nil.mpr rfl⟩
  | cons p ps ih =>
      rw [List.forall_mem_cons] at h
      obtain ⟨first, hfirst⟩ := h.1.here.exists_firstSet
      obtain ⟨b, hb⟩ := h.1.here.exists_acceptsEmpty
      cases b with
      | true =>
          obtain ⟨set, hset⟩ := ih (acc.union first) h.2
          exact ⟨set, firstOfAll_cons.mpr ⟨first, hfirst, .inl ⟨hb, hset⟩⟩⟩
      | false => exact ⟨_, firstOfAll_cons.mpr ⟨first, hfirst, .inr ⟨hb, rfl⟩⟩⟩

theorem FundedAll.head {p : Parser σ ρ α} {ps : List (Parser σ ρ α)}
    (h : rules.FundedAll symbols rounds (p :: ps) c) : rules.Funded symbols rounds p c := by
  obtain ⟨d, ⟨acc, set, hset⟩, hcost⟩ := h.depth
  obtain ⟨first, hfirst, _⟩ := firstOfAll_cons.mp hset
  exact ⟨h.founded p List.mem_cons_self, d, ⟨first, hfirst⟩, hcost⟩

theorem FundedAll.tail {p : Parser σ ρ α} {ps : List (Parser σ ρ α)}
    (h : rules.FundedAll symbols rounds (p :: ps) c)
    (hp : rules.Keeps symbols sure p c true e) : rules.FundedAll symbols rounds ps e := by
  obtain ⟨hfp, hfps⟩ := List.forall_mem_cons.mp h.founded
  obtain ⟨d, ⟨acc, set, hset⟩, hcost⟩ := h.depth
  rcases Keeps.reads_or_rests hp hfp.here.exists_acceptsEmpty with ⟨hlt, hc⟩ | ⟨rfl, htrue⟩
  · refine ⟨hfps, rules.size, ⟨acc, exists_firstOfAll acc hfps⟩, ?_⟩
    exact Nat.le_trans (cost_size_le hlt hc) hcost
  · refine ⟨hfps, d, ?_, hcost⟩
    obtain ⟨first, _, ⟨_, hps⟩ | ⟨hfalse, _⟩⟩ := firstOfAll_cons.mp hset
    · exact ⟨_, set, hps⟩
    · exact absurd hfalse (not_acceptsEmpty_false htrue)

theorem Funded.sequence {m : Nat} {ps : Fin m → Parser σ ρ α}
    (h : rules.Funded symbols rounds (.sequence ps) c) :
    rules.FundedAll symbols rounds (List.ofFn ps) c := by
  obtain ⟨d, ⟨set, hset⟩, hcost⟩ := h.depth
  refine ⟨?_, d, ⟨_, set, firstWithin_sequence.mp hset⟩, hcost⟩
  intro p hp
  obtain ⟨i, rfl⟩ := List.mem_ofFn.mp hp
  exact h.founded.2 i

end Rules

end PredictiveParsing
