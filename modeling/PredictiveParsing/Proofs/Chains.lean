import PredictiveParsing.Proofs.Outcomes

/-!
# Chains of operands

A chain applies its operand once, and then an operator and an operand again and again (`Rules.Link`)
until the operator cannot begin or a round fails where it began (`Rules.ChainEnds`). A round that
fails further on is the failure of the whole chain. None of this depends on the side on which the
chain groups: that only decides what value is made of the operands and operators in the end
(`Host.chain_eq_parts`). On the left the values are taken in from the front, `Side.nest .left`, and
on the right from the back. The run holds the pairs with the last one first, and on the right side
it puts the first operand in when all the others are (`Host.groupRight_reverse`).
-/

namespace PredictiveParsing

variable {σ : Type} {ρ : Nat → Type} {S St α β : Type}

/-! ### Grouping -/

/-- The first operand, with operators and operands taken in from the front. -/
def nestLeft : α → List ((α → α → α) × α) → α
  | x, [] => x
  | x, (f, y) :: pairs => nestLeft (f x y) pairs

/-- The first operand, in front of an operator and what the rest comes to. -/
def nestRight : α → List ((α → α → α) × α) → α
  | x, [] => x
  | x, (f, y) :: pairs => f x (nestRight y pairs)

def Side.nest : Side → α → List ((α → α → α) × α) → α
  | .left => nestLeft
  | .right => nestRight

/-- The last pair, grouped on the right, can be taken for one operand. -/
theorem nestRight_append (x : α) (pairs : List ((α → α → α) × α)) (f g : α → α → α) (a b : α) :
    nestRight x (pairs ++ [(f, a), (g, b)]) = nestRight x (pairs ++ [(f, g a b)]) := by
  induction pairs generalizing x with
  | nil => rfl
  | cons pair pairs ih => exact congrArg (pair.1 x) (ih pair.2)

namespace Host

theorem groupLeft_eq_nestLeft (x : α) (pairs : List ((α → α → α) × α)) :
    groupLeft x pairs = nestLeft x pairs := by
  induction pairs generalizing x with
  | nil => rfl
  | cons pair pairs ih => exact ih (pair.1 x pair.2)

theorem groupRight_go_reverse (x : α) (f : α → α → α) (a : α)
    (pairs : List ((α → α → α) × α)) :
    groupRight.go x f a pairs.reverse = nestRight x (pairs ++ [(f, a)]) := by
  -- On the last pair but one: it is popped next, and takes the operand made so far for its own.
  induction pairs using List.reverseRecOn generalizing f a with
  | nil => rfl
  | append_singleton pairs pair ih =>
      rw [List.reverse_append, List.append_assoc]
      exact (ih pair.1 (f pair.2 a)).trans (nestRight_append x pairs pair.1 f pair.2 a).symm

/-- Popping the pairs from the back comes to nesting them from the front. -/
theorem groupRight_reverse (x : α) (pairs : List ((α → α → α) × α)) :
    groupRight x pairs.reverse = nestRight x pairs := by
  cases pairs using List.reverseRecOn with
  | nil => rfl
  | append_singleton pairs pair =>
      rw [List.reverse_append]
      exact groupRight_go_reverse x pair.1 pair.2 pairs

theorem group_reverse (side : Side) (x : α) (pairs : List ((α → α → α) × α)) :
    group side x pairs.reverse = side.nest x pairs := by
  cases side with
  | left =>
      unfold group
      rw [List.reverse_reverse]
      exact groupLeft_eq_nestLeft x pairs
  | right => exact groupRight_reverse x pairs

/-! ### What both sides have in common -/

variable [BEq σ]

/-- The first operand of a chain, and the operators and operands behind it in their order. -/
def chainParts (host : Host σ ρ St) (rounds : Nat) (operand : Operand St σ α)
    (op : Operand St σ (α → α → α)) : Action St σ (α × List ((α → α → α) × α)) := fun c => do
  match ← operand.apply c with
  | .failure e => return .failure e
  | .success first next =>
    let opFirst ← op.firstSet
    let opEmpty ← op.acceptsEmpty
    needsOperand opEmpty operand
    return (← host.chainFrom opEmpty opFirst operand.apply op.apply rounds [] next).map fun pairs =>
      (first, pairs.reverse)

/-- A chain makes its value of the parts in the end. -/
theorem chain_eq_parts (host : Host σ ρ St) (rounds : Nat) (side : Side) (operand : Operand St σ α)
    (op : Operand St σ (α → α → α)) (c : Cursor) :
    host.chain rounds side operand op c = do
      return (← host.chainParts rounds operand op c).map fun parts =>
        side.nest parts.1 parts.2 := by
  unfold chain chainParts
  rw [bind_assoc]
  refine bind_congr fun out => ?_
  cases out with
  | failure e => rfl
  | success first next =>
      dsimp only
      rw [bind_assoc]
      refine bind_congr fun opFirst => ?_
      rw [bind_assoc]
      refine bind_congr fun opEmpty => ?_
      rw [bind_assoc]
      refine bind_congr fun _ => ?_
      rw [bind_assoc]
      refine bind_congr fun out => ?_
      rw [pure_bind]
      cases out with
      | failure e => rfl
      | success pairs next =>
          dsimp only [Outcome.map]
          rw [← group_reverse, List.reverse_reverse]

end Host

/-! ### Rounds -/

namespace Rules

variable [BEq σ]

/-- From the cursor, an operator and an operand behind it lead to another cursor. -/
def Link (rules : Rules σ ρ) (symbols : List σ) (operand : Parser σ ρ α) (op : Parser σ ρ β)
    (c : Cursor) (pair : β × α) (e : Cursor) : Prop :=
  ∃ next, rules.ComesTo symbols op c (.success pair.1 next) ∧
    rules.ComesTo symbols operand next (.success pair.2 e)

def LinkFails (rules : Rules σ ρ) (symbols : List σ) (operand : Parser σ ρ α) (op : Parser σ ρ β)
    (c : Cursor) (f : Failure σ) : Prop :=
  rules.ComesTo symbols op c (.failure f) ∨
    ∃ g next, rules.ComesTo symbols op c (.success g next) ∧
      rules.ComesTo symbols operand next (.failure f)

/-- The parser needs a symbol, and there is none of its first set at the cursor. -/
def CannotBegin (rules : Rules σ ρ) (symbols : List σ) (p : Parser σ ρ α) (c : Cursor) : Prop :=
  rules.AcceptsEmpty p false ∧ ∃ set, rules.FirstSet p set ∧
    ¬∃ s, symbols[c.position]? = some s ∧ set.contains s = true

/-- At the cursor a chain can end: its operator cannot begin, or a round gets no further. -/
def ChainEnds (rules : Rules σ ρ) (symbols : List σ) (operand : Parser σ ρ α) (op : Parser σ ρ β)
    (c : Cursor) : Prop :=
  rules.CannotBegin symbols op c ∨
    ∃ f, rules.LinkFails symbols operand op c f ∧ f.position ≤ c.position

def Round (rules : Rules σ ρ) (symbols : List σ) (operand : Parser σ ρ α) (op : Parser σ ρ β)
    (c : Cursor) : Outcome σ (β × α) → Prop
  | .success pair e => rules.Link symbols operand op c pair e
  | .failure f => rules.LinkFails symbols operand op c f

/-- What all rounds can come to: links to where the chain can end, or to a round that fails further
on than it began. -/
def Rounds (rules : Rules σ ρ) (symbols : List σ) (operand : Parser σ ρ α) (op : Parser σ ρ β)
    (c : Cursor) : Outcome σ (List (β × α)) → Prop
  | .success pairs e =>
    Steps (rules.Link symbols operand op) c pairs e ∧ rules.ChainEnds symbols operand op e
  | .failure f => ∃ pairs e, Steps (rules.Link symbols operand op) c pairs e ∧
    rules.LinkFails symbols operand op e f ∧ e.position < f.position

/-- What the parts of a chain can be: a first operand and then all rounds. -/
def ChainParts (rules : Rules σ ρ) (symbols : List σ) (operand : Parser σ ρ α) (op : Parser σ ρ β)
    (c : Cursor) : Outcome σ (α × List (β × α)) → Prop
  | .success (x, pairs) e => ∃ next, rules.ComesTo symbols operand c (.success x next) ∧
    rules.Rounds symbols operand op next (.success pairs e)
  | .failure f => rules.ComesTo symbols operand c (.failure f) ∨
    ∃ x next, rules.ComesTo symbols operand c (.success x next) ∧
      rules.Rounds symbols operand op next (.failure f)

variable {rules : Rules σ ρ} {symbols : List σ} {operand : Parser σ ρ α} {c next : Cursor}

theorem Rounds.cons {op : Parser σ ρ β} {pair : β × α} {rest : Outcome σ (List (β × α))}
    (hpair : rules.Link symbols operand op c pair next)
    (h : rules.Rounds symbols operand op next rest) :
    rules.Rounds symbols operand op c (rest.map (pair :: ·)) := by
  cases rest with
  | success pairs e => exact ⟨.cons hpair h.1, h.2⟩
  | failure f =>
      obtain ⟨pairs, e, hpairs, hfails, hlt⟩ := h
      exact ⟨pair :: pairs, e, .cons hpair hpairs, hfails, hlt⟩

section Run

variable {host : Host σ ρ St} {I : St → Prop} {act : Action St σ α}

theorem chainRound_yields {op : Parser σ ρ β} {opAct : Action St σ β}
    (hact : ∀ c, Yields I (fun _ => True) (act c) (rules.ComesTo symbols operand c))
    (hop : ∀ c, Yields I (fun _ => True) (opAct c) (rules.ComesTo symbols op c)) (c : Cursor) :
    Yields I (fun _ => True) (Host.chainRound act opAct c)
      (rules.Round symbols operand op c) := by
  refine (hop c).bind ?_
  intro out hout
  cases out with
  | failure e => exact Yields.pure (.inl hout)
  | success f next =>
      refine (hact next).bind ?_
      intro out hout'
      cases out with
      | failure e => exact Yields.pure (.inr ⟨f, next, hout, hout'⟩)
      | success a e => exact Yields.pure ⟨next, hout, hout'⟩

theorem chainFrom_yields (h : host.Faithful rules symbols I) {op : Parser σ ρ β}
    {opAct : Action St σ β} {opEmpty : Bool} {opFirst : SymbolSet σ}
    (hempty : rules.AcceptsEmpty op opEmpty) (hfirst : rules.FirstSet op opFirst)
    (hact : ∀ c, Yields I (fun _ => True) (act c) (rules.ComesTo symbols operand c))
    (hop : ∀ c, Yields I (fun _ => True) (opAct c) (rules.ComesTo symbols op c)) (rounds : Nat)
    (pairs : List (β × α)) (c : Cursor) :
    Yields I (fun _ => True) (host.chainFrom opEmpty opFirst act opAct rounds pairs c) fun out =>
      ∃ rest, rules.Rounds symbols operand op c rest ∧
        out = rest.map fun new => new.reverse ++ pairs := by
  induction rounds generalizing pairs c with
  | zero => exact Yields.throw trivial
  | succ rounds ih =>
      refine (h.chainEnds opEmpty opFirst c).bind ?_
      intro ends hends
      cases ends with
      | true =>
          obtain ⟨rfl, hbegins⟩ := hends.mp rfl
          exact Yields.pure ⟨.success [] c, ⟨.nil c, .inl ⟨hempty, opFirst, hfirst, hbegins⟩⟩, rfl⟩
      | false =>
          refine (chainRound_yields hact hop c).bind ?_
          intro out hout
          cases out with
          | success pair next =>
              refine (ih (pair :: pairs) next).mono ?_
              rintro out ⟨rest, hrest, rfl⟩
              refine ⟨rest.map (pair :: ·), hrest.cons hout, ?_⟩
              cases rest with
              | success new e => simp [Outcome.map]
              | failure f => rfl
          | failure e =>
              dsimp only
              split
              · rename_i hlt
                exact Yields.pure ⟨.failure e, ⟨[], c, .nil c, hout, hlt⟩, rfl⟩
              · rename_i hlt
                refine (h.recover c e).bind ?_
                intro _ _
                exact Yields.pure ⟨.success [] c,
                  ⟨.nil c, .inr ⟨e, hout, Nat.le_of_not_lt hlt⟩⟩, rfl⟩

theorem chainParts_yields (h : host.Faithful rules symbols I) {op : Parser σ ρ (α → α → α)}
    {o : Operand St σ α} {o' : Operand St σ (α → α → α)}
    (hs : o.Speaks rules I (fun _ => True) operand) (hs' : o'.Speaks rules I (fun _ => True) op)
    (hact : ∀ c, Yields I (fun _ => True) (o.apply c) (rules.ComesTo symbols operand c))
    (hop : ∀ c, Yields I (fun _ => True) (o'.apply c) (rules.ComesTo symbols op c)) (rounds : Nat)
    (c : Cursor) :
    Yields I (fun _ => True) (host.chainParts rounds o o' c)
      (rules.ChainParts symbols operand op c) := by
  refine (hact c).bind ?_
  intro out hout
  cases out with
  | failure e => exact Yields.pure (.inl hout)
  | success first next =>
      refine hs'.firstSet.bind ?_
      intro opFirst hfirst
      refine hs'.acceptsEmpty.bind ?_
      intro opEmpty hempty
      refine (Host.Faithful.needsOperand_yields (fun _ => trivial) hs opEmpty).bind ?_
      intro _ _
      refine (chainFrom_yields h hempty hfirst hact hop rounds [] next).bind ?_
      rintro _ ⟨rest, hrest, rfl⟩
      cases rest with
      | failure f => exact Yields.pure (.inr ⟨first, next, hout, hrest⟩)
      | success pairs e =>
          refine Yields.pure ⟨next, hout, ?_⟩
          simpa using hrest

end Run

/-! ### Chains -/

variable {op : Parser σ ρ (α → α → α)} {side : Side} {out : Outcome σ α}

theorem apply_chain (rules : Rules σ ρ) (host : Host σ ρ St) (rounds : Nat) (side : Side)
    (operand : Parser σ ρ α) (op : Parser σ ρ (α → α → α)) (c : Cursor) :
    rules.apply host (rounds + 1) (.chain side operand op) c = do
      return (← host.chainParts rounds (rules.operand host (rounds + 1) operand)
        (rules.operand host (rounds + 1) op) c).map fun parts => side.nest parts.1 parts.2 :=
  Host.chain_eq_parts host rounds side _ _ c

/-- A chain comes to what its side makes of the parts, which are the same on both sides. -/
theorem ComesTo.chain_parts (h : rules.ComesTo symbols (.chain side operand op) c out) :
    ∃ parts, rules.ChainParts symbols operand op c parts ∧ ∀ side' : Side,
      rules.ComesTo symbols (.chain side' operand op) c
        (parts.map fun parts => side'.nest parts.1 parts.2) := by
  obtain ⟨budget, s', hrun⟩ := h.exists_run
  cases budget with
  | zero => cases hrun
  | succ rounds =>
      have hs := Session.consistent_array rules symbols
      have hhost := Session.host_faithful (S := Array σ) rules symbols
      have hyields := chainParts_yields hhost (hhost.operand_speaks (fun _ => trivial) operand _)
        (hhost.operand_speaks (fun _ => trivial) op _)
        (apply_yields_comesTo rules symbols (rounds + 1) operand)
        (apply_yields_comesTo rules symbols (rounds + 1) op) rounds c
      rw [apply_chain] at hrun
      cases hparts : (Session.host rules).chainParts rounds
          (rules.operand (Session.host rules) (rounds + 1) operand)
          (rules.operand (Session.host rules) (rounds + 1) op) c
          ({ source := symbols.toArray } : Session σ (Array σ)) with
      | error e s'' =>
          rw [EStateM.bind_of_error hparts] at hrun
          cases hrun
      | ok parts s'' =>
          refine ⟨parts, (hyields.of_ok hs hparts).1, ?_⟩
          -- The run of the other chain differs in its last step only.
          intro side'
          have hrun' : rules.apply (Session.host rules) (rounds + 1) (.chain side' operand op) c
              ({ source := symbols.toArray } : Session σ (Array σ)) =
                .ok (parts.map fun parts => side'.nest parts.1 parts.2) s'' := by
            rw [apply_chain, EStateM.bind_of_ok hparts]
            rfl
          exact comesTo_of_run (rounds + 1) hs hrun'

variable {f : Failure σ} {v : α} {e : Cursor}

/-- A chain fails where its first operand does. -/
theorem ComesTo.chain_first (side : Side) (op : Parser σ ρ (α → α → α))
    (h : rules.ComesTo symbols operand c (.failure f)) :
    rules.ComesTo symbols (.chain side operand op) c (.failure f) := by
  filter_upwards [h, Filter.eventually_gt_atTop 0] with budget h hpos S _
  obtain ⟨rounds, rfl⟩ := Nat.exists_eq_add_one.mpr hpos
  exact (h S).bind (Session.settled_pure _)

theorem ComesTo.chain_failure (h : rules.ComesTo symbols (.chain side operand op) c (.failure f)) :
    rules.ChainParts symbols operand op c (.failure f) ∧
      ∀ side' : Side, rules.ComesTo symbols (.chain side' operand op) c (.failure f) := by
  obtain ⟨parts, hparts, hall⟩ := h.chain_parts
  have heq := h.unique (hall side)
  cases parts with
  | success parts next => cases heq
  | failure g =>
      cases heq
      exact ⟨hparts, hall⟩

theorem ComesTo.chain_success
    (h : rules.ComesTo symbols (.chain side operand op) c (.success v e)) :
    ∃ x pairs, rules.ChainParts symbols operand op c (.success (x, pairs) e) ∧
      ∀ side' : Side,
        rules.ComesTo symbols (.chain side' operand op) c (.success (side'.nest x pairs) e) := by
  obtain ⟨parts, hparts, hall⟩ := h.chain_parts
  have heq := h.unique (hall side)
  cases parts with
  | failure g => cases heq
  | success parts next =>
      cases heq
      exact ⟨parts.1, parts.2, hparts, hall⟩

/-! ### Within the input -/

theorem LinkFails.position_ge {op : Parser σ ρ β} (h : rules.LinkFails symbols operand op c f)
    (hc : c.position ≤ symbols.length) : c.position ≤ f.position := by
  rcases h with hop | ⟨g, next, hop, hoperand⟩
  · exact Failure.Within.ge (hop.within hc)
  · have hnext := hop.within hc
    exact Nat.le_trans hnext.ge (Failure.Within.ge (hoperand.within hnext.le))

theorem links_within {op : Parser σ ρ β} {pairs : List (β × α)}
    (h : Steps (rules.Link symbols operand op) c pairs e) (hc : c.position ≤ symbols.length) :
    e.position ≤ symbols.length := by
  induction h with
  | nil c => exact hc
  | cons hlink _ ih =>
      obtain ⟨next, hop, hoperand⟩ := hlink
      exact ih (hoperand.within (hop.within hc).le).le

/-- On both sides a chain fails with the same failure or succeeds at the same cursor. When it
succeeds, operands and operators have been read in turn up to there, the value is made of them in
the way of the side, and the operator cannot begin there or the next round does not get further: in
the input, it fails where it began. -/
theorem chains_associate (operand : Parser σ ρ α) (op : Parser σ ρ (α → α → α)) (c : Cursor) :
    (∀ f, rules.ComesTo symbols (.chainl1 operand op) c (.failure f) ↔
      rules.ComesTo symbols (.chainr1 operand op) c (.failure f)) ∧
    (∀ e, (∃ v, rules.ComesTo symbols (.chainl1 operand op) c (.success v e)) ↔
      ∃ w, rules.ComesTo symbols (.chainr1 operand op) c (.success w e)) ∧
    ∀ v w e, rules.ComesTo symbols (.chainl1 operand op) c (.success v e) →
      rules.ComesTo symbols (.chainr1 operand op) c (.success w e) →
      ∃ x next pairs, rules.ComesTo symbols operand c (.success x next) ∧
        Steps (rules.Link symbols operand op) next pairs e ∧
        v = nestLeft x pairs ∧ w = nestRight x pairs ∧
        rules.ChainEnds symbols operand op e ∧
        (c.position ≤ symbols.length →
          ∀ f, rules.LinkFails symbols operand op e f → e.position ≤ f.position) := by
  refine ⟨?_, ?_, ?_⟩
  · intro f
    exact ⟨fun h => h.chain_failure.2 .right, fun h => h.chain_failure.2 .left⟩
  · intro e
    constructor
    · rintro ⟨v, h⟩
      obtain ⟨x, pairs, _, hall⟩ := h.chain_success
      exact ⟨_, hall .right⟩
    · rintro ⟨w, h⟩
      obtain ⟨x, pairs, _, hall⟩ := h.chain_success
      exact ⟨_, hall .left⟩
  · intro v w e hleft hright
    obtain ⟨x, pairs, ⟨next, hx, hpairs, hends⟩, hall⟩ := hleft.chain_success
    cases hleft.unique (hall .left)
    cases hright.unique (hall .right)
    refine ⟨x, next, pairs, hx, hpairs, rfl, rfl, hends, ?_⟩
    intro hc f hfails
    exact hfails.position_ge (links_within hpairs (hx.within hc).le)

end Rules

/-! ### Differences of digits -/

namespace Subtraction

def digit : Parser Char (fun _ => Unit) Int :=
  (Parser.symbolWhere "digit" Char.isDigit).map fun d => (d.toNat : Int) - ('0'.toNat : Int)

def minus : Parser Char (fun _ => Unit) (Int → Int → Int) := .valueAs '-' (· - ·)

/-- The same parts make 4 on the left, `(9 - 3) - 2`, and 8 on the right, `9 - (3 - 2)`. -/
theorem chains_associate_minus :
    ∃ x next pairs, Rules.empty.ComesTo "9-3-2".toList digit .start (.success x next) ∧
      Steps (Rules.empty.Link "9-3-2".toList digit minus) next pairs ⟨5, false⟩ ∧
      4 = nestLeft x pairs ∧ 8 = nestRight x pairs := by
  have hs := Session.consistent_array (Rules.empty : Rules Char fun _ => Unit) "9-3-2".toList
  have hleft : Rules.empty.ComesTo "9-3-2".toList (.chainl1 digit minus) .start
      (.success 4 ⟨5, false⟩) :=
    Rules.comesTo_of_run 5 hs rfl
  have hright : Rules.empty.ComesTo "9-3-2".toList (.chainr1 digit minus) .start
      (.success 8 ⟨5, false⟩) :=
    Rules.comesTo_of_run 5 hs rfl
  obtain ⟨x, next, pairs, hx, hpairs, hv, hw, _⟩ :=
    (Rules.chains_associate digit minus .start).2.2 4 8 ⟨5, false⟩ hleft hright
  exact ⟨x, next, pairs, hx, hpairs, hv, hw⟩

end Subtraction

end PredictiveParsing
