import PredictiveParsing.Proofs.Chains
import PredictiveParsing.Proofs.Integers
import PredictiveParsing.Proofs.Until

/-!
# What parsers read

`rules.Reads p B t a` says that `p` reads the text `t` for the value `a` wherever it stands in an
input, if what comes next behind it, a symbol or the end, has the property `B`. Numbers need this:
digits are not read for a number where another digit follows. `rules.Refuses p R` says that `p`
fails where it begins wherever what comes next has the property `R`. Both are statements about one
parser and all inputs, so what a combinator reads and refuses follows from what its parts do, and a
grammar is gone through once, parser by parser.

A loop goes on while its texts stand in the input and ends where the parser refuses what comes next
(`Rules.Reads.many`), and a chain ends where its operator cannot begin (`Rules.Reads.chain`).
-/

namespace PredictiveParsing

variable {σ : Type} {ρ : Nat → Type} {S St α β γ : Type}

/-! ### Texts in an input -/

theorem drop_behind {symbols t rest : List σ} {i : Nat} (h : symbols.drop i = t ++ rest) :
    symbols.drop (i + t.length) = rest := by
  rw [← List.drop_drop, h, List.drop_left]

theorem lt_length_of_drop {symbols t rest : List σ} {i : Nat} (h : symbols.drop i = t ++ rest)
    (hne : t ≠ []) : i < symbols.length := by
  by_contra hle
  rw [List.drop_of_length_le (Nat.le_of_not_lt hle)] at h
  exact hne (List.append_eq_nil_iff.mp h.symm).1

/-- What comes next is not the symbol, so the set of the symbol does not have it. -/
theorem SymbolSet.not_contains_value [BEq σ] [LawfulBEq σ] {x : σ} {o : Option σ}
    (h : o ≠ some x) : ∀ y ∈ o, (SymbolSet.value x).contains y = false := by
  rintro y rfl
  exact beq_false_of_ne fun heq => h (congrArg some heq.symm)

/-- Another parser beside the same rules. -/
theorem Rules.Throughout.beside {rules : Rules σ ρ} {P : (α : Type) → Parser σ ρ α → Prop}
    {p : Parser σ ρ α} {q : Parser σ ρ β} (h : rules.Throughout P p) (hq : q.Everywhere P) :
    rules.Throughout P q := ⟨hq, h.body⟩

/-! ### Chains that end before an operator -/

section ChainRun

variable [BEq σ] {host : Host σ ρ St} {rules : Rules σ ρ} {symbols : List σ} {I : St → Prop}
  {E : Halt → Prop} {act : Action St σ α} {opAct : Action St σ β} {first : SymbolSet σ}
  {pairs : List (β × α)} {c e : Cursor}

/-- An operator that needs a symbol of the first set, and an operand behind it. -/
def Action.Links (symbols : List σ) (I : St → Prop) (E : Halt → Prop) (first : SymbolSet σ)
    (act : Action St σ α) (opAct : Action St σ β) (c : Cursor) (pair : β × α) (e : Cursor) : Prop :=
  (∃ s, symbols[c.position]? = some s ∧ first.contains s = true) ∧
    ∃ next, Yields I E (opAct c) (· = .success pair.1 next) ∧
      Yields I E (act next) (· = .success pair.2 e)

/-- The rounds of a chain are its links, if its operator cannot begin behind the last of them. -/
theorem Host.Faithful.chainFrom_of_links (h : host.Faithful rules symbols I)
    (hlinks : Steps (Action.Links symbols I E first act opAct) c pairs e)
    (hend : ¬∃ s, symbols[e.position]? = some s ∧ first.contains s = true) {rounds : Nat}
    (hrounds : pairs.length < rounds) (before : List (β × α)) :
    Yields I E (host.chainFrom false first act opAct rounds before c)
      (· = .success (pairs.reverse ++ before) e) := by
  induction hlinks generalizing rounds before with
  | nil c =>
      obtain ⟨rounds, rfl⟩ := Nat.exists_eq_add_one.mpr hrounds
      refine (h.chainEnds false first c).bind ?_
      intro ends hends
      cases hends.mpr ⟨rfl, hend⟩
      exact Yields.pure rfl
  | @cons c next e pair pairs hlink _ ih =>
      obtain ⟨rounds, rfl⟩ := Nat.exists_eq_add_one.mpr (Nat.zero_lt_of_lt hrounds)
      obtain ⟨hbegins, mid, hop, hoperand⟩ := hlink
      refine (h.chainEnds false first c).bind ?_
      intro ends hends
      cases ends with
      | true => exact absurd hbegins (hends.mp rfl).2
      | false =>
          have hround : Yields I E (Host.chainRound act opAct c) (· = .success pair next) := by
            refine hop.bind ?_
            rintro _ rfl
            refine hoperand.bind ?_
            rintro _ rfl
            exact Yields.pure rfl
          refine hround.bind ?_
          rintro _ rfl
          rw [List.reverse_cons, List.append_assoc]
          exact ih hend (Nat.lt_of_succ_lt_succ hrounds) (pair :: before)

end ChainRun

namespace Rules

section Combinators

variable [BEq σ] {rules : Rules σ ρ} {symbols : List σ} {c next e : Cursor} {i : Nat}

/-- A rule comes to what its body comes to. -/
theorem ComesTo.rule {body : Parser σ ρ (ρ i)} {out : Outcome σ (ρ i)}
    (hbody : rules.body? i = some body) (h : rules.ComesTo symbols body c out) :
    rules.ComesTo symbols (.rule i) c out := by
  filter_upwards [(Filter.tendsto_sub_atTop_nat 1).eventually h, Filter.eventually_gt_atTop 0]
    with budget h hpos S _
  obtain ⟨rounds, rfl⟩ := Nat.exists_eq_add_one.mpr hpos
  unfold apply Parser.run
  rw [hbody]
  exact h S

/-- Behind the first operand a chain goes through its links, up to where its operator, which needs a
symbol, cannot begin. -/
theorem ComesTo.chain {side : Side} {operand : Parser σ ρ α} {op : Parser σ ρ (α → α → α)}
    {x : α} {pairs : List ((α → α → α) × α)} (hop : rules.Throughout rules.Premade op)
    (hx : rules.ComesTo symbols operand c (.success x next))
    (hlinks : Steps (rules.Link symbols operand op) next pairs e)
    (hend : rules.CannotBegin symbols op e) :
    rules.ComesTo symbols (.chain side operand op) c (.success (side.nest x pairs) e) := by
  obtain ⟨hneeds, first, hfirst, hend⟩ := hend
  have hlater : ∀ᶠ budget in Filter.atTop,
      Steps (Action.Links symbols (Session.Consistent (S := Array σ) rules symbols) (fun _ => False)
        first (rules.apply (Session.host rules) budget operand)
        (rules.apply (Session.host rules) budget op)) next pairs e := by
    refine Steps.eventually (hlinks.mono ?_)
    rintro c pair e ⟨next, hpair, hoperand⟩
    -- What the operator succeeds on is in its first set, so it can begin.
    have hallows := hpair.allows hop.sure_of_premade
    obtain ⟨s, hs, hbegins⟩ := hallows.spans.first (hallows.moves rfl hneeds)
    filter_upwards [hpair, hoperand] with budget hpair hoperand
    exact ⟨⟨s, hs, hbegins trivial first hfirst⟩, next, (hpair (Array σ)).yields,
      (hoperand (Array σ)).yields⟩
  obtain ⟨budget, hx, hlinks, hlt⟩ := (hx.and (hlater.and
    (Filter.eventually_gt_atTop (pairs.length + 1)))).exists
  obtain ⟨rounds, rfl⟩ := Nat.exists_eq_add_one.mpr (Nat.zero_lt_of_lt hlt)
  refine comesTo_of_yields (E := fun _ => False) (rounds + 1) (fun _ => False.elim) ?_
  have hparts : Yields (Session.Consistent rules symbols) (fun _ => False)
      ((Session.host (S := Array σ) rules).chainParts rounds
        (rules.operand (Session.host rules) (rounds + 1) operand)
        (rules.operand (Session.host rules) (rounds + 1) op) c)
      (· = .success (x, pairs) e) := by
    refine (hx (Array σ)).yields.bind ?_
    rintro _ rfl
    refine (Session.firstSet_yields hfirst).bind ?_
    rintro _ rfl
    refine (Session.acceptsEmpty_yields hneeds).bind ?_
    rintro _ rfl
    refine ((Session.host_faithful rules symbols).chainFrom_of_links hlinks hend
      (Nat.lt_of_succ_lt_succ hlt) []).bind ?_
    rintro _ rfl
    refine Yields.pure ?_
    simp [Outcome.map]
  rw [apply_chain]
  refine hparts.bind ?_
  rintro _ rfl
  exact Yields.pure rfl

end Combinators

/-! ### Literals -/

section Literal

variable [BEq σ] [LawfulBEq σ] [Source S σ] {rules : Rules σ ρ} {symbols : List σ} {c : Cursor}

theorem settled_expectEach {t rest : List σ} (h : symbols.drop c.position = t ++ rest) :
    Session.Settled rules symbols (fun _ => ())
      ((Session.host (S := S) rules).expectEach t c)
      (some ⟨c.position + t.length, c.tracked⟩) := by
  induction t generalizing c with
  | nil => exact Session.settled_pure _
  | cons x t ih =>
      have hx : symbols[c.position]? = some x := by
        rw [← List.head?_drop, h]
        rfl
      have htail : symbols.drop c.advance.position = t ++ rest := drop_behind (t := [x]) h
      refine (Session.settled_current rules symbols _ c).bind ?_
      rw [hx]
      dsimp only
      rw [if_pos (beq_self_eq_true x), List.length_cons, Nat.add_comm t.length 1, ← Nat.add_assoc]
      exact ih htail

theorem settled_expectEach_of_ne {x : σ} {xs : List σ} (h : symbols[c.position]? ≠ some x) :
    Session.Settled rules symbols (fun _ => ())
      ((Session.host (S := S) rules).expectEach (x :: xs) c) none := by
  refine (Session.settled_current rules symbols _ c).bind ?_
  cases hy : symbols[c.position]? with
  | none => exact Session.settled_pure _
  | some y =>
      have hne : (y == x) = false := beq_false_of_ne fun heq => h (heq ▸ hy)
      dsimp only
      rw [hne]
      exact Session.settled_pure _

end Literal

/-! ### Reading and refusing -/

section Reading

variable [BEq σ]

/-- Wherever the text stands and what comes next behind it is as it should be, the parser reads the
text and gives the value. -/
def Reads (rules : Rules σ ρ) (p : Parser σ ρ α) (Before : Option σ → Prop) (t : List σ) (a : α) :
    Prop :=
  ∀ symbols (c : Cursor) rest, symbols.drop c.position = t ++ rest → Before rest.head? →
    rules.ComesTo symbols p c (.success a ⟨c.position + t.length, c.tracked⟩)

/-- Wherever what comes next is of this kind, the parser fails at once. -/
def Refuses (rules : Rules σ ρ) (p : Parser σ ρ α) (Here : Option σ → Prop) : Prop :=
  ∀ symbols (c : Cursor), Here symbols[c.position]? →
    ∃ f, rules.ComesTo symbols p c (.failure f) ∧ f.position = c.position

variable {rules : Rules σ ρ} {p p' : Parser σ ρ α} {q : Parser σ ρ β} {B B' C R : Option σ → Prop}
  {t u : List σ} {a : α} {b : β} {accepts : Bool} {set : SymbolSet σ}

theorem Reads.mono (h : rules.Reads p B t a) (hB : ∀ o, B' o → B o) : rules.Reads p B' t a :=
  fun symbols c rest hdrop hrest => h symbols c rest hdrop (hB _ hrest)

theorem Refuses.mono (h : rules.Refuses p R) (hB : ∀ o, B o → R o) : rules.Refuses p B :=
  fun symbols c hhere => h symbols c (hB _ hhere)

/-- What begins with one symbol only refuses every other one. -/
theorem Refuses.of_ne {x y : σ} (h : rules.Refuses p (· ≠ some x)) (hne : y ≠ x) :
    rules.Refuses p (· = some y) := by
  refine h.mono ?_
  rintro _ rfl heq
  exact hne (Option.some.inj heq)

/-- A parser that needs a symbol reads no empty text. -/
theorem Reads.ne_nil (h : rules.Reads p B t a) (hp : rules.Throughout Parser.IsPremade p)
    (hneeds : rules.AcceptsEmpty p false) (hB : B none) : t ≠ [] := by
  rintro rfl
  have hadvances := (h [] .start [] rfl hB).advances hp hneeds
  exact absurd hadvances.1 (Nat.not_lt_zero _)

/-! ### One symbol -/

theorem Reads.map (g : α → γ) (h : rules.Reads p B t a) : rules.Reads (p.map g) B t (g a) :=
  fun symbols c rest hdrop hrest => (h symbols c rest hdrop hrest).map g

theorem Refuses.map (g : α → γ) (h : rules.Refuses p R) : rules.Refuses (p.map g) R := by
  intro symbols c hhere
  obtain ⟨f, hf, hposition⟩ := h symbols c hhere
  exact ⟨f, hf.map g, hposition⟩

theorem Refuses.tryMap (g : α → Except String γ) (h : rules.Refuses p R) :
    rules.Refuses (p.tryMap g) R := by
  intro symbols c hhere
  obtain ⟨f, hf, hposition⟩ := h symbols c hhere
  exact ⟨f, hf.tryMap_failure g, hposition⟩

theorem reads_satisfy {x : σ} (hx : set.contains x = true) :
    rules.Reads (.satisfy set) (fun _ => True) [x] x := by
  intro symbols c rest hdrop _
  refine comesTo_satisfy ?_ hx
  rw [← List.head?_drop, hdrop]
  rfl

theorem refuses_satisfy : rules.Refuses (.satisfy set) fun o => ∀ x ∈ o, set.contains x = false :=
  fun _ _ hx => comesTo_satisfy_failure hx

theorem reads_symbolWhere {test : σ → Bool} {x : σ} (hx : test x = true) (name : String) :
    rules.Reads (Parser.symbolWhere name test) (fun _ => True) [x] x :=
  reads_satisfy hx

theorem refuses_symbolWhere {test : σ → Bool} (name : String) :
    rules.Refuses (Parser.symbolWhere name test) fun o => ∀ x ∈ o, test x = false :=
  refuses_satisfy

section Value

variable [LawfulBEq σ]

theorem reads_value (x : σ) : rules.Reads (Parser.value x) (fun _ => True) [x] x :=
  reads_satisfy (beq_self_eq_true x)

theorem refuses_value (x : σ) : rules.Refuses (Parser.value x) (· ≠ some x) :=
  refuses_satisfy.mono fun _ => SymbolSet.not_contains_value

theorem reads_valueAs (x : σ) (a : α) :
    rules.Reads (Parser.valueAs x a) (fun _ => True) [x] a :=
  (reads_value x).map _

theorem refuses_valueAs (x : σ) (a : α) : rules.Refuses (Parser.valueAs x a) (· ≠ some x) :=
  (refuses_value x).map _

theorem reads_literal (name : String) (x : σ) (xs : List σ) :
    rules.Reads (.literal name x xs) (fun _ => True) (x :: xs) (x :: xs) := by
  intro symbols c rest hdrop _
  filter_upwards [Filter.eventually_gt_atTop 0] with budget hpos S _
  obtain ⟨rounds, rfl⟩ := Nat.exists_eq_add_one.mpr hpos
  exact (settled_expectEach hdrop).bind (Session.settled_pure _)

theorem refuses_literal (name : String) (x : σ) (xs : List σ) :
    rules.Refuses (.literal name x xs) (· ≠ some x) := by
  intro symbols c hne
  let set : SymbolSet σ := .predicate name (· == x)
  refine ⟨⟨c.position, if (symbols[c.position]?).isNone then .endOfInput set else .expected set⟩,
    ?_, rfl⟩
  filter_upwards [Filter.eventually_gt_atTop 0] with budget hpos S _
  obtain ⟨rounds, rfl⟩ := Nat.exists_eq_add_one.mpr hpos
  refine (settled_expectEach_of_ne hne).bind ((Session.settled_atEnd rules symbols _ c).bind ?_)
  split
  · exact Session.settled_pure _
  · exact Session.settled_pure _

end Value

/-! ### In turn -/

theorem Reads.tryMap {g : α → Except String γ} {v : γ} (h : rules.Reads p B t a)
    (hg : g a = .ok v) : rules.Reads (p.tryMap g) B t v := by
  intro symbols c rest hdrop hrest
  have hout := (h symbols c rest hdrop hrest).tryMap g
  rw [hg] at hout
  exact hout

/-- The second parser is applied if it reads something, or accepts empty input. -/
theorem Reads.and (hp : rules.Reads p B t a) (hq : rules.Reads q C u b)
    (hempty : rules.AcceptsEmpty q accepts) (hruns : u = [] → accepts = true)
    (hnext : ∀ o, C o → B (u.head?.or o)) : rules.Reads (p.and q) C (t ++ u) (a, b) := by
  intro symbols c rest hdrop hrest
  rw [List.append_assoc] at hdrop
  have hbehind : symbols.drop (c.position + t.length) = u ++ rest := drop_behind hdrop
  have hfirst := hp symbols c (u ++ rest) hdrop (by
    rw [List.head?_append]
    exact hnext _ hrest)
  have happlied : ((symbols[c.position + t.length]?).isNone && !accepts) = false := by
    cases accepts with
    | true => exact Bool.and_false _
    | false =>
        obtain ⟨x, u, rfl⟩ := List.exists_cons_of_ne_nil fun hu => Bool.noConfusion (hruns hu)
        rw [← List.head?_drop, hbehind]
        rfl
  rw [List.length_append, ← Nat.add_assoc]
  exact hfirst.and_success hempty happlied (hq symbols ⟨c.position + t.length, c.tracked⟩ rest
    hbehind hrest)

theorem Refuses.and (q : Parser σ ρ β) (h : rules.Refuses p R) : rules.Refuses (p.and q) R := by
  intro symbols c hhere
  obtain ⟨f, hf, hposition⟩ := h symbols c hhere
  exact ⟨f, hf.and_failure q, hposition⟩

/-- Where the first parser reads nothing, the second one is what can refuse. -/
theorem Refuses.and_right (hp : rules.Reads p R [] a) (hq : rules.Refuses q R)
    (hempty : rules.AcceptsEmpty q accepts) (hR : ¬R none) : rules.Refuses (p.and q) R := by
  intro symbols c hhere
  have hfirst := hp symbols c (symbols.drop c.position) rfl (by rwa [List.head?_drop])
  obtain ⟨f, hf, hposition⟩ := hq symbols c hhere
  have happlied : ((symbols[c.position]?).isNone && !accepts) = false := by
    cases hsymbol : symbols[c.position]? with
    | none => exact absurd (hsymbol ▸ hhere) hR
    | some x => rfl
  exact ⟨f, hfirst.and_success hempty happlied hf, hposition⟩

theorem Reads.andL (hp : rules.Reads p B t a) (hq : rules.Reads q C u b)
    (hempty : rules.AcceptsEmpty q accepts) (hruns : u = [] → accepts = true)
    (hnext : ∀ o, C o → B (u.head?.or o)) : rules.Reads (p.andL q) C (t ++ u) a :=
  (hp.and hq hempty hruns hnext).map Prod.fst

theorem Reads.andR (hp : rules.Reads p B t a) (hq : rules.Reads q C u b)
    (hempty : rules.AcceptsEmpty q accepts) (hruns : u = [] → accepts = true)
    (hnext : ∀ o, C o → B (u.head?.or o)) : rules.Reads (p.andR q) C (t ++ u) b :=
  (hp.and hq hempty hruns hnext).map Prod.snd

theorem Refuses.andL (q : Parser σ ρ β) (h : rules.Refuses p R) : rules.Refuses (p.andL q) R :=
  (h.and q).map Prod.fst

theorem Refuses.andR (q : Parser σ ρ β) (h : rules.Refuses p R) : rules.Refuses (p.andR q) R :=
  (h.and q).map Prod.snd

theorem Refuses.between (after : Parser σ ρ γ) (q : Parser σ ρ β) (h : rules.Refuses p R) :
    rules.Refuses (.between p after q) R :=
  (h.andR q).andL after

/-! ### Alternatives -/

theorem Reads.or_left (p' : Parser σ ρ α) (h : rules.Reads p B t a) (hne : t ≠ []) :
    rules.Reads (p.or p') B t a :=
  fun symbols c rest hdrop hrest =>
    (h symbols c rest hdrop hrest).or_success (lt_length_of_drop hdrop hne) p'

theorem Reads.or_right (hp : rules.Refuses p R) (h : rules.Reads p' B t a) (hne : t ≠ [])
    (hR : R t.head?) : rules.Reads (p.or p') B t a := by
  intro symbols c rest hdrop hrest
  have hhere : R symbols[c.position]? := by
    rw [← List.head?_drop, hdrop, List.head?_append_of_ne_nil _ hne]
    exact hR
  obtain ⟨f, hf, _⟩ := hp symbols c hhere
  exact hf.or_failure (lt_length_of_drop hdrop hne) (h symbols c rest hdrop hrest)

theorem Refuses.or (hp : rules.Refuses p R) (hp' : rules.Refuses p' R) (hR : ¬R none) :
    rules.Refuses (p.or p') R := by
  intro symbols c hhere
  obtain ⟨f, hf, hposition⟩ := hp symbols c hhere
  obtain ⟨g, hg, hposition'⟩ := hp' symbols c hhere
  have hc : c.position < symbols.length := by
    by_contra hle
    rw [List.getElem?_eq_none (Nat.le_of_not_lt hle)] at hhere
    exact hR hhere
  refine ⟨f.merge g, hf.or_failure hc hg, ?_⟩
  rw [Failure.position_merge, hposition, hposition', max_self]

/-- One parser of the list reads the text, and those in front of it refuse what it begins with. -/
inductive ReadsFirst (rules : Rules σ ρ) (Before : Option σ → Prop) (t : List σ) (a : α) :
    List (Parser σ ρ α) → Prop where
  | here {p : Parser σ ρ α} {ps : List (Parser σ ρ α)} :
      rules.Reads p Before t a → ReadsFirst rules Before t a (p :: ps)
  | later {p : Parser σ ρ α} {ps : List (Parser σ ρ α)} :
      rules.Refuses p (· = t.head?) → ReadsFirst rules Before t a ps →
        ReadsFirst rules Before t a (p :: ps)

theorem Reads.choice {ps : List (Parser σ ρ α)} (h : rules.ReadsFirst B t a ps)
    (hne : t ≠ []) : rules.Reads (Parser.choice ps) B t a := by
  intro symbols c rest hdrop hrest
  refine FirstSuccess.comesTo_choice (lt_length_of_drop hdrop hne) ?_
  have hhere : symbols[c.position]? = t.head? := by
    rw [← List.head?_drop, hdrop, List.head?_append_of_ne_nil _ hne]
  induction h with
  | here hp => exact .here (hp symbols c rest hdrop hrest)
  | later hp _ ih =>
      obtain ⟨f, hf, _⟩ := hp symbols c hhere
      exact .later hf ih

theorem Refuses.choice {ps : List (Parser σ ρ α)} (hne : ps ≠ [])
    (h : ∀ p ∈ ps, rules.Refuses p R) (hR : ¬R none) : rules.Refuses (Parser.choice ps) R := by
  obtain ⟨p, ps, rfl⟩ := List.exists_cons_of_ne_nil hne
  rw [List.forall_mem_cons] at h
  obtain ⟨hp, hps⟩ := h
  unfold Parser.choice
  induction ps generalizing p with
  | nil => exact hp
  | cons p' ps ih =>
      rw [List.forall_mem_cons] at hps
      exact ih (p.or p') (List.cons_ne_nil _ _) (hp.or hps.1 hR) hps.2

/-- A parser is left out where it refuses, and at the end of the input if it needs a symbol. -/
theorem Reads.optional (h : rules.Reads p B t a) (hne : t ≠ []) :
    rules.Reads p.optional B t (some a) :=
  fun symbols c rest hdrop hrest =>
    (h symbols c rest hdrop hrest).optional (lt_length_of_drop hdrop hne)

theorem Refuses.reads_optional (h : rules.Refuses p R) (hneeds : rules.AcceptsEmpty p false) :
    rules.Reads p.optional R [] none := by
  intro symbols c rest hdrop hrest
  rw [← List.nil_append rest, ← hdrop, List.head?_drop] at hrest
  by_cases hc : c.position < symbols.length
  · obtain ⟨f, hf, _⟩ := h symbols c hrest
    exact hf.optional hc
  · exact comesTo_optional_ended hneeds (Nat.le_of_not_lt hc)

theorem Reads.rule {i : Nat} {body : Parser σ ρ (ρ i)} {a : ρ i}
    (hbody : rules.body? i = some body) (h : rules.Reads body B t a) :
    rules.Reads (.rule i) B t a :=
  fun symbols c rest hdrop hrest => (h symbols c rest hdrop hrest).rule hbody

theorem Refuses.rule {i : Nat} {body : Parser σ ρ (ρ i)} (hbody : rules.body? i = some body)
    (h : rules.Refuses body R) : rules.Refuses (.rule i) R := by
  intro symbols c hhere
  obtain ⟨f, hf, hposition⟩ := h symbols c hhere
  exact ⟨f, hf.rule hbody, hposition⟩

/-! ### Repetitions -/

/-- The parser reads each of the texts for its value, where what may come next is also what they
begin with. -/
structure ReadsEach (rules : Rules σ ρ) (p : Parser σ ρ α) (Before : Option σ → Prop)
    (items : List (List σ × α)) : Prop where
  reads : ∀ item ∈ items, rules.Reads p Before item.1 item.2
  ne_nil : ∀ item ∈ items, item.1 ≠ []
  head : ∀ item ∈ items, Before item.1.head?

variable {items : List (List σ × α)}

theorem ReadsEach.nil : rules.ReadsEach p B [] := ⟨nofun, nofun, nofun⟩

theorem ReadsEach.cons (h : rules.Reads p B t a) (hne : t ≠ []) (hhead : B t.head?)
    (hitems : rules.ReadsEach p B items) : rules.ReadsEach p B ((t, a) :: items) where
  reads := List.forall_mem_cons.mpr ⟨h, hitems.reads⟩
  ne_nil := List.forall_mem_cons.mpr ⟨hne, hitems.ne_nil⟩
  head := List.forall_mem_cons.mpr ⟨hhead, hitems.head⟩

theorem ReadsEach.tail {item : List σ × α} (h : rules.ReadsEach p B (item :: items)) :
    rules.ReadsEach p B items where
  reads := (List.forall_mem_cons.mp h.reads).2
  ne_nil := (List.forall_mem_cons.mp h.ne_nil).2
  head := (List.forall_mem_cons.mp h.head).2

theorem ReadsEach.head?_append (h : rules.ReadsEach p B items) {rest : List σ}
    (hrest : B rest.head?) : B (items.flatMap Prod.fst ++ rest).head? := by
  cases items with
  | nil => exact hrest
  | cons item items =>
      have hne := h.ne_nil item List.mem_cons_self
      rw [List.flatMap_cons, List.append_assoc, List.head?_append_of_ne_nil _ hne]
      exact h.head item List.mem_cons_self

theorem ReadsEach.iterates (h : rules.ReadsEach p B items) {symbols rest : List σ} {c : Cursor}
    (hdrop : symbols.drop c.position = items.flatMap Prod.fst ++ rest) (hrest : B rest.head?) :
    rules.Iterates symbols p c (items.map Prod.snd)
      ⟨c.position + (items.flatMap Prod.fst).length, c.tracked⟩ := by
  induction items generalizing c with
  | nil => exact .nil c
  | cons item items ih =>
      rw [List.flatMap_cons, List.append_assoc] at hdrop
      have hbehind : symbols.drop (c.position + item.1.length) =
          items.flatMap Prod.fst ++ rest := drop_behind hdrop
      rw [List.flatMap_cons, List.length_append, ← Nat.add_assoc]
      exact .cons (h.reads item List.mem_cons_self symbols c _ hdrop (h.tail.head?_append hrest))
        (ih (c := ⟨c.position + item.1.length, c.tracked⟩) h.tail hbehind)

/-- Texts of one symbol each. -/
theorem readsEach_symbols (f : σ → α) {xs : List σ}
    (h : ∀ x ∈ xs, rules.Reads p (fun _ => True) [x] (f x)) :
    rules.ReadsEach p (fun _ => True) (xs.map fun x => ([x], f x)) where
  reads := List.forall_mem_map.mpr h
  ne_nil := List.forall_mem_map.mpr fun _ _ => List.cons_ne_nil _ _
  head _ _ := trivial

omit [BEq σ] in
theorem flatMap_symbols (f : σ → α) (xs : List σ) :
    (xs.map fun x => ([x], f x)).flatMap Prod.fst = xs := by
  simp [List.flatMap_map]

section Repetitions

variable (hp : rules.Throughout rules.Premade p) (h : rules.ReadsEach p B items)

include hp h

/-- Exactly as many as there are. -/
theorem Reads.replicate (hreplies : rules.Replies p accepts set) :
    rules.Reads (Parser.replicate items.length p) B (items.flatMap Prod.fst)
      (items.map Prod.snd) := by
  intro symbols c rest hdrop hrest
  have hrepeatable : rules.Repeatable p (items.length < (items.map Prod.snd).length) := by
    refine ⟨accepts, set, hreplies, fun hlt => ?_⟩
    rw [List.length_map] at hlt
    exact absurd hlt (Nat.lt_irrefl _)
  have htimes := comesTo_times hp (h.iterates hdrop hrest) (.inl hrepeatable)
  rwa [List.length_map] at htimes

variable (hreplies : rules.Replies p false set) (hend : rules.Refuses p R) (hR : ∀ o, R o → B o)

include hend hR

omit hp in
/-- The rounds of a repetition: behind the last text one more fails where it begins. -/
theorem ReadsEach.rounds {symbols rest : List σ} {c : Cursor}
    (hdrop : symbols.drop c.position = items.flatMap Prod.fst ++ rest) (hrest : R rest.head?) :
    ∃ e f, e = ⟨c.position + (items.flatMap Prod.fst).length, c.tracked⟩ ∧
      rules.Iterates symbols p c (items.map Prod.snd) e ∧
      rules.ComesTo symbols p e (.failure f) ∧ f.position = e.position := by
  obtain ⟨f, hf, hposition⟩ := hend symbols ⟨_, c.tracked⟩
    (by rwa [← List.head?_drop, drop_behind hdrop])
  exact ⟨_, f, rfl, h.iterates hdrop (hR _ hrest), hf, hposition⟩

include hreplies

theorem Reads.many : rules.Reads p.many R (items.flatMap Prod.fst) (items.map Prod.snd) := by
  intro symbols c rest hdrop hrest
  obtain ⟨e, f, rfl, hrounds, hf, hposition⟩ := h.rounds hend hR hdrop hrest
  have hmany := comesTo_many hp hrounds hf (.inl ⟨false, set, hreplies, fun _ => rfl⟩)
  rwa [Outcome.ofRounds, if_pos hposition] at hmany

theorem Reads.many1 (hne : items ≠ []) :
    rules.Reads p.many1 R (items.flatMap Prod.fst) (items.map Prod.snd) := by
  intro symbols c rest hdrop hrest
  obtain ⟨e, f, rfl, hrounds, hf, hposition⟩ := h.rounds hend hR hdrop hrest
  have hmany := comesTo_many1 hp hrounds hf (fun hnil => hne (List.map_eq_nil_iff.mp hnil))
    (.inl ⟨false, set, hreplies, fun _ => rfl⟩)
  rwa [Outcome.ofRounds, if_pos hposition] at hmany

theorem Reads.skipMany : rules.Reads p.skipMany R (items.flatMap Prod.fst) () := by
  intro symbols c rest hdrop hrest
  obtain ⟨e, f, rfl, hrounds, hf, hposition⟩ := h.rounds hend hR hdrop hrest
  have hskip := comesTo_skipMany hp hrounds hf (.inl ⟨false, set, hreplies, fun _ => rfl⟩)
  rwa [Outcome.ofRounds, if_pos hposition] at hskip

end Repetitions

theorem Refuses.many1 (h : rules.Refuses p R) (hneeds : rules.AcceptsEmpty p false) :
    rules.Refuses p.many1 R := by
  intro symbols c hhere
  obtain ⟨f, hf, hposition⟩ := h symbols c hhere
  exact ⟨f, hf.many1_failure hneeds, hposition⟩

/-- The items behind the first one are each read with the separator in front of it. -/
theorem Reads.sepBy {sep : Parser σ ρ β} (hp : rules.Throughout rules.Premade (sep.andR p))
    (hfirst : rules.Reads p B t a) (hne : t ≠ []) (h : rules.ReadsEach (sep.andR p) B items)
    (hreplies : rules.Replies (sep.andR p) false set) (hend : rules.Refuses (sep.andR p) R)
    (hR : ∀ o, R o → B o) :
    rules.Reads (p.sepBy sep) R (t ++ items.flatMap Prod.fst) (a :: items.map Prod.snd) := by
  have hmany := Reads.many hp h hreplies hend hR
  have hempty : rules.AcceptsEmpty (sep.andR p).many true := rfl
  have hboth := hfirst.and hmany hempty (fun _ => rfl) fun o ho => by
    have hnext : B o.toList.head? := by
      rw [Option.head?_toList]
      exact hR o ho
    have hhead := h.head?_append hnext
    rwa [List.head?_append, Option.head?_toList] at hhead
  have hsome := (hboth.map fun values => values.1 :: values.2).optional
    (List.append_ne_nil_of_left_ne_nil hne _)
  exact hsome.map fun values => values.getD []

theorem Refuses.reads_sepBy {sep : Parser σ ρ β} (h : rules.Refuses p R)
    (hneeds : rules.AcceptsEmpty (p.sepBy1 sep) false) : rules.Reads (p.sepBy sep) R [] [] := by
  have hnone : rules.Reads (p.sepBy1 sep).optional R [] none :=
    ((h.and _).map _).reads_optional hneeds
  exact hnone.map fun values => values.getD []

/-! ### Chains -/

/-- Texts of operators with texts of operands behind them, one behind the other. -/
inductive Links (Operand : List σ → α → Prop) (Op : List σ → β → Prop) :
    List σ → List (β × α) → Prop where
  | nil : Links Operand Op [] []
  | cons {u t rest : List σ} {f : β} {a : α} {pairs : List (β × α)} : Op u f → Operand t a →
      Links Operand Op rest pairs → Links Operand Op (u ++ (t ++ rest)) ((f, a) :: pairs)

omit [BEq σ] in
theorem Links.cons_symbol {Operand : List σ → α → Prop} {Op : List σ → β → Prop} {x : σ}
    {t rest : List σ} {f : β} {a : α} {pairs : List (β × α)} (hop : Op [x] f) (ht : Operand t a)
    (h : Links Operand Op rest pairs) : Links Operand Op (x :: (t ++ rest)) ((f, a) :: pairs) :=
  .cons hop ht h

variable {op : Parser σ ρ (α → α → α)} {Op : List σ → (α → α → α) → Prop}
  {pairs : List ((α → α → α) × α)}

/-- The operators are read whatever comes next, and begin with what may come behind an operand. -/
structure ReadsOps (rules : Rules σ ρ) (op : Parser σ ρ (α → α → α)) (Before : Option σ → Prop)
    (Op : List σ → (α → α → α) → Prop) : Prop where
  reads : ∀ u f, Op u f → rules.Reads op (fun _ => True) u f
  ne_nil : ∀ u f, Op u f → u ≠ []
  head : ∀ u f, Op u f → Before u.head?

theorem Links.head?_append (hop : rules.ReadsOps op B Op) {Operand : List σ → α → Prop}
    (h : Links Operand Op t pairs) {rest : List σ} (hrest : B rest.head?) :
    B (t ++ rest).head? := by
  cases h with
  | nil => exact hrest
  | cons hu _ _ =>
      rw [List.append_assoc, List.head?_append_of_ne_nil _ (hop.ne_nil _ _ hu)]
      exact hop.head _ _ hu

/-- Where links stand, the chain goes through them. -/
theorem Links.steps (hop : rules.ReadsOps op B Op) (h : Links (rules.Reads p B) Op t pairs)
    {symbols rest : List σ} {c : Cursor} (hdrop : symbols.drop c.position = t ++ rest)
    (hrest : B rest.head?) :
    Steps (rules.Link symbols p op) c pairs ⟨c.position + t.length, c.tracked⟩ := by
  induction h generalizing c with
  | nil => exact .nil c
  | @cons u t links f a pairs hu ht hlinks ih =>
      rw [List.append_assoc, List.append_assoc] at hdrop
      have hbehind : symbols.drop (c.position + u.length) = t ++ (links ++ rest) :=
        drop_behind hdrop
      have hlast : symbols.drop (c.position + u.length + t.length) = links ++ rest :=
        drop_behind hbehind
      rw [List.length_append, List.length_append, ← Nat.add_assoc, ← Nat.add_assoc]
      exact .cons ⟨⟨c.position + u.length, c.tracked⟩, hop.reads u f hu symbols c _ hdrop trivial,
        ht symbols ⟨_, c.tracked⟩ _ hbehind (hlinks.head?_append hop hrest)⟩
        (ih (c := ⟨c.position + u.length + t.length, c.tracked⟩) hlast)

/-- A chain ends before what none of its operators begins with. -/
theorem Reads.chain (side : Side) (hpremade : rules.Throughout rules.Premade op)
    (hop : rules.ReadsOps op B Op) (hreplies : rules.Replies op false set)
    (hp : rules.Reads p B t a) (hlinks : Links (rules.Reads p B) Op u pairs)
    (hR : ∀ o, R o → B o ∧ ∀ x ∈ o, set.contains x = false) :
    rules.Reads (.chain side p op) R (t ++ u) (side.nest a pairs) := by
  intro symbols c rest hdrop hrest
  rw [List.append_assoc] at hdrop
  have hbehind : symbols.drop (c.position + t.length) = u ++ rest := drop_behind hdrop
  have hlast : symbols[c.position + t.length + u.length]? = rest.head? := by
    rw [← List.head?_drop, drop_behind hbehind]
  obtain ⟨hrest, hnone⟩ := hR _ hrest
  have hcannot : rules.CannotBegin symbols op ⟨c.position + t.length + u.length, c.tracked⟩ := by
    refine ⟨hreplies.acceptsEmpty, set, hreplies.firstSet, ?_⟩
    rintro ⟨x, hx, hcontains⟩
    rw [hnone x (hlast ▸ hx)] at hcontains
    cases hcontains
  rw [List.length_append, ← Nat.add_assoc]
  exact (hp symbols c _ hdrop (hlinks.head?_append hop hrest)).chain hpremade
    (hlinks.steps (c := ⟨c.position + t.length, c.tracked⟩) hop hbehind hrest) hcannot

end Reading

end Rules

/-! ### Whole inputs -/

/-- What a parser reads up to the end of the input is parsed. -/
theorem Rules.Reads.parseSymbols [Symbol σ] {rules : Rules σ ρ} {p : Parser σ ρ α}
    {symbols : List σ} {v : α} {b : Bool} {set : SymbolSet σ} {B : Option σ → Prop}
    (h : rules.Reads p B symbols v) (hB : B none) (hp : rules.Throughout Parser.IsPremade p)
    (hfounded : rules.Throughout rules.Founded p) (hreplies : rules.Replies p b set) :
    parseSymbols rules p symbols.toArray = .ok (.ok v) := by
  have hout := h symbols ⟨0, true⟩ [] (List.append_nil _).symm hB
  refine (parseSymbols_eq_ok_iff hp hfounded hreplies hout v).mpr ⟨_, rfl, ?_⟩
  exact Nat.le_of_eq (Nat.zero_add _).symm

end PredictiveParsing
