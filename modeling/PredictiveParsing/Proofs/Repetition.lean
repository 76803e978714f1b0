import PredictiveParsing.Proofs.Outcomes

/-!
# Repetition is iteration

Apply a parser again and again, each time from the cursor that the time before led to, until it
fails: that gives a list of values, a last cursor and a failure. Every repetition of the parser
comes to a part of this (`Rules.repetition_iterates`). `times` takes as many of the values as its
bounds let it and cares only whether there are enough of them. `many` and its companions take them
all, but a failure further on than the last cursor is theirs as well.

The first set decides before each round of `many`. Where the parser succeeds, the next symbol is in
it, so the loop goes on (`Host.Faithful.roundsWhile_of_steps`), and where it is not, the parser
would fail at the cursor itself.

The parser's answers to the questions between the rounds are all that a repetition takes besides its
outcomes. So it cannot be misused if there are answers, and if they are what it asks for
(`Rules.Repeatable`). Some repetitions of a parser without answers are not misused either, because
they never ask.
-/

namespace PredictiveParsing

variable {σ : Type} {ρ : Nat → Type} {S St α β : Type}

/-- The outcome of rounds that end with a failure: a value if it is at the cursor of the last round,
and otherwise the failure. -/
def Outcome.ofRounds (b : β) (e : Cursor) (f : Failure σ) : Outcome σ β :=
  if f.position = e.position then .success b e else .failure f

theorem Outcome.map_ofRounds {γ : Type} (g : β → γ) (b : β) (e : Cursor) (f : Failure σ) :
    (ofRounds b e f).map g = ofRounds (g b) e f := by
  unfold ofRounds
  split
  · rfl
  · rfl

/-! ### Loops -/

structure Operand.Gives [BEq σ] (rules : Rules σ ρ) (symbols : List σ) (I : St → Prop)
    (E : Halt → Prop) (o : Operand St σ α) (p : Parser σ ρ α) (c : Cursor) (out : Outcome σ α) :
    Prop where
  run : Yields I E (o.apply c) (· = out)
  allows : rules.Allows symbols True p c out

abbrev Operand.Iterates [BEq σ] (rules : Rules σ ρ) (symbols : List σ) (I : St → Prop)
    (E : Halt → Prop) (o : Operand St σ α) (p : Parser σ ρ α) : Cursor → List α → Cursor → Prop :=
  Steps fun c a next => o.Gives rules symbols I E p c (.success a next)

namespace Host.Faithful

variable [BEq σ] {host : Host σ ρ St} {rules : Rules σ ρ} {symbols : List σ} {I : St → Prop}
  {E : Halt → Prop} {o : Operand St σ α} {p : Parser σ ρ α} {c e : Cursor} {values : List α}
  {f : Failure σ}

/-- Where the operand succeeds, another round of `times` is made. -/
theorem timesFrom_of_steps (h : host.Faithful rules symbols I) (hs : o.Speaks rules I E p)
    (hvalues : o.Iterates rules symbols I E p c values e)
    {required allowed : Nat} {acc : List α} {q : Outcome σ (List α) → Prop}
    (hrest : Yields I E
      (host.timesFrom o (required - values.length) allowed (values.reverse ++ acc) e) q) :
    Yields I E (host.timesFrom o required (allowed + values.length) acc c) q := by
  induction hvalues generalizing required acc with
  | nil c => exact hrest
  | @cons c next e a values hfirst _ ih =>
      refine (h.endsBefore hs c).bind ?_
      intro ends hends
      cases ends with
      | true =>
          -- The loop would stop here only before a parser that fails at the end of the input.
          obtain ⟨hended, hneeds⟩ := hends rfl
          cases hfirst.allows.ok_eq_false hended hneeds
      | false =>
          refine hfirst.run.bind ?_
          rintro _ rfl
          refine ih ?_
          simpa [Nat.sub_sub, Nat.add_comm] using hrest

/-- Where it fails, there are enough values, or `times` fails at the same position. -/
theorem timesFrom_of_failure (h : host.Faithful rules symbols I) (hs : o.Speaks rules I E p)
    (hfails : o.Gives rules symbols I E p c (.failure f)) (required allowed : Nat) (acc : List α) :
    Yields I E (host.timesFrom o required (allowed + 1) acc c) fun out =>
      (required = 0 → out = .success acc.reverse c) ∧
      (0 < required → ∃ g, out = .failure g ∧ g.position = f.position) := by
  refine (h.endsBefore hs c).bind ?_
  intro ends hends
  cases ends with
  | true =>
      rw [if_pos rfl]
      by_cases hzero : required = 0
      · rw [if_pos hzero]
        exact Yields.pure ⟨fun _ => rfl, fun hpos => absurd hzero (Nat.ne_of_gt hpos)⟩
      · rw [if_neg hzero]
        refine hs.firstSet.bind ?_
        intro set _
        refine Yields.pure ⟨fun h => absurd h hzero, fun _ => ⟨_, rfl, ?_⟩⟩
        exact (hfails.allows.eq_of_length_le (hends rfl).1).symm
  | false =>
      refine hfails.run.bind ?_
      rintro _ rfl
      dsimp only
      by_cases hzero : required = 0
      · rw [if_pos hzero]
        refine (h.recover c f).bind ?_
        intro _ _
        exact Yields.pure ⟨fun _ => rfl, fun hpos => absurd hzero (Nat.ne_of_gt hpos)⟩
      · rw [if_neg hzero]
        exact Yields.pure ⟨fun h => absurd h hzero, fun _ => ⟨f, rfl, rfl⟩⟩

/-- Where an operand that needs a symbol succeeds, another round of `many` is made. -/
theorem roundsWhile_of_steps (h : host.Faithful rules symbols I) {first : SymbolSet σ}
    (hneeds : rules.AcceptsEmpty p false) (hfirst : rules.FirstSet p first) (step : β → α → β)
    (hvalues : o.Iterates rules symbols I E p c values e)
    {rounds : Nat} {acc : β} {q : Outcome σ β → Prop}
    (hrest : Yields I E
      (host.roundsWhile first o.apply step rounds (values.foldl step acc) e) q) :
    Yields I E (host.roundsWhile first o.apply step (rounds + values.length) acc c) q := by
  induction hvalues generalizing acc with
  | nil c => exact hrest
  | @cons c next e a values hround _ ih =>
      refine (h.predicts first c).bind ?_
      intro predicted hpredicted
      obtain ⟨s, hs, hbegins⟩ := hround.allows.spans.first (hround.allows.moves rfl hneeds)
      cases hpredicted.mpr ⟨s, hs, hbegins trivial first hfirst⟩
      refine hround.run.bind ?_
      rintro _ rfl
      exact ih hrest

/-- Where it fails, the rounds end. If no round is made, the failure is one at the cursor. -/
theorem roundsWhile_of_failure (h : host.Faithful rules symbols I) {first : SymbolSet σ}
    (hneeds : rules.AcceptsEmpty p false) (hfirst : rules.FirstSet p first) (step : β → α → β)
    (hfails : o.Gives rules symbols I E p c (.failure f)) (rounds : Nat) (acc : β) :
    Yields I E (host.roundsWhile first o.apply step (rounds + 1) acc c)
      (· = .ofRounds acc c f) := by
  refine (h.predicts first c).bind ?_
  intro predicted hpredicted
  cases predicted with
  | false =>
      -- The parser is not applied, but what it would have come to is a failure at the cursor.
      have hbegins : ¬∃ s, symbols[c.position]? = some s ∧ rules.Begins True p s := by
        rintro ⟨s, hs, hbegins⟩
        cases hpredicted.mpr ⟨s, hs, hbegins trivial first hfirst⟩
      have hposition : f.position = c.position := (hfails.allows.eq_fail hneeds hbegins).2
      exact Yields.pure (if_pos hposition).symm
  | true =>
      refine hfails.run.bind ?_
      rintro _ rfl
      have hge : c.position ≤ f.position := hfails.allows.spans.le
      dsimp only
      split
      · rename_i hlt
        exact Yields.pure (if_neg (Nat.ne_of_gt hlt)).symm
      · rename_i hlt
        refine (h.recover c f).bind ?_
        intro _ _
        exact Yields.pure (if_pos (Nat.le_antisymm (Nat.le_of_not_lt hlt) hge)).symm

/-- All rounds of an operand that is applied until it fails. -/
theorem roundsWhile_iterates (h : host.Faithful rules symbols I) {first : SymbolSet σ}
    (hneeds : rules.AcceptsEmpty p false) (hfirst : rules.FirstSet p first) (step : β → α → β)
    (hvalues : o.Iterates rules symbols I E p c values e)
    (hfails : o.Gives rules symbols I E p e (.failure f)) {rounds : Nat}
    (hrounds : values.length < rounds) (acc : β) :
    Yields I E (host.roundsWhile first o.apply step rounds acc c)
      (· = .ofRounds (values.foldl step acc) e f) := by
  obtain ⟨spare, rfl⟩ : ∃ spare, rounds = spare + 1 + values.length :=
    ⟨rounds - values.length - 1, by omega⟩
  exact h.roundsWhile_of_steps hneeds hfirst step hvalues
    (h.roundsWhile_of_failure hneeds hfirst step hfails spare _)

/-! ### Repetitions -/

variable {rounds : Nat}

/-- All values kept, the ones before them first. -/
theorem rounds_iterate (h : host.Faithful rules symbols I) {first : SymbolSet σ}
    (hneeds : rules.AcceptsEmpty p false) (hfirst : rules.FirstSet p first)
    (hvalues : o.Iterates rules symbols I E p c values e)
    (hfails : o.Gives rules symbols I E p e (.failure f)) (hrounds : values.length < rounds)
    (before : List α) :
    Yields I E (do
        return (← host.roundsWhile first o.apply (fun values a => a :: values) rounds before.reverse
          c).map List.reverse)
      (· = .ofRounds (before ++ values) e f) := by
  refine (h.roundsWhile_iterates hneeds hfirst _ hvalues hfails hrounds before.reverse).bind ?_
  rintro _ rfl
  refine Yields.pure ?_
  rw [Outcome.map_ofRounds, List.foldl_flip_cons_eq_append', List.reverse_append,
    List.reverse_reverse, List.reverse_reverse]

theorem many_iterates (h : host.Faithful rules symbols I) (hs : o.Speaks rules I E p)
    (hneeds : Yields I E (needsSymbol .many o) fun _ => rules.AcceptsEmpty p false)
    (hvalues : o.Iterates rules symbols I E p c values e)
    (hfails : o.Gives rules symbols I E p e (.failure f)) (hrounds : values.length < rounds) :
    Yields I E (host.many rounds o c) (· = .ofRounds values e f) := by
  refine hneeds.bind ?_
  intro _ hneeds
  refine hs.firstSet.bind ?_
  intro first hfirst
  exact h.rounds_iterate hneeds hfirst hvalues hfails hrounds []

theorem many1_iterates (h : host.Faithful rules symbols I) (hs : o.Speaks rules I E p)
    (hneeds : Yields I E (needsSymbol .many1 o) fun _ => rules.AcceptsEmpty p false)
    (hvalues : o.Iterates rules symbols I E p c values e)
    (hfails : o.Gives rules symbols I E p e (.failure f)) (hrounds : values.length < rounds)
    (hne : values ≠ []) :
    Yields I E (host.many1 rounds o c) (· = .ofRounds values e f) := by
  refine hneeds.bind ?_
  intro _ hneeds
  cases hvalues with
  | nil => exact absurd rfl hne
  | cons hround hvalues =>
      refine hround.run.bind ?_
      rintro _ rfl
      refine hs.firstSet.bind ?_
      intro first hfirst
      exact h.rounds_iterate hneeds hfirst hvalues hfails (Nat.lt_of_succ_lt hrounds) [_]

theorem skipMany_iterates (h : host.Faithful rules symbols I) (hs : o.Speaks rules I E p)
    (hneeds : Yields I E (needsSymbol .skipMany o) fun _ => rules.AcceptsEmpty p false)
    (hvalues : o.Iterates rules symbols I E p c values e)
    (hfails : o.Gives rules symbols I E p e (.failure f)) (hrounds : values.length < rounds) :
    Yields I E (host.skipMany rounds o c) (· = .ofRounds () e f) := by
  refine hneeds.bind ?_
  intro _ hneeds
  refine hs.firstSet.bind ?_
  intro first hfirst
  exact h.roundsWhile_iterates hneeds hfirst _ hvalues hfails hrounds ()

omit [BEq σ] in
/-- `times` makes its rounds, after the check of its bounds. -/
theorem times_of_timesFrom {min max : Nat}
    (hneeds : min < max →
      Yields I E (needsSymbol .between o) fun _ => rules.AcceptsEmpty p false)
    {q : Outcome σ (List α) → Prop} (h : Yields I E (host.timesFrom o min max [] c) q) :
    Yields I E (host.times min max o c) q := by
  unfold Host.times
  by_cases hlt : min < max
  · rw [if_pos hlt]
    exact (hneeds hlt).bind fun _ _ => h
  · rw [if_neg hlt]
    exact h

theorem times_iterates (h : host.Faithful rules symbols I) (hs : o.Speaks rules I E p)
    (hvalues : o.Iterates rules symbols I E p c values e) {min : Nat}
    (hneeds : min < values.length →
      Yields I E (needsSymbol .between o) fun _ => rules.AcceptsEmpty p false) :
    Yields I E (host.times min values.length o c) (· = .success values e) := by
  refine times_of_timesFrom hneeds ?_
  have hrest : Yields I E (host.timesFrom o (min - values.length) 0 (values.reverse ++ []) e)
      (· = .success values e) := Yields.pure (by rw [List.append_nil, List.reverse_reverse])
  have htimes := h.timesFrom_of_steps hs hvalues hrest
  rw [Nat.zero_add] at htimes
  exact htimes

theorem times_iterates_of_failure (h : host.Faithful rules symbols I) (hs : o.Speaks rules I E p)
    (hvalues : o.Iterates rules symbols I E p c values e)
    (hfails : o.Gives rules symbols I E p e (.failure f)) {min max : Nat}
    (hneeds : min < max →
      Yields I E (needsSymbol .between o) fun _ => rules.AcceptsEmpty p false)
    (hmax : values.length < max) :
    Yields I E (host.times min max o c) fun out =>
      (min ≤ values.length → out = .success values e) ∧
      (values.length < min → ∃ g, out = .failure g ∧ g.position = f.position) := by
  obtain ⟨spare, rfl⟩ : ∃ spare, max = spare + 1 + values.length :=
    ⟨max - values.length - 1, by omega⟩
  refine times_of_timesFrom hneeds (h.timesFrom_of_steps hs hvalues ?_)
  refine (h.timesFrom_of_failure hs hfails _ spare _).mono ?_
  rintro out ⟨henough, hfew⟩
  refine ⟨?_, fun hlt => hfew (Nat.sub_pos_of_lt hlt)⟩
  intro hle
  rw [henough (Nat.sub_eq_zero_of_le hle), List.append_nil, List.reverse_reverse]

end Host.Faithful

/-! ### Parsers -/

namespace Rules

variable [BEq σ]

/-- The parser, applied again and again, comes to successes with the values and leads to the
cursor `e`. -/
abbrev Iterates (rules : Rules σ ρ) (symbols : List σ) (p : Parser σ ρ α) :
    Cursor → List α → Cursor → Prop :=
  Steps fun c a next => rules.ComesTo symbols p c (.success a next)

/-- Both questions about the parser have answers, and if it must, it needs a symbol. -/
def Repeatable (rules : Rules σ ρ) (p : Parser σ ρ α) (must : Prop) : Prop :=
  ∃ b set, rules.Replies p b set ∧ (must → b = false)

/-- What can stop a parser between its rounds: a misuse, unless it is repeatable. -/
abbrev Unrepeatable (rules : Rules σ ρ) (p : Parser σ ρ α) (must : Prop) (e : Halt) : Prop :=
  NotExhausted e ∧ ¬rules.Repeatable p must

variable {rules : Rules σ ρ} {symbols : List σ} {p : Parser σ ρ α} {c e : Cursor}
  {values : List α} {out : Outcome σ α} {E : Halt → Prop} {must : Prop}

/-- In the sessions over an array, a parser is an operand that gives what the parser comes to. -/
theorem ComesTo.gives (hp : rules.Throughout rules.Premade p) (h : rules.ComesTo symbols p c out) :
    ∀ᶠ budget in Filter.atTop,
      (rules.operand (Session.host (S := Array σ) rules) budget p).Gives rules symbols
        (Session.Consistent rules symbols) E p c out := by
  filter_upwards [h] with budget hbudget
  exact ⟨(hbudget (Array σ)).yields, h.allows hp.sure_of_premade⟩

theorem Iterates.give (hp : rules.Throughout rules.Premade p)
    (h : rules.Iterates symbols p c values e) :
    ∀ᶠ budget in Filter.atTop,
      (rules.operand (Session.host (S := Array σ) rules) budget p).Iterates rules symbols
        (Session.Consistent rules symbols) E p c values e :=
  Steps.eventually (h.mono fun _ _ _ hstep => hstep.gives hp)

section Questions

variable [Source S σ] (rules symbols p must) (apply : Action (Session σ S) σ α)

/-- What is asked between the rounds is answered. Nothing is known of a parser that is not
repeatable, but there a misuse is among the faults. -/
theorem operand_speaks_repeated :
    (Parser.run.operand (Session.host rules) p apply).Speaks rules
      (Session.Consistent rules symbols) (rules.Unrepeatable p must) p := by
  by_cases hrepeatable : rules.Repeatable p must
  · obtain ⟨b, set, hreplies, _⟩ := hrepeatable
    constructor
    · refine (Session.acceptsEmpty_yields hreplies.acceptsEmpty).mono ?_
      rintro _ rfl
      exact hreplies.acceptsEmpty
    · refine (Session.firstSet_yields hreplies.firstSet).mono ?_
      rintro _ rfl
      exact hreplies.firstSet
  · exact (Session.host_faithful rules symbols).operand_speaks (fun _ => ⟨nofun, hrepeatable⟩) p _

theorem needsSymbol_repeated (repetition : Repetition) (hmust : must) :
    Yields (Session.Consistent (S := S) rules symbols) (rules.Unrepeatable p must)
      (Host.needsSymbol repetition (Parser.run.operand (Session.host rules) p apply))
      fun _ => rules.AcceptsEmpty p false := by
  by_cases hrepeatable : rules.Repeatable p must
  · obtain ⟨b, set, hreplies, hneeds⟩ := hrepeatable
    cases hneeds hmust
    refine (Session.acceptsEmpty_yields hreplies.acceptsEmpty).bind ?_
    rintro _ rfl
    exact Yields.pure hreplies.acceptsEmpty
  · exact Host.needsSymbol_yields (fun _ => ⟨nofun, hrepeatable⟩)
      (operand_speaks_repeated rules symbols p must apply) repetition

end Questions

section Repetitions

variable {f : Failure σ} (hp : rules.Throughout rules.Premade p)
  (hvalues : rules.Iterates symbols p c values e)

include hp hvalues

theorem comesTo_times {min : Nat} (h : rules.Repeatable p (min < values.length) ∨
      ¬rules.Misused symbols (p.times min values.length) c) :
    rules.ComesTo symbols (p.times min values.length) c (.success values e) := by
  obtain ⟨budget, hgive, hpos⟩ :=
    ((hvalues.give hp).and (Filter.eventually_gt_atTop 0)).exists
  obtain ⟨rounds, rfl⟩ := Nat.exists_eq_add_one.mpr hpos
  exact comesTo_of_yields (rounds + 1) (fun _ hunfit => hunfit.imp_right h.resolve_left)
    ((Session.host_faithful rules symbols).times_iterates
      (operand_speaks_repeated rules symbols p _ _) hgive
      (needsSymbol_repeated rules symbols p _ _ .between))

variable (hfails : rules.ComesTo symbols p e (.failure f))

include hfails

/-- With a budget that is large enough, the operand does in a session over an array what its parser
comes to, down to the failure. -/
theorem exists_rounds : ∃ rounds, values.length < rounds ∧
    (rules.operand (Session.host (S := Array σ) rules) (rounds + 1) p).Iterates rules symbols
      (Session.Consistent rules symbols) E p c values e ∧
    (rules.operand (Session.host (S := Array σ) rules) (rounds + 1) p).Gives rules symbols
      (Session.Consistent rules symbols) E p e (.failure f) := by
  obtain ⟨budget, hgive, hgives, hlt⟩ := ((hvalues.give hp).and
    ((hfails.gives hp).and (Filter.eventually_gt_atTop (values.length + 1)))).exists
  obtain ⟨rounds, rfl⟩ := Nat.exists_eq_add_one.mpr (Nat.zero_lt_of_lt hlt)
  exact ⟨rounds, Nat.lt_of_succ_lt_succ hlt, hgive, hgives⟩

theorem comesTo_times_of_failure {min max : Nat} (hmax : values.length < max)
    (h : rules.Repeatable p (min < max) ∨ ¬rules.Misused symbols (p.times min max) c) :
    ∃ out, ((min ≤ values.length → out = .success values e) ∧
        (values.length < min → ∃ g, out = .failure g ∧ g.position = f.position)) ∧
      rules.ComesTo symbols (p.times min max) c out := by
  obtain ⟨rounds, _, hgive, hgives⟩ := exists_rounds hp hvalues hfails
  exact exists_comesTo (rounds + 1) (fun _ hunfit => hunfit.imp_right h.resolve_left)
    ((Session.host_faithful rules symbols).times_iterates_of_failure
      (operand_speaks_repeated rules symbols p _ _) hgive hgives
      (needsSymbol_repeated rules symbols p _ _ .between) hmax)

theorem comesTo_many (h : rules.Repeatable p True ∨ ¬rules.Misused symbols p.many c) :
    rules.ComesTo symbols p.many c (.ofRounds values e f) := by
  obtain ⟨rounds, hlt, hgive, hgives⟩ := exists_rounds hp hvalues hfails
  exact comesTo_of_yields (rounds + 1) (fun _ hunfit => hunfit.imp_right h.resolve_left)
    ((Session.host_faithful rules symbols).many_iterates
      (operand_speaks_repeated rules symbols p _ _)
      (needsSymbol_repeated rules symbols p _ _ .many trivial) hgive hgives hlt)

theorem comesTo_many1 (hne : values ≠ [])
    (h : rules.Repeatable p True ∨ ¬rules.Misused symbols p.many1 c) :
    rules.ComesTo symbols p.many1 c (.ofRounds values e f) := by
  obtain ⟨rounds, hlt, hgive, hgives⟩ := exists_rounds hp hvalues hfails
  exact comesTo_of_yields (rounds + 1) (fun _ hunfit => hunfit.imp_right h.resolve_left)
    ((Session.host_faithful rules symbols).many1_iterates
      (operand_speaks_repeated rules symbols p _ _)
      (needsSymbol_repeated rules symbols p _ _ .many1 trivial) hgive hgives hlt hne)

theorem comesTo_skipMany (h : rules.Repeatable p True ∨ ¬rules.Misused symbols p.skipMany c) :
    rules.ComesTo symbols p.skipMany c (.ofRounds () e f) := by
  obtain ⟨rounds, hlt, hgive, hgives⟩ := exists_rounds hp hvalues hfails
  exact comesTo_of_yields (rounds + 1) (fun _ hunfit => hunfit.imp_right h.resolve_left)
    ((Session.host_faithful rules symbols).skipMany_iterates
      (operand_speaks_repeated rules symbols p _ _)
      (needsSymbol_repeated rules symbols p _ _ .skipMany trivial) hgive hgives hlt)

end Repetitions

/-- Let a premade parser, applied again and again, give the values and lead to the cursor `e`. If
there are as many values as `times` asks for at most, it comes to them. If the parser fails at `e`
before there are so many, `times` succeeds there with the values if they are enough, and otherwise
fails where the parser did. `many`, `many1` if there is a value, and `skipMany` succeed there if the
failure is at `e`, and otherwise fail with it. All this holds of a parser whose answers allow it to
be repeated so, and wherever the repetition is not misused. -/
theorem repetition_iterates (hp : rules.Throughout rules.Premade p)
    (hvalues : rules.Iterates symbols p c values e) :
    (∀ min ≤ values.length,
      rules.Repeatable p (min < values.length) ∨
        ¬rules.Misused symbols (p.times min values.length) c →
      rules.ComesTo symbols (p.times min values.length) c (.success values e)) ∧
    ∀ f, rules.ComesTo symbols p e (.failure f) →
      (∀ min max, min ≤ max → values.length < max →
        rules.Repeatable p (min < max) ∨ ¬rules.Misused symbols (p.times min max) c →
        (min ≤ values.length →
          rules.ComesTo symbols (p.times min max) c (.success values e)) ∧
        (values.length < min → ∃ g, g.position = f.position ∧
          rules.ComesTo symbols (p.times min max) c (.failure g))) ∧
      (rules.Repeatable p True ∨ ¬rules.Misused symbols p.many c →
        rules.ComesTo symbols p.many c (.ofRounds values e f)) ∧
      (values ≠ [] → rules.Repeatable p True ∨ ¬rules.Misused symbols p.many1 c →
        rules.ComesTo symbols p.many1 c (.ofRounds values e f)) ∧
      (rules.Repeatable p True ∨ ¬rules.Misused symbols p.skipMany c →
        rules.ComesTo symbols p.skipMany c (.ofRounds () e f)) := by
  refine ⟨fun min _ h => comesTo_times hp hvalues h, ?_⟩
  intro f hfails
  refine ⟨?_, comesTo_many hp hvalues hfails, comesTo_many1 hp hvalues hfails,
    comesTo_skipMany hp hvalues hfails⟩
  intro min max _ hmax h
  obtain ⟨out, ⟨henough, hfew⟩, hout⟩ := comesTo_times_of_failure hp hvalues hfails hmax h
  constructor
  · intro hle
    rw [← henough hle]
    exact hout
  · intro hlt
    obtain ⟨g, rfl, hposition⟩ := hfew hlt
    exact ⟨g, hposition, hout⟩

/-- On `ababax` the pair of `a` and `b` is read twice and fails behind the third `a`. Up to three
pairs are two, and any number of them fails. -/
theorem repetition_iterates_pairs :
    let p : Parser Char (fun _ => Unit) Char := (Parser.value 'a').andL (Parser.value 'b')
    ∃ f, Rules.empty.ComesTo "ababax".toList p ⟨4, false⟩ (.failure f) ∧ f.position = 5 ∧
      Rules.empty.ComesTo "ababax".toList (p.times 1 3) .start (.success ['a', 'a'] ⟨4, false⟩) ∧
      Rules.empty.ComesTo "ababax".toList p.many .start (.failure f) := by
  intro p
  have hs := Session.consistent_array (Rules.empty : Rules Char fun _ => Unit) "ababax".toList
  have hpremade : Rules.empty.Throughout Rules.empty.Premade p := by
    constructor
    · repeat' constructor
    · exact nofun
  have hvalues : Rules.empty.Iterates "ababax".toList p .start ['a', 'a'] ⟨4, false⟩ :=
    .cons (comesTo_of_run 1 hs rfl) (.cons (comesTo_of_run 1 hs rfl) (.nil ⟨4, false⟩))
  have hfails : ∃ f, Rules.empty.ComesTo "ababax".toList p ⟨4, false⟩ (.failure f) ∧
      f.position = 5 :=
    ⟨_, comesTo_of_run 1 hs rfl, rfl⟩
  obtain ⟨f, hfails, hposition⟩ := hfails
  obtain ⟨htimes, hmany, _⟩ := (repetition_iterates hpremade hvalues).2 f hfails
  have hrepeatable : ∀ must, Rules.empty.Repeatable p must :=
    fun _ => ⟨false, _, ⟨rfl, rfl⟩, fun _ => rfl⟩
  have htimes := (htimes 1 3 (by decide) (by decide) (.inl (hrepeatable _))).1 (by decide)
  have hmany := hmany (.inl (hrepeatable _))
  have hlate : Outcome.ofRounds ['a', 'a'] ⟨4, false⟩ f = .failure f :=
    if_neg (by simp [hposition])
  rw [hlate] at hmany
  exact ⟨f, hfails, hposition, htimes, hmany⟩

end Rules

end PredictiveParsing
