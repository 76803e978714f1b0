import PredictiveParsing.Proofs.Outcomes

/-!
# Parsing the whole input

What a parser comes to it comes to with the budget of a session already, if the grammar is premade
and founded (`Rules.ComesTo.yields`). So where it is known what the parser comes to at the
beginning, it is known what becomes of a parse: it gives a value exactly if the parser comes to a
success with that value at the end of the input (`parseSymbols_eq_ok_iff`). It makes no difference
that a parse runs on a tracked cursor, and that it refuses the empty input without a run if the
parser needs a symbol.
-/

namespace PredictiveParsing

variable {σ : Type} {ρ : Nat → Type} {S α : Type}

namespace Rules

variable [BEq σ] [Source S σ] {rules : Rules σ ρ} {symbols : List σ} {p : Parser σ ρ α}
  {c : Cursor} {out : Outcome σ α} {E : Halt → Prop} {budget : Nat} {b : Bool}
  {set : SymbolSet σ}

/-- The outcome is there as soon as the budget cannot be used up. -/
theorem ComesTo.yields (hp : rules.Throughout Parser.IsPremade p)
    (hfounded : rules.Throughout rules.Founded p)
    (hbudget : (symbols.length + 2) * (rules.size + 2) ≤ budget)
    (h : rules.ComesTo symbols p c out) :
    Yields (Session.Consistent (S := S) rules symbols) E
      (rules.apply (Session.host rules) budget p c) (· = out) := by
  intro s hs
  obtain ⟨budget', hlater, hle⟩ := (h.and (Filter.eventually_ge_atTop budget)).exists
  obtain ⟨s', hrun', hs', _⟩ := hlater S s hs
  have hend := apply_not_exhausted (Session.host_faithful rules symbols) hp hfounded hbudget c s hs
  have hlonger : Simulates Eq (fun e => e = .exhausted)
      (rules.apply (Session.host (S := S) rules) budget p c)
      (rules.apply (Session.host rules) budget' p c) Eq := apply_simulates hle p c
  have hst := hlonger s s rfl
  cases hrun : rules.apply (Session.host rules) budget p c s with
  | ok out' s₁ =>
      rw [hrun] at hst
      obtain ⟨_, _, heq, rfl, rfl⟩ := hst
      rw [hrun'] at heq
      cases heq
      exact ⟨rfl, hs'⟩
  | error e s₁ =>
      rw [hrun] at hst hend
      rcases hst with hexhausted | ⟨_, heq, _⟩
      · exact absurd hexhausted hend
      · rw [hrun'] at heq
        cases heq

/-- A parse does what its parser comes to on a tracked cursor, and succeeds if that is a success at
the end of the input. -/
theorem parse_yields_of_comesTo (hp : rules.Throughout Parser.IsPremade p)
    (hfounded : rules.Throughout rules.Founded p)
    (hbudget : (symbols.length + 2) * (rules.size + 2) ≤ budget) (hreplies : rules.Replies p b set)
    (h : rules.ComesTo symbols p { c with tracked := true } out) :
    Yields (Session.Consistent (S := S) rules symbols) E
      (rules.parse (Session.host rules) budget p c) fun out' => ∀ v,
        (∃ c', out' = .success v c') ↔
          ∃ next, out = .success v next ∧ symbols.length ≤ next.position := by
  have hhost := Session.host_faithful (S := S) rules symbols
  refine (Session.acceptsEmpty_yields hreplies.acceptsEmpty).bind ?_
  rintro _ rfl
  refine (Session.firstSet_yields hreplies.firstSet).bind ?_
  rintro _ rfl
  refine (hhost.atEnd c).bind ?_
  intro ended hended
  split
  · rename_i hrefused
    rw [Bool.and_eq_true, Bool.not_eq_true'] at hrefused
    -- The parser is not applied, but it would fail.
    have hneeds : rules.AcceptsEmpty p false := hrefused.2 ▸ hreplies.acceptsEmpty
    have hfails := (h.allows hp.sure_of_isPremade).ok_eq_false (hended.mp hrefused.1) hneeds
    refine Yields.pure ?_
    intro v
    cases out with
    | success a next => cases hfails
    | failure f => exact iff_of_false nofun nofun
  · refine hhost.clear.bind ?_
    intro _ _
    refine (h.yields hp hfounded hbudget).bind ?_
    rintro _ rfl
    refine (wholeInput_yields hhost c _).bind ?_
    intro out' hout s hs
    refine ⟨?_, hs⟩
    intro v
    simp only [orFurther_eq_success]
    exact hout v

/-- A failure at the end of the input is what a parse ends with, since no other one is further
on. -/
theorem parse_yields_of_fails {f : Failure σ} (hp : rules.Throughout Parser.IsPremade p)
    (hfounded : rules.Throughout rules.Founded p)
    (hbudget : (symbols.length + 2) * (rules.size + 2) ≤ budget) (hreplies : rules.Replies p b set)
    (hc : c.position < symbols.length) (hf : f.position = symbols.length)
    (h : rules.ComesTo symbols p { c with tracked := true } (.failure f)) :
    Ensures (Session.Consistent (S := S) rules symbols)
      (rules.parse (Session.host rules) budget p c) (fun out _ => out = .failure f) E := by
  have hhost := Session.host_faithful (S := S) rules symbols
  refine Ensures.bind (Session.acceptsEmpty_yields hreplies.acceptsEmpty) ?_
  rintro _ st ⟨rfl, hst⟩
  refine Ensures.bind (Session.firstSet_yields hreplies.firstSet) ?_ st hst
  rintro _ st ⟨rfl, hst⟩
  refine Ensures.bind (hhost.atEnd c) ?_ st hst
  rintro ended st ⟨hended, hst⟩
  obtain rfl : ended = false := by
    rw [← Bool.not_eq_true, hended]
    exact Nat.not_le.mpr hc
  rw [if_neg (by simp)]
  have hconfines : (Session.host (S := S) rules).Confines c.position symbols.length _ :=
    Session.host_confines_record rules c.position
  have hrecords : rules.Throughout Parser.RecordsNothing p :=
    hp.mono fun _ _ h => h.recordsNothing
  have happly := (apply_confined hconfines hrecords budget { c with tracked := true }
    ⟨Nat.le_refl _, Nat.le_of_lt hc⟩).and_yields (E := E) (h.yields hp hfounded hbudget)
  have hclear : Ensures (Session.Consistent (S := S) rules symbols)
      (modify ((Session.host rules).setRecovered none) : Act (Session σ S) Unit)
      (fun _ s => s.Consistent rules symbols ∧
        s.Shows symbols (Failure.RecordWithin c.position symbols.length)) E :=
    fun s hs => ⟨⟨hs.memory, hs.source⟩, hs.source, nofun⟩
  refine Ensures.bind hclear ?_ st hst
  intro _
  refine Ensures.bind happly ?_
  rintro _ s ⟨rfl, -, hshows⟩
  change orFurther s.recovered (.failure f) = .failure f
  cases hrecovered : s.recovered with
  | none => rfl
  | some g =>
      have hle : g.position ≤ f.position := hf ▸ (hshows.recovered g hrecovered).le
      exact congrArg Outcome.failure (if_neg (Nat.not_lt.mpr hle))

end Rules

variable [Symbol σ] {rules : Rules σ ρ} {b : Bool}

/-- Symbols are parsed to what the parser comes to on all of them. -/
theorem parseSymbols_eq_ok_iff {p : Parser σ ρ α} {symbols : List σ} {out : Outcome σ α}
    {set : SymbolSet σ} (hp : rules.Throughout Parser.IsPremade p)
    (hfounded : rules.Throughout rules.Founded p) (hreplies : rules.Replies p b set)
    (h : rules.ComesTo symbols p ⟨0, true⟩ out) (v : α) :
    parseSymbols rules p symbols.toArray = .ok (.ok v) ↔
      ∃ next, out = .success v next ∧ symbols.length ≤ next.position := by
  have hbudget : (symbols.length + 2) * (rules.size + 2) ≤
      Session.budget rules ({ source := symbols.toArray } : Session σ (Array σ)) := by
    simp [Session.budget, Source.bound]
  have hparse := Rules.parse_yields_of_comesTo (E := fun _ => False) (c := .start) hp hfounded
    hbudget hreplies h _ (Session.consistent_array rules symbols)
  unfold parseSymbols parseSource Session.parse
  cases hrun : rules.parse (Session.host rules)
      (Session.budget rules ({ source := symbols.toArray } : Session σ (Array σ))) p .start
      { source := symbols.toArray } with
  | error e s =>
      rw [hrun] at hparse
      exact hparse.elim
  | ok out' s =>
      rw [hrun] at hparse
      rw [← hparse.1 v]
      cases out' with
      | success a next => simp [Outcome.result]
      | failure f => simp [Outcome.result]

/-- Symbols are parsed to the failure that the parser comes to at their end. -/
theorem parseSymbols_eq_error {p : Parser σ ρ α} {symbols : List σ} {f : Failure σ}
    {set : SymbolSet σ} (hp : rules.Throughout Parser.IsPremade p)
    (hfounded : rules.Throughout rules.Founded p) (hreplies : rules.Replies p b set)
    (hne : symbols ≠ []) (hf : f.position = symbols.length)
    (h : rules.ComesTo symbols p ⟨0, true⟩ (.failure f)) :
    parseSymbols rules p symbols.toArray = .ok (.error f.toError) := by
  have hbudget : (symbols.length + 2) * (rules.size + 2) ≤
      Session.budget rules ({ source := symbols.toArray } : Session σ (Array σ)) := by
    simp [Session.budget, Source.bound]
  have hparse := Rules.parse_yields_of_fails (E := fun _ => False) (c := .start) hp hfounded
    hbudget hreplies (List.length_pos_of_ne_nil hne) hf h _ (Session.consistent_array rules symbols)
  unfold parseSymbols parseSource Session.parse
  cases hrun : rules.parse (Session.host rules)
      (Session.budget rules ({ source := symbols.toArray } : Session σ (Array σ))) p .start
      { source := symbols.toArray } with
  | error e s =>
      rw [hrun] at hparse
      exact hparse.elim
  | ok out s =>
      rw [hrun] at hparse
      rw [show out = .failure f from hparse]
      rfl

end PredictiveParsing
