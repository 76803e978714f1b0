import PredictiveParsing.Proofs.Lockstep
import PredictiveParsing.Proofs.Soundness

/-!
# Runs come to an end

The budget that a session gives its runs is never used up by a premade grammar whose
parsers all have their answers: no run over a source that holds finitely many symbols is
exhausted, and a larger budget would not change what comes of it. Between two symbols a
rule can only be entered through the chain of rules that its first set was worked out
through, and every round of a loop reads a symbol.
-/

namespace PredictiveParsing

variable {σ : Type} {ρ : Nat → Type} {S St α β : Type} [BEq σ]

namespace Rules

variable {rules : Rules σ ρ} {symbols : List σ}

/-! ### One budget and a larger one -/

section Budgets

variable {host : Host σ ρ St} {budget budget' : Nat}

theorem apply_simulates (hle : budget ≤ budget') (p : Parser σ ρ α) (c : Cursor) :
    Simulates Eq (fun e => e = .exhausted) (rules.apply host budget p c)
      (rules.apply host budget' p c) Eq :=
  (rules.apply_alike (F := fun e => e = .exhausted) (Host.Alike.refl host) rfl hle p c c rfl).mono
    fun _ _ h => h.eq

/-- Runs that end come to the same outcome, whatever their budgets. -/
theorem apply_unique {p : Parser σ ρ α} {c : Cursor} {st st₁ st₂ : St} {out₁ out₂ : Outcome σ α}
    (h₁ : rules.apply host budget p c st = .ok out₁ st₁)
    (h₂ : rules.apply host budget' p c st = .ok out₂ st₂) : out₁ = out₂ := by
  rcases Nat.le_total budget budget' with hle | hle
  · obtain ⟨_, _, h, rfl, rfl⟩ := (apply_simulates hle p c).of_ok st rfl h₁
    rw [h₂] at h
    cases h
    rfl
  · obtain ⟨_, _, h, rfl, rfl⟩ := (apply_simulates hle p c).of_ok st rfl h₂
    rw [h₁] at h
    cases h
    rfl

theorem parse_simulates (hle : budget ≤ budget') (p : Parser σ ρ α) (c : Cursor) :
    Simulates Eq (fun e => e = .exhausted) (rules.parse host budget p c)
      (rules.parse host budget' p c) Eq :=
  rules.parse_alike (F := fun e => e = .exhausted) (Host.Alike.refl host) (Host.Alike.refl host)
    (fun _ _ h => h ▸ rfl) (fun _ _ h => h ▸ rfl) (fun _ _ h => h) (.of_le rfl hle) p c

end Budgets

/-! ### The budget of a session -/

/-- What a founded grammar needs for a run over the symbols from any position. -/
theorem funded_of_le {p : Parser σ ρ α} (hp : p.Everywhere rules.Founded) {c budget : Nat}
    (hbudget : (symbols.length + 2) * (rules.size + 2) ≤ budget) :
    ∃ rounds, budget = rounds + 1 ∧ rules.Funded symbols rounds p c := by
  have hcost : rules.cost symbols.length c rules.size ≤ budget := by
    unfold cost
    have hmul : (symbols.length - c) * (rules.size + 2) ≤ symbols.length * (rules.size + 2) :=
      Nat.mul_le_mul_right _ (Nat.sub_le _ _)
    rw [Nat.add_mul] at hbudget
    omega
  have hpos : 0 < budget := by
    unfold cost at hcost
    omega
  refine ⟨budget - 1, by omega, hp, rules.size, hp.here.exists_firstSet, ?_⟩
  omega

abbrev NotExhausted (e : Halt) : Prop := e ≠ .exhausted

variable {p : Parser σ ρ α} {host : Host σ ρ St} {I : St → Prop} {budget : Nat}

theorem apply_not_exhausted (h : host.Faithful rules symbols I)
    (hpremade : rules.Throughout Parser.IsPremade p) (hfounded : rules.Throughout rules.Founded p)
    (hbudget : (symbols.length + 2) * (rules.size + 2) ≤ budget) (c : Cursor) :
    Yields I NotExhausted (rules.apply host budget p c) fun _ => True := by
  have hsure := hpremade.sure_of_isPremade
  exact (apply_yields h (fun _ => nofun) hsure.body (.inr hfounded.body) budget p hsure.start c
    (.inr (funded_of_le hfounded.start hbudget))).mono fun _ _ => trivial

theorem parse_not_exhausted (h : host.Faithful rules symbols I)
    (hpremade : rules.Throughout Parser.IsPremade p) (hfounded : rules.Throughout rules.Founded p)
    (hbudget : (symbols.length + 2) * (rules.size + 2) ≤ budget) (c : Cursor) :
    Yields I NotExhausted (rules.parse host budget p c) fun _ => True := by
  refine (Inquiry.act_yields (fun _ => nofun) (h.acceptsEmpty p)).bind ?_
  intro acceptsEmpty _
  refine (Inquiry.act_yields (fun _ => nofun) (h.firstSet p)).bind ?_
  intro first _
  refine (h.atEnd c).bind ?_
  intro ended _
  split
  · exact Yields.pure trivial
  · refine h.clear.bind ?_
    intro _ _
    refine (apply_not_exhausted h hpremade hfounded hbudget _).bind ?_
    intro out _
    refine (wholeInput_yields h c out).bind ?_
    intro out _
    exact fun st hI => ⟨trivial, hI⟩

/-- Running a parser and parsing with it come to a result: a success, a failure or a misuse. There
is a budget that no run over the symbols uses up, and no larger one gives another result. The
budget of a session is as large, if its source has no more symbols than it says. -/
theorem runs_end [Source S σ] (hpremade : rules.Throughout Parser.IsPremade p)
    (hfounded : rules.Throughout rules.Founded p) {s : Session σ S}
    (hs : s.Consistent rules symbols) (c : Cursor) :
    ∃ enough, (symbols.length ≤ Source.bound s.source → enough ≤ s.budget rules) ∧
      ∀ budget, enough ≤ budget →
        ((∀ s', rules.apply (Session.host rules) budget p c s ≠ .error .exhausted s') ∧
          rules.apply (Session.host rules) budget p c s =
            rules.apply (Session.host rules) enough p c s) ∧
        (∀ s', rules.parse (Session.host rules) budget p c s ≠ .error .exhausted s') ∧
          rules.parse (Session.host rules) budget p c s =
            rules.parse (Session.host rules) enough p c s := by
  have h := Session.host_faithful (S := S) rules symbols
  have happly : ∀ budget, (symbols.length + 2) * (rules.size + 2) ≤ budget →
      ∀ s', rules.apply (Session.host rules) budget p c s ≠ .error .exhausted s' :=
    fun budget hbudget s' hrun =>
      (apply_not_exhausted h hpremade hfounded hbudget c).of_error hs hrun rfl
  have hparse : ∀ budget, (symbols.length + 2) * (rules.size + 2) ≤ budget →
      ∀ s', rules.parse (Session.host rules) budget p c s ≠ .error .exhausted s' :=
    fun budget hbudget s' hrun =>
      (parse_not_exhausted h hpremade hfounded hbudget c).of_error hs hrun rfl
  refine ⟨(symbols.length + 2) * (rules.size + 2), ?_, ?_⟩
  · intro hbound
    exact Nat.mul_le_mul_right _ (Nat.add_le_add_right hbound 2)
  · intro budget hbudget
    refine ⟨⟨happly budget hbudget, ?_⟩, hparse budget hbudget, ?_⟩
    · refine (apply_simulates hbudget p c).eq_of_not_excused ?_
      rintro e s' rfl
      exact happly _ (Nat.le_refl _) s'
    · refine (parse_simulates hbudget p c).eq_of_not_excused ?_
      rintro e s' rfl
      exact hparse _ (Nat.le_refl _) s'

/-- The calculator comes to a result on an expression whose parentheses are never closed, read
symbol by symbol as it is needed. -/
theorem runs_end_calculator :
    ¬∃ s', Session.parse Calculator.rules Calculator.calculator .start
      { source := (Stream.ofSupply "2*((3".toList : Stream (List Char) Char) } =
        .error .exhausted s' := by
  rintro ⟨s', hrun⟩
  obtain ⟨enough, hsession, hend⟩ := runs_end Calculator.isPremade Calculator.founded
    (Session.consistent_start (Stream.holds_ofSupply (Supply.gives_list "2*((3".toList))) .start
  exact (hend _ (hsession (by decide))).2.1 s' hrun

end Rules

end PredictiveParsing
