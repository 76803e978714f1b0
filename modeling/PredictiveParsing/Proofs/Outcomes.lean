import Mathlib.Order.Filter.AtTopBot.Basic
import PredictiveParsing.Proofs.Backings
import PredictiveParsing.Proofs.Contract
import PredictiveParsing.Proofs.Interchange
import PredictiveParsing.Proofs.Journal
import PredictiveParsing.Proofs.Termination

/-!
# What a parser comes to

Over given symbols and from a given cursor, a parser comes to one outcome, if it comes to one at
all (`Rules.ComesTo`): any run that ends has it (`Rules.comesTo_of_run`), and with a budget large
enough each consistent session ends with it, over whatever source, and whatever it remembers and has
recorded. What a parser does to the record is of interest now and then, and `Rules.EndsIn` says also
how much of it stays the same.

Otherwise a run stops with a misuse or is never finished. So where no session stops with a misuse
(`Rules.Misused`), it is enough to know of one budget that it is not used up, and what there would
be in the end (`Rules.exists_comesTo`).

Loops apply parsers again and again, each time from the cursor that the time before led to: that is
`Steps`, for any relation of a cursor, a value and the next cursor.
-/

namespace PredictiveParsing

variable {σ τ : Type} {ρ : Nat → Type} {S St α β : Type}

/-! ### Steps -/

/-- Steps that give values, each from the cursor that the one before led to. -/
inductive Steps (step : Cursor → α → Cursor → Prop) : Cursor → List α → Cursor → Prop where
  | nil (c : Cursor) : Steps step c [] c
  | cons {c next e : Cursor} {a : α} {values : List α} :
      step c a next → Steps step next values e → Steps step c (a :: values) e

namespace Steps

variable {step step' : Cursor → α → Cursor → Prop} {c next e : Cursor} {values : List α}

theorem mono (h : Steps step c values e) (hstep : ∀ c a next, step c a next → step' c a next) :
    Steps step' c values e := by
  induction h with
  | nil c => exact .nil c
  | cons hfirst _ ih => exact .cons (hstep _ _ _ hfirst) ih

/-- Finitely many steps that can be made sooner or later can all be made sooner or later. -/
theorem eventually {ι : Type} {l : Filter ι} {step : ι → Cursor → α → Cursor → Prop}
    (h : Steps (fun c a next => ∀ᶠ i in l, step i c a next) c values e) :
    ∀ᶠ i in l, Steps (step i) c values e := by
  induction h with
  | nil c => exact .of_forall fun _ => .nil c
  | cons hfirst _ ih =>
      filter_upwards [hfirst, ih] with i hfirst hrest
      exact .cons hfirst hrest

end Steps

/-! ### Outcomes -/

theorem Session.answers_holds [Source S σ] (symbols : List σ) :
    Source.Answers (fun source : S => Source.Holds source symbols) symbols :=
  fun _ hs i => ⟨hs.symbolAt i, hs.next i⟩

theorem Session.consistent_array [BEq σ] (rules : Rules σ ρ) (symbols : List σ) :
    Session.Consistent rules symbols ({ source := symbols.toArray } : Session σ (Array σ)) :=
  consistent_start (Source.holds_array symbols.toArray)

section Settled

variable [BEq σ] [Source S σ] {rules : Rules σ ρ} {symbols : List σ} {E : Halt → Prop}

/-- What is known of a computation is what it yields. -/
theorem Session.Settled.yields {view : Option (Failure σ) → τ} {m : Act (Session σ S) α} {a : α}
    (h : Settled rules symbols view m a) : Yields (Consistent rules symbols) E m (· = a) := by
  intro s hs
  obtain ⟨s', hm, hs', _⟩ := h s hs
  rw [hm]
  exact ⟨rfl, hs'⟩

variable {p : Parser σ ρ α}

theorem Session.acceptsEmpty_yields {b : Bool} (h : rules.AcceptsEmpty p b) :
    Yields (Consistent (S := S) rules symbols) E ((host rules).acceptsEmpty p).act (· = b) := by
  have hsettled : Settled (S := S) rules symbols (fun _ => ())
      ((host rules).acceptsEmpty p).act b := settled_acceptsEmpty h
  exact hsettled.yields

theorem Session.firstSet_yields {set : SymbolSet σ} (h : rules.FirstSet p set) :
    Yields (Consistent (S := S) rules symbols) E ((host rules).firstSet p).act (· = set) := by
  have hsettled : Settled (S := S) rules symbols (fun _ => ())
      ((host rules).firstSet p).act set := settled_firstSet h
  exact hsettled.yields

end Settled

namespace Rules

variable [BEq σ]

abbrev operand (rules : Rules σ ρ) (host : Host σ ρ St) (budget : Nat) (p : Parser σ ρ α) :
    Operand St σ α :=
  Parser.run.operand host p (rules.apply host budget p)

/-- With any budget that is large enough, the parser ends with the outcome in each consistent
session over the symbols, and leaves of the record what the view shows of it. -/
def EndsIn (rules : Rules σ ρ) (symbols : List σ) (view : Option (Failure σ) → τ)
    (p : Parser σ ρ α) (c : Cursor) (out : Outcome σ α) : Prop :=
  ∀ᶠ budget in Filter.atTop, ∀ (S : Type) [Source S σ],
    Session.Settled (S := S) rules symbols view (rules.apply (Session.host rules) budget p c) out

/-- Applied at the cursor, over these symbols, the parser comes to the outcome. -/
abbrev ComesTo (rules : Rules σ ρ) (symbols : List σ) (p : Parser σ ρ α) (c : Cursor)
    (out : Outcome σ α) : Prop :=
  rules.EndsIn symbols (fun _ => ()) p c out

/-- Applied at the cursor in some consistent session over these symbols, the parser stops with a
misuse. -/
def Misused (rules : Rules σ ρ) (symbols : List σ) (p : Parser σ ρ α) (c : Cursor) : Prop :=
  ∃ (S : Type) (_ : Source S σ) (s s' : Session σ S) (budget : Nat) (m : Misuse),
    s.Consistent rules symbols ∧
      rules.apply (Session.host rules) budget p c s = .error (.misuse m) s'

variable {rules : Rules σ ρ} {symbols : List σ} {view : Option (Failure σ) → τ}
  {p : Parser σ ρ α} {c : Cursor} {out out' : Outcome σ α} {budget : Nat}

theorem EndsIn.comesTo (h : rules.EndsIn symbols view p c out) : rules.ComesTo symbols p c out := by
  filter_upwards [h] with budget h S _ s hs
  obtain ⟨s', hrun, hs', _⟩ := h S s hs
  exact ⟨s', hrun, hs', rfl⟩

/-- A run that ends shows what the parser comes to. -/
theorem comesTo_of_run [Source S σ] (budget : Nat) {s s' : Session σ S}
    (hs : s.Consistent rules symbols)
    (hrun : rules.apply (Session.host rules) budget p c s = .ok out s') :
    rules.ComesTo symbols p c out := by
  filter_upwards [Filter.eventually_ge_atTop budget] with budget' hle T _ t ht
  have halike : Simulates (Session.Agree (S := S) (T := T) rules (Source.Holds · symbols)
      (Source.Holds · symbols) False) (fun e => e = .exhausted)
      (rules.apply (Session.host rules) budget p c)
      (rules.apply (Session.host rules) budget' p c) Eq :=
    Session.apply_alike (F := fun e => e = .exhausted) rules (Session.answers_holds symbols)
      (Session.answers_holds symbols) (.of_le rfl hle) p c
  obtain ⟨_, t', hrun', rfl, hagree⟩ :=
    halike.of_ok t ⟨⟨hs.memory, ht.memory⟩, hs.source, ht.source, False.elim⟩ hrun
  exact ⟨t', hrun', ⟨hagree.memory.2, hagree.second⟩, rfl⟩

/-- Runs do nothing else than come to the parser's outcome. -/
theorem apply_yields_comesTo [Source S σ] (rules : Rules σ ρ) (symbols : List σ) (budget : Nat)
    (p : Parser σ ρ α) (c : Cursor) :
    Yields (Session.Consistent (S := S) rules symbols) (fun _ => True)
      (rules.apply (Session.host rules) budget p c) (rules.ComesTo symbols p c) := by
  refine (Session.apply_consistent rules symbols budget p c).of_run.mono ?_
  rintro out ⟨s, s', hs, hrun⟩
  exact comesTo_of_run budget hs hrun

/-- A session over an array shows what a parser comes to. -/
theorem EndsIn.exists_run (h : rules.EndsIn symbols view p c out) :
    ∃ budget s', rules.apply (Session.host rules) budget p c
      ({ source := symbols.toArray } : Session σ (Array σ)) = .ok out s' := by
  obtain ⟨budget, h⟩ := h.exists
  obtain ⟨s', hrun, _⟩ := h (Array σ) _ (Session.consistent_array rules symbols)
  exact ⟨budget, s', hrun⟩

/-- What runs over an array cannot but end with is true of what the parser comes to. -/
theorem EndsIn.of_yields {q : Outcome σ α → Prop} (h : rules.EndsIn symbols view p c out)
    (hq : ∀ budget, Yields (Session.Consistent (S := Array σ) rules symbols) (fun _ => True)
      (rules.apply (Session.host rules) budget p c) q) : q out := by
  obtain ⟨budget, s', hrun⟩ := h.exists_run
  exact ((hq budget).of_ok (Session.consistent_array rules symbols) hrun).1

/-- A parser comes to one outcome at most. -/
theorem ComesTo.unique (h : rules.ComesTo symbols p c out) (h' : rules.ComesTo symbols p c out') :
    out = out' := by
  obtain ⟨budget, s, hrun⟩ := h.exists_run
  obtain ⟨budget', s', hrun'⟩ := h'.exists_run
  exact apply_unique hrun hrun'

theorem ComesTo.allows {sure : Prop} (hp : rules.Throughout (rules.Sure sure) p)
    (h : rules.ComesTo symbols p c out) : rules.Allows symbols sure p c out :=
  h.of_yields fun budget => apply_allows (Session.host_faithful rules symbols) hp budget c

/-- From a cursor of the input no parser goes back, nor past the end. -/
theorem ComesTo.within (h : rules.ComesTo symbols p c out) (hc : c.position ≤ symbols.length) :
    out.Within c.position symbols.length := by
  obtain ⟨budget, s', hrun⟩ := h.exists_run
  have hconfined : Maintains (Session.Shows symbols fun _ => True)
      (rules.apply (Session.host (S := Array σ) rules) budget p c)
      (Outcome.Within c.position symbols.length) :=
    apply_confined_of_recordsFreely (Session.host_confines rules c.position)
      (Session.host_recordsFreely rules) budget p c (.refl hc)
  exact (hconfined.of_ok ⟨Source.holds_array symbols.toArray, trivial⟩ hrun).1

/-- A parser comes to an outcome if some budget is not used up, and it is not misused, or never
could have been. -/
theorem exists_comesTo {E : Halt → Prop} {q : Outcome σ α → Prop} (budget : Nat)
    (hE : ∀ e, E e → NotExhausted e ∧ ¬rules.Misused symbols p c)
    (h : Yields (Session.Consistent (S := Array σ) rules symbols) E
      (rules.apply (Session.host rules) budget p c) q) :
    ∃ out, q out ∧ rules.ComesTo symbols p c out := by
  have hs := Session.consistent_array rules symbols
  have hyields := h _ hs
  cases hrun : rules.apply (Session.host rules) budget p c
      ({ source := symbols.toArray } : Session σ (Array σ)) with
  | ok out s' =>
      rw [hrun] at hyields
      exact ⟨out, hyields.1, comesTo_of_run budget hs hrun⟩
  | error e s' =>
      rw [hrun] at hyields
      obtain ⟨hnot, hmisused⟩ := hE e hyields
      cases e with
      | misuse m => exact absurd ⟨Array σ, _, _, s', budget, m, hs, hrun⟩ hmisused
      | exhausted => exact absurd rfl hnot

theorem comesTo_of_yields {E : Halt → Prop} (budget : Nat)
    (hE : ∀ e, E e → NotExhausted e ∧ ¬rules.Misused symbols p c)
    (h : Yields (Session.Consistent (S := Array σ) rules symbols) E
      (rules.apply (Session.host rules) budget p c) (· = out)) :
    rules.ComesTo symbols p c out := by
  obtain ⟨_, rfl, hout⟩ := exists_comesTo budget hE h
  exact hout

/-- A parser that comes to an outcome is not misused. -/
theorem ComesTo.not_misused (h : rules.ComesTo symbols p c out) :
    ¬rules.Misused symbols p c := by
  rintro ⟨S, _, s, s', budget, m, hs, hrun⟩
  obtain ⟨budget', h, hle⟩ := (h.and (Filter.eventually_ge_atTop budget)).exists
  obtain ⟨s₁, hrun₁, _⟩ := h S s hs
  have hlonger : Simulates Eq (fun e => e = .exhausted)
      (rules.apply (Session.host (S := S) rules) budget p c)
      (rules.apply (Session.host rules) budget' p c) Eq := apply_simulates hle p c
  have hst := hlonger s s rfl
  rw [hrun, hrun₁] at hst
  rcases hst with hexhausted | ⟨_, hrun₂, _⟩
  · cases hexhausted
  · cases hrun₂

end Rules

end PredictiveParsing
