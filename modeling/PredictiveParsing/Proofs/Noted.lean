import PredictiveParsing.Proofs.Lockstep

/-!
# The failures of a run

Most failures in a run are forgotten: an alternative is tried after them, or a repetition
ends. To speak about all of them, `Noted` keeps beside the state of a host the failures
that parsers have returned so far, and `Noted.note` adds to it what each parser returns. A
parser inside `not` is asked only whether it fails, and what is returned in there is
dropped when the `not` ends.

Noting changes nothing: a parse comes to the same outcome and the same state with it
(`Rules.parseNoted_of_parse`).
-/

namespace PredictiveParsing

variable {σ : Type} {ρ : Nat → Type} {St α ε : Type}

structure Noted (σ St : Type) where
  state : St
  failures : List (Failure σ)

def Parser.isNot : Parser σ ρ α → Bool
  | .not _ => true
  | _ => false

def Outcome.failures : Outcome σ α → List (Failure σ)
  | .success _ _ => []
  | .failure f => [f]

namespace Noted

def lift (m : EStateM ε St α) : EStateM ε (Noted σ St) α
  | ⟨st, failures⟩ =>
    match m st with
    | .ok a st => .ok a ⟨st, failures⟩
    | .error e st => .error e ⟨st, failures⟩

def add (out : Outcome σ α) : EStateM ε (Noted σ St) Unit :=
  modify fun n => { n with failures := out.failures ++ n.failures }

/-- Notes the failure that a parser returns, and at the end of a `not` drops what was noted in
it. -/
def note : Around σ ρ (Noted σ St) := fun _ p act c n =>
  match act c n with
  | .error e n' => .error e n'
  | .ok out n' =>
    .ok out ⟨n'.state, out.failures ++ if p.isNot then n.failures else n'.failures⟩

end Noted

def Host.noted (host : Host σ ρ St) : Host σ ρ (Noted σ St) where
  symbolAt
    | i, ⟨st, failures⟩ =>
      let (symbol, st) := host.symbolAt i st
      (symbol, ⟨st, failures⟩)
  acceptsEmpty p := Noted.lift (host.acceptsEmpty p)
  firstSet p := Noted.lift (host.firstSet p)
  recovered n := host.recovered n.state
  setRecovered f n := { n with state := host.setRecovered f n.state }

namespace Rules

variable [BEq σ]

def applyNoted (rules : Rules σ ρ) (host : Host σ ρ St) (budget : Nat) (p : Parser σ ρ α) :
    Action (Noted σ St) σ α :=
  rules.applyAround Noted.note host.noted budget p

/-- Parses the whole input from a cursor on and notes the failures on the way: those that parsers
return, and the verdicts of the parse itself, when it refuses an input at its end and when it
finds symbols left behind what the parser read. -/
def parseNoted (rules : Rules σ ρ) (host : Host σ ρ St) (budget : Nat) (p : Parser σ ρ α) :
    Action (Noted σ St) σ α := fun c => do
  let acceptsEmpty ← (host.noted.acceptsEmpty p).act
  let first ← (host.noted.firstSet p).act
  let ended ← host.noted.atEnd c
  if ended && !acceptsEmpty then
    let refused : Outcome σ α := .failure ⟨c.position, .endOfInput first⟩
    Noted.add refused
    return refused
  else
    modify (host.noted.setRecovered none)
    let outcome ← rules.applyNoted host budget p { c with tracked := true }
    let outcome ← wholeInput host.noted c outcome
    Noted.add outcome
    return orFurther (host.noted.recovered (← get)) outcome

end Rules

/-! ### Noting changes nothing -/

def Noted.Of (st : St) (n : Noted σ St) : Prop := n.state = st

theorem Noted.lift_simulates {F : ε → Prop} (m : EStateM ε St α) :
    Simulates (Noted.Of (σ := σ)) F m (Noted.lift m) Eq := by
  intro st n hn
  rcases n with ⟨state, failures⟩
  change state = st at hn
  subst hn
  unfold Noted.lift
  dsimp only
  cases m state with
  | ok a st' => exact ⟨a, _, rfl, rfl, rfl⟩
  | error e st' => exact .inr ⟨_, rfl, rfl⟩

theorem Host.noted_alike {F : Halt → Prop} (host : Host σ ρ St) :
    host.Alike host.noted Noted.Of F Eq where
  cursor := Cursor.alike_eq
  symbolAt i st n hn := by
    rcases n with ⟨state, failures⟩
    change state = st at hn
    subst hn
    exact ⟨rfl, rfl⟩
  acceptsEmpty p := Inquiry.act_simulates (Noted.lift_simulates (host.acceptsEmpty p))
  firstSet p := Inquiry.act_simulates (Noted.lift_simulates (host.firstSet p))
  recover c₁ c₂ f hc := by
    subst hc
    intro st n hn
    change n.state = st at hn
    subst hn
    unfold Host.recover
    cases c₁.tracked with
    | true => exact ⟨(), _, rfl, trivial, rfl⟩
    | false => exact ⟨(), _, rfl, trivial, rfl⟩

theorem Noted.alike_note {F : Halt → Prop} {C : Cursor → Cursor → Prop} :
    Around.Alike Noted.Of F C (Around.none : Around σ ρ St) Noted.note := by
  intro α p act₁ act₂ hact c₁ c₂ hc st n hn
  have hst := hact c₁ c₂ hc st n hn
  unfold Noted.note Around.none
  cases h₁ : act₁ c₁ st with
  | ok out st' =>
      rw [h₁] at hst
      obtain ⟨out', n', h₂, hout, hn'⟩ := hst
      rw [h₂]
      exact ⟨out', _, rfl, hout, hn'⟩
  | error e st' =>
      rw [h₁] at hst
      rcases hst with hF | ⟨n', h₂, hn'⟩
      · exact .inl hF
      · rw [h₂]
        exact .inr ⟨n', rfl, hn'⟩

namespace Rules

variable {host : Host σ ρ St}

variable [BEq σ] {rules : Rules σ ρ} {budget : Nat} {p : Parser σ ρ α}

theorem applyNoted_simulates (c : Cursor) :
    Simulates Noted.Of (fun _ => True) (rules.apply host budget p c)
      (rules.applyNoted host budget p c) Eq := by
  rw [← applyAround_none]
  exact (rules.applyAround_alike host.noted_alike Noted.alike_note (Outlasts.refl _) p
    c c rfl).mono fun _ _ h => h.eq

theorem parseNoted_simulates (c : Cursor) :
    Simulates Noted.Of (fun _ => True) (rules.parse host budget p c)
      (rules.parseNoted host budget p c) Eq := by
  have h : host.Alike host.noted Noted.Of (fun _ => True) Eq := host.noted_alike
  refine (h.acceptsEmpty p).bind_eq ?_
  intro acceptsEmpty
  refine (h.firstSet p).bind_eq ?_
  intro first
  refine (h.atEnd rfl).bind_eq ?_
  intro ended
  split
  · intro st n hn
    exact ⟨_, _, rfl, rfl, hn⟩
  · have hclear : Simulates Noted.Of (fun _ => True)
        (modify (host.setRecovered none) : Act St Unit)
        (modify (host.noted.setRecovered none) : Act (Noted σ St) Unit) fun _ _ => True := by
      intro st n hn
      exact ⟨(), _, rfl, trivial, congrArg (host.setRecovered none) hn⟩
    refine hclear.bind ?_
    intro _ _ _
    refine (applyNoted_simulates _).bind_eq ?_
    intro out
    refine (Rules.wholeInput_alike h c out).bind_eq ?_
    intro out st n hn
    change n.state = st at hn
    subst hn
    exact ⟨_, _, rfl, rfl, rfl⟩

/-- A parse that ends does so with the failures noted. -/
theorem parseNoted_of_parse {c : Cursor} {st st' : St} {out : Outcome σ α}
    (h : rules.parse host budget p c st = .ok out st') :
    ∃ failures, rules.parseNoted host budget p c ⟨st, []⟩ = .ok out ⟨st', failures⟩ := by
  obtain ⟨_, n, hrun, rfl, hn⟩ := (parseNoted_simulates c).of_ok ⟨st, []⟩ rfl h
  rcases n with ⟨state, failures⟩
  change state = st' at hn
  subst hn
  exact ⟨failures, hrun⟩

end Rules

end PredictiveParsing
