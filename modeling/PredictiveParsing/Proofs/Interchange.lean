import PredictiveParsing.Proofs.Formulas
import PredictiveParsing.Proofs.Host
import PredictiveParsing.Proofs.Lockstep
import PredictiveParsing.Proofs.Memories

/-!
# Parsers that can stand for one another

Two computations of a session are interchangeable if they end in the same way from any two
consistent sessions over the same symbols (`Session.Interchangeable`). The sessions may remember
different things. Of their records, which no run looks at, only as much has to be the same as a
`view` shows: a part of a record, or nothing.

Questions about a grammar that have an answer, and looks at the input, end with what is known before
and change nothing that could be noticed (`Session.Settled`). So where the answers of two
alternatives are known, `or` comes to one of four things (`Session.apply_or_interchangeable`).
-/

namespace PredictiveParsing

variable {σ τ : Type} {ρ : Nat → Type} {S St ε α β γ : Type}

/-! ### Simulations in both directions -/

namespace Simulates

variable {R : St → St → Prop} {F : ε → Prop} {m₁ m₂ m₃ : EStateM ε St α}

theorem symm (hR : ∀ st₁ st₂, R st₁ st₂ → R st₂ st₁)
    (h : Simulates R (fun _ => False) m₁ m₂ Eq) : Simulates R (fun _ => False) m₂ m₁ Eq := by
  intro st₂ st₁ hst
  have hback := h st₁ st₂ (hR _ _ hst)
  cases hm₁ : m₁ st₁ with
  | ok a st₁' =>
      rw [hm₁] at hback
      obtain ⟨_, st₂', hm₂, rfl, hst'⟩ := hback
      rw [hm₂]
      exact ⟨a, st₁', rfl, rfl, hR _ _ hst'⟩
  | error e st₁' =>
      rw [hm₁] at hback
      obtain ⟨st₂', hm₂, hst'⟩ := hback.resolve_left id
      rw [hm₂]
      exact .inr ⟨st₁', rfl, hR _ _ hst'⟩

theorem trans {m₂ : EStateM ε St β} {m₃ : EStateM ε St γ} {Q : α → β → Prop} {Q' : β → γ → Prop}
    (hself : ∀ st₁ st₂, R st₁ st₂ → R st₁ st₁)
    (hR : ∀ st₁ st₂ st₃, R st₁ st₂ → R st₂ st₃ → R st₁ st₃)
    (h : Simulates R F m₁ m₂ Q) (h' : Simulates R F m₂ m₃ Q') :
    Simulates R F m₁ m₃ fun a c => ∃ b, Q a b ∧ Q' b c := by
  intro st₁ st₃ hst
  have hfirst := h st₁ st₁ (hself _ _ hst)
  have hsecond := h' st₁ st₃ hst
  cases hm₁ : m₁ st₁ with
  | ok a st₁' =>
      rw [hm₁] at hfirst
      obtain ⟨b, st₂', hm₂, hQ, hst'⟩ := hfirst
      rw [hm₂] at hsecond
      obtain ⟨c, st₃', hm₃, hQ', hst''⟩ := hsecond
      exact ⟨c, st₃', hm₃, ⟨b, hQ, hQ'⟩, hR _ _ _ hst' hst''⟩
  | error e st₁' =>
      rw [hm₁] at hfirst
      rcases hfirst with hF | ⟨st₂', hm₂, hst'⟩
      · exact .inl hF
      · rw [hm₂] at hsecond
        exact hsecond.imp_right fun ⟨st₃', hm₃, hst''⟩ => ⟨st₃', hm₃, hR _ _ _ hst' hst''⟩

/-- The values compared are those that the first computation gives. -/
theorem of_run {m₃ : EStateM ε St β} {Q : α → β → Prop} (h : Simulates R F m₁ m₃ Q) :
    Simulates R F m₁ m₃ fun a b =>
      Q a b ∧ ∃ st₁ st₂ st', R st₁ st₂ ∧ m₁ st₁ = .ok a st' := by
  intro st₁ st₂ hst
  have hrun := h st₁ st₂ hst
  cases hm₁ : m₁ st₁ with
  | ok a st₁' =>
      rw [hm₁] at hrun
      obtain ⟨b, st₂', hm₃, hQ, hst'⟩ := hrun
      exact ⟨b, st₂', hm₃, ⟨hQ, st₁, st₂, st₁', hst, hm₁⟩, hst'⟩
  | error e st₁' =>
      rw [hm₁] at hrun
      exact hrun

end Simulates

def recordWith (f : Failure σ) : Option (Failure σ) → Option (Failure σ)
  | some g => some (g.merge f)
  | none => some f

/-- What a view shows of a record with one more failure in it depends on the record only as far as
the view shows it. -/
def Shown (view : Option (Failure σ) → τ) : Prop :=
  ∀ f r₁ r₂, view r₁ = view r₂ → view (recordWith f r₁) = view (recordWith f r₂)

theorem shown_nothing : Shown fun _ : Option (Failure σ) => () := fun _ _ _ _ => rfl

namespace Session

variable [BEq σ] [Source S σ] {rules : Rules σ ρ} {symbols : List σ}
  {view : Option (Failure σ) → τ}

/-! ### Sessions side by side -/

structure Parallel (rules : Rules σ ρ) (symbols : List σ) (view : Option (Failure σ) → τ)
    (s₁ s₂ : Session σ S) : Prop where
  first : s₁.Consistent rules symbols
  second : s₂.Consistent rules symbols
  record : view s₁.recovered = view s₂.recovered

namespace Parallel

theorem symm (s₁ s₂ : Session σ S) (h : Parallel rules symbols view s₁ s₂) :
    Parallel rules symbols view s₂ s₁ :=
  ⟨h.second, h.first, h.record.symm⟩

theorem trans (s₁ s₂ s₃ : Session σ S) (h : Parallel rules symbols view s₁ s₂)
    (h' : Parallel rules symbols view s₂ s₃) : Parallel rules symbols view s₁ s₃ :=
  ⟨h.first, h'.second, h.record.trans h'.record⟩

theorem self (s₁ s₂ : Session σ S) (h : Parallel rules symbols view s₁ s₂) :
    Parallel rules symbols view s₁ s₁ :=
  ⟨h.first, h.first, rfl⟩

end Parallel

theorem inquire_parallel {q : Inquiry (Memory σ) α} {E : Misuse → Prop}
    (h : Simulates (Memory.Alike rules []) E q q Eq) :
    Simulates (Parallel (S := S) rules symbols view) E (inquire q) (inquire q) Eq :=
  inquire_framed (fun _ _ hs => ⟨hs.first.memory, hs.second.memory⟩)
    (fun _ _ _ _ hs hm => ⟨⟨hm.1, hs.first.source⟩, ⟨hm.2, hs.second.source⟩, hs.record⟩) h

theorem recover_eq (rules : Rules σ ρ) (c : Cursor) (f : Failure σ) (s : Session σ S) :
    (host rules).recover c f s = .ok ()
      (if c.tracked = true then { s with recovered := recordWith f s.recovered } else s) := by
  rcases s with ⟨memory, recovered, source⟩
  unfold Host.recover
  cases c.tracked with
  | false => rfl
  | true =>
      cases recovered with
      | none => rfl
      | some g => rfl

theorem host_parallel (rules : Rules σ ρ) (symbols : List σ) (hview : Shown view)
    {F : Halt → Prop} :
    (host rules).Alike (host rules) (Parallel (S := S) rules symbols view) F Eq where
  cursor := Cursor.alike_eq
  symbolAt i s₁ s₂ hs := by
    have h₁ := (host_faithful rules symbols).symbolAt i s₁ hs.first
    have h₂ := (host_faithful rules symbols).symbolAt i s₂ hs.second
    exact ⟨h₁.1.trans h₂.1.symm, h₁.2, h₂.2, hs.record⟩
  acceptsEmpty p := Inquiry.act_simulates (inquire_parallel (Memory.askAcceptsEmpty_alike rules p))
  firstSet p := Inquiry.act_simulates (inquire_parallel (Memory.askFirstSet_alike rules p))
  recover c _ f hc := by
    subst hc
    intro s₁ s₂ hs
    rw [recover_eq]
    refine ⟨(), _, recover_eq rules c f s₂, trivial, ?_⟩
    cases c.tracked with
    | false => exact hs
    | true =>
        exact ⟨⟨hs.first.memory, hs.first.source⟩, ⟨hs.second.memory, hs.second.source⟩,
          hview f _ _ hs.record⟩

/-! ### What is known before -/

/-- From any consistent session the computation ends with the value, and leaves a consistent session
with a record that looks the same. -/
def Settled (rules : Rules σ ρ) (symbols : List σ) (view : Option (Failure σ) → τ)
    (m : Act (Session σ S) α) (a : α) : Prop :=
  ∀ s, s.Consistent rules symbols →
    ∃ s', m s = .ok a s' ∧ s'.Consistent rules symbols ∧ view s'.recovered = view s.recovered

section Settled

variable {p : Parser σ ρ α}

theorem settled_current (rules : Rules σ ρ) (symbols : List σ) (view : Option (Failure σ) → τ)
    (c : Cursor) :
    Settled rules symbols view ((host (S := S) rules).current c) symbols[c.position]? := by
  intro s hs
  obtain ⟨hsymbol, hs'⟩ := (host_faithful rules symbols).symbolAt c.position s hs
  refine ⟨_, ?_, hs', rfl⟩
  rw [← hsymbol]
  rfl

theorem Settled.bind {m : Act (Session σ S) α} {a : α} {f : α → Act (Session σ S) β} {b : β}
    (h : Settled rules symbols view m a) (hf : Settled rules symbols view (f a) b) :
    Settled rules symbols view (m >>= f) b := by
  intro s hs
  obtain ⟨s', hm, hs', hrecord⟩ := h s hs
  obtain ⟨s'', hm', hs'', hrecord'⟩ := hf s' hs'
  exact ⟨s'', (EStateM.bind_of_ok hm).trans hm', hs'', hrecord'.trans hrecord⟩

theorem settled_pure (a : α) :
    Settled rules symbols view (pure a : Act (Session σ S) α) a :=
  fun s hs => ⟨s, rfl, hs, rfl⟩

theorem settled_atEnd (rules : Rules σ ρ) (symbols : List σ) (view : Option (Failure σ) → τ)
    (c : Cursor) :
    Settled rules symbols view ((host (S := S) rules).atEnd c)
      (symbols[c.position]?).isNone :=
  (settled_current rules symbols view c).bind (settled_pure _)

theorem settled_inquire {q : Inquiry (Memory σ) α} {a : α}
    (h : ∀ m, Memory.Working rules [] m → ∃ m', q m = .ok a m' ∧ Memory.Working rules [] m') :
    Settled rules symbols view (inquire (S := S) q).act a := by
  intro s hs
  obtain ⟨m', hq, hm'⟩ := h s.memory hs.memory
  refine ⟨{ s with memory := m' }, ?_, ⟨hm', hs.source⟩, rfl⟩
  unfold Inquiry.act
  rw [inquire_of_ok hq]

theorem settled_acceptsEmpty {b : Bool} (h : rules.AcceptsEmpty p b) :
    Settled rules symbols view ((host (S := S) rules).acceptsEmpty p).act b :=
  settled_inquire fun _ hm => Memory.ask_of_acceptsEmpty hm h

theorem settled_firstSet {set : SymbolSet σ} (h : rules.FirstSet p set) :
    Settled rules symbols view ((host (S := S) rules).firstSet p).act set :=
  settled_inquire fun _ hm => Memory.ask_of_firstSet hm h

/-- A failure that the view does not show can be recorded unnoticed. -/
theorem settled_recover (c : Cursor) {f : Failure σ} (h : ∀ r, view (recordWith f r) = view r) :
    Settled rules symbols view ((host (S := S) rules).recover c f) () := by
  intro s hs
  refine ⟨_, recover_eq rules c f s, ?_⟩
  cases c.tracked with
  | false => exact ⟨hs, rfl⟩
  | true => exact ⟨⟨hs.memory, hs.source⟩, h s.recovered⟩

/-- What is known before can be taken for granted. -/
theorem Settled.bind_simulates {m : Act (Session σ S) α} {a : α}
    {f : α → Act (Session σ S) β} {m' : Act (Session σ S) γ} {Q : β → γ → Prop} {F : Halt → Prop}
    (h : Settled rules symbols view m a)
    (hf : Simulates (Parallel rules symbols view) F (f a) m' Q) :
    Simulates (Parallel rules symbols view) F (m >>= f) m' Q := by
  intro s₁ s₂ hs
  obtain ⟨s₁', hm, hs₁', hrecord⟩ := h s₁ hs.first
  rw [EStateM.bind_of_ok hm]
  exact hf s₁' s₂ ⟨hs₁', hs.second, hrecord.trans hs.record⟩

theorem Settled.simulates_bind {m : Act (Session σ S) α} {a : α}
    {f : α → Act (Session σ S) β} {m' : Act (Session σ S) γ} {Q : γ → β → Prop} {F : Halt → Prop}
    (h : Settled rules symbols view m a)
    (hf : Simulates (Parallel rules symbols view) F m' (f a) Q) :
    Simulates (Parallel rules symbols view) F m' (m >>= f) Q := by
  intro s₁ s₂ hs
  obtain ⟨s₂', hm, hs₂', hrecord⟩ := h s₂ hs.second
  rw [EStateM.bind_of_ok hm]
  exact hf s₁ s₂' ⟨hs.first, hs₂', hs.record.trans hrecord.symm⟩

/-- Two computations of which everything is known are compared by their values. -/
theorem Settled.simulates {m : Act (Session σ S) α} {m' : Act (Session σ S) β} {a : α} {b : β}
    {Q : α → β → Prop} {F : Halt → Prop} (h : Settled rules symbols view m a)
    (h' : Settled rules symbols view m' b) (hQ : Q a b) :
    Simulates (Parallel rules symbols view) F m m' Q := by
  intro s₁ s₂ hs
  obtain ⟨s₁', hm, hs₁', hrecord⟩ := h s₁ hs.first
  obtain ⟨s₂', hm', hs₂', hrecord'⟩ := h' s₂ hs.second
  rw [hm]
  exact ⟨b, s₂', hm', hQ, hs₁', hs₂', hrecord.trans (hs.record.trans hrecord'.symm)⟩

end Settled

/-! ### Interchangeable computations -/

abbrev Interchangeable (rules : Rules σ ρ) (symbols : List σ) (view : Option (Failure σ) → τ)
    (m₁ m₂ : Act (Session σ S) α) : Prop :=
  Simulates (Parallel rules symbols view) (fun _ => False) m₁ m₂ Eq

theorem Interchangeable.symm {m₁ m₂ : Act (Session σ S) α}
    (h : Interchangeable rules symbols view m₁ m₂) : Interchangeable rules symbols view m₂ m₁ :=
  Simulates.symm Parallel.symm h

/-- In front of what a computation is compared with, another one can stand for it. -/
theorem Interchangeable.trans {m₁ m₂ : Act (Session σ S) α} {m₃ : Act (Session σ S) β}
    {Q : α → β → Prop} (h : Interchangeable rules symbols view m₁ m₂)
    (h' : Simulates (Parallel rules symbols view) (fun _ => False) m₂ m₃ Q) :
    Simulates (Parallel rules symbols view) (fun _ => False) m₁ m₃ Q := by
  refine (Simulates.trans Parallel.self Parallel.trans h h').mono ?_
  rintro a c ⟨_, rfl, hQ⟩
  exact hQ

/-- So can another one stand for what it is compared with. -/
theorem Interchangeable.compare {m₁ : Act (Session σ S) α} {m₂ m₃ : Act (Session σ S) β}
    {Q : α → β → Prop} (h : Interchangeable rules symbols view m₂ m₃)
    (h' : Simulates (Parallel rules symbols view) (fun _ => False) m₁ m₃ Q) :
    Simulates (Parallel rules symbols view) (fun _ => False) m₁ m₂ Q := by
  refine (Simulates.trans Parallel.self Parallel.trans h' h.symm).mono ?_
  rintro a c ⟨_, hQ, rfl⟩
  exact hQ

/-- A run can stand for itself. -/
theorem apply_interchangeable (rules : Rules σ ρ) (symbols : List σ) (hview : Shown view)
    (budget : Nat) (p : Parser σ ρ α) (c : Cursor) :
    Interchangeable (S := S) rules symbols view (rules.apply (host rules) budget p c)
      (rules.apply (host rules) budget p c) :=
  ((rules.apply_alike_of_outlasts (host_parallel rules symbols hview) (Outlasts.refl budget) p)
    c c rfl).mono fun _ _ h => h.eq

end Session

/-! ### Alternatives -/

structure Rules.Replies [BEq σ] (rules : Rules σ ρ) (p : Parser σ ρ α) (b : Bool)
    (set : SymbolSet σ) : Prop where
  acceptsEmpty : rules.AcceptsEmpty p b
  firstSet : rules.FirstSet p set

theorem Rules.Replies.or [BEq σ] {rules : Rules σ ρ} {p q : Parser σ ρ α} {a b : Bool}
    {s t : SymbolSet σ} (hp : rules.Replies p a s) (hq : rules.Replies q b t) :
    rules.Replies (p.or q) (a || b) (s.union t) where
  acceptsEmpty := by
    cases a with
    | true => exact acceptsEmpty_or.mpr (.inl ⟨hp.acceptsEmpty, rfl⟩)
    | false => exact acceptsEmpty_or.mpr (.inr ⟨hp.acceptsEmpty, hq.acceptsEmpty⟩)
  firstSet := firstWithin_or.mpr ⟨s, t, hp.firstSet, hq.firstSet, rfl⟩

namespace Host

theorem orElse_failure (host : Host σ ρ St) (c : Cursor) (f g : Failure σ) :
    host.orElse c f (.failure g : Outcome σ α) = pure (.failure (f.merge g)) := rfl

/-- Both alternatives, wherever the input ends. -/
def both (host : Host σ ρ St) (p q : Action St σ α) : Action St σ α := fun c => do
  match ← p c with
  | .success a next => return .success a next
  | .failure left => host.orElse c left (← q c)

/-- What two alternatives come to where it is known whether the input ends, which of them accept
empty input, and on which symbols they can begin. -/
def alternatives (host : Host σ ρ St) (ended acceptsP acceptsQ : Bool) (first : SymbolSet σ)
    (p q : Action St σ α) : Action St σ α :=
  match ended, acceptsP, acceptsQ with
  | false, _, _ => host.both p q
  | true, true, true => host.both p q
  | true, true, false => p
  | true, false, true => q
  | true, false, false => fun c => return .failure ⟨c.position, .endOfInput first⟩

end Host

namespace Session

variable [BEq σ] [Source S σ] {rules : Rules σ ρ} {symbols : List σ}
  {view : Option (Failure σ) → τ} {c : Cursor}

theorem orElse_interchangeable (hview : Shown view) (c : Cursor) (f : Failure σ)
    (out : Outcome σ α) :
    Interchangeable (S := S) rules symbols view ((host rules).orElse c f out)
      ((host rules).orElse c f out) := by
  cases out with
  | success a next =>
      refine ((host_parallel rules symbols hview).recover c c f rfl).bind ?_
      intro _ _ _
      exact Simulates.pure rfl
  | failure e => exact Simulates.pure rfl

variable {p₁ p₂ q₁ q₂ : Action (Session σ S) σ α}

theorem both_interchangeable (hview : Shown view)
    (hp : Interchangeable rules symbols view (p₁ c) (p₂ c))
    (hq : Interchangeable rules symbols view (q₁ c) (q₂ c)) :
    Interchangeable rules symbols view ((host rules).both p₁ q₁ c) ((host rules).both p₂ q₂ c) := by
  refine hp.bind_eq ?_
  intro out
  cases out with
  | success a next => exact Simulates.pure rfl
  | failure f =>
      refine hq.bind_eq ?_
      intro out
      exact orElse_interchangeable hview c f out

theorem alternatives_interchangeable (hview : Shown view) (ended acceptsP acceptsQ : Bool)
    (first : SymbolSet σ) (hp : Interchangeable rules symbols view (p₁ c) (p₂ c))
    (hq : Interchangeable rules symbols view (q₁ c) (q₂ c)) :
    Interchangeable rules symbols view
      ((host rules).alternatives ended acceptsP acceptsQ first p₁ q₁ c)
      ((host rules).alternatives ended acceptsP acceptsQ first p₂ q₂ c) := by
  cases ended with
  | false => exact both_interchangeable hview hp hq
  | true =>
      cases acceptsP with
      | true =>
          cases acceptsQ with
          | true => exact both_interchangeable hview hp hq
          | false => exact hp
      | false =>
          cases acceptsQ with
          | true => exact hq
          | false => exact Simulates.pure rfl

/-- Where the answers of two alternatives are known, so is what becomes of them. -/
theorem apply_or_interchangeable {p q : Parser σ ρ α} {acceptsP acceptsQ : Bool}
    {firstP firstQ : SymbolSet σ} (symbols : List σ) (hview : Shown view)
    (hp : rules.Replies p acceptsP firstP) (hq : rules.Replies q acceptsQ firstQ) (rounds : Nat)
    (c : Cursor) :
    Interchangeable (S := S) rules symbols view
      (rules.apply (host rules) (rounds + 1) (p.or q) c)
      ((host rules).alternatives (symbols[c.position]?).isNone acceptsP acceptsQ
        (firstP.union firstQ) (rules.apply (host rules) (rounds + 1) p)
        (rules.apply (host rules) (rounds + 1) q) c) := by
  have hrunP := apply_interchangeable (S := S) rules symbols hview (rounds + 1) p c
  have hrunQ := apply_interchangeable (S := S) rules symbols hview (rounds + 1) q c
  refine (settled_atEnd rules symbols view c).bind_simulates ?_
  cases (symbols[c.position]?).isNone with
  | false => exact both_interchangeable hview hrunP hrunQ
  | true =>
      refine (settled_acceptsEmpty hq.acceptsEmpty).bind_simulates ?_
      refine (settled_acceptsEmpty hp.acceptsEmpty).bind_simulates ?_
      cases acceptsP with
      | true =>
          cases acceptsQ with
          | true => exact both_interchangeable hview hrunP hrunQ
          | false =>
              change Simulates _ _ _ (rules.apply (host rules) (rounds + 1) p c) _
              rw [← bind_pure (rules.apply (host rules) (rounds + 1) p c)]
              refine hrunP.bind_eq ?_
              intro out
              cases out with
              | success a next => exact Simulates.pure rfl
              | failure f => exact Simulates.pure rfl
      | false =>
          cases acceptsQ with
          | true => exact hrunQ
          | false =>
              refine (settled_firstSet hp.firstSet).bind_simulates ?_
              refine (settled_firstSet hq.firstSet).bind_simulates ?_
              exact Simulates.pure rfl

end Session

end PredictiveParsing
