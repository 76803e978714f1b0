import PredictiveParsing.Run

/-!
# What computations ensure

A computation of a run ends with a value or stops short with a fault. `Ensures P m Q E`
says that from a state with `P` the computation `m` ends with `Q`, or stops with a fault
in `E`; `Yields I E m q` is the case of an invariant `I` of the state and a fact `q` about
the value alone. `Simulates R m₁ m₂ Q F` compares two computations from related states:
where the first ends, the second one ends with a related value, and where the first stops
with a fault outside `F`, the second stops with the same one.

`Maintains I m q` says of one computation that it keeps `I` also where it stops with a fault.

All of them pass through `pure` and `>>=`, so that a fact about a combinator follows from
facts about the steps it is written with.
-/

namespace PredictiveParsing

variable {ε St St₁ St₂ α β α₁ α₂ β₁ β₂ : Type}

section Bind

variable {m : EStateM ε St α} {f : α → EStateM ε St β} {st st' : St}

theorem EStateM.bind_of_ok {a : α} (h : m st = .ok a st') : (m >>= f) st = f a st' := by
  change EStateM.bind m f st = _
  unfold EStateM.bind
  rw [h]

theorem EStateM.bind_of_error {e : ε} (h : m st = .error e st') :
    (m >>= f) st = .error e st' := by
  change EStateM.bind m f st = _
  unfold EStateM.bind
  rw [h]

end Bind

/-- From a state with `P`, the computation ends with `Q` or stops with a fault in `E`. -/
def Ensures (P : St → Prop) (m : EStateM ε St α) (Q : α → St → Prop) (E : ε → Prop) : Prop :=
  ∀ st, P st → match m st with
    | .ok a st' => Q a st'
    | .error e _ => E e

namespace Ensures

variable {P P' : St → Prop} {Q Q' : α → St → Prop} {E E' : ε → Prop} {m : EStateM ε St α}

theorem of_ok (h : Ensures P m Q E) {st st' : St} {a : α} (hP : P st)
    (hm : m st = .ok a st') : Q a st' := by
  have hst := h st hP
  rw [hm] at hst
  exact hst

theorem of_error (h : Ensures P m Q E) {st st' : St} {e : ε} (hP : P st)
    (hm : m st = .error e st') : E e := by
  have hst := h st hP
  rw [hm] at hst
  exact hst

protected theorem pure {a : α} (h : ∀ st, P st → Q a st) :
    Ensures P (pure a : EStateM ε St α) Q E := h

protected theorem throw {e : ε} (h : E e) :
    Ensures P (throw e : EStateM ε St α) Q E := fun _ _ => h

theorem bind {f : α → EStateM ε St β} {Q' : β → St → Prop} (h : Ensures P m Q E)
    (hf : ∀ a, Ensures (Q a) (f a) Q' E) : Ensures P (m >>= f) Q' E := by
  intro st hP
  have hst := h st hP
  change match EStateM.bind m f st with | .ok b st' => Q' b st' | .error e _ => E e
  unfold EStateM.bind
  cases hm : m st with
  | ok a st' =>
      rw [hm] at hst
      exact hf a st' hst
  | error e st' =>
      rw [hm] at hst
      exact hst

/-- Every computation ends with something or stops with some fault. -/
protected theorem trivial (m : EStateM ε St α) : Ensures P m (fun _ _ => True) fun _ => True := by
  intro st _
  cases m st with
  | ok a st' => trivial
  | error e st' => trivial

theorem mono (h : Ensures P m Q E) (hP : ∀ st, P' st → P st)
    (hQ : ∀ a st, Q a st → Q' a st) (hE : ∀ e, E e → E' e) : Ensures P' m Q' E' := by
  intro st hst
  have hm := h st (hP st hst)
  cases hr : m st with
  | ok a st' =>
      rw [hr] at hm
      exact hQ a st' hm
  | error e st' =>
      rw [hr] at hm
      exact hE e hm

end Ensures

/-! ### Invariants -/

/-- The computation keeps the invariant `I`, and its value has `q`. -/
def Yields (I : St → Prop) (E : ε → Prop) (m : EStateM ε St α) (q : α → Prop) : Prop :=
  Ensures I m (fun a st => q a ∧ I st) E

namespace Yields

variable {I : St → Prop} {E : ε → Prop} {q q' : α → Prop} {m : EStateM ε St α}

protected theorem pure {a : α} (h : q a) : Yields I E (pure a : EStateM ε St α) q :=
  Ensures.pure fun _ hI => ⟨h, hI⟩

protected theorem throw {e : ε} (h : E e) : Yields I E (throw e : EStateM ε St α) q :=
  Ensures.throw h

theorem bind {f : α → EStateM ε St β} {q' : β → Prop} (h : Yields I E m q)
    (hf : ∀ a, q a → Yields I E (f a) q') : Yields I E (m >>= f) q' := by
  refine Ensures.bind h ?_
  intro a st hst
  exact hf a hst.1 st hst.2

theorem mono (h : Yields I E m q) (hq : ∀ a, q a → q' a) : Yields I E m q' :=
  Ensures.mono h (fun _ hI => hI) (fun a _ hst => ⟨hq a hst.1, hst.2⟩) fun _ he => he

/-- Where no fault is allowed the computation ends. -/
theorem exists_ok (h : Yields I (fun _ => False) m q) {st : St} (hI : I st) :
    ∃ a st', m st = .ok a st' := by
  have hst := h st hI
  cases hm : m st with
  | ok a st' => exact ⟨a, st', rfl⟩
  | error e st' =>
      rw [hm] at hst
      exact hst.elim

/-- The value is one that the computation gives from a state with the invariant. -/
theorem of_run (h : Yields I E m q) :
    Yields I E m fun a => ∃ st st', I st ∧ m st = .ok a st' := by
  intro st hI
  have hst := h st hI
  cases hm : m st with
  | ok a st' =>
      rw [hm] at hst
      exact ⟨⟨st, st', hI, hm⟩, hst.2⟩
  | error e st' =>
      rw [hm] at hst
      exact hst

end Yields

/-! ### Invariants that faults keep -/

/-- The computation keeps the invariant `I`, whether it ends or stops with a fault, and its value
has `q`. -/
def Maintains (I : St → Prop) (m : EStateM ε St α) (q : α → Prop) : Prop :=
  ∀ st, I st → match m st with
    | .ok a st' => q a ∧ I st'
    | .error _ st' => I st'

namespace Maintains

variable {I : St → Prop} {q q' : α → Prop} {m : EStateM ε St α}

protected theorem pure {a : α} (h : q a) : Maintains I (pure a : EStateM ε St α) q :=
  fun _ hI => ⟨h, hI⟩

protected theorem throw {e : ε} : Maintains I (throw e : EStateM ε St α) q := fun _ hI => hI

theorem bind {f : α → EStateM ε St β} {q' : β → Prop} (h : Maintains I m q)
    (hf : ∀ a, q a → Maintains I (f a) q') : Maintains I (m >>= f) q' := by
  intro st hI
  have hst := h st hI
  cases hm : m st with
  | ok a st' =>
      rw [hm] at hst
      rw [EStateM.bind_of_ok hm]
      exact hf a hst.1 st' hst.2
  | error e st' =>
      rw [hm] at hst
      rw [EStateM.bind_of_error hm]
      exact hst

theorem mono (h : Maintains I m q) (hq : ∀ a, q a → q' a) : Maintains I m q' := by
  intro st hI
  have hst := h st hI
  cases hm : m st with
  | ok a st' =>
      rw [hm] at hst
      exact ⟨hq a hst.1, hst.2⟩
  | error e st' =>
      rw [hm] at hst
      exact hst

/-- What is known of the end of a computation besides an invariant that it keeps. -/
theorem and_yields {J : St → Prop} {E : ε → Prop} (h : Maintains J m q) (h' : Yields I E m q') :
    Yields (fun st => I st ∧ J st) E m q' := by
  intro st hst
  have hkeeps := h st hst.2
  have hends := h' st hst.1
  cases hm : m st with
  | ok a st' =>
      rw [hm] at hkeeps hends
      exact ⟨hends.1, hends.2, hkeeps.2⟩
  | error e st' =>
      rw [hm] at hends
      exact hends

/-- A step that changes the state can make it one with a stronger invariant for what follows. -/
theorem modify_bind {J : St → Prop} {f : St → St} (h : Maintains J m q)
    (hf : ∀ st, I st → J (f st)) (hJ : ∀ st, J st → I st) : Maintains I (do modify f; m) q := by
  intro st hI
  have hst := h (f st) (hf st hI)
  have hbind : (do modify f; m) st = m (f st) := EStateM.bind_of_ok rfl
  rw [hbind]
  cases hm : m (f st) with
  | ok a st' =>
      rw [hm] at hst
      exact ⟨hst.1, hJ st' hst.2⟩
  | error e st' =>
      rw [hm] at hst
      exact hJ st' hst

theorem of_ok (h : Maintains I m q) {st st' : St} {a : α} (hI : I st) (hm : m st = .ok a st') :
    q a ∧ I st' := by
  have hst := h st hI
  rw [hm] at hst
  exact hst

theorem of_error (h : Maintains I m q) {st st' : St} {e : ε} (hI : I st)
    (hm : m st = .error e st') : I st' := by
  have hst := h st hI
  rw [hm] at hst
  exact hst

end Maintains

/-! ### Simulations -/

/-- From related states, the second computation ends where the first does, with a related
value, and stops where the first stops with a fault outside `F`. -/
def Simulates (R : St₁ → St₂ → Prop) (F : ε → Prop) (m₁ : EStateM ε St₁ α)
    (m₂ : EStateM ε St₂ β) (Q : α → β → Prop) : Prop :=
  ∀ st₁ st₂, R st₁ st₂ → match m₁ st₁ with
    | .ok a st₁' => ∃ b st₂', m₂ st₂ = .ok b st₂' ∧ Q a b ∧ R st₁' st₂'
    | .error e st₁' => F e ∨ ∃ st₂', m₂ st₂ = .error e st₂' ∧ R st₁' st₂'

namespace Simulates

variable {R : St₁ → St₂ → Prop} {F : ε → Prop} {m₁ : EStateM ε St₁ α₁}
  {m₂ : EStateM ε St₂ α₂} {Q Q' : α₁ → α₂ → Prop}

theorem of_ok (h : Simulates R F m₁ m₂ Q) {st₁ st₁' : St₁} (st₂ : St₂) {a : α₁}
    (hR : R st₁ st₂) (hm : m₁ st₁ = .ok a st₁') :
    ∃ b st₂', m₂ st₂ = .ok b st₂' ∧ Q a b ∧ R st₁' st₂' := by
  have hst := h st₁ st₂ hR
  rw [hm] at hst
  exact hst

protected theorem pure {a : α₁} {b : α₂} (h : Q a b) :
    Simulates R F (pure a : EStateM ε St₁ α₁) (pure b : EStateM ε St₂ α₂) Q :=
  fun _ st₂ hR => ⟨b, st₂, rfl, h, hR⟩

protected theorem throw (e : ε) :
    Simulates R F (throw e : EStateM ε St₁ α₁) (throw e : EStateM ε St₂ α₂) Q :=
  fun _ st₂ hR => .inr ⟨st₂, rfl, hR⟩

/-- A fault that is excused needs no counterpart. -/
theorem throw_excused {e : ε} (h : F e) :
    Simulates R F (throw e : EStateM ε St₁ α₁) m₂ Q := fun _ _ _ => .inl h

theorem bind {f : α₁ → EStateM ε St₁ β₁} {g : α₂ → EStateM ε St₂ β₂} {Q' : β₁ → β₂ → Prop}
    (h : Simulates R F m₁ m₂ Q) (hfg : ∀ a b, Q a b → Simulates R F (f a) (g b) Q') :
    Simulates R F (m₁ >>= f) (m₂ >>= g) Q' := by
  intro st₁ st₂ hR
  have hst := h st₁ st₂ hR
  change match EStateM.bind m₁ f st₁ with
    | .ok a st₁' => ∃ b st₂', EStateM.bind m₂ g st₂ = .ok b st₂' ∧ Q' a b ∧ R st₁' st₂'
    | .error e st₁' => F e ∨ ∃ st₂', EStateM.bind m₂ g st₂ = .error e st₂' ∧ R st₁' st₂'
  unfold EStateM.bind
  cases hm : m₁ st₁ with
  | ok a st₁' =>
      rw [hm] at hst
      obtain ⟨b, st₂', hm₂, hab, hR'⟩ := hst
      rw [hm₂]
      exact hfg a b hab st₁' st₂' hR'
  | error e st₁' =>
      rw [hm] at hst
      rcases hst with he | ⟨st₂', hm₂, hR'⟩
      · exact .inl he
      · rw [hm₂]
        exact .inr ⟨st₂', rfl, hR'⟩

/-- Where the first computations end with the same value, the rest is compared on that value. -/
theorem bind_eq {m₁ : EStateM ε St₁ α} {m₂ : EStateM ε St₂ α} {f : α → EStateM ε St₁ β₁}
    {g : α → EStateM ε St₂ β₂} {Q' : β₁ → β₂ → Prop} (h : Simulates R F m₁ m₂ Eq)
    (hfg : ∀ a, Simulates R F (f a) (g a) Q') : Simulates R F (m₁ >>= f) (m₂ >>= g) Q' := by
  refine h.bind ?_
  intro a _ heq
  subst heq
  exact hfg a

/-- A computation ends as it does itself. -/
protected theorem refl {St : Type} {F : ε → Prop} (m : EStateM ε St α) :
    Simulates Eq F m m Eq := by
  intro st _ h
  subst h
  cases hm : m st with
  | ok a st' => exact ⟨a, st', rfl, rfl, rfl⟩
  | error e st' => exact .inr ⟨st', rfl, rfl⟩

/-- Where the first computation does not stop with an excused fault, both end in the same way. -/
theorem eq_of_not_excused {St : Type} {F : ε → Prop} {m₁ m₂ : EStateM ε St α}
    (h : Simulates Eq F m₁ m₂ Eq) {st : St} (hF : ∀ e st', F e → m₁ st ≠ .error e st') :
    m₂ st = m₁ st := by
  have hst := h st st rfl
  cases hm : m₁ st with
  | ok a st' =>
      rw [hm] at hst
      obtain ⟨_, _, hm₂, rfl, rfl⟩ := hst
      exact hm₂
  | error e st' =>
      rw [hm] at hst
      rcases hst with he | ⟨_, hm₂, rfl⟩
      · exact absurd hm (hF e st' he)
      · exact hm₂

/-- A step that changes both states can bring them into a closer relation for what follows. -/
theorem modify_bind {R' : St₁ → St₂ → Prop} {f₁ : St₁ → St₁} {f₂ : St₂ → St₂}
    (h : Simulates R' F m₁ m₂ Q) (hf : ∀ st₁ st₂, R st₁ st₂ → R' (f₁ st₁) (f₂ st₂))
    (hR' : ∀ st₁ st₂, R' st₁ st₂ → R st₁ st₂) :
    Simulates R F (do modify f₁; m₁) (do modify f₂; m₂) Q := by
  intro st₁ st₂ hR
  have hst := h (f₁ st₁) (f₂ st₂) (hf st₁ st₂ hR)
  have hbind₁ : (do modify f₁; m₁) st₁ = m₁ (f₁ st₁) := EStateM.bind_of_ok rfl
  have hbind₂ : (do modify f₂; m₂) st₂ = m₂ (f₂ st₂) := EStateM.bind_of_ok rfl
  rw [hbind₁, hbind₂]
  cases hm : m₁ (f₁ st₁) with
  | ok a st₁' =>
      rw [hm] at hst
      obtain ⟨b, st₂', hm₂, hab, hR₂⟩ := hst
      exact ⟨b, st₂', hm₂, hab, hR' st₁' st₂' hR₂⟩
  | error e st₁' =>
      rw [hm] at hst
      exact hst.imp_right fun ⟨st₂', hm₂, hR₂⟩ => ⟨st₂', hm₂, hR' st₁' st₂' hR₂⟩

theorem mono (h : Simulates R F m₁ m₂ Q) (hQ : ∀ a b, Q a b → Q' a b) :
    Simulates R F m₁ m₂ Q' := by
  intro st₁ st₂ hR
  have hst := h st₁ st₂ hR
  cases hm : m₁ st₁ with
  | ok a st₁' =>
      rw [hm] at hst
      obtain ⟨b, st₂', hm₂, hab, hR'⟩ := hst
      exact ⟨b, st₂', hm₂, hQ a b hab, hR'⟩
  | error e st₁' =>
      rw [hm] at hst
      exact hst

end Simulates

end PredictiveParsing
