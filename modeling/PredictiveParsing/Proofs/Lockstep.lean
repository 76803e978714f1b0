import PredictiveParsing.Proofs.Act
import PredictiveParsing.Proofs.Around

/-!
# Runs in lockstep

Two hosts that answer alike, from related states, carry every run to the same outcome: a
parser cannot tell them apart. `Rules.applyAround_alike` is this for runs with something
around every parser, and `Rules.apply_alike` for plain ones. The cursors of
the two runs may differ as a relation `C` lets them, though never in their positions.

The budgets of the two runs are the same, or the second is the larger one and the first run is
excused when it is exhausted earlier (`Outlasts`).
-/

namespace PredictiveParsing

variable {σ : Type} {ρ : Nat → Type} {St₁ St₂ α β ε : Type}

inductive Outcome.Alike (C : Cursor → Cursor → Prop) : Outcome σ α → Outcome σ α → Prop where
  | success {a : α} {c₁ c₂ : Cursor} : C c₁ c₂ → Alike C (.success a c₁) (.success a c₂)
  | failure {f : Failure σ} : Alike C (.failure f) (.failure f)

theorem Outcome.Alike.map {C : Cursor → Cursor → Prop} {out₁ out₂ : Outcome σ α} (f : α → β)
    (h : out₁.Alike C out₂) : (out₁.map f).Alike C (out₂.map f) := by
  cases h with
  | success hC => exact .success hC
  | failure => exact .failure

theorem Outcome.Alike.eq {out₁ out₂ : Outcome σ α} (h : out₁.Alike Eq out₂) : out₁ = out₂ := by
  cases h with
  | success hC => rw [hC]
  | failure => rfl

structure Cursor.Alike (C : Cursor → Cursor → Prop) : Prop where
  position : ∀ c₁ c₂, C c₁ c₂ → c₁.position = c₂.position
  advance : ∀ c₁ c₂, C c₁ c₂ → C c₁.advance c₂.advance
  untracked : ∀ c₁ c₂, C c₁ c₂ → C c₁.untracked c₂.untracked

theorem Cursor.alike_eq : Cursor.Alike Eq :=
  ⟨fun _ _ h => h ▸ rfl, fun _ _ h => h ▸ rfl, fun _ _ h => h ▸ rfl⟩

theorem Inquiry.act_simulates {q₁ : Inquiry St₁ α} {q₂ : Inquiry St₂ α} {R : St₁ → St₂ → Prop}
    {F : Halt → Prop} {Q : α → α → Prop}
    (h : Simulates R (fun m => F (.misuse m)) q₁ q₂ Q) : Simulates R F q₁.act q₂.act Q := by
  intro st₁ st₂ hR
  have hst := h st₁ st₂ hR
  unfold Inquiry.act
  cases hq : q₁ st₁ with
  | ok a st₁' =>
      rw [hq] at hst
      obtain ⟨b, st₂', hq₂, hQ, hR'⟩ := hst
      rw [hq₂]
      exact ⟨b, st₂', rfl, hQ, hR'⟩
  | error e st₁' =>
      rw [hq] at hst
      rcases hst with hF | ⟨st₂', hq₂, hR'⟩
      · exact .inl hF
      · rw [hq₂]
        exact .inr ⟨st₂', rfl, hR'⟩

/-- The second run may go on for as long as the first: its bound is the same, or larger where a
spent budget is excused. -/
def Outlasts (F : Halt → Prop) (n₁ n₂ : Nat) : Prop := F .exhausted ∧ n₁ ≤ n₂ ∨ n₁ = n₂

namespace Outlasts

variable {F : Halt → Prop} {n₁ n₂ : Nat}

theorem refl (n : Nat) : Outlasts F n n := .inr rfl

theorem of_le (hF : F .exhausted) (hle : n₁ ≤ n₂) : Outlasts F n₁ n₂ := .inl ⟨hF, hle⟩

theorem exists_pred (h : Outlasts F (n₁ + 1) n₂) : ∃ n, n₂ = n + 1 ∧ Outlasts F n₁ n := by
  rcases h with ⟨hF, hle⟩ | rfl
  · exact ⟨n₂ - 1, by omega, of_le hF (by omega)⟩
  · exact ⟨n₁, rfl, refl n₁⟩

/-- Where the first run has nothing left, it is excused or the second has nothing left either. -/
theorem of_zero (h : Outlasts F 0 n₂) : F .exhausted ∨ n₂ = 0 := by
  rcases h with ⟨hF, _⟩ | rfl
  · exact .inl hF
  · exact .inr rfl

end Outlasts

def Action.Alike (R : St₁ → St₂ → Prop) (F : Halt → Prop) (C : Cursor → Cursor → Prop)
    (act₁ : Action St₁ σ α) (act₂ : Action St₂ σ α) : Prop :=
  ∀ c₁ c₂, C c₁ c₂ → Simulates R F (act₁ c₁) (act₂ c₂) (Outcome.Alike C)

/-- Where both runs pass failures on, only their successes have to be compared. -/
theorem Action.Alike.forward {R : St₁ → St₂ → Prop} {F : Halt → Prop} {C : Cursor → Cursor → Prop}
    {act₁ : Action St₁ σ α} {act₂ : Action St₂ σ α} (h : act₁.Alike R F C act₂) {c₁ c₂ : Cursor}
    (hc : C c₁ c₂) {rest₁ : Outcome σ α → Act St₁ (Outcome σ β)}
    {rest₂ : Outcome σ α → Act St₂ (Outcome σ β)}
    (hfailure₁ : ∀ f, rest₁ (.failure f) = pure (.failure f))
    (hfailure₂ : ∀ f, rest₂ (.failure f) = pure (.failure f))
    (hsuccess : ∀ a next₁ next₂, C next₁ next₂ →
      Simulates R F (rest₁ (.success a next₁)) (rest₂ (.success a next₂)) (Outcome.Alike C)) :
    Simulates R F (act₁ c₁ >>= rest₁) (act₂ c₂ >>= rest₂) (Outcome.Alike C) := by
  refine (h c₁ c₂ hc).bind ?_
  intro out₁ out₂ hout
  cases hout with
  | failure =>
      rw [hfailure₁, hfailure₂]
      exact Simulates.pure .failure
  | success hnext => exact hsuccess _ _ _ hnext

/-- Hosts that answer alike from related states. -/
structure Host.Alike (host₁ : Host σ ρ St₁) (host₂ : Host σ ρ St₂) (R : St₁ → St₂ → Prop)
    (F : Halt → Prop) (C : Cursor → Cursor → Prop) : Prop where
  cursor : Cursor.Alike C
  symbolAt : ∀ i st₁ st₂, R st₁ st₂ → (host₁.symbolAt i st₁).1 = (host₂.symbolAt i st₂).1 ∧
    R (host₁.symbolAt i st₁).2 (host₂.symbolAt i st₂).2
  acceptsEmpty : ∀ {α : Type} (p : Parser σ ρ α),
    Simulates R F (host₁.acceptsEmpty p).act (host₂.acceptsEmpty p).act Eq
  firstSet : ∀ {α : Type} (p : Parser σ ρ α),
    Simulates R F (host₁.firstSet p).act (host₂.firstSet p).act Eq
  recover : ∀ c₁ c₂ f, C c₁ c₂ →
    Simulates R F (host₁.recover c₁ f) (host₂.recover c₂ f) fun _ _ => True

structure Operand.Alike (R : St₁ → St₂ → Prop) (F : Halt → Prop) (C : Cursor → Cursor → Prop)
    (o₁ : Operand St₁ σ α) (o₂ : Operand St₂ σ α) : Prop where
  acceptsEmpty : Simulates R F o₁.acceptsEmpty o₂.acceptsEmpty Eq
  firstSet : Simulates R F o₁.firstSet o₂.firstSet Eq
  apply : o₁.apply.Alike R F C o₂.apply

namespace Host.Alike

variable {host₁ : Host σ ρ St₁} {host₂ : Host σ ρ St₂} {R : St₁ → St₂ → Prop}
  {F : Halt → Prop} {C : Cursor → Cursor → Prop} {c₁ c₂ : Cursor} {rounds₁ rounds₂ : Nat}

/-- A host answers as it does itself. -/
theorem refl {St : Type} (host : Host σ ρ St) : host.Alike host Eq F Eq where
  cursor := Cursor.alike_eq
  symbolAt _ _ _ h := h ▸ ⟨rfl, rfl⟩
  acceptsEmpty _ := Simulates.refl _
  firstSet _ := Simulates.refl _
  recover _ _ _ h := h ▸ (Simulates.refl _).mono fun _ _ _ => trivial

/-! ### Decisions -/

theorem current (h : host₁.Alike host₂ R F C) (hc : C c₁ c₂) :
    Simulates R F (host₁.current c₁) (host₂.current c₂) Eq := by
  intro st₁ st₂ hR
  have hsymbol := h.symbolAt c₁.position st₁ st₂ hR
  unfold Host.current
  rw [← h.cursor.position c₁ c₂ hc]
  exact ⟨_, _, rfl, hsymbol.1, hsymbol.2⟩

theorem atEnd (h : host₁.Alike host₂ R F C) (hc : C c₁ c₂) :
    Simulates R F (host₁.atEnd c₁) (host₂.atEnd c₂) Eq := by
  refine (h.current hc).bind_eq ?_
  intro symbol
  exact Simulates.pure rfl

theorem operand (h : host₁.Alike host₂ R F C) (p : Parser σ ρ α) {act₁ : Action St₁ σ α}
    {act₂ : Action St₂ σ α} (hact : act₁.Alike R F C act₂) :
    (Parser.run.operand host₁ p act₁).Alike R F C (Parser.run.operand host₂ p act₂) :=
  ⟨h.acceptsEmpty p, h.firstSet p, hact⟩

theorem predicts [BEq σ] (h : host₁.Alike host₂ R F C) (first : SymbolSet σ) (hc : C c₁ c₂) :
    Simulates R F (host₁.predicts first c₁) (host₂.predicts first c₂) Eq := by
  refine (h.current hc).bind_eq ?_
  intro symbol
  cases symbol with
  | none => exact Simulates.pure rfl
  | some s => exact Simulates.pure rfl

theorem chainEnds [BEq σ] (h : host₁.Alike host₂ R F C) (opEmpty : Bool) (opFirst : SymbolSet σ)
    (hc : C c₁ c₂) :
    Simulates R F (host₁.chainEnds opEmpty opFirst c₁) (host₂.chainEnds opEmpty opFirst c₂) Eq := by
  cases opEmpty with
  | true => exact Simulates.pure rfl
  | false =>
      refine (h.predicts opFirst hc).bind_eq ?_
      intro b
      exact Simulates.pure rfl

variable {o₁ : Operand St₁ σ α} {o₂ : Operand St₂ σ α} {o₁' : Operand St₁ σ β}
  {o₂' : Operand St₂ σ β}

theorem endsBefore (h : host₁.Alike host₂ R F C) (ho : o₁.Alike R F C o₂) (hc : C c₁ c₂) :
    Simulates R F (host₁.endsBefore o₁ c₁) (host₂.endsBefore o₂ c₂) Eq := by
  refine (h.atEnd hc).bind_eq ?_
  intro ended
  cases ended with
  | false => exact Simulates.pure rfl
  | true =>
      refine ho.acceptsEmpty.bind_eq ?_
      intro b
      exact Simulates.pure rfl

theorem needsSymbol (ho : o₁.Alike R F C o₂) (repetition : Repetition) :
    Simulates R F (Host.needsSymbol repetition o₁) (Host.needsSymbol repetition o₂) Eq := by
  refine ho.acceptsEmpty.bind_eq ?_
  intro b
  cases b with
  | true => exact Simulates.throw _
  | false => exact Simulates.pure rfl

theorem needsOperand (ho : o₁.Alike R F C o₂) (opEmpty : Bool) :
    Simulates R F (Host.needsOperand opEmpty o₁) (Host.needsOperand opEmpty o₂) Eq := by
  cases opEmpty with
  | false => exact Simulates.pure rfl
  | true =>
      refine ho.acceptsEmpty.bind_eq ?_
      intro b
      cases b with
      | true => exact Simulates.throw _
      | false => exact Simulates.pure rfl

/-- The failure names the position of the cursor, which is that of the other one. -/
theorem fail (h : host₁.Alike host₂ R F C) (hc : C c₁ c₂) (reason : Reason σ) :
    Simulates R F (pure (.failure ⟨c₁.position, reason⟩) : Act St₁ (Outcome σ α))
      (pure (.failure ⟨c₂.position, reason⟩)) (Outcome.Alike C) := by
  rw [h.cursor.position c₁ c₂ hc]
  exact Simulates.pure .failure

/-- A failure at the end of the input names what the parser begins on. -/
theorem failAtEnd (h : host₁.Alike host₂ R F C) (ho : o₁.Alike R F C o₂) (hc : C c₁ c₂) :
    Simulates R F
      (do return (.failure ⟨c₁.position, .endOfInput (← o₁.firstSet)⟩ : Outcome σ β))
      (do return (.failure ⟨c₂.position, .endOfInput (← o₂.firstSet)⟩ : Outcome σ β))
      (Outcome.Alike C) := by
  refine ho.firstSet.bind_eq ?_
  intro set
  exact h.fail hc _

/-! ### Symbols -/

theorem eof (h : host₁.Alike host₂ R F C) : host₁.eof.Alike R F C host₂.eof := by
  intro c₁ c₂ hc
  refine (h.atEnd hc).bind_eq ?_
  intro ended
  cases ended with
  | true => exact Simulates.pure (.success hc)
  | false => exact h.fail hc _

theorem satisfy [BEq σ] (h : host₁.Alike host₂ R F C) (set : SymbolSet σ) :
    (host₁.satisfy set).Alike R F C (host₂.satisfy set) := by
  intro c₁ c₂ hc
  refine (h.current hc).bind_eq ?_
  intro symbol
  cases symbol with
  | none => exact h.fail hc _
  | some s =>
      dsimp only
      by_cases hs : set.contains s = true
      · rw [if_pos hs, if_pos hs]
        exact Simulates.pure (.success (h.cursor.advance c₁ c₂ hc))
      · rw [if_neg hs, if_neg hs]
        exact h.fail hc _

theorem expectEach [BEq σ] (h : host₁.Alike host₂ R F C) (want : List σ) (hc : C c₁ c₂) :
    Simulates R F (host₁.expectEach want c₁) (host₂.expectEach want c₂) (Option.Rel C) := by
  induction want generalizing c₁ c₂ with
  | nil => exact Simulates.pure (.some hc)
  | cons w want ih =>
      refine (h.current hc).bind_eq ?_
      intro symbol
      cases symbol with
      | none => exact Simulates.pure .none
      | some s =>
          dsimp only
          by_cases hs : (s == w) = true
          · rw [if_pos hs, if_pos hs]
            exact ih (h.cursor.advance c₁ c₂ hc)
          · rw [if_neg hs, if_neg hs]
            exact Simulates.pure .none

theorem literal [BEq σ] (h : host₁.Alike host₂ R F C) (name : String) (first : σ)
    (rest : List σ) :
    (host₁.literal name first rest).Alike R F C (host₂.literal name first rest) := by
  intro c₁ c₂ hc
  refine (h.expectEach (first :: rest) hc).bind ?_
  intro next₁ next₂ hnext
  cases hnext with
  | some hnext => exact Simulates.pure (.success hnext)
  | none =>
      refine (h.atEnd hc).bind_eq ?_
      intro ended
      cases ended with
      | true => exact h.fail hc _
      | false => exact h.fail hc _

theorem longestMatch (h : host₁.Alike host₂ R F C) (r : Recognizer σ) {start₁ start₂ : Cursor}
    (hstart : C start₁ start₂) (read : List σ) {best₁ best₂ : Option (Nat × Cursor)}
    (hbest : Option.Rel (fun b₁ b₂ => b₁.1 = b₂.1 ∧ C b₁.2 b₂.2) best₁ best₂) :
    Simulates R F (pure (r.outcome start₁ read best₁) : Act St₁ (Outcome σ (List σ)))
      (pure (r.outcome start₂ read best₂)) (Outcome.Alike C) := by
  cases hbest with
  | none => exact h.fail hstart _
  | @some b₁ b₂ hb =>
      obtain ⟨width₁, next₁⟩ := b₁
      obtain ⟨width₂, next₂⟩ := b₂
      obtain ⟨hwidth, hnext⟩ := hb
      dsimp only at hwidth
      subst hwidth
      exact Simulates.pure (.success hnext)

theorem longestFrom (h : host₁.Alike host₂ R F C) (hb : Outlasts F rounds₁ rounds₂)
    (r : Recognizer σ) {start₁ start₂ : Cursor} (hstart : C start₁ start₂) (state : r.State)
    (read : List σ) (width : Nat) (best₁ best₂ : Option (Nat × Cursor)) (hc : C c₁ c₂)
    (hbest : Option.Rel (fun b₁ b₂ => b₁.1 = b₂.1 ∧ C b₁.2 b₂.2) best₁ best₂) :
    Simulates R F (host₁.longestFrom r start₁ rounds₁ state read width best₁ c₁)
      (host₂.longestFrom r start₂ rounds₂ state read width best₂ c₂) (Outcome.Alike C) := by
  induction rounds₁ generalizing rounds₂ state read width best₁ best₂ c₁ c₂ with
  | zero =>
      rcases hb.of_zero with hF | rfl
      · exact Simulates.throw_excused hF
      · exact Simulates.throw _
  | succ rounds₁ ih =>
      obtain ⟨rounds₂, rfl, hpred⟩ := hb.exists_pred
      refine (h.current hc).bind_eq ?_
      intro symbol
      cases symbol with
      | none =>
          dsimp only
          cases r.matchesAtEnd state with
          | true => exact h.longestMatch r hstart read (.some ⟨rfl, hc⟩)
          | false => exact h.longestMatch r hstart read hbest
      | some s =>
          dsimp only
          have hbest' : Option.Rel (fun b₁ b₂ => b₁.1 = b₂.1 ∧ C b₁.2 b₂.2)
              (if r.matchesBefore state s = true then some (width, c₁) else best₁)
              (if r.matchesBefore state s = true then some (width, c₂) else best₂) := by
            cases r.matchesBefore state s with
            | true => exact .some ⟨rfl, hc⟩
            | false => exact hbest
          cases r.step state s with
          | live state' =>
              exact ih hpred state' _ _ _ _ (h.cursor.advance c₁ c₂ hc) hbest'
          | dead => exact h.longestMatch r hstart read hbest'
          | quit => exact h.fail hc _

theorem longest (h : host₁.Alike host₂ R F C) (hb : Outlasts F rounds₁ rounds₂)
    (r : Recognizer σ) : (host₁.longest rounds₁ r).Alike R F C (host₂.longest rounds₂ r) :=
  fun _ _ hc => h.longestFrom hb r hc r.start [] 0 none none hc .none

/-! ### One after the other -/

theorem map {act₁ : Action St₁ σ α} {act₂ : Action St₂ σ α} (f : α → β)
    (h : act₁.Alike R F C act₂) :
    Action.Alike R F C (fun c => do return (← act₁ c).map f) fun c => do
      return (← act₂ c).map f := by
  intro c₁ c₂ hc
  refine (h c₁ c₂ hc).bind ?_
  intro out₁ out₂ hout
  exact Simulates.pure (hout.map f)

theorem tryMap (h : host₁.Alike host₂ R F C) (ho : o₁.Alike R F C o₂) (f : α → Except String β) :
    Action.Alike R F C (Host.tryMap f o₁) (Host.tryMap f o₂) := by
  intro c₁ c₂ hc
  refine ho.apply.forward hc (fun _ => rfl) (fun _ => rfl) ?_
  intro a _ _ hnext
  dsimp only
  cases f a with
  | ok b => exact Simulates.pure (.success hnext)
  | error message => exact h.fail hc _

theorem and (h : host₁.Alike host₂ R F C) (hp : o₁.Alike R F C o₂) (hq : o₁'.Alike R F C o₂') :
    (host₁.and o₁ o₁').Alike R F C (host₂.and o₂ o₂') := by
  intro c₁ c₂ hc
  refine hp.apply.forward hc (fun _ => rfl) (fun _ => rfl) ?_
  intro _ _ _ hnext
  refine (h.endsBefore hq hnext).bind_eq ?_
  intro ends
  cases ends with
  | true => exact h.failAtEnd hq hnext
  | false =>
      refine hq.apply.forward hnext (fun _ => rfl) (fun _ => rfl) ?_
      intro _ _ _ hnext
      exact Simulates.pure (.success hnext)

theorem flatMap {act₁ : α → Action St₁ σ β} {act₂ : α → Action St₂ σ β}
    (ho : o₁.Alike R F C o₂) (hact : ∀ a, (act₁ a).Alike R F C (act₂ a)) :
    Action.Alike R F C (Host.flatMap o₁ act₁) (Host.flatMap o₂ act₂) := by
  intro c₁ c₂ hc
  refine ho.apply.forward hc (fun _ => rfl) (fun _ => rfl) ?_
  intro a _ _ hnext
  exact hact a _ _ hnext

theorem sequenceFrom {operand₁ : Parser σ ρ α → Operand St₁ σ α}
    {operand₂ : Parser σ ρ α → Operand St₂ σ α} (h : host₁.Alike host₂ R F C)
    (ps : List (Parser σ ρ α)) (hps : ∀ p ∈ ps, (operand₁ p).Alike R F C (operand₂ p))
    (values : List α) (hc : C c₁ c₂) :
    Simulates R F (host₁.sequenceFrom values c₁ (ps.map operand₁))
      (host₂.sequenceFrom values c₂ (ps.map operand₂)) (Outcome.Alike C) := by
  induction ps generalizing values c₁ c₂ with
  | nil => exact Simulates.pure (.success hc)
  | cons p ps ih =>
      rw [List.forall_mem_cons] at hps
      refine (h.endsBefore hps.1 hc).bind_eq ?_
      intro ends
      cases ends with
      | true => exact h.failAtEnd hps.1 hc
      | false =>
          refine hps.1.apply.forward hc (fun _ => rfl) (fun _ => rfl) ?_
          intro _ _ _ hnext
          exact ih hps.2 _ hnext

/-! ### Alternatives -/

theorem orElse (h : host₁.Alike host₂ R F C) (left : Failure σ) {out₁ out₂ : Outcome σ α}
    (hout : out₁.Alike C out₂) (hc : C c₁ c₂) :
    Simulates R F (host₁.orElse c₁ left out₁) (host₂.orElse c₂ left out₂) (Outcome.Alike C) := by
  cases hout with
  | failure => exact Simulates.pure .failure
  | success hnext =>
      refine (h.recover c₁ c₂ left hc).bind ?_
      intro _ _ _
      exact Simulates.pure (.success hnext)

theorem or {o₁ o₁' : Operand St₁ σ α} {o₂ o₂' : Operand St₂ σ α} (h : host₁.Alike host₂ R F C)
    (hp : o₁.Alike R F C o₂) (hq : o₁'.Alike R F C o₂') :
    (host₁.or o₁ o₁').Alike R F C (host₂.or o₂ o₂') := by
  intro c₁ c₂ hc
  have hright : ∀ left, Simulates R F (do host₁.orElse c₁ left (← o₁'.apply c₁))
      (do host₂.orElse c₂ left (← o₂'.apply c₂)) (Outcome.Alike C) := by
    intro left
    refine (hq.apply c₁ c₂ hc).bind ?_
    intro out₁ out₂ hout
    exact h.orElse left hout hc
  refine (h.atEnd hc).bind_eq ?_
  intro ended
  cases ended with
  | false =>
      refine (hp.apply c₁ c₂ hc).bind ?_
      intro out₁ out₂ hout
      cases hout with
      | success hnext => exact Simulates.pure (.success hnext)
      | failure => exact hright _
  | true =>
      refine hq.acceptsEmpty.bind_eq ?_
      intro rightAccepts
      refine hp.acceptsEmpty.bind_eq ?_
      intro leftAccepts
      cases leftAccepts with
      | true =>
          refine (hp.apply c₁ c₂ hc).bind ?_
          intro out₁ out₂ hout
          cases hout with
          | success hnext => exact Simulates.pure (.success hnext)
          | failure =>
              cases rightAccepts with
              | true => exact hright _
              | false => exact Simulates.pure .failure
      | false =>
          cases rightAccepts with
          | true => exact hq.apply c₁ c₂ hc
          | false =>
              refine hp.firstSet.bind_eq ?_
              intro left
              refine hq.firstSet.bind_eq ?_
              intro right
              exact h.fail hc _

theorem optional (h : host₁.Alike host₂ R F C) (hp : o₁.Alike R F C o₂) :
    (host₁.optional o₁).Alike R F C (host₂.optional o₂) := by
  intro c₁ c₂ hc
  refine (h.endsBefore hp hc).bind_eq ?_
  intro ends
  cases ends with
  | true => exact Simulates.pure (.success hc)
  | false =>
      refine (hp.apply c₁ c₂ hc).bind ?_
      intro out₁ out₂ hout
      cases hout with
      | success hnext => exact Simulates.pure (.success hnext)
      | failure =>
          refine (h.recover c₁ c₂ _ hc).bind ?_
          intro _ _ _
          exact Simulates.pure (.success hc)

theorem label [BEq σ] (h : host₁.Alike host₂ R F C) (name : String) (hp : o₁.Alike R F C o₂) :
    Action.Alike R F C (Host.label name o₁) (Host.label name o₂) := by
  intro c₁ c₂ hc
  refine (hp.apply c₁ c₂ hc).bind ?_
  intro out₁ out₂ hout
  cases hout with
  | success hnext => exact Simulates.pure (.success hnext)
  | @failure e =>
      dsimp only
      rw [← h.cursor.position c₁ c₂ hc]
      split
      · exact Simulates.pure .failure
      · refine hp.firstSet.bind_eq ?_
        intro set
        split
        · exact Simulates.pure .failure
        · exact Simulates.pure .failure

/-! ### Looking without reading -/

theorem lookahead (hp : o₁.Alike R F C o₂) :
    Action.Alike R F C (Host.lookahead o₁) (Host.lookahead o₂) := by
  intro c₁ c₂ hc
  refine (hp.apply c₁ c₂ hc).bind ?_
  intro out₁ out₂ hout
  cases hout with
  | success _ => exact Simulates.pure (.success hc)
  | failure => exact Simulates.pure .failure

theorem not (h : host₁.Alike host₂ R F C) (hp : o₁.Alike R F C o₂) :
    Action.Alike R F C (Host.not o₁) (Host.not o₂) := by
  intro c₁ c₂ hc
  refine (hp.apply _ _ (h.cursor.untracked c₁ c₂ hc)).bind ?_
  intro out₁ out₂ hout
  cases hout with
  | success _ => exact h.fail hc _
  | failure => exact Simulates.pure (.success hc)

/-! ### Repetition -/

theorem roundsWhile [BEq σ] (h : host₁.Alike host₂ R F C) (hb : Outlasts F rounds₁ rounds₂)
    (first : SymbolSet σ) {act₁ : Action St₁ σ α}
    {act₂ : Action St₂ σ α} (hact : act₁.Alike R F C act₂) (step : β → α → β) (acc : β)
    (hc : C c₁ c₂) :
    Simulates R F (host₁.roundsWhile first act₁ step rounds₁ acc c₁)
      (host₂.roundsWhile first act₂ step rounds₂ acc c₂) (Outcome.Alike C) := by
  induction rounds₁ generalizing rounds₂ acc c₁ c₂ with
  | zero =>
      rcases hb.of_zero with hF | rfl
      · exact Simulates.throw_excused hF
      · exact Simulates.throw _
  | succ rounds₁ ih =>
      obtain ⟨rounds₂, rfl, hpred⟩ := hb.exists_pred
      refine (h.predicts first hc).bind_eq ?_
      intro predicted
      cases predicted with
      | false => exact Simulates.pure (.success hc)
      | true =>
          refine (hact c₁ c₂ hc).bind ?_
          intro out₁ out₂ hout
          cases hout with
          | success hnext => exact ih hpred _ hnext
          | failure =>
              dsimp only
              rw [← h.cursor.position c₁ c₂ hc]
              split
              · exact Simulates.pure .failure
              · refine (h.recover c₁ c₂ _ hc).bind ?_
                intro _ _ _
                exact Simulates.pure (.success hc)

theorem many [BEq σ] (h : host₁.Alike host₂ R F C) (hb : Outlasts F rounds₁ rounds₂)
    (hp : o₁.Alike R F C o₂) : (host₁.many rounds₁ o₁).Alike R F C (host₂.many rounds₂ o₂) := by
  intro c₁ c₂ hc
  refine (needsSymbol hp .many).bind ?_
  intro _ _ _
  refine hp.firstSet.bind_eq ?_
  intro first
  refine (h.roundsWhile hb first hp.apply _ [] hc).bind ?_
  intro out₁ out₂ hout
  exact Simulates.pure (hout.map List.reverse)

theorem many1 [BEq σ] (h : host₁.Alike host₂ R F C) (hb : Outlasts F rounds₁ rounds₂)
    (hp : o₁.Alike R F C o₂) : (host₁.many1 rounds₁ o₁).Alike R F C (host₂.many1 rounds₂ o₂) := by
  intro c₁ c₂ hc
  refine (needsSymbol hp .many1).bind ?_
  intro _ _ _
  refine hp.apply.forward hc (fun _ => rfl) (fun _ => rfl) ?_
  intro a _ _ hnext
  refine hp.firstSet.bind_eq ?_
  intro first
  refine (h.roundsWhile hb first hp.apply _ [a] hnext).bind ?_
  intro out₁ out₂ hout
  exact Simulates.pure (hout.map List.reverse)

theorem skipMany [BEq σ] (h : host₁.Alike host₂ R F C) (hb : Outlasts F rounds₁ rounds₂)
    (hp : o₁.Alike R F C o₂) :
    (host₁.skipMany rounds₁ o₁).Alike R F C (host₂.skipMany rounds₂ o₂) := by
  intro c₁ c₂ hc
  refine (needsSymbol hp .skipMany).bind ?_
  intro _ _ _
  refine hp.firstSet.bind_eq ?_
  intro first
  exact h.roundsWhile hb first hp.apply _ () hc

theorem timesFrom (h : host₁.Alike host₂ R F C) (hp : o₁.Alike R F C o₂) (required allowed : Nat)
    (values : List α) (hc : C c₁ c₂) :
    Simulates R F (host₁.timesFrom o₁ required allowed values c₁)
      (host₂.timesFrom o₂ required allowed values c₂) (Outcome.Alike C) := by
  induction allowed generalizing required values c₁ c₂ with
  | zero => exact Simulates.pure (.success hc)
  | succ allowed ih =>
      refine (h.endsBefore hp hc).bind_eq ?_
      intro ends
      cases ends with
      | true =>
          rw [if_pos rfl, if_pos rfl]
          by_cases hzero : required = 0
          · rw [if_pos hzero, if_pos hzero]
            exact Simulates.pure (.success hc)
          · rw [if_neg hzero, if_neg hzero]
            exact h.failAtEnd hp hc
      | false =>
          refine (hp.apply c₁ c₂ hc).bind ?_
          intro out₁ out₂ hout
          cases hout with
          | success hnext => exact ih _ _ hnext
          | failure =>
              dsimp only
              by_cases hzero : required = 0
              · rw [if_pos hzero, if_pos hzero]
                refine (h.recover c₁ c₂ _ hc).bind ?_
                intro _ _ _
                exact Simulates.pure (.success hc)
              · rw [if_neg hzero, if_neg hzero]
                exact Simulates.pure .failure

theorem times (h : host₁.Alike host₂ R F C) (min max : Nat) (hp : o₁.Alike R F C o₂) :
    (host₁.times min max o₁).Alike R F C (host₂.times min max o₂) := by
  intro c₁ c₂ hc
  have hloop := h.timesFrom hp min max [] hc
  unfold Host.times
  by_cases hlt : min < max
  · rw [if_pos hlt, if_pos hlt]
    exact (needsSymbol hp .between).bind fun _ _ _ => hloop
  · rw [if_neg hlt, if_neg hlt]
    exact hloop

theorem manyTillFrom (h : host₁.Alike host₂ R F C) (hb : Outlasts F rounds₁ rounds₂)
    (hp : o₁.Alike R F C o₂) (hs : o₁'.Alike R F C o₂') (values : List α) (hc : C c₁ c₂) :
    Simulates R F (host₁.manyTillFrom o₁ o₁' rounds₁ values c₁)
      (host₂.manyTillFrom o₂ o₂' rounds₂ values c₂) (Outcome.Alike C) := by
  induction rounds₁ generalizing rounds₂ values c₁ c₂ with
  | zero =>
      rcases hb.of_zero with hF | rfl
      · exact Simulates.throw_excused hF
      · exact Simulates.throw _
  | succ rounds₁ ih =>
      obtain ⟨rounds₂, rfl, hpred⟩ := hb.exists_pred
      refine (h.atEnd hc).bind_eq ?_
      intro ended
      cases ended with
      | true =>
          refine hs.acceptsEmpty.bind_eq ?_
          intro accepts
          cases accepts with
          | true => exact map (fun _ => values.reverse) hs.apply c₁ c₂ hc
          | false => exact h.failAtEnd hs hc
      | false =>
          refine (hs.apply c₁ c₂ hc).bind ?_
          intro out₁ out₂ hout
          cases hout with
          | success hnext => exact Simulates.pure (.success hnext)
          | @failure stopFailure =>
              refine (hp.apply c₁ c₂ hc).bind ?_
              intro out₁ out₂ hout
              cases hout with
              | success hnext =>
                  refine (h.recover c₁ c₂ stopFailure hc).bind ?_
                  intro _ _ _
                  exact ih hpred _ hnext
              | failure => exact Simulates.pure .failure

theorem manyTill (h : host₁.Alike host₂ R F C) (hb : Outlasts F rounds₁ rounds₂)
    (hp : o₁.Alike R F C o₂) (hs : o₁'.Alike R F C o₂') :
    (host₁.manyTill rounds₁ o₁ o₁').Alike R F C (host₂.manyTill rounds₂ o₂ o₂') := by
  intro c₁ c₂ hc
  refine (needsSymbol hp .manyTill).bind ?_
  intro _ _ _
  exact h.manyTillFrom hb hp hs [] hc

/-! ### Chains of operators -/

theorem chainRound {act₁ : Action St₁ σ α} {act₂ : Action St₂ σ α} {op₁ : Action St₁ σ β}
    {op₂ : Action St₂ σ β} (hact : act₁.Alike R F C act₂) (hop : op₁.Alike R F C op₂) :
    Action.Alike R F C (Host.chainRound act₁ op₁) (Host.chainRound act₂ op₂) := by
  intro c₁ c₂ hc
  refine hop.forward hc (fun _ => rfl) (fun _ => rfl) ?_
  intro _ _ _ hnext
  exact map _ hact _ _ hnext

theorem chainFrom [BEq σ] (h : host₁.Alike host₂ R F C) (hb : Outlasts F rounds₁ rounds₂)
    (opEmpty : Bool) (opFirst : SymbolSet σ) {act₁ : Action St₁ σ α}
    {act₂ : Action St₂ σ α} {op₁ : Action St₁ σ β} {op₂ : Action St₂ σ β}
    (hact : act₁.Alike R F C act₂) (hop : op₁.Alike R F C op₂) (pairs : List (β × α))
    (hc : C c₁ c₂) :
    Simulates R F (host₁.chainFrom opEmpty opFirst act₁ op₁ rounds₁ pairs c₁)
      (host₂.chainFrom opEmpty opFirst act₂ op₂ rounds₂ pairs c₂) (Outcome.Alike C) := by
  induction rounds₁ generalizing rounds₂ pairs c₁ c₂ with
  | zero =>
      rcases hb.of_zero with hF | rfl
      · exact Simulates.throw_excused hF
      · exact Simulates.throw _
  | succ rounds₁ ih =>
      obtain ⟨rounds₂, rfl, hpred⟩ := hb.exists_pred
      refine (h.chainEnds opEmpty opFirst hc).bind_eq ?_
      intro ends
      cases ends with
      | true => exact Simulates.pure (.success hc)
      | false =>
          refine (chainRound hact hop c₁ c₂ hc).bind ?_
          intro out₁ out₂ hout
          cases hout with
          | success hnext => exact ih hpred _ hnext
          | failure =>
              dsimp only
              rw [← h.cursor.position c₁ c₂ hc]
              split
              · exact Simulates.pure .failure
              · refine (h.recover c₁ c₂ _ hc).bind ?_
                intro _ _ _
                exact Simulates.pure (.success hc)

theorem chain [BEq σ] {op₁ : Operand St₁ σ (α → α → α)} {op₂ : Operand St₂ σ (α → α → α)}
    (h : host₁.Alike host₂ R F C) (hb : Outlasts F rounds₁ rounds₂) (side : Side)
    (hp : o₁.Alike R F C o₂) (hop : op₁.Alike R F C op₂) :
    (host₁.chain rounds₁ side o₁ op₁).Alike R F C (host₂.chain rounds₂ side o₂ op₂) := by
  intro c₁ c₂ hc
  refine hp.apply.forward hc (fun _ => rfl) (fun _ => rfl) ?_
  intro _ _ _ hnext
  refine hop.firstSet.bind_eq ?_
  intro opFirst
  refine hop.acceptsEmpty.bind_eq ?_
  intro opEmpty
  refine (needsOperand hp opEmpty).bind ?_
  intro _ _ _
  refine (h.chainFrom hb opEmpty opFirst hp.apply hop.apply [] hnext).bind ?_
  intro out₁ out₂ hout
  exact Simulates.pure (hout.map _)

end Host.Alike

/-! ### Runs -/

variable {host₁ : Host σ ρ St₁} {host₂ : Host σ ρ St₂} {R : St₁ → St₂ → Prop}
  {F : Halt → Prop} {C : Cursor → Cursor → Prop} {around₁ : Around σ ρ St₁}
  {around₂ : Around σ ρ St₂}

/-- What stands around a parser keeps two actions alike. -/
def Around.Alike (R : St₁ → St₂ → Prop) (F : Halt → Prop) (C : Cursor → Cursor → Prop)
    (around₁ : Around σ ρ St₁) (around₂ : Around σ ρ St₂) : Prop :=
  ∀ (α : Type) (p : Parser σ ρ α) (act₁ : Action St₁ σ α) (act₂ : Action St₂ σ α),
    act₁.Alike R F C act₂ → (around₁ α p act₁).Alike R F C (around₂ α p act₂)

theorem Around.alike_none : Around.Alike R F C (Around.none : Around σ ρ St₁) Around.none :=
  fun _ _ _ _ h => h

variable [BEq σ]

theorem Parser.runAround_sequence {St : Type} (around : Around σ ρ St) (host : Host σ ρ St)
    (rule : (i : Nat) → Action St σ (ρ i)) (rounds : Nat) {n : Nat} (ps : Fin n → Parser σ ρ α) :
    (sequence ps).runAround around host rule rounds =
      around _ (sequence ps) fun c => host.sequenceFrom [] c ((List.ofFn ps).map fun p =>
        run.operand host p (p.runAround around host rule rounds)) := by
  rw [List.map_ofFn]
  rfl

theorem Parser.runAround_alike {rule₁ : (i : Nat) → Action St₁ σ (ρ i)}
    {rule₂ : (i : Nat) → Action St₂ σ (ρ i)} {rounds₁ rounds₂ : Nat}
    (h : host₁.Alike host₂ R F C) (hb : Outlasts F rounds₁ rounds₂)
    (ha : Around.Alike R F C around₁ around₂) (hrule : ∀ i, (rule₁ i).Alike R F C (rule₂ i))
    (p : Parser σ ρ α) :
    (p.runAround around₁ host₁ rule₁ rounds₁).Alike R F C
      (p.runAround around₂ host₂ rule₂ rounds₂) := by
  induction p with
  | pure a => exact ha _ _ _ _ fun c₁ c₂ hc => Simulates.pure (.success hc)
  | fail message =>
      cases message with
      | none => exact ha _ _ _ _ fun c₁ c₂ hc => h.fail hc _
      | some message => exact ha _ _ _ _ fun c₁ c₂ hc => h.fail hc _
  | eof => exact ha _ _ _ _ h.eof
  | satisfy set => exact ha _ _ _ _ (h.satisfy set)
  | literal name first rest => exact ha _ _ _ _ (h.literal name first rest)
  | longest r => exact ha _ _ _ _ (h.longest hb r)
  | map f p ih => exact ha _ _ _ _ (Host.Alike.map f ih)
  | tryMap f p ih => exact ha _ _ _ _ (h.tryMap (h.operand p ih) f)
  | and p q ihp ihq => exact ha _ _ _ _ (h.and (h.operand p ihp) (h.operand q ihq))
  | or p q ihp ihq => exact ha _ _ _ _ (h.or (h.operand p ihp) (h.operand q ihq))
  | flatMap p k ihp ihk => exact ha _ _ _ _ (Host.Alike.flatMap (h.operand p ihp) ihk)
  | label name p ih => exact ha _ _ _ _ (h.label name (h.operand p ih))
  | lookahead p ih => exact ha _ _ _ _ (Host.Alike.lookahead (h.operand p ih))
  | not p ih => exact ha _ _ _ _ (h.not (h.operand p ih))
  | optional p ih => exact ha _ _ _ _ (h.optional (h.operand p ih))
  | sequence ps ih =>
      rw [runAround_sequence, runAround_sequence]
      refine ha _ _ _ _ fun c₁ c₂ hc => h.sequenceFrom _ ?_ [] hc
      intro p hp
      obtain ⟨i, rfl⟩ := List.mem_ofFn.mp hp
      exact h.operand (ps i) (ih i)
  | many p ih => exact ha _ _ _ _ (h.many hb (h.operand p ih))
  | many1 p ih => exact ha _ _ _ _ (h.many1 hb (h.operand p ih))
  | skipMany p ih => exact ha _ _ _ _ (h.skipMany hb (h.operand p ih))
  | times min max p ih => exact ha _ _ _ _ (h.times min max (h.operand p ih))
  | manyTill p stop ihp ihs =>
      exact ha _ _ _ _ (h.manyTill hb (h.operand p ihp) (h.operand stop ihs))
  | chain side operand op ihp iho =>
      exact ha _ _ _ _ (h.chain hb side (h.operand operand ihp) (h.operand op iho))
  | declared _ _ p ih => exact ha _ _ _ _ ih
  | recording f p ih =>
      refine ha _ _ _ _ fun c₁ c₂ hc => (h.recover c₁ c₂ f hc).bind ?_
      intro _ _ _
      exact ih c₁ c₂ hc
  | rule i => exact ha _ _ _ _ (hrule i)

theorem Rules.applyAround_alike (rules : Rules σ ρ) (h : host₁.Alike host₂ R F C)
    (ha : Around.Alike R F C around₁ around₂) {budget₁ budget₂ : Nat}
    (hb : Outlasts F budget₁ budget₂) (p : Parser σ ρ α) :
    (rules.applyAround around₁ host₁ budget₁ p).Alike R F C
      (rules.applyAround around₂ host₂ budget₂ p) := by
  induction budget₁ generalizing budget₂ α p with
  | zero =>
      intro c₁ c₂ _
      rcases hb.of_zero with hF | rfl
      · exact Simulates.throw_excused hF
      · exact Simulates.throw _
  | succ budget₁ ih =>
      obtain ⟨budget₂, rfl, hpred⟩ := hb.exists_pred
      refine Parser.runAround_alike h hpred ha ?_ p
      intro i
      cases rules.body? i with
      | none => exact fun c₁ c₂ hc => Simulates.throw _
      | some body => exact ih hpred body

/-- Hosts that answer alike carry a run to the same outcome. -/
theorem Rules.apply_alike_of_outlasts (rules : Rules σ ρ) (h : host₁.Alike host₂ R F C)
    {budget₁ budget₂ : Nat} (hb : Outlasts F budget₁ budget₂) (p : Parser σ ρ α) :
    (rules.apply host₁ budget₁ p).Alike R F C (rules.apply host₂ budget₂ p) := by
  rw [← applyAround_none, ← applyAround_none]
  exact rules.applyAround_alike h Around.alike_none hb p

theorem Rules.apply_alike (rules : Rules σ ρ) (h : host₁.Alike host₂ R F C) (hF : F .exhausted)
    {budget₁ budget₂ : Nat} (hle : budget₁ ≤ budget₂) (p : Parser σ ρ α) :
    (rules.apply host₁ budget₁ p).Alike R F C (rules.apply host₂ budget₂ p) :=
  rules.apply_alike_of_outlasts h (.of_le hF hle) p

omit [BEq σ] in
theorem Rules.wholeInput_alike (h : host₁.Alike host₂ R F Eq) (c : Cursor) (out : Outcome σ α) :
    Simulates R F (wholeInput host₁ c out) (wholeInput host₂ c out) Eq := by
  cases out with
  | failure e => exact Simulates.pure rfl
  | success a next =>
      refine (h.atEnd rfl).bind_eq ?_
      intro ended
      split
      · exact Simulates.pure rfl
      · exact Simulates.pure rfl

omit [BEq σ] in
theorem Rules.orFurther_eq_success {recovered : Option (Failure σ)} {out : Outcome σ α} {a : α}
    {next : Cursor} : orFurther recovered out = .success a next ↔ out = .success a next := by
  cases out with
  | success b next' => exact Iff.rfl
  | failure e =>
      cases recovered with
      | none => simp [orFurther]
      | some r => simp [orFurther]

/-- Hosts that answer alike carry a parse to the same outcome. What they have recorded before makes
no difference: once it is cleared, the closer relation `K` makes them record the same. -/
theorem Rules.parse_alike {K : St₁ → St₂ → Prop} (rules : Rules σ ρ)
    (h : host₁.Alike host₂ R F Eq) (h' : host₁.Alike host₂ K F Eq)
    (hclear : ∀ st₁ st₂, R st₁ st₂ →
      K (host₁.setRecovered none st₁) (host₂.setRecovered none st₂))
    (hrecord : ∀ st₁ st₂, K st₁ st₂ → host₁.recovered st₁ = host₂.recovered st₂)
    (hforget : ∀ st₁ st₂, K st₁ st₂ → R st₁ st₂) {budget₁ budget₂ : Nat}
    (hb : Outlasts F budget₁ budget₂) (p : Parser σ ρ α) (c : Cursor) :
    Simulates R F (rules.parse host₁ budget₁ p c) (rules.parse host₂ budget₂ p c) Eq := by
  refine (h.acceptsEmpty p).bind_eq ?_
  intro acceptsEmpty
  refine (h.firstSet p).bind_eq ?_
  intro first
  refine (h.atEnd rfl).bind_eq ?_
  intro ended
  split
  · exact Simulates.pure rfl
  · refine Simulates.modify_bind ?_ hclear hforget
    refine ((rules.apply_alike_of_outlasts h' hb p _ _ rfl).mono fun _ _ h => h.eq).bind_eq ?_
    intro out
    refine (wholeInput_alike h' c out).bind_eq ?_
    intro out st₁ st₂ hst
    exact ⟨_, st₂, rfl, congrArg (orFurther · out) (hrecord st₁ st₂ hst), hst⟩

end PredictiveParsing
