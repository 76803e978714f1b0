import PredictiveParsing.Session
import PredictiveParsing.Proofs.Memory
import PredictiveParsing.Proofs.Source

/-!
# Faithful hosts

A host is faithful to a grammar and a list of symbols while its state has a property `I`:
its looks at the input answer with the symbols, what it says of parsers is what they say
of themselves, and `I` stays. The combinators take their decisions from a host, so here
is what each kind of decision means under a faithful one: the end of the input, a symbol
in a first set, a parser that needs a symbol.

A session is faithful when its memory is sound and its source holds the symbols
(`Session.Consistent`); it starts so, and stays so.
-/

namespace PredictiveParsing

variable {σ : Type} {ρ : Nat → Type} {S St α β ε : Type}

/-- In a state with `I`, the host answers with the symbols and with what parsers say of
themselves. -/
structure Host.Faithful [BEq σ] (host : Host σ ρ St) (rules : Rules σ ρ) (symbols : List σ)
    (I : St → Prop) : Prop where
  symbolAt : ∀ i st, I st → (host.symbolAt i st).1 = symbols[i]? ∧ I (host.symbolAt i st).2
  acceptsEmpty : ∀ {α : Type} (p : Parser σ ρ α),
    Yields I (fun _ => True) (host.acceptsEmpty p) (rules.AcceptsEmpty p)
  firstSet : ∀ {α : Type} (p : Parser σ ρ α),
    Yields I (fun _ => True) (host.firstSet p) (rules.FirstSet p)
  setRecovered : ∀ f st, I st → I (host.setRecovered f st)

structure Operand.Speaks [BEq σ] (rules : Rules σ ρ) (I : St → Prop) (E : Halt → Prop)
    (o : Operand St σ α) (p : Parser σ ρ α) : Prop where
  acceptsEmpty : Yields I E o.acceptsEmpty (rules.AcceptsEmpty p)
  firstSet : Yields I E o.firstSet (rules.FirstSet p)

def Halt.CoversMisuse (E : Halt → Prop) : Prop := ∀ m, E (.misuse m)

theorem Inquiry.act_yields {q : Inquiry St α} {I : St → Prop} {r : α → Prop} {E : Halt → Prop}
    (hE : Halt.CoversMisuse E) (h : Yields I (fun _ => True) q r) : Yields I E q.act r := by
  intro st hI
  have hst := h st hI
  unfold Inquiry.act
  cases hq : q st with
  | ok a st' =>
      rw [hq] at hst
      exact hst
  | error e st' => exact hE e

/-! ### Decisions -/

namespace Host.Faithful

variable [BEq σ] {host : Host σ ρ St} {rules : Rules σ ρ} {symbols : List σ} {I : St → Prop}
  {E : Halt → Prop}

theorem current (h : host.Faithful rules symbols I) (c : Cursor) :
    Yields I E (host.current c) fun s => s = symbols[c.position]? :=
  fun st hI => h.symbolAt c.position st hI

theorem atEnd (h : host.Faithful rules symbols I) (c : Cursor) :
    Yields I E (host.atEnd c) fun b => b = true ↔ symbols.length ≤ c.position := by
  refine (h.current c).bind ?_
  intro s hs
  refine Yields.pure ?_
  rw [hs, Option.isNone_iff_eq_none, List.getElem?_eq_none_iff]

theorem recover (h : host.Faithful rules symbols I) (c : Cursor) (f : Failure σ) :
    Yields I E (host.recover c f) fun _ => True := by
  intro st hI
  unfold Host.recover
  cases c.tracked with
  | true => exact ⟨trivial, h.setRecovered _ st hI⟩
  | false => exact ⟨trivial, hI⟩

/-- The record can be cleared. -/
theorem clear (h : host.Faithful rules symbols I) :
    Yields I E (modify (host.setRecovered none) : Act St Unit) fun _ => True :=
  fun st hI => ⟨trivial, h.setRecovered none st hI⟩

theorem operand_speaks (h : host.Faithful rules symbols I) (hE : Halt.CoversMisuse E)
    (p : Parser σ ρ α) (apply : Action St σ α) :
    (Parser.run.operand host p apply).Speaks rules I E p :=
  ⟨Inquiry.act_yields hE (h.acceptsEmpty p), Inquiry.act_yields hE (h.firstSet p)⟩

theorem predicts (h : host.Faithful rules symbols I) (first : SymbolSet σ) (c : Cursor) :
    Yields I E (host.predicts first c) fun b =>
      b = true ↔ ∃ s, symbols[c.position]? = some s ∧ first.contains s = true := by
  refine (h.current c).bind ?_
  intro symbol hsymbol
  cases symbol with
  | none =>
      refine Yields.pure ?_
      simp [← hsymbol]
  | some s =>
      refine Yields.pure ?_
      simp [← hsymbol]

variable {o : Operand St σ α} {p : Parser σ ρ α}

theorem endsBefore (h : host.Faithful rules symbols I) (ho : o.Speaks rules I E p) (c : Cursor) :
    Yields I E (host.endsBefore o c) fun b =>
      b = true → symbols.length ≤ c.position ∧ rules.AcceptsEmpty p false := by
  refine (h.atEnd c).bind ?_
  intro ended hended
  cases ended with
  | false => exact Yields.pure nofun
  | true =>
      refine ho.acceptsEmpty.bind ?_
      intro b hb
      refine Yields.pure ?_
      intro hnot
      rw [Bool.not_eq_true'] at hnot
      exact ⟨hended.mp rfl, hnot ▸ hb⟩

theorem chainEnds (h : host.Faithful rules symbols I) (opEmpty : Bool) (opFirst : SymbolSet σ)
    (c : Cursor) :
    Yields I E (host.chainEnds opEmpty opFirst c) fun b => b = true ↔ opEmpty = false ∧
      ¬∃ s, symbols[c.position]? = some s ∧ opFirst.contains s = true := by
  unfold Host.chainEnds
  cases opEmpty with
  | true => exact Yields.pure (by simp)
  | false =>
      refine (h.predicts opFirst c).bind ?_
      intro b hb
      refine Yields.pure ?_
      rw [← hb]
      simp

end Host.Faithful

theorem Host.needsSymbol_yields [BEq σ] {rules : Rules σ ρ} {I : St → Prop} {E : Halt → Prop}
    {o : Operand St σ α} {p : Parser σ ρ α} (hE : Halt.CoversMisuse E)
    (ho : o.Speaks rules I E p) (repetition : Repetition) :
    Yields I E (Host.needsSymbol repetition o) fun _ => rules.AcceptsEmpty p false := by
  refine ho.acceptsEmpty.bind ?_
  intro b hb
  cases b with
  | true => exact Yields.throw (hE _)
  | false => exact Yields.pure hb

/-! ### Sessions -/

namespace Session

section Inquire

variable {q : Inquiry (Memory σ) α} {a : α} {e : Misuse} {m : Memory σ} {s : Session σ S}

theorem inquire_of_ok (h : q s.memory = .ok a m) : inquire q s = .ok a { s with memory := m } := by
  unfold inquire
  dsimp only
  rw [h]

theorem inquire_of_error (h : q s.memory = .error e m) :
    inquire q s = .error e { s with memory := m } := by
  unfold inquire
  dsimp only
  rw [h]

/-- Sessions that stay related when their memories do answer a question alike if their memories
do. -/
theorem inquire_framed {T : Type} {M : Memory σ → Memory σ → Prop}
    {R : Session σ S → Session σ T → Prop} {E : Misuse → Prop}
    (hmemory : ∀ s₁ s₂, R s₁ s₂ → M s₁.memory s₂.memory)
    (hframe : ∀ s₁ s₂ m₁ m₂, R s₁ s₂ → M m₁ m₂ →
      R { s₁ with memory := m₁ } { s₂ with memory := m₂ })
    (h : Simulates M E q q Eq) : Simulates R E (inquire q) (inquire q) Eq := by
  intro s₁ s₂ hs
  have hst := h s₁.memory s₂.memory (hmemory s₁ s₂ hs)
  cases hq : q s₁.memory with
  | ok a m₁ =>
      rw [hq] at hst
      obtain ⟨b, m₂, hq₂, rfl, hm⟩ := hst
      rw [inquire_of_ok hq]
      exact ⟨a, _, inquire_of_ok hq₂, rfl, hframe s₁ s₂ m₁ m₂ hs hm⟩
  | error e m₁ =>
      rw [hq] at hst
      rw [inquire_of_error hq]
      exact hst.imp_right fun ⟨m₂, hq₂, hm⟩ =>
        ⟨_, inquire_of_error hq₂, hframe s₁ s₂ m₁ m₂ hs hm⟩

end Inquire

variable [BEq σ] [Source S σ] {rules : Rules σ ρ} {symbols : List σ}

/-- What the memory holds is what the grammar says, nothing is being worked out, and the source
holds the symbols. -/
structure Consistent (rules : Rules σ ρ) (symbols : List σ) (s : Session σ S) : Prop where
  memory : Memory.Working rules [] s.memory
  source : Source.Holds s.source symbols

theorem consistent_start {source : S} (h : Source.Holds source symbols) :
    Consistent rules symbols { source } :=
  ⟨⟨Memory.sound_empty, rfl⟩, h⟩

/-- A question about the grammar that keeps the memory sound keeps the session consistent. -/
theorem inquire_yields {q : Inquiry (Memory σ) α} {r : α → Prop}
    (h : Yields (Memory.Working rules []) (fun _ => True) q r) :
    Yields (Consistent (S := S) rules symbols) (fun _ => True) (inquire q) r := by
  intro s hs
  have hm := h s.memory hs.memory
  cases hq : q s.memory with
  | error e m =>
      rw [inquire_of_error hq]
      exact trivial
  | ok a m =>
      rw [hq] at hm
      rw [inquire_of_ok hq]
      exact ⟨hm.1, hm.2, hs.source⟩

theorem ask_yields {q : Inquiry (Memory σ) α} {answer : Inquiry Unit α}
    (h : Simulates (fun m _ => Memory.Working rules [] m) (fun _ => True) q answer Eq) :
    Yields (Memory.Working rules []) (fun _ => True) q fun a => answer () = .ok a () := by
  intro m hm
  cases hq : q m with
  | error e m' => exact trivial
  | ok a m' =>
      obtain ⟨_, _, ha, rfl, hm'⟩ := h.of_ok () hm hq
      exact ⟨ha, hm'⟩

/-- A consistent session is a faithful host. -/
theorem host_faithful (rules : Rules σ ρ) (symbols : List σ) :
    (host (S := S) rules).Faithful rules symbols (Consistent rules symbols) where
  symbolAt i _ hs := ⟨hs.source.symbolAt i, hs.memory, hs.source.next i⟩
  acceptsEmpty p := inquire_yields (ask_yields (Memory.askAcceptsEmpty_sound rules p []))
  firstSet p := inquire_yields (ask_yields (Memory.askFirstSet_sound rules p []))
  setRecovered _ _ hs := ⟨hs.memory, hs.source⟩

end Session

end PredictiveParsing
