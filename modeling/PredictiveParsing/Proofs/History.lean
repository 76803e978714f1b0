import PredictiveParsing.Proofs.Backings

/-!
# Answers do not depend on history

A grammar can be asked about its parsers while it is still being put together: a rule gets
its body late, a question stops with a misuse, and what was found on the way is
remembered. `Grammar.after` is one such operation. Whatever operations came before, a
question has the answer, or stops with the misuse, that it would have in the same rules
with nothing remembered (`Grammar.answers_independent_of_history`).

An answer that is found needs only the bodies that the rules on the way to it have. So it
stays the answer when further rules get bodies (`Rules.AcceptsEmpty.extend`,
`Rules.FirstSet.extend`), and a sound memory stays sound. What a question that stops leaves
behind is sound as well, and every question takes itself off the list of those being worked out.

A rule is a parser that remembers. One that is shared has its body from the start, and one
that refers forward gets it by `Rules.assign`.
-/

namespace PredictiveParsing

variable {σ : Type} {ρ : Nat → Type} {α β : Type}

/-! ### More bodies -/

namespace Rules

variable {rules rules' : Rules σ ρ} {p : Parser σ ρ α}

/-- Every rule with a body has the same one in the second grammar. -/
def Extends (rules rules' : Rules σ ρ) : Prop :=
  ∀ i body, rules.body? i = some body → rules'.body? i = some body

theorem Extends.refl (rules : Rules σ ρ) : rules.Extends rules := fun _ _ h => h

theorem Extends.trans {rules'' : Rules σ ρ} (h : rules.Extends rules')
    (h' : rules'.Extends rules'') : rules.Extends rules'' :=
  fun i body hi => h' i body (h i body hi)

theorem Extends.emptyWithin_le (h : rules.Extends rules') (d i : Nat) :
    (rules.emptyWithin d i).Le (rules'.emptyWithin d i) := by
  induction d generalizing i with
  | zero => exact fun b hb => absurd hb (emptyWithin_zero i b)
  | succ d ih =>
      intro b hb
      obtain ⟨body, hi, hbody⟩ := emptyWithin_succ_ok_iff.mp hb
      exact emptyWithin_succ_ok_iff.mpr ⟨body, h i body hi, acceptsEmpty_le ih body b hbody⟩

theorem Extends.emptyWithin_size_le (h : rules.Extends rules') (i : Nat) :
    (rules.emptyWithin rules.size i).Le (rules'.emptyWithin rules'.size i) :=
  (h.emptyWithin_le rules.size i).trans (rules'.emptyWithin_le_size rules.size i)

theorem AcceptsEmpty.extend {b : Bool} (h : rules.AcceptsEmpty p b) (hr : rules.Extends rules') :
    rules'.AcceptsEmpty p b :=
  acceptsEmpty_le hr.emptyWithin_size_le p b h

variable [BEq σ]

/-- Rules that give more answers to both questions make a parser give more. -/
theorem firstSet_le_of_rules {e₁ e₂ : Nat → Inquiry Unit Bool}
    {r₁ r₂ : Nat → Inquiry Unit (SymbolSet σ)} (he : ∀ i, (e₁ i).Le (e₂ i))
    (hr : ∀ i, (r₁ i).Le (r₂ i)) (p : Parser σ ρ α) :
    Inquiry.Le (p.firstSet e₁ r₁) (p.firstSet e₂ r₂) :=
  Inquiry.le_iff_simulates.mpr
    (p.firstSet_simulates (fun i => Inquiry.le_iff_simulates.mp (he i))
      fun i => Inquiry.le_iff_simulates.mp (hr i))

theorem Extends.firstWithin_le (h : rules.Extends rules') (d i : Nat) :
    (rules.firstWithin d i).Le (rules'.firstWithin d i) := by
  induction d generalizing i with
  | zero => exact fun s hs => absurd hs (firstWithin_zero i s)
  | succ d ih =>
      intro s hs
      obtain ⟨body, hi, hbody⟩ := firstWithin_succ_ok_iff.mp hs
      refine firstWithin_succ_ok_iff.mpr ⟨body, h i body hi, ?_⟩
      exact firstSet_le_of_rules h.emptyWithin_size_le ih body s hbody

theorem FirstSet.extend {s : SymbolSet σ} (h : rules.FirstSet p s) (hr : rules.Extends rules') :
    rules'.FirstSet p s := by
  refine firstSet_le_of_rules hr.emptyWithin_size_le ?_ p s h
  exact fun i => (hr.firstWithin_le rules.size i).trans (rules'.firstWithin_le_size rules.size i)

end Rules

namespace Memory

variable [BEq σ] {rules rules' : Rules σ ρ} {path : List (Property × Nat)} {m : Memory σ}

/-- What is remembered stays right when further rules get bodies. -/
theorem Sound.extend (h : m.Sound rules) (hr : rules.Extends rules') : m.Sound rules' :=
  ⟨fun i b hb => (h.acceptsEmpty i b hb).extend hr, fun i s hs => (h.firstSet i s hs).extend hr⟩

theorem Working.extend (h : Working rules path m) (hr : rules.Extends rules') :
    Working rules' path m :=
  ⟨h.1.extend hr, h.2⟩

/-! ### Questions being worked out -/

def Same (path : List (Property × Nat)) (m m' : Memory σ) : Prop :=
  m = m' ∧ m.inProgress = path

variable {F : Misuse → Prop}

omit [BEq σ] in
/-- A question that is worked out is on the list only meanwhile, however that ends. -/
theorem consult_same {question : Property × Nat} {known? : Memory σ → Option β}
    {remember : β → Memory σ → Memory σ} {compute : Inquiry (Memory σ) β}
    (hremember : ∀ a m, (remember a m).inProgress = m.inProgress)
    (hcompute : Simulates (Same (question :: path)) F compute compute Eq) :
    Simulates (Same path) F (consult question known? remember compute)
      (consult question known? remember compute) Eq := by
  rintro m _ ⟨rfl, hm⟩
  have hfinish : ∀ m' : Memory σ, m'.inProgress = question :: path →
      (m'.finish question).inProgress = path := by
    intro m' hm'
    rw [Memory.finish, hm', List.erase_cons_head]
  have hc := hcompute { m with inProgress := question :: m.inProgress } _
    ⟨rfl, congrArg (question :: ·) hm⟩
  unfold consult
  cases known? m with
  | some a => exact ⟨a, m, rfl, rfl, rfl, hm⟩
  | none =>
      dsimp only
      cases m.inProgress.contains question with
      | true => exact .inr ⟨m, rfl, rfl, hm⟩
      | false =>
          rw [if_neg Bool.false_ne_true]
          cases hr : compute { m with inProgress := question :: m.inProgress } with
          | ok a m' =>
              rw [hr] at hc
              obtain ⟨_, _, _, rfl, rfl, hm'⟩ := hc
              exact ⟨a, _, rfl, rfl, rfl, (hremember a _).trans (hfinish m' hm')⟩
          | error e m' =>
              rw [hr] at hc
              refine hc.imp_right ?_
              rintro ⟨_, _, rfl, hm'⟩
              exact ⟨_, rfl, rfl, hfinish m' hm'⟩

omit [BEq σ] in
theorem ruleAcceptsEmpty_same (depth i : Nat) (path : List (Property × Nat)) :
    Simulates (Same path) F (ruleAcceptsEmpty (σ := σ) rules depth i)
      (ruleAcceptsEmpty rules depth i) Eq := by
  induction depth generalizing i path with
  | zero =>
      unfold ruleAcceptsEmpty
      refine consult_same (fun _ _ => rfl) ?_
      cases rules.body? i with
      | none => exact Simulates.throw _
      | some p => exact Simulates.throw _
  | succ depth ih =>
      unfold ruleAcceptsEmpty
      refine consult_same (fun _ _ => rfl) ?_
      cases rules.body? i with
      | none => exact Simulates.throw _
      | some p => exact p.acceptsEmpty_simulates fun j => ih j _

theorem ruleFirstSet_same (depth i : Nat) (path : List (Property × Nat)) :
    Simulates (Same path) F (ruleFirstSet rules depth i) (ruleFirstSet rules depth i) Eq := by
  induction depth generalizing i path with
  | zero =>
      unfold ruleFirstSet
      refine consult_same (fun _ _ => rfl) ?_
      cases rules.body? i with
      | none => exact Simulates.throw _
      | some p => exact Simulates.throw _
  | succ depth ih =>
      unfold ruleFirstSet
      refine consult_same (fun _ _ => rfl) ?_
      cases rules.body? i with
      | none => exact Simulates.throw _
      | some p =>
          exact p.firstSet_simulates (fun j => ruleAcceptsEmpty_same _ j _) fun j => ih j _

omit [BEq σ] in
/-- Whatever a memory holds, asking leaves the questions being worked out as they were. -/
theorem inProgress_askAcceptsEmpty (rules : Rules σ ρ) (p : Parser σ ρ α) (m : Memory σ) :
    (stateLeft (askAcceptsEmpty rules p m)).inProgress = m.inProgress :=
  (p.acceptsEmpty_simulates fun i => ruleAcceptsEmpty_same _ i _).stateLeft_self
    (J := fun m' : Memory σ => m'.inProgress = m.inProgress) rfl

theorem inProgress_askFirstSet (rules : Rules σ ρ) (p : Parser σ ρ α) (m : Memory σ) :
    (stateLeft (askFirstSet rules p m)).inProgress = m.inProgress :=
  (p.firstSet_simulates (fun i => ruleAcceptsEmpty_same _ i _)
    fun i => ruleFirstSet_same _ i _).stateLeft_self
    (J := fun m' : Memory σ => m'.inProgress = m.inProgress) rfl

/-! ### Asking in two memories -/

variable {m₁ m₂ : Memory σ}

/-- A question ends in one way from all memories that are sound and at rest, and leaves them so. -/
theorem Alike.ending_askAcceptsEmpty (h : Alike rules [] m₁ m₂) (p : Parser σ ρ α) :
    ending (askAcceptsEmpty rules p m₁) = ending (askAcceptsEmpty rules p m₂) ∧
      Working rules [] (stateLeft (askAcceptsEmpty rules p m₁)) := by
  obtain ⟨hending, hleft, _⟩ := (askAcceptsEmpty_alike rules p).ending_eq h
  exact ⟨hending, hleft⟩

theorem Alike.ending_askFirstSet (h : Alike rules [] m₁ m₂) (p : Parser σ ρ α) :
    ending (askFirstSet rules p m₁) = ending (askFirstSet rules p m₂) ∧
      Working rules [] (stateLeft (askFirstSet rules p m₁)) := by
  obtain ⟨hending, hleft, _⟩ := (askFirstSet_alike rules p).ending_eq h
  exact ⟨hending, hleft⟩

end Memory

/-! ### Operations -/

theorem Rules.Extends.assign {rules rules' : Rules σ ρ} {i : Nat} {p : Parser σ ρ (ρ i)}
    (h : rules.assign i p = .ok rules') : rules.Extends rules' := by
  unfold Rules.assign at h
  split at h
  · cases h
  · rename_i hnone
    cases h
    intro j body hj
    by_cases hji : j = i
    · subst hji
      exact absurd (Option.isSome_iff_exists.mpr ⟨body, hj⟩) hnone
    · unfold body? at hj ⊢
      dsimp only
      rw [dif_neg hji]
      exact hj

/-- What is done with a grammar while nothing is parsed. -/
inductive Operation (σ : Type) (ρ : Nat → Type) : Type 1 where
  | assign (i : Nat) (p : Parser σ ρ (ρ i))
  | acceptsEmpty {α : Type} (p : Parser σ ρ α)
  | firstSet {α : Type} (p : Parser σ ρ α)

structure Grammar (σ : Type) (ρ : Nat → Type) where
  rules : Rules σ ρ
  memory : Memory σ := {}

namespace Grammar

variable [BEq σ] {g : Grammar σ ρ}

/-- The grammar behind an operation. A body for a rule that has one is refused, and a question that
stops with a misuse leaves what it had found until then. -/
def after (g : Grammar σ ρ) : Operation σ ρ → Grammar σ ρ
  | .assign i p =>
    match g.rules.assign i p with
    | .ok rules => { g with rules }
    | .error _ => g
  | .acceptsEmpty p => { g with memory := stateLeft (Memory.askAcceptsEmpty g.rules p g.memory) }
  | .firstSet p => { g with memory := stateLeft (Memory.askFirstSet g.rules p g.memory) }

def afterAll (g : Grammar σ ρ) (ops : List (Operation σ ρ)) : Grammar σ ρ := ops.foldl after g

/-- What is remembered is right, and no question is being worked out. -/
abbrev AtRest (g : Grammar σ ρ) : Prop := Memory.Working g.rules [] g.memory

theorem atRest_start (rules : Rules σ ρ) : AtRest { rules } := ⟨Memory.sound_empty, rfl⟩

theorem AtRest.alike (h : g.AtRest) : Memory.Alike g.rules [] g.memory {} :=
  ⟨h, Memory.sound_empty, rfl⟩

theorem AtRest.after (h : g.AtRest) (op : Operation σ ρ) :
    (g.after op).AtRest ∧ g.rules.Extends (g.after op).rules := by
  cases op with
  | assign i p =>
      unfold Grammar.after
      dsimp only
      cases hassign : g.rules.assign i p with
      | error e => exact ⟨h, .refl _⟩
      | ok rules => exact ⟨Memory.Working.extend h (.assign hassign), .assign hassign⟩
  | acceptsEmpty p => exact ⟨(h.alike.ending_askAcceptsEmpty p).2, .refl _⟩
  | firstSet p => exact ⟨(h.alike.ending_askFirstSet p).2, .refl _⟩

theorem AtRest.afterAll (h : g.AtRest) (ops : List (Operation σ ρ)) :
    (g.afterAll ops).AtRest ∧ g.rules.Extends (g.afterAll ops).rules := by
  induction ops generalizing g with
  | nil => exact ⟨h, .refl _⟩
  | cons op ops ih =>
      obtain ⟨hop, hext⟩ := h.after op
      obtain ⟨hops, hexts⟩ := ih hop
      exact ⟨hops, hext.trans hexts⟩

/-- The right answers are those that the same rules give when nothing is remembered. -/
theorem ending_of_acceptsEmpty {rules : Rules σ ρ} {p : Parser σ ρ α} {b : Bool}
    (h : rules.AcceptsEmpty p b) : ending (Memory.askAcceptsEmpty rules p {}) = .ok b := by
  obtain ⟨m, hask, _⟩ := Memory.ask_of_acceptsEmpty (atRest_start rules) h
  rw [hask]
  rfl

theorem ending_of_firstSet {rules : Rules σ ρ} {p : Parser σ ρ α} {s : SymbolSet σ}
    (h : rules.FirstSet p s) : ending (Memory.askFirstSet rules p {}) = .ok s := by
  obtain ⟨m, hask, _⟩ := Memory.ask_of_firstSet (atRest_start rules) h
  rw [hask]
  rfl

/-- Whatever has been assigned and asked, and whatever misuse was met on the way, a question ends as
it does in the rules as they are with nothing remembered: with the same answer or the same misuse.
Asking leaves the questions being worked out as they were, even among others that are. What is
remembered at any time is the answer then and after all that is done later. -/
theorem answers_independent_of_history (rules : Rules σ ρ) (ops : List (Operation σ ρ)) :
    let g := afterAll { rules } ops
    (∀ {α : Type} (p : Parser σ ρ α),
      ending (Memory.askAcceptsEmpty g.rules p g.memory) =
          ending (Memory.askAcceptsEmpty g.rules p {}) ∧
        ending (Memory.askFirstSet g.rules p g.memory) =
          ending (Memory.askFirstSet g.rules p {})) ∧
    (∀ {α : Type} (p : Parser σ ρ α) (m : Memory σ),
      (stateLeft (Memory.askAcceptsEmpty g.rules p m)).inProgress = m.inProgress ∧
        (stateLeft (Memory.askFirstSet g.rules p m)).inProgress = m.inProgress) ∧
    g.memory.inProgress = [] ∧
    ∀ (later : List (Operation σ ρ)) (i : Nat),
      (∀ b, g.memory.acceptsEmpty.lookup i = some b →
        ending (Memory.askAcceptsEmpty (g.afterAll later).rules
          (.rule i : Parser σ ρ (ρ i)) {}) = .ok b) ∧
      ∀ s, g.memory.firstSet.lookup i = some s →
        ending (Memory.askFirstSet (g.afterAll later).rules
          (.rule i : Parser σ ρ (ρ i)) {}) = .ok s := by
  intro g
  have hg : g.AtRest := ((atRest_start rules).afterAll ops).1
  refine ⟨?_, ?_, hg.2, ?_⟩
  · intro α p
    exact ⟨(hg.alike.ending_askAcceptsEmpty p).1, (hg.alike.ending_askFirstSet p).1⟩
  · intro α p m
    exact ⟨Memory.inProgress_askAcceptsEmpty g.rules p m, Memory.inProgress_askFirstSet g.rules p m⟩
  · intro later i
    have hext := (hg.afterAll later).2
    constructor
    · intro b hb
      exact ending_of_acceptsEmpty ((hg.1.acceptsEmpty i b hb).extend hext)
    · intro s hs
      exact ending_of_firstSet ((hg.1.firstSet i s hs).extend hext)

end Grammar

end PredictiveParsing
