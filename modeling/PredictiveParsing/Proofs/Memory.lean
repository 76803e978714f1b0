import PredictiveParsing.Proofs.Answers

/-!
# Remembered answers are the answers

A memory is sound when what it remembers of a rule is what the rule says without a
memory. Asking a question keeps a memory sound and leaves the list of questions being
worked out as it was, and the answers it gives are those without a memory
(`askAcceptsEmpty_sound`, `askFirstSet_sound`). In the other direction, a memory in which
nothing is being worked out gives every answer there is (`askAcceptsEmpty_complete`,
`askFirstSet_complete`): a rule that is met while it is being worked out has no answer,
since its answer would need a chain of rules longer than itself.
-/

namespace PredictiveParsing

variable {σ : Type} {ρ : Nat → Type} {α β κ : Type}

theorem Simulates.le_right {R : κ → Unit → Prop} {m : Inquiry κ β} {q r : Inquiry Unit β}
    (h : Simulates R (fun _ => True) m q Eq) (hqr : q.Le r) :
    Simulates R (fun _ => True) m r Eq := by
  intro st _ hR
  cases hm : m st with
  | error e st' => exact .inl trivial
  | ok b st' =>
      obtain ⟨c, _, hq, rfl, hR'⟩ := h.of_ok () hR hm
      exact ⟨b, (), hqr b hq, rfl, hR'⟩

theorem Simulates.le_left {R : Unit → κ → Prop} {m : Inquiry κ β} {q r : Inquiry Unit β}
    (h : Simulates R (fun _ => True) r m Eq) (hqr : q.Le r) :
    Simulates R (fun _ => True) q m Eq := by
  intro _ st hR
  cases hq : q () with
  | error e _ => exact .inl trivial
  | ok b _ => exact h.of_ok st hR (hqr b hq)

theorem Simulates.of_no_answer {R : Unit → κ → Prop} {m : Inquiry κ β} {q : Inquiry Unit β}
    (h : ∀ b, q () ≠ .ok b ()) : Simulates R (fun _ => True) q m Eq := by
  intro _ st _
  cases hq : q () with
  | error e _ => exact .inl trivial
  | ok b _ => exact absurd hq (h b)

instance : LawfulBEq Property where
  rfl := by rintro ⟨⟩ <;> rfl
  eq_of_beq := by
    rintro ⟨⟩ ⟨⟩ h
    · rfl
    · cases h
    · cases h
    · rfl

namespace Memory

variable [BEq σ] {rules : Rules σ ρ}

structure Sound (rules : Rules σ ρ) (m : Memory σ) : Prop where
  acceptsEmpty : ∀ i b, m.acceptsEmpty.lookup i = some b → rules.AcceptsEmpty (.rule i) b
  firstSet : ∀ i s, m.firstSet.lookup i = some s → rules.FirstSet (.rule i) s

theorem sound_empty : Sound rules ({} : Memory σ) := ⟨nofun, nofun⟩

def Working (rules : Rules σ ρ) (path : List (Property × Nat)) (m : Memory σ) : Prop :=
  m.Sound rules ∧ m.inProgress = path

theorem Working.start {path : List (Property × Nat)} {m : Memory σ} (h : Working rules path m)
    (question : Property × Nat) :
    Working rules (question :: path) { m with inProgress := question :: m.inProgress } :=
  ⟨⟨h.1.acceptsEmpty, h.1.firstSet⟩, by rw [h.2]⟩

theorem Working.finish {path : List (Property × Nat)} {question : Property × Nat} {m : Memory σ}
    (h : Working rules (question :: path) m) : Working rules path (m.finish question) := by
  refine ⟨⟨h.1.acceptsEmpty, h.1.firstSet⟩, ?_⟩
  rw [Memory.finish, h.2, List.erase_cons_head]

theorem Sound.remember_acceptsEmpty {m : Memory σ} (h : m.Sound rules) {i : Nat} {b : Bool}
    (hb : rules.AcceptsEmpty (.rule i) b) :
    Sound rules { m with acceptsEmpty := (i, b) :: m.acceptsEmpty } := by
  refine ⟨?_, h.firstSet⟩
  intro j c hc
  rw [List.lookup_cons] at hc
  by_cases hj : j = i
  · subst hj
    simp only [beq_self_eq_true, Option.some.injEq] at hc
    exact hc ▸ hb
  · rw [beq_eq_false_iff_ne.mpr hj] at hc
    exact h.acceptsEmpty j c hc

theorem Sound.remember_firstSet {m : Memory σ} (h : m.Sound rules) {i : Nat} {s : SymbolSet σ}
    (hs : rules.FirstSet (.rule i) s) :
    Sound rules { m with firstSet := (i, s) :: m.firstSet } := by
  refine ⟨h.acceptsEmpty, ?_⟩
  intro j t ht
  rw [List.lookup_cons] at ht
  by_cases hj : j = i
  · subst hj
    simp only [beq_self_eq_true, Option.some.injEq] at ht
    exact ht ▸ hs
  · rw [beq_eq_false_iff_ne.mpr hj] at ht
    exact h.firstSet j t ht

/-! ### Consulting the memory -/

section Consult

variable {question : Property × Nat} {known? : Memory σ → Option β}
  {remember : β → Memory σ → Memory σ} {compute : Inquiry (Memory σ) β}
  {answer : Inquiry Unit β} {path : List (Property × Nat)}

/-- If what is known and what is computed are the answer, the memory gives the answer. -/
theorem consult_sound
    (hknown : ∀ m a, m.Sound rules → known? m = some a → answer () = .ok a ())
    (hremember : ∀ m a, Working rules path m → answer () = .ok a () →
      Working rules path (remember a m))
    (hcompute : Simulates (fun m _ => Working rules (question :: path) m) (fun _ => True)
      compute answer Eq) :
    Simulates (fun m _ => Working rules path m) (fun _ => True)
      (consult question known? remember compute) answer Eq := by
  intro m _ hm
  unfold consult
  cases hk : known? m with
  | some a => exact ⟨a, (), hknown m a hm.1 hk, rfl, hm⟩
  | none =>
      cases hq : m.inProgress.contains question with
      | true => exact .inl trivial
      | false =>
        have hc := hcompute _ () (hm.start question)
        dsimp only
        rw [if_neg Bool.false_ne_true]
        cases hr : compute { m with inProgress := question :: m.inProgress } with
        | ok a m' =>
            rw [hr] at hc
            obtain ⟨_, _, ha, rfl, hm'⟩ := hc
            exact ⟨a, (), ha, rfl, hremember _ a hm'.finish ha⟩
        | error e m' => exact .inl trivial

/-- If the question is not being worked out whenever there is an answer, and computing it then
finds the answer, so does the memory. -/
theorem consult_complete
    (hknown : ∀ m a b, m.Sound rules → known? m = some a → answer () = .ok b () → b = a)
    (hremember : ∀ m a, Working rules path m → answer () = .ok a () →
      Working rules path (remember a m))
    (hfresh : ∀ a, answer () = .ok a () → question ∉ path)
    (hcompute : Simulates (fun _ m => Working rules (question :: path) m) (fun _ => True)
      answer compute Eq) :
    Simulates (fun _ m => Working rules path m) (fun _ => True) answer
      (consult question known? remember compute) Eq := by
  intro _ m hm
  cases ha : answer () with
  | error e _ => exact .inl trivial
  | ok b _ =>
      unfold consult
      cases hk : known? m with
      | some a => exact ⟨a, m, rfl, hknown m a b hm.1 hk ha, hm⟩
      | none =>
          have hq : m.inProgress.contains question = false := by
            rw [hm.2]
            simpa using hfresh b ha
          obtain ⟨a, m', hr, rfl, hm'⟩ := hcompute.of_ok _ (hm.start question) ha
          dsimp only
          rw [hq, hr]
          exact ⟨b, _, rfl, rfl, hremember _ b hm'.finish ha⟩

end Consult

/-! ### The memory gives nothing but the answers -/

theorem ruleAcceptsEmpty_sound (depth i : Nat) (path : List (Property × Nat)) :
    Simulates (fun m _ => Working rules path m) (fun _ => True)
      (ruleAcceptsEmpty rules depth i) (rules.emptyWithin rules.size i) Eq := by
  induction depth generalizing i path with
  | zero =>
      unfold ruleAcceptsEmpty
      refine consult_sound (fun m b hm => hm.acceptsEmpty i b)
        (fun m b hm hb => ⟨hm.1.remember_acceptsEmpty hb, hm.2⟩) ?_
      cases rules.body? i with
      | none => exact Simulates.throw_excused trivial
      | some p => exact Simulates.throw_excused trivial
  | succ depth ih =>
      unfold ruleAcceptsEmpty
      refine consult_sound (fun m b hm => hm.acceptsEmpty i b)
        (fun m b hm hb => ⟨hm.1.remember_acceptsEmpty hb, hm.2⟩) ?_
      cases hp : rules.body? i with
      | none => exact Simulates.throw_excused trivial
      | some p =>
          refine (p.acceptsEmpty_simulates fun j => ih j _).le_right ?_
          intro b hb
          exact Rules.acceptsEmpty_rule.mpr ⟨p, hp, hb⟩

theorem ruleFirstSet_sound (depth i : Nat) (path : List (Property × Nat)) :
    Simulates (fun m _ => Working rules path m) (fun _ => True)
      (ruleFirstSet rules depth i) (rules.firstWithin rules.size i) Eq := by
  induction depth generalizing i path with
  | zero =>
      unfold ruleFirstSet
      refine consult_sound (fun m s hm => hm.firstSet i s)
        (fun m s hm hs => ⟨hm.1.remember_firstSet hs, hm.2⟩) ?_
      cases rules.body? i with
      | none => exact Simulates.throw_excused trivial
      | some p => exact Simulates.throw_excused trivial
  | succ depth ih =>
      unfold ruleFirstSet
      refine consult_sound (fun m s hm => hm.firstSet i s)
        (fun m s hm hs => ⟨hm.1.remember_firstSet hs, hm.2⟩) ?_
      cases hp : rules.body? i with
      | none => exact Simulates.throw_excused trivial
      | some p =>
          refine (p.firstSet_simulates (fun j => ruleAcceptsEmpty_sound _ j _)
            fun j => ih j _).le_right ?_
          intro s hs
          exact Rules.firstSet_rule.mpr ⟨p, hp, hs⟩

/-! ### The memory gives every answer -/

def openRules (property : Property) (size : Nat) (path : List (Property × Nat)) : Finset Nat :=
  (Finset.range size).filter fun j => (property, j) ∉ path

theorem mem_openRules {property : Property} {size j : Nat} {path : List (Property × Nat)} :
    j ∈ openRules property size path ↔ j < size ∧ (property, j) ∉ path := by
  rw [openRules, Finset.mem_filter, Finset.mem_range]

theorem card_openRules_le (property : Property) (size : Nat) (path : List (Property × Nat)) :
    (openRules property size path).card ≤ size :=
  (Finset.card_filter_le _ _).trans (Finset.card_range size).le

theorem card_openRules_cons_lt {property : Property} {size i : Nat}
    {path : List (Property × Nat)} (hi : i ∈ openRules property size path) :
    (openRules property size ((property, i) :: path)).card <
      (openRules property size path).card := by
  refine Finset.card_lt_card ?_
  rw [Finset.ssubset_iff_of_subset]
  · refine ⟨i, hi, ?_⟩
    rw [mem_openRules]
    exact fun h => h.2 List.mem_cons_self
  · intro j hj
    rw [mem_openRules] at hj ⊢
    exact ⟨hj.1, fun h => hj.2 (List.mem_cons_of_mem _ h)⟩

section Complete

variable {ask : Nat → Nat → Inquiry Unit β} {memo : Nat → Nat → Inquiry (Memory σ) β}
  {property : Property}

/-- A memory in which none of the rules with an answer is being worked out gives the answers,
if each rule gives its own once the rules it needs do. The induction is on the length of the
chain that the answer needs: a rule that needs the full length is not met again on it. -/
theorem rule_complete (good : List (Property × Nat) → Prop) (h0 : ∀ i b, ask 0 i () ≠ .ok b ())
    (hle : ∀ d i, (ask d i).Le (ask (d + 1) i))
    (hsize : ∀ d i b, ask d i () = .ok b () → i < rules.size)
    (hgood : ∀ path i, good path → good ((property, i) :: path))
    (hstep : ∀ d i depth path, good path → (∀ b, ask (d + 1) i () = .ok b () →
      (property, i) ∉ path) →
      (∀ j, Simulates (fun _ m => Working rules ((property, i) :: path) m) (fun _ => True)
        (ask d j) (memo depth j) Eq) →
      Simulates (fun _ m => Working rules path m) (fun _ => True) (ask (d + 1) i)
        (memo (depth + 1) i) Eq)
    (d i depth : Nat) (path : List (Property × Nat)) (hp : good path)
    (hpath : ∀ j b, ask d j () = .ok b () → (property, j) ∉ path)
    (hdepth : (openRules property rules.size path).card ≤ depth) :
    Simulates (fun _ m => Working rules path m) (fun _ => True) (ask d i) (memo depth i) Eq := by
  induction d generalizing i depth path with
  | zero => exact Simulates.of_no_answer (h0 i)
  | succ d ih =>
      by_cases hd : ∃ b, ask d i () = .ok b ()
      · obtain ⟨b, hb⟩ := hd
        refine (ih i depth path hp (fun j c hc => hpath j c (hle d j c hc)) hdepth).le_left ?_
        intro c hc
        rw [hle d i b hb] at hc
        cases hc
        exact hb
      · by_cases hans : ∃ b, ask (d + 1) i () = .ok b ()
        · obtain ⟨b, hb⟩ := hans
          have hopen : i ∈ openRules property rules.size path :=
            mem_openRules.mpr ⟨hsize _ i b hb, hpath i b hb⟩
          have hlt := card_openRules_cons_lt hopen
          obtain ⟨depth, rfl⟩ : ∃ n, depth = n + 1 := ⟨depth - 1, by omega⟩
          refine hstep d i depth path hp (hpath i) fun j => ih j depth _ (hgood path i hp) ?_ ?_
          · intro j c hc hmem
            rcases List.mem_cons.mp hmem with heq | hmem
            · cases heq
              exact hd ⟨c, hc⟩
            · exact hpath j c (hle d j c hc) hmem
          · omega
        · exact Simulates.of_no_answer fun b hb => hans ⟨b, hb⟩

end Complete

theorem ruleAcceptsEmpty_complete (d i depth : Nat) (path : List (Property × Nat))
    (hpath : ∀ j b, rules.emptyWithin d j () = .ok b () → (.acceptsEmpty, j) ∉ path)
    (hdepth : (openRules .acceptsEmpty rules.size path).card ≤ depth) :
    Simulates (fun _ m => Working rules path m) (fun _ => True)
      (rules.emptyWithin d i) (ruleAcceptsEmpty rules depth i) Eq := by
  refine rule_complete (fun _ => True) Rules.emptyWithin_zero
    (Chain.le_succ Rules.emptyWithin_zero fun _ _ => Rules.emptyWithin_step)
    (fun _ _ _ => Rules.lt_size_of_emptyWithin) (fun _ _ h => h) ?_ d i depth path trivial
    hpath hdepth
  intro d i depth path _ hfresh hrules
  have hsize := Rules.emptyWithin_le_size rules (d + 1) i
  unfold ruleAcceptsEmpty
  refine consult_complete ?_ ?_ hfresh ?_
  · intro m a b hm ha hb
    have hans : rules.AcceptsEmpty (.rule i) b := hsize b hb
    exact hans.unique (hm.acceptsEmpty i a ha)
  · intro m b hm hb
    exact ⟨hm.1.remember_acceptsEmpty (hsize b hb), hm.2⟩
  · rw [Rules.emptyWithin]
    cases rules.body? i with
    | none => exact Simulates.throw_excused trivial
    | some p => exact p.acceptsEmpty_simulates hrules

theorem ruleFirstSet_complete (d i depth : Nat) (path : List (Property × Nat))
    (hempty : ∀ j, (.acceptsEmpty, j) ∉ path)
    (hpath : ∀ j b, rules.firstWithin d j () = .ok b () → (.firstSet, j) ∉ path)
    (hdepth : (openRules .firstSet rules.size path).card ≤ depth) :
    Simulates (fun _ m => Working rules path m) (fun _ => True)
      (rules.firstWithin d i) (ruleFirstSet rules depth i) Eq := by
  refine rule_complete (fun path => ∀ j, (.acceptsEmpty, j) ∉ path)
    Rules.firstWithin_zero
    (Chain.le_succ Rules.firstWithin_zero fun _ _ => Rules.firstWithin_step)
    (fun _ _ _ => Rules.lt_size_of_firstWithin) ?_ ?_ d i depth path hempty hpath hdepth
  · intro path i hgood j hmem
    rcases List.mem_cons.mp hmem with heq | hmem
    · cases heq
    · exact hgood j hmem
  · intro d i depth path hgood hfresh hrules
    have hsize := Rules.firstWithin_le_size rules (d + 1) i
    unfold ruleFirstSet
    refine consult_complete ?_ ?_ hfresh ?_
    · intro m a b hm ha hb
      have hans : rules.FirstSet (.rule i) b := hsize b hb
      exact hans.unique (hm.firstSet i a ha)
    · intro m b hm hb
      exact ⟨hm.1.remember_firstSet (hsize b hb), hm.2⟩
    · rw [Rules.firstWithin]
      cases rules.body? i with
      | none => exact Simulates.throw_excused trivial
      | some p =>
          refine p.firstSet_simulates (fun j => ?_) hrules
          refine ruleAcceptsEmpty_complete _ j _ _ ?_ (card_openRules_le _ _ _)
          intro k b _ hmem
          rcases List.mem_cons.mp hmem with heq | hmem
          · cases heq
          · exact hgood k hmem

/-! ### Asking a parser -/

variable {p : Parser σ ρ α}

/-- Asking leaves a sound memory sound, and an answer is the one without a memory. -/
theorem askAcceptsEmpty_sound (rules : Rules σ ρ) (p : Parser σ ρ α)
    (path : List (Property × Nat)) :
    Simulates (fun m _ => Working rules path m) (fun _ => True)
      (askAcceptsEmpty rules p) (p.acceptsEmpty (rules.emptyWithin rules.size)) Eq :=
  p.acceptsEmpty_simulates fun i => ruleAcceptsEmpty_sound _ i path

theorem askFirstSet_sound (rules : Rules σ ρ) (p : Parser σ ρ α)
    (path : List (Property × Nat)) :
    Simulates (fun m _ => Working rules path m) (fun _ => True)
      (askFirstSet rules p) (p.firstSet (rules.emptyWithin rules.size)
        (rules.firstWithin rules.size)) Eq :=
  p.firstSet_simulates (fun i => ruleAcceptsEmpty_sound _ i path)
    fun i => ruleFirstSet_sound _ i path

theorem askAcceptsEmpty_complete (rules : Rules σ ρ) (p : Parser σ ρ α) :
    Simulates (fun _ m => Working rules [] m) (fun _ => True)
      (p.acceptsEmpty (rules.emptyWithin rules.size)) (askAcceptsEmpty rules p) Eq :=
  p.acceptsEmpty_simulates fun i =>
    ruleAcceptsEmpty_complete _ i _ [] (fun _ _ _ => nofun) (card_openRules_le _ _ _)

theorem askFirstSet_complete (rules : Rules σ ρ) (p : Parser σ ρ α) :
    Simulates (fun _ m => Working rules [] m) (fun _ => True)
      (p.firstSet (rules.emptyWithin rules.size) (rules.firstWithin rules.size))
      (askFirstSet rules p) Eq :=
  p.firstSet_simulates
    (fun i => ruleAcceptsEmpty_complete _ i _ [] (fun _ _ _ => nofun) (card_openRules_le _ _ _))
    fun i => ruleFirstSet_complete _ i _ [] (fun _ => nofun) (fun _ _ _ => nofun)
      (card_openRules_le _ _ _)

/-- From a sound memory, asking finds what the parser says of itself. -/
theorem acceptsEmpty_of_ask {m m' : Memory σ} {b : Bool} (hm : m.Sound rules)
    (h : askAcceptsEmpty rules p m = .ok b m') : rules.AcceptsEmpty p b := by
  obtain ⟨c, _, hc, rfl, _⟩ :=
    (askAcceptsEmpty_sound rules p m.inProgress).of_ok () ⟨hm, rfl⟩ h
  exact hc

theorem firstSet_of_ask {m m' : Memory σ} {s : SymbolSet σ} (hm : m.Sound rules)
    (h : askFirstSet rules p m = .ok s m') : rules.FirstSet p s := by
  obtain ⟨c, _, hc, rfl, _⟩ :=
    (askFirstSet_sound rules p m.inProgress).of_ok () ⟨hm, rfl⟩ h
  exact hc

theorem ask_of_acceptsEmpty {m : Memory σ} {b : Bool} (hm : Working rules [] m)
    (h : rules.AcceptsEmpty p b) :
    ∃ m', askAcceptsEmpty rules p m = .ok b m' ∧ Working rules [] m' := by
  obtain ⟨c, m', hask, rfl, hm'⟩ := (askAcceptsEmpty_complete rules p).of_ok m hm h
  exact ⟨m', hask, hm'⟩

theorem ask_of_firstSet {m : Memory σ} {s : SymbolSet σ} (hm : Working rules [] m)
    (h : rules.FirstSet p s) :
    ∃ m', askFirstSet rules p m = .ok s m' ∧ Working rules [] m' := by
  obtain ⟨c, m', hask, rfl, hm'⟩ := (askFirstSet_complete rules p).of_ok m hm h
  exact ⟨m', hask, hm'⟩

end Memory

namespace Rules

variable {rules : Rules σ ρ} {p : Parser σ ρ α}

/-- Asked afresh, the parser does not say that it accepts empty input. -/
def NeedsSymbol (rules : Rules σ ρ) (p : Parser σ ρ α) : Prop :=
  ∀ m, Memory.askAcceptsEmpty rules p {} ≠ .ok true m

theorem NeedsSymbol.not_acceptsEmpty [BEq σ] (h : rules.NeedsSymbol p) :
    ¬rules.AcceptsEmpty p true := by
  intro htrue
  obtain ⟨m, hm, _⟩ := Memory.ask_of_acceptsEmpty ⟨Memory.sound_empty, rfl⟩ htrue
  exact h m hm

end Rules

end PredictiveParsing
