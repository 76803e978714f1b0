import PredictiveParsing.Proofs.Memory

/-!
# Any two memories answer alike

What has been asked before makes no difference to a question about the grammar: two sound
memories with the same questions being worked out give the same answer, or stop with the
same misuse, and stay so (`askAcceptsEmpty_alike`, `askFirstSet_alike`).

A rule that has an answer gives it from either memory, remembered or not. A rule that has
none is remembered by neither, so both work it out in the same steps. This needs that the
questions being worked out have no answers themselves, which holds of a rule that is met
again on the way to its own answer.
-/

namespace PredictiveParsing

variable {σ : Type} {ρ : Nat → Type} {α β : Type}

namespace Memory

variable [BEq σ] {rules : Rules σ ρ} {path : List (Property × Nat)} {F : Misuse → Prop}

def Alike (rules : Rules σ ρ) (path : List (Property × Nat)) (m₁ m₂ : Memory σ) : Prop :=
  Working rules path m₁ ∧ Working rules path m₂

/-- An inquiry that has its answer from every sound memory. -/
theorem Alike.of_answer {q : Inquiry (Memory σ) β} {b : β}
    (h : ∀ m, Working rules path m → ∃ m', q m = .ok b m' ∧ Working rules path m') :
    Simulates (Alike rules path) F q q Eq := by
  rintro m₁ m₂ ⟨hm₁, hm₂⟩
  obtain ⟨m₁', h₁, hm₁'⟩ := h m₁ hm₁
  obtain ⟨m₂', h₂, hm₂'⟩ := h m₂ hm₂
  rw [h₁]
  exact ⟨b, m₂', h₂, rfl, hm₁', hm₂'⟩

/-- A question without an answer stops in the same way from both memories. -/
theorem consult_alike {question : Property × Nat} {known? : Memory σ → Option β}
    {remember : β → Memory σ → Memory σ} {compute : Inquiry (Memory σ) β}
    (hknown : ∀ m, m.Sound rules → known? m = none)
    (hnone : ∀ m, Working rules (question :: path) m → ∀ a m', compute m ≠ .ok a m')
    (hcompute : question ∉ path →
      Simulates (Alike rules (question :: path)) F compute compute Eq) :
    Simulates (Alike rules path) F (consult question known? remember compute)
      (consult question known? remember compute) Eq := by
  rintro m₁ m₂ ⟨hm₁, hm₂⟩
  unfold consult
  rw [hknown m₁ hm₁.1, hknown m₂ hm₂.1, hm₁.2, hm₂.2]
  dsimp only
  cases hpath : path.contains question with
  | true => exact .inr ⟨m₂, rfl, hm₁, hm₂⟩
  | false =>
      have hfresh : question ∉ path := by simpa using hpath
      have hc := hcompute hfresh _ _ ⟨hm₁.start question, hm₂.start question⟩
      have hno := hnone _ (hm₁.start question)
      rw [hm₁.2, hm₂.2] at hc
      rw [hm₁.2] at hno
      rw [if_neg Bool.false_ne_true, if_neg Bool.false_ne_true]
      cases hr : compute { m₁ with inProgress := question :: path } with
      | ok a m₁' => exact absurd hr (hno a m₁')
      | error e m₁' =>
          rw [hr] at hc
          rcases hc with hF | ⟨m₂', hr₂, hm₁', hm₂'⟩
          · exact .inl hF
          · rw [hr₂]
            exact .inr ⟨_, rfl, hm₁'.finish, hm₂'.finish⟩

theorem consult_throw_alike {question : Property × Nat} {known? : Memory σ → Option β}
    {remember : β → Memory σ → Memory σ} {misuse : Misuse}
    (hknown : ∀ m, m.Sound rules → known? m = none) :
    Simulates (Alike rules path) F (consult question known? remember (throw misuse))
      (consult question known? remember (throw misuse)) Eq :=
  consult_alike hknown (fun _ _ _ _ => nofun) fun _ => Simulates.throw misuse

/-- A rule without an answer can be put on a path of such rules. -/
theorem not_mem_cons_of_no_answer {ask : Nat → Inquiry Unit β} {property : Property} {i : Nat}
    (hpath : ∀ j b, ask j () = .ok b () → (property, j) ∉ path)
    (hi : ¬∃ b, ask i () = .ok b ()) (j : Nat) (b : β) (hj : ask j () = .ok b ()) :
    (property, j) ∉ (property, i) :: path := by
  intro hmem
  rcases List.mem_cons.mp hmem with heq | hmem
  · cases heq
    exact hi ⟨b, hj⟩
  · exact hpath j b hj hmem

omit [BEq σ] in
/-- One rule more on the path leaves a depth that is one smaller. -/
theorem card_openRules_cons_le {property : Property} {i depth : Nat} {body : Parser σ ρ (ρ i)}
    (hbody : rules.body? i = some body) (hi : (property, i) ∉ path)
    (hdepth : (openRules property rules.size path).card ≤ depth + 1) :
    (openRules property rules.size ((property, i) :: path)).card ≤ depth := by
  have hopen : i ∈ openRules property rules.size path :=
    mem_openRules.mpr ⟨Rules.lt_size_of_body? hbody, hi⟩
  have hlt := card_openRules_cons_lt hopen
  omega

theorem ruleAcceptsEmpty_alike (depth i : Nat) (path : List (Property × Nat))
    (hpath : ∀ j b, rules.emptyWithin rules.size j () = .ok b () → (.acceptsEmpty, j) ∉ path)
    (hdepth : (openRules .acceptsEmpty rules.size path).card ≤ depth) :
    Simulates (Alike rules path) F (ruleAcceptsEmpty rules depth i)
      (ruleAcceptsEmpty rules depth i) Eq := by
  induction depth using Nat.strong_induction_on generalizing i path with
  | _ depth ih =>
      by_cases hi : ∃ b, rules.emptyWithin rules.size i () = .ok b ()
      · obtain ⟨b, hb⟩ := hi
        refine Alike.of_answer (b := b) ?_
        intro m hm
        obtain ⟨_, m', hask, rfl, hm'⟩ :=
          (ruleAcceptsEmpty_complete _ i depth path hpath hdepth).of_ok m hm hb
        exact ⟨m', hask, hm'⟩
      · have hknown : ∀ m : Memory σ, m.Sound rules → m.acceptsEmpty.lookup i = none :=
          fun m hm => Option.eq_none_iff_forall_ne_some.mpr
            fun b hb => hi ⟨b, hm.acceptsEmpty i b hb⟩
        unfold ruleAcceptsEmpty
        cases hp : rules.body? i with
        | none => exact consult_throw_alike hknown
        | some p =>
            cases depth with
            | zero => exact consult_throw_alike hknown
            | succ depth =>
                refine consult_alike hknown ?_ fun hfresh => p.acceptsEmpty_simulates fun j =>
                  ih depth (Nat.lt_succ_self depth) j _ (not_mem_cons_of_no_answer hpath hi)
                    (card_openRules_cons_le hp hfresh hdepth)
                intro m hm b m' hrun
                obtain ⟨_, _, hb, rfl, _⟩ := (p.acceptsEmpty_simulates fun j =>
                  ruleAcceptsEmpty_sound depth j _).of_ok () hm hrun
                exact hi ⟨b, Rules.acceptsEmpty_rule.mpr ⟨p, hp, hb⟩⟩

theorem ruleFirstSet_alike (depth i : Nat) (path : List (Property × Nat))
    (hempty : ∀ j, (.acceptsEmpty, j) ∉ path)
    (hpath : ∀ j s, rules.firstWithin rules.size j () = .ok s () → (.firstSet, j) ∉ path)
    (hdepth : (openRules .firstSet rules.size path).card ≤ depth) :
    Simulates (Alike rules path) F (ruleFirstSet rules depth i)
      (ruleFirstSet rules depth i) Eq := by
  induction depth using Nat.strong_induction_on generalizing i path with
  | _ depth ih =>
      by_cases hi : ∃ s, rules.firstWithin rules.size i () = .ok s ()
      · obtain ⟨s, hs⟩ := hi
        refine Alike.of_answer (b := s) ?_
        intro m hm
        obtain ⟨_, m', hask, rfl, hm'⟩ :=
          (ruleFirstSet_complete _ i depth path hempty hpath hdepth).of_ok m hm hs
        exact ⟨m', hask, hm'⟩
      · have hknown : ∀ m : Memory σ, m.Sound rules → m.firstSet.lookup i = none :=
          fun m hm => Option.eq_none_iff_forall_ne_some.mpr
            fun s hs => hi ⟨s, hm.firstSet i s hs⟩
        -- The questions about empty input that come up on the way are new ones.
        have hempty' : ∀ j, (.acceptsEmpty, j) ∉ (Property.firstSet, i) :: path := by
          intro j hmem
          rcases List.mem_cons.mp hmem with heq | hmem
          · cases heq
          · exact hempty j hmem
        unfold ruleFirstSet
        cases hp : rules.body? i with
        | none => exact consult_throw_alike hknown
        | some p =>
            cases depth with
            | zero => exact consult_throw_alike hknown
            | succ depth =>
                refine consult_alike hknown ?_ fun hfresh => p.firstSet_simulates
                  (fun j => ruleAcceptsEmpty_alike _ j _ (fun k _ _ => hempty' k)
                    (card_openRules_le _ _ _))
                  fun j => ih depth (Nat.lt_succ_self depth) j _ hempty'
                    (not_mem_cons_of_no_answer hpath hi) (card_openRules_cons_le hp hfresh hdepth)
                intro m hm s m' hrun
                obtain ⟨_, _, hs, rfl, _⟩ := (p.firstSet_simulates
                  (fun j => ruleAcceptsEmpty_sound _ j _)
                  fun j => ruleFirstSet_sound depth j _).of_ok () hm hrun
                exact hi ⟨s, Rules.firstSet_rule.mpr ⟨p, hp, hs⟩⟩

/-! ### Asking a parser -/

/-- Whatever has been asked before, a question has one answer or stops with one misuse. -/
theorem askAcceptsEmpty_alike (rules : Rules σ ρ) (p : Parser σ ρ α) :
    Simulates (Alike rules []) F (askAcceptsEmpty rules p) (askAcceptsEmpty rules p) Eq :=
  p.acceptsEmpty_simulates fun i =>
    ruleAcceptsEmpty_alike _ i [] (fun _ _ _ => nofun) (card_openRules_le _ _ _)

theorem askFirstSet_alike (rules : Rules σ ρ) (p : Parser σ ρ α) :
    Simulates (Alike rules []) F (askFirstSet rules p) (askFirstSet rules p) Eq :=
  p.firstSet_simulates
    (fun i => ruleAcceptsEmpty_alike _ i [] (fun _ _ _ => nofun) (card_openRules_le _ _ _))
    fun i => ruleFirstSet_alike _ i [] (fun _ => nofun) (fun _ _ _ => nofun)
      (card_openRules_le _ _ _)

end Memory

end PredictiveParsing
