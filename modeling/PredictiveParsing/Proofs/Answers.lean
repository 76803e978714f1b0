import PredictiveParsing.Proofs.Act
import Mathlib.Data.Finset.Card
import Mathlib.Data.Finset.Range
import Mathlib.Order.Monotone.Basic

/-!
# Answers without a memory

What a parser says about itself is a function of the grammar: the formulas of the
combinators, with the answer of a rule worked out anew each time it is needed.
`emptyWithin` and `firstWithin` do so through a chain of rules of bounded length, and
`AcceptsEmpty` and `FirstSet` are the answers within as many rules as there are.

A longer chain gives the same answers and perhaps more of them. Since an answer that
needs a chain of some length needs one of every smaller length for another rule, no
answer needs a longer chain than there are rules: a rule says of itself exactly what its
body says (`acceptsEmpty_rule`, `firstSet_rule`).
-/

namespace PredictiveParsing

variable {σ : Type} {ρ : Nat → Type} {α β κ₁ κ₂ : Type}

namespace Parser

theorem acceptsEmpty_sequence {κ : Type} (rule : Nat → Inquiry κ Bool) {n : Nat}
    (ps : Fin n → Parser σ ρ α) :
    (sequence ps).acceptsEmpty rule =
      Inquiry.all ((List.ofFn ps).map fun p => p.acceptsEmpty rule) := by
  rw [List.map_ofFn]
  rfl

theorem acceptsEmpty_times {κ : Type} (rule : Nat → Inquiry κ Bool) (min max : Nat)
    (p : Parser σ ρ α) :
    (times min max p).acceptsEmpty rule =
      if min = 0 then return true else p.acceptsEmpty rule := rfl

theorem firstSet_sequence [BEq σ] {κ : Type} (ruleEmpty : Nat → Inquiry κ Bool)
    (rule : Nat → Inquiry κ (SymbolSet σ)) {n : Nat} (ps : Fin n → Parser σ ρ α) :
    (sequence ps).firstSet ruleEmpty rule =
      Inquiry.unionUpToNonempty .empty ((List.ofFn ps).map fun p =>
        (p.firstSet ruleEmpty rule, p.acceptsEmpty ruleEmpty)) := by
  rw [List.map_ofFn]
  rfl

theorem firstSet_times [BEq σ] {κ : Type} (ruleEmpty : Nat → Inquiry κ Bool)
    (rule : Nat → Inquiry κ (SymbolSet σ)) (min max : Nat) (p : Parser σ ρ α) :
    (times min max p).firstSet ruleEmpty rule =
      if max = 0 then return .empty else p.firstSet ruleEmpty rule := rfl

end Parser

/-! ### The formulas under related answers of rules -/

section Related

variable {R : κ₁ → κ₂ → Prop} {F : Misuse → Prop}

theorem Inquiry.all_simulates {γ : Type 1} {f : γ → Inquiry κ₁ Bool} {g : γ → Inquiry κ₂ Bool}
    (cs : List γ) (h : ∀ c ∈ cs, Simulates R F (f c) (g c) Eq) :
    Simulates R F (Inquiry.all (cs.map f)) (Inquiry.all (cs.map g)) Eq := by
  induction cs with
  | nil => exact Simulates.pure rfl
  | cons c cs ih =>
      rw [List.forall_mem_cons] at h
      refine h.1.bind ?_
      rintro b _ rfl
      cases b with
      | true => exact ih h.2
      | false => exact Simulates.pure rfl

theorem Inquiry.unionUpToNonempty_simulates {γ : Type 1}
    {f : γ → Inquiry κ₁ (SymbolSet σ) × Inquiry κ₁ Bool}
    {g : γ → Inquiry κ₂ (SymbolSet σ) × Inquiry κ₂ Bool} (cs : List γ) (acc : SymbolSet σ)
    (h : ∀ c ∈ cs, Simulates R F (f c).1 (g c).1 Eq ∧ Simulates R F (f c).2 (g c).2 Eq) :
    Simulates R F (Inquiry.unionUpToNonempty acc (cs.map f))
      (Inquiry.unionUpToNonempty acc (cs.map g)) Eq := by
  induction cs generalizing acc with
  | nil => exact Simulates.pure rfl
  | cons c cs ih =>
      rw [List.forall_mem_cons] at h
      refine h.1.1.bind ?_
      rintro set _ rfl
      refine h.1.2.bind ?_
      rintro b _ rfl
      cases b with
      | true => exact ih _ h.2
      | false => exact Simulates.pure rfl

namespace Parser

/-- Rules that answer alike make every parser answer alike. -/
theorem acceptsEmpty_simulates {r₁ : Nat → Inquiry κ₁ Bool} {r₂ : Nat → Inquiry κ₂ Bool}
    (h : ∀ i, Simulates R F (r₁ i) (r₂ i) Eq) (p : Parser σ ρ α) :
    Simulates R F (p.acceptsEmpty r₁) (p.acceptsEmpty r₂) Eq := by
  induction p with
  | pure | fail | eof | satisfy | literal | longest | lookahead | not | optional | many
  | skipMany | declared => exact Simulates.pure rfl
  | map _ _ ih | tryMap _ _ ih | flatMap _ _ ih | label _ _ ih | many1 _ ih | manyTill _ _ _ ih
  | chain _ _ _ ih | recording _ _ ih => exact ih
  | and p q ihp ihq =>
      refine ihp.bind ?_
      rintro b _ rfl
      cases b with
      | true => exact ihq
      | false => exact Simulates.pure rfl
  | or p q ihp ihq =>
      refine ihp.bind ?_
      rintro b _ rfl
      cases b with
      | true => exact Simulates.pure rfl
      | false => exact ihq
  | sequence ps ih =>
      rw [acceptsEmpty_sequence, acceptsEmpty_sequence]
      refine Inquiry.all_simulates _ ?_
      rintro _ hp
      obtain ⟨i, rfl⟩ := List.mem_ofFn.mp hp
      exact ih i
  | times min max p ih =>
      rw [acceptsEmpty_times, acceptsEmpty_times]
      split
      · exact Simulates.pure rfl
      · exact ih
  | rule i => exact h i

theorem firstSet_simulates [BEq σ] {e₁ : Nat → Inquiry κ₁ Bool} {e₂ : Nat → Inquiry κ₂ Bool}
    {r₁ : Nat → Inquiry κ₁ (SymbolSet σ)} {r₂ : Nat → Inquiry κ₂ (SymbolSet σ)}
    (he : ∀ i, Simulates R F (e₁ i) (e₂ i) Eq) (h : ∀ i, Simulates R F (r₁ i) (r₂ i) Eq)
    (p : Parser σ ρ α) : Simulates R F (p.firstSet e₁ r₁) (p.firstSet e₂ r₂) Eq := by
  induction p with
  | pure | fail | eof | satisfy | literal | longest | not | declared =>
      exact Simulates.pure rfl
  | map _ _ ih | tryMap _ _ ih | lookahead _ ih | optional _ ih | many _ ih | many1 _ ih
  | skipMany _ ih | chain _ _ _ ih | recording _ _ ih => exact ih
  | and p q ihp ihq =>
      refine (acceptsEmpty_simulates he p).bind ?_
      rintro b _ rfl
      cases b with
      | false => exact ihp
      | true =>
          refine ihp.bind ?_
          rintro left _ rfl
          refine ihq.bind ?_
          rintro right _ rfl
          exact Simulates.pure rfl
  | or p q ihp ihq =>
      refine ihp.bind ?_
      rintro left _ rfl
      refine ihq.bind ?_
      rintro right _ rfl
      exact Simulates.pure rfl
  | flatMap p k ih =>
      refine (acceptsEmpty_simulates he p).bind ?_
      rintro b _ rfl
      cases b with
      | true => exact Simulates.pure rfl
      | false => exact ih
  | label name p ih =>
      refine ih.bind ?_
      rintro set _ rfl
      exact Simulates.pure rfl
  | sequence ps ih =>
      rw [firstSet_sequence, firstSet_sequence]
      refine Inquiry.unionUpToNonempty_simulates _ _ ?_
      rintro _ hp
      obtain ⟨i, rfl⟩ := List.mem_ofFn.mp hp
      exact ⟨ih i, acceptsEmpty_simulates he (ps i)⟩
  | times min max p ih =>
      rw [firstSet_times, firstSet_times]
      split
      · exact Simulates.pure rfl
      · exact ih
  | manyTill p stop ihp ihs =>
      refine ihs.bind ?_
      rintro first _ rfl
      refine ihp.bind ?_
      rintro next _ rfl
      exact Simulates.pure rfl
  | rule i => exact h i

end Parser

end Related

/-! ### Longer chains of rules -/

/-- Where the first inquiry has an answer, the second has the same. -/
def Inquiry.Le (q r : Inquiry Unit β) : Prop :=
  ∀ b, q () = .ok b () → r () = .ok b ()

theorem Inquiry.le_iff_simulates {q r : Inquiry Unit β} :
    q.Le r ↔ Simulates (fun _ _ => True) (fun _ => True) q r Eq := by
  constructor
  · intro h _ _ _
    cases hq : q () with
    | ok b st =>
        exact ⟨b, (), h b hq, rfl, trivial⟩
    | error e st => exact .inl trivial
  · intro h b hq
    obtain ⟨c, st, hr, rfl, _⟩ := h.of_ok () trivial hq
    exact hr

theorem Inquiry.Le.trans {q r s : Inquiry Unit β} (h : q.Le r) (h' : r.Le s) : q.Le s :=
  fun b hb => h' b (h b hb)

namespace Chain

/-! A family of answers by the length of the chain, in which no chain of length zero has one
and what chains of one length give decides what the next length gives. -/

variable {ask : Nat → Nat → Inquiry Unit β} {size : Nat}

theorem le_succ (h0 : ∀ i b, ask 0 i () ≠ .ok b ())
    (hstep : ∀ d d', (∀ i, (ask d i).Le (ask d' i)) → ∀ i, (ask (d + 1) i).Le (ask (d' + 1) i))
    (d i : Nat) : (ask d i).Le (ask (d + 1) i) := by
  induction d generalizing i with
  | zero =>
      intro b hb
      exact absurd hb (h0 i b)
  | succ d ih => exact hstep d (d + 1) ih i

theorem le_of_le (h : ∀ d i, (ask d i).Le (ask (d + 1) i)) {d d' : Nat} (hd : d ≤ d') (i : Nat) :
    (ask d i).Le (ask d' i) := by
  induction hd with
  | refl => exact fun _ hb => hb
  | step _ ih => exact ih.trans (h _ i)

open Classical in
/-- The rules with an answer through a chain of length `d`. -/
noncomputable def answered (ask : Nat → Nat → Inquiry Unit β) (size d : Nat) : Finset Nat :=
  (Finset.range size).filter fun i => ∃ b, ask d i () = .ok b ()

theorem card_answered_le (d : Nat) : (answered ask size d).card ≤ size := by
  classical
  exact (Finset.card_filter_le _ _).trans (Finset.card_range size).le

theorem answered_subset (h : ∀ d i, (ask d i).Le (ask (d + 1) i)) {d d' : Nat} (hd : d ≤ d') :
    answered ask size d ⊆ answered ask size d' := by
  intro i hi
  simp only [answered, Finset.mem_filter] at hi ⊢
  obtain ⟨hi, b, hb⟩ := hi
  exact ⟨hi, b, le_of_le h hd i b hb⟩

/-- If a longer chain answers for no more rules, it gives no more answers. -/
theorem le_of_card_eq (h : ∀ d i, (ask d i).Le (ask (d + 1) i))
    (hsize : ∀ d i b, ask d i () = .ok b () → i < size) {d d' : Nat} (hd : d ≤ d')
    (hcard : (answered ask size d).card = (answered ask size d').card) (i : Nat) :
    (ask d' i).Le (ask d i) := by
  intro b hb
  have heq : answered ask size d = answered ask size d' :=
    Finset.eq_of_subset_of_card_le (answered_subset h hd) hcard.ge
  have hi : i ∈ answered ask size d := by
    rw [heq]
    simp only [answered, Finset.mem_filter, Finset.mem_range]
    exact ⟨hsize d' i b hb, b, hb⟩
  simp only [answered, Finset.mem_filter] at hi
  obtain ⟨_, b', hb'⟩ := hi
  have hsame := le_of_le h hd i b' hb'
  rw [hb] at hsame
  cases hsame
  exact hb'

/-- No answer needs a longer chain than there are rules. -/
theorem le_size (h0 : ∀ i b, ask 0 i () ≠ .ok b ())
    (hstep : ∀ d d', (∀ i, (ask d i).Le (ask d' i)) → ∀ i, (ask (d + 1) i).Le (ask (d' + 1) i))
    (hsize : ∀ d i b, ask d i () = .ok b () → i < size) (d i : Nat) :
    (ask d i).Le (ask size i) := by
  have h := le_succ h0 hstep
  rcases Nat.le_total d size with hd | hd
  · exact le_of_le h hd i
  · refine le_of_card_eq h hsize hd ?_ i
    symm
    refine Nat.stabilises_of_monotone (f := fun d => (answered ask size d).card) (b := size)
      ?_ ?_ ?_ hd
    · intro m n hmn
      exact Finset.card_le_card (answered_subset h hmn)
    · exact card_answered_le
    · intro m hm
      have hback := hstep _ _ (le_of_card_eq h hsize (Nat.le_succ m) hm)
      refine Nat.le_antisymm (Finset.card_le_card (answered_subset h (Nat.le_succ _))) ?_
      refine Finset.card_le_card ?_
      intro j hj
      simp only [answered, Finset.mem_filter] at hj ⊢
      obtain ⟨hj, b, hb⟩ := hj
      exact ⟨hj, b, hback j b hb⟩

end Chain

namespace Rules

/-- Whether a rule accepts empty input, worked out through at most `depth` rules. -/
def emptyWithin (rules : Rules σ ρ) : Nat → Nat → Inquiry Unit Bool
  | 0, _ => throw (.leftRecursion .acceptsEmpty)
  | depth + 1, i =>
    match rules.body? i with
    | none => throw .unassignedRule
    | some p => p.acceptsEmpty (rules.emptyWithin depth)

def firstWithin [BEq σ] (rules : Rules σ ρ) : Nat → Nat → Inquiry Unit (SymbolSet σ)
  | 0, _ => throw (.leftRecursion .firstSet)
  | depth + 1, i =>
    match rules.body? i with
    | none => throw .unassignedRule
    | some p => p.firstSet (rules.emptyWithin rules.size) (rules.firstWithin depth)

/-- The parser says of itself whether it accepts empty input. -/
def AcceptsEmpty (rules : Rules σ ρ) (p : Parser σ ρ α) (b : Bool) : Prop :=
  p.acceptsEmpty (rules.emptyWithin rules.size) () = .ok b ()

def FirstWithin [BEq σ] (rules : Rules σ ρ) (depth : Nat) (p : Parser σ ρ α)
    (set : SymbolSet σ) : Prop :=
  p.firstSet (rules.emptyWithin rules.size) (rules.firstWithin depth) () = .ok set ()

def FirstSet [BEq σ] (rules : Rules σ ρ) (p : Parser σ ρ α) (set : SymbolSet σ) : Prop :=
  rules.FirstWithin rules.size p set

variable {rules : Rules σ ρ}

theorem AcceptsEmpty.unique {p : Parser σ ρ α} {b b' : Bool} (h : rules.AcceptsEmpty p b)
    (h' : rules.AcceptsEmpty p b') : b = b' := by
  unfold AcceptsEmpty at h h'
  rw [h] at h'
  cases h'
  rfl

theorem FirstSet.unique [BEq σ] {p : Parser σ ρ α} {s s' : SymbolSet σ}
    (h : rules.FirstSet p s) (h' : rules.FirstSet p s') : s = s' := by
  unfold FirstSet FirstWithin at h h'
  rw [h] at h'
  cases h'
  rfl

theorem lt_size_of_body? {i : Nat} {p : Parser σ ρ (ρ i)} (h : rules.body? i = some p) :
    i < rules.size := by
  unfold body? at h
  split at h
  · assumption
  · cases h

theorem acceptsEmpty_le {r₁ r₂ : Nat → Inquiry Unit Bool} (h : ∀ i, (r₁ i).Le (r₂ i))
    (p : Parser σ ρ α) : Inquiry.Le (p.acceptsEmpty r₁) (p.acceptsEmpty r₂) :=
  Inquiry.le_iff_simulates.mpr
    (p.acceptsEmpty_simulates fun i => Inquiry.le_iff_simulates.mp (h i))

theorem firstSet_le [BEq σ] {e : Nat → Inquiry Unit Bool}
    {r₁ r₂ : Nat → Inquiry Unit (SymbolSet σ)} (h : ∀ i, (r₁ i).Le (r₂ i))
    (p : Parser σ ρ α) : Inquiry.Le (p.firstSet e r₁) (p.firstSet e r₂) :=
  Inquiry.le_iff_simulates.mpr
    (p.firstSet_simulates (fun _ => Inquiry.le_iff_simulates.mp fun _ hb => hb)
      fun i => Inquiry.le_iff_simulates.mp (h i))

theorem emptyWithin_step {d d' : Nat}
    (h : ∀ i, (rules.emptyWithin d i).Le (rules.emptyWithin d' i)) (i : Nat) :
    (rules.emptyWithin (d + 1) i).Le (rules.emptyWithin (d' + 1) i) := by
  unfold emptyWithin
  cases rules.body? i with
  | none => exact fun _ hb => hb
  | some p => exact acceptsEmpty_le h p

theorem firstWithin_step [BEq σ] {d d' : Nat}
    (h : ∀ i, (rules.firstWithin d i).Le (rules.firstWithin d' i)) (i : Nat) :
    (rules.firstWithin (d + 1) i).Le (rules.firstWithin (d' + 1) i) := by
  unfold firstWithin
  cases rules.body? i with
  | none => exact fun _ hb => hb
  | some p => exact firstSet_le h p

theorem emptyWithin_zero (i : Nat) (b : Bool) : rules.emptyWithin 0 i () ≠ .ok b () := nofun

theorem firstWithin_zero [BEq σ] (i : Nat) (s : SymbolSet σ) :
    rules.firstWithin 0 i () ≠ .ok s () := nofun

theorem lt_size_of_emptyWithin {d i : Nat} {b : Bool} (h : rules.emptyWithin d i () = .ok b ()) :
    i < rules.size := by
  cases d with
  | zero => exact absurd h (emptyWithin_zero i b)
  | succ d =>
      unfold emptyWithin at h
      cases hp : rules.body? i with
      | none =>
          rw [hp] at h
          cases h
      | some p => exact lt_size_of_body? hp

theorem lt_size_of_firstWithin [BEq σ] {d i : Nat} {s : SymbolSet σ}
    (h : rules.firstWithin d i () = .ok s ()) : i < rules.size := by
  cases d with
  | zero => exact absurd h (firstWithin_zero i s)
  | succ d =>
      unfold firstWithin at h
      cases hp : rules.body? i with
      | none =>
          rw [hp] at h
          cases h
      | some p => exact lt_size_of_body? hp

theorem emptyWithin_le_size (rules : Rules σ ρ) (d i : Nat) :
    (rules.emptyWithin d i).Le (rules.emptyWithin rules.size i) :=
  Chain.le_size emptyWithin_zero (fun _ _ => emptyWithin_step)
    (fun _ _ _ => lt_size_of_emptyWithin) d i

theorem firstWithin_le_size [BEq σ] (rules : Rules σ ρ) (d i : Nat) :
    (rules.firstWithin d i).Le (rules.firstWithin rules.size i) :=
  Chain.le_size firstWithin_zero (fun _ _ => firstWithin_step)
    (fun _ _ _ => lt_size_of_firstWithin) d i

theorem emptyWithin_succ_ok_iff {d i : Nat} {b : Bool} :
    rules.emptyWithin (d + 1) i () = .ok b () ↔
      ∃ body, rules.body? i = some body ∧
        body.acceptsEmpty (rules.emptyWithin d) () = .ok b () := by
  rw [emptyWithin]
  cases rules.body? i with
  | none => exact ⟨nofun, nofun⟩
  | some p => simp

theorem firstWithin_succ_ok_iff [BEq σ] {d i : Nat} {s : SymbolSet σ} :
    rules.firstWithin (d + 1) i () = .ok s () ↔
      ∃ body, rules.body? i = some body ∧ rules.FirstWithin d body s := by
  rw [firstWithin]
  cases rules.body? i with
  | none => exact ⟨nofun, nofun⟩
  | some p => simp [FirstWithin]

/-- A rule accepts empty input exactly when its body does. -/
theorem acceptsEmpty_rule {i : Nat} {b : Bool} :
    rules.AcceptsEmpty (.rule i) b ↔
      ∃ body, rules.body? i = some body ∧ rules.AcceptsEmpty body b := by
  constructor
  · intro h
    have hsucc := Chain.le_succ emptyWithin_zero (fun _ _ => emptyWithin_step) _ i b h
    exact emptyWithin_succ_ok_iff.mp hsucc
  · intro h
    exact emptyWithin_le_size rules _ i b (emptyWithin_succ_ok_iff.mpr h)

/-- A rule begins on what its body begins on. -/
theorem firstSet_rule [BEq σ] {i : Nat} {s : SymbolSet σ} :
    rules.FirstSet (.rule i) s ↔
      ∃ body, rules.body? i = some body ∧ rules.FirstSet body s := by
  constructor
  · intro h
    have hsucc := Chain.le_succ firstWithin_zero (fun _ _ => firstWithin_step) _ i s h
    exact firstWithin_succ_ok_iff.mp hsucc
  · intro h
    exact firstWithin_le_size rules _ i s (firstWithin_succ_ok_iff.mpr h)

end Rules

end PredictiveParsing
