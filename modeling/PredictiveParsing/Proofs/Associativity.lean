import PredictiveParsing.Proofs.Formulas
import PredictiveParsing.Proofs.Interchange
import PredictiveParsing.Proofs.Merge

/-!
# Grouping alternatives

However three alternatives are grouped, they accept empty input or not, begin on the same symbols,
and come to the same success (`Rules.or_regroups`): at the end of the input those that accept empty
input are tried in the same order, and elsewhere all of them are (`Session.alternatives_assoc`).
When all of them fail, the failures are merged in two ways, and these come to the same but for one
clash of three reasons (`Failure.merge_assoc`). Then one grouping says that the input ended and the
other one does not (`VoidedEnd.groupings_differ`).
-/

namespace PredictiveParsing

variable {σ : Type} {ρ : Nat → Type} {S α : Type}

/-- The same success, or failures that differ at most in a clash. -/
inductive Outcome.Regrouped (clash : Prop) : Outcome σ α → Outcome σ α → Prop where
  | success (a : α) (next : Cursor) : Regrouped clash (.success a next) (.success a next)
  | failure {f g : Failure σ} (h : f.Regrouped clash g) : Regrouped clash (.failure f) (.failure g)

theorem Outcome.Regrouped.refl {clash : Prop} (out : Outcome σ α) : Regrouped clash out out := by
  cases out with
  | success a next => exact .success a next
  | failure f => exact .failure (.refl f)

theorem Failure.Regrouped.mono {clash clash' : Prop} {f g : Failure σ} (h : f.Regrouped clash g)
    (himp : clash → clash') : f.Regrouped clash' g :=
  ⟨h.1, h.2.imp_right fun hclash => ⟨himp hclash.1, hclash.2⟩⟩

namespace Session

variable [BEq σ] [Source S σ] {rules : Rules σ ρ} {symbols : List σ} {c : Cursor}
  {x y z : Action (Session σ S) σ α} {X Y Z : Failure σ → Prop}

/-- A run can stand for itself, and its failures have a property. -/
abbrev Fails (rules : Rules σ ρ) (symbols : List σ) (m : Act (Session σ S) (Outcome σ α))
    (X : Failure σ → Prop) : Prop :=
  Simulates (Parallel rules symbols fun _ => ()) (fun _ => False) m m fun out out' =>
    out = out' ∧ ∀ f, out = .failure f → X f

/-- To a view that shows nothing, recovering is giving the second alternative's success. -/
theorem settled_orElse (rules : Rules σ ρ) (symbols : List σ) (c : Cursor) (f : Failure σ) (a : α)
    (next : Cursor) :
    Settled rules symbols (fun _ => ()) ((host (S := S) rules).orElse c f (.success a next))
      (.success a next) :=
  (settled_recover c fun _ => rfl).bind (settled_pure _)

theorem both_assoc (hx : Fails rules symbols (x c) X) (hy : Fails rules symbols (y c) Y)
    (hz : Fails rules symbols (z c) Z) :
    Simulates (Parallel rules symbols fun _ => ()) (fun _ => False)
      ((host rules).both ((host rules).both x y) z c)
      ((host rules).both x ((host rules).both y z) c)
      (Outcome.Regrouped (∃ f g h, X f ∧ Y g ∧ Z h ∧ f.Clash g h)) := by
  have hrecover := settled_orElse (S := S) (α := α) rules symbols c
  unfold Host.both
  rw [bind_assoc]
  refine hx.bind ?_
  rintro out _ ⟨rfl, hX⟩
  cases out with
  | success a next => exact Simulates.pure (.success a next)
  | failure f =>
      dsimp only
      rw [bind_assoc, bind_assoc]
      refine hy.bind ?_
      rintro out _ ⟨rfl, hY⟩
      cases out with
      | success a next =>
          refine Settled.simulates ?_ ?_ (Outcome.Regrouped.success a next)
          · refine (hrecover f a next).bind ?_
            exact settled_pure _
          · exact (settled_pure _).bind (hrecover f a next)
      | failure g =>
          dsimp only
          rw [Host.orElse_failure, pure_bind, bind_assoc]
          refine hz.bind ?_
          rintro out _ ⟨rfl, hZ⟩
          cases out with
          | success a next =>
              refine Settled.simulates ?_ ?_ (Outcome.Regrouped.success a next)
              · exact hrecover (f.merge g) a next
              · exact (hrecover g a next).bind (hrecover f a next)
          | failure h =>
              refine Simulates.pure (.failure ((Failure.merge_assoc f g h).mono ?_))
              exact fun hclash => ⟨f, g, h, hX f rfl, hY g rfl, hZ h rfl, hclash⟩

/-- However alternatives are grouped, those that accept empty input are tried in the same order at
the end of the input, and all of them elsewhere. -/
theorem alternatives_assoc (ended acceptsX acceptsY acceptsZ : Bool) (s t u : SymbolSet σ)
    (hx : Fails rules symbols (x c) X) (hy : Fails rules symbols (y c) Y)
    (hz : Fails rules symbols (z c) Z) :
    Simulates (Parallel rules symbols fun _ => ()) (fun _ => False)
      ((host rules).alternatives ended (acceptsX || acceptsY) acceptsZ ((s.union t).union u)
        ((host rules).alternatives ended acceptsX acceptsY (s.union t) x y) z c)
      ((host rules).alternatives ended acceptsX (acceptsY || acceptsZ) (s.union (t.union u))
        x ((host rules).alternatives ended acceptsY acceptsZ (t.union u) y z) c)
      (Outcome.Regrouped (∃ f g h, X f ∧ Y g ∧ Z h ∧ f.Clash g h)) := by
  have hrefl : ∀ {m : Act (Session σ S) (Outcome σ α)},
      Interchangeable rules symbols (fun _ => ()) m m →
      Simulates (Parallel rules symbols fun _ => ()) (fun _ => False) m m
        (Outcome.Regrouped (∃ f g h, X f ∧ Y g ∧ Z h ∧ f.Clash g h)) :=
    fun h => h.mono fun _ _ heq => heq ▸ .refl _
  have hx' : Interchangeable rules symbols (fun _ => ()) (x c) (x c) := hx.mono fun _ _ h => h.1
  have hy' : Interchangeable rules symbols (fun _ => ()) (y c) (y c) := hy.mono fun _ _ h => h.1
  have hz' : Interchangeable rules symbols (fun _ => ()) (z c) (z c) := hz.mono fun _ _ h => h.1
  cases ended with
  | false => exact both_assoc hx hy hz
  | true =>
      cases acceptsX with
      | true =>
          cases acceptsY with
          | true =>
              cases acceptsZ with
              | true => exact both_assoc hx hy hz
              | false => exact hrefl (both_interchangeable shown_nothing hx' hy')
          | false =>
              cases acceptsZ with
              | true => exact hrefl (both_interchangeable shown_nothing hx' hz')
              | false => exact hrefl hx'
      | false =>
          cases acceptsY with
          | true =>
              cases acceptsZ with
              | true => exact hrefl (both_interchangeable shown_nothing hy' hz')
              | false => exact hrefl hy'
          | false =>
              cases acceptsZ with
              | true => exact hrefl hz'
              | false =>
                  refine Simulates.pure (.failure ⟨rfl, .inl ?_⟩)
                  exact .naming (e := true) (SymbolSet.leaves_union_assoc s t u)

end Session

/-! ### Replies -/

namespace Rules

variable [BEq σ] {rules : Rules σ ρ} {x y z : Parser σ ρ α}

def Computes (rules : Rules σ ρ) (p : Parser σ ρ α) : Prop := ∃ b set, rules.Replies p b set

/-- At the cursor, in any consistent session over the symbols, the parser can fail in this way. -/
def FailsWith (S : Type) [Source S σ] (rules : Rules σ ρ) (symbols : List σ) (budget : Nat)
    (p : Parser σ ρ α) (c : Cursor) (f : Failure σ) : Prop :=
  ∃ s s' : Session σ S, s.Consistent rules symbols ∧
    rules.apply (Session.host rules) budget p c s = .ok (.failure f) s'

variable [Source S σ] {symbols : List σ}

theorem apply_fails (budget : Nat) (p : Parser σ ρ α) (c : Cursor) :
    Session.Fails (S := S) rules symbols (rules.apply (Session.host rules) budget p c)
      (rules.FailsWith S symbols budget p c) := by
  refine (Session.apply_interchangeable rules symbols shown_nothing budget p c).of_run.mono ?_
  rintro out _ ⟨rfl, s, _, s', hs, hrun⟩
  refine ⟨rfl, ?_⟩
  rintro f rfl
  exact ⟨s, s', hs.first, hrun⟩

/-- The two ways to group three alternatives come to the same in the end, unless they clash. -/
theorem apply_or_regrouped (symbols : List σ) (hx : rules.Computes x)
    (hy : rules.Computes y) (hz : rules.Computes z) (budget : Nat) (c : Cursor) :
    Simulates (Session.Parallel (S := S) rules symbols fun _ => ()) (fun _ => False)
      (rules.apply (Session.host rules) budget ((x.or y).or z) c)
      (rules.apply (Session.host rules) budget (x.or (y.or z)) c)
      (Outcome.Regrouped (∃ f g h, rules.FailsWith S symbols budget x c f ∧
        rules.FailsWith S symbols budget y c g ∧ rules.FailsWith S symbols budget z c h ∧
        f.Clash g h)) := by
  obtain ⟨acceptsX, firstX, hx⟩ := hx
  obtain ⟨acceptsY, firstY, hy⟩ := hy
  obtain ⟨acceptsZ, firstZ, hz⟩ := hz
  cases budget with
  | zero => exact Simulates.throw _
  | succ rounds =>
      have hleft := Session.apply_or_interchangeable (S := S) symbols shown_nothing (hx.or hy) hz
        rounds c
      have hright := Session.apply_or_interchangeable (S := S) symbols shown_nothing hx (hy.or hz)
        rounds c
      have hxy := Session.apply_or_interchangeable (S := S) symbols shown_nothing hx hy rounds c
      have hyz := Session.apply_or_interchangeable (S := S) symbols shown_nothing hy hz rounds c
      have hrunX := Session.apply_interchangeable (S := S) rules symbols shown_nothing (rounds + 1)
        x c
      have hrunZ := Session.apply_interchangeable (S := S) rules symbols shown_nothing (rounds + 1)
        z c
      refine hleft.trans ?_
      refine (Session.alternatives_interchangeable shown_nothing _ _ _ _ hxy hrunZ).trans ?_
      refine hright.compare ?_
      refine (Session.alternatives_interchangeable shown_nothing _ _ _ _ hrunX hyz).compare ?_
      exact Session.alternatives_assoc _ _ _ _ _ _ _ (apply_fails _ x c) (apply_fails _ y c)
        (apply_fails _ z c)

/-- Alternatives can be grouped either way. Both groupings have the same answers, and from any two
consistent sessions they come to the same success or stop short in the same way. When they fail, the
failures are the same, unless failures of the three alternatives clash. Then the failures are at one
position and name the same symbols, and one of them says that the input ended. -/
theorem or_regroups (hx : rules.Computes x) (hy : rules.Computes y) (hz : rules.Computes z) :
    (∃ b s t, rules.Replies ((x.or y).or z) b s ∧ rules.Replies (x.or (y.or z)) b t ∧
      s.leaves = t.leaves) ∧
    ∀ (budget : Nat) (c : Cursor) (s₁ s₂ : Session σ S), s₁.Consistent rules symbols →
      s₂.Consistent rules symbols →
      (∀ out₁ s₁',
        rules.apply (Session.host rules) budget ((x.or y).or z) c s₁ = .ok out₁ s₁' →
        ∃ out₂ s₂', rules.apply (Session.host rules) budget (x.or (y.or z)) c s₂ = .ok out₂ s₂' ∧
          out₁.Regrouped (∃ f g h, rules.FailsWith S symbols budget x c f ∧
            rules.FailsWith S symbols budget y c g ∧ rules.FailsWith S symbols budget z c h ∧
            f.Clash g h) out₂) ∧
      ∀ e s₁', rules.apply (Session.host rules) budget ((x.or y).or z) c s₁ = .error e s₁' →
        ∃ s₂', rules.apply (Session.host rules) budget (x.or (y.or z)) c s₂ = .error e s₂' := by
  constructor
  · obtain ⟨a, s, ha⟩ := hx
    obtain ⟨b, t, hb⟩ := hy
    obtain ⟨d, u, hd⟩ := hz
    exact ⟨_, _, _, (ha.or hb).or hd, Bool.or_assoc a b d ▸ ha.or (hb.or hd),
      SymbolSet.leaves_union_assoc s t u⟩
  · intro budget c s₁ s₂ hs₁ hs₂
    have hsimulates := apply_or_regrouped symbols hx hy hz budget c s₁ s₂ ⟨hs₁, hs₂, rfl⟩
    constructor
    · intro out₁ s₁' hrun
      rw [hrun] at hsimulates
      obtain ⟨out₂, s₂', hrun₂, hout, _⟩ := hsimulates
      exact ⟨out₂, s₂', hrun₂, hout⟩
    · intro e s₁' hrun
      rw [hrun] at hsimulates
      obtain ⟨s₂', hrun₂, _⟩ := hsimulates.resolve_left id
      exact ⟨s₂', hrun₂⟩

/-- The last one of three letters is read in either grouping. -/
theorem or_regroups_last :
    let letters : Rules Char fun _ => Unit := .empty
    let x : Parser Char (fun _ => Unit) Char := .value 'x'
    let y : Parser Char (fun _ => Unit) Char := .value 'y'
    let z : Parser Char (fun _ => Unit) Char := .value 'z'
    let s : Session Char (Array Char) := { source := #['z'] }
    letters.Computes x ∧ letters.Computes y ∧ letters.Computes z ∧ s.Consistent letters ['z'] ∧
      ∃ s', letters.apply (Session.host letters) 1 (x.or (y.or z)) .start s =
        .ok (.success 'z' ⟨1, false⟩) s' := by
  intro letters x y z s
  have hx : letters.Computes x := ⟨_, _, rfl, rfl⟩
  have hy : letters.Computes y := ⟨_, _, rfl, rfl⟩
  have hz : letters.Computes z := ⟨_, _, rfl, rfl⟩
  have hs : s.Consistent letters ['z'] := Session.consistent_start (Source.holds_array #['z'])
  obtain ⟨_, hrun⟩ := or_regroups (S := Array Char) hx hy hz
  obtain ⟨out, s', hout, hsame⟩ := (hrun 1 .start s s hs hs).1 (.success 'z' ⟨1, false⟩) _ rfl
  cases hsame
  exact ⟨hx, hy, hz, hs, s', hout⟩

end Rules

/-! ### A clash -/

namespace VoidedEnd

/-- The input ends before a parser that expects nothing. -/
def ending : Parser Char (fun _ => Unit) Unit :=
  (Parser.andR (.pure ()) (.fail none : Parser Char (fun _ => Unit) Unit)).lookahead

def saying : Parser Char (fun _ => Unit) Unit := Parser.not .eof

/-- A set of symbols where the input ends, and the failure does not say that it does. -/
def naming : Parser Char (fun _ => Unit) Unit :=
  .label "x" (.lookahead (.fail none : Parser Char (fun _ => Unit) Unit))

/-- On an empty input the first two alternatives fail with a message that voids the end of input, so
the first grouping does not say that the input ended. In the second one the message gives way to the
set, and the end of input stays. -/
theorem groupings_differ :
    let s : Session Char (Array Char) := { source := #[] }
    Rules.empty.Computes ending ∧ Rules.empty.Computes saying ∧ Rules.empty.Computes naming ∧
    ∃ f g s₁ s₂,
      Rules.empty.apply (Session.host Rules.empty) 1 ((ending.or saying).or naming) .start s =
        .ok (.failure f) s₁ ∧
      Rules.empty.apply (Session.host Rules.empty) 1 (ending.or (saying.or naming)) .start s =
        .ok (.failure g) s₂ ∧
      f.isEndOfInput = false ∧ g.isEndOfInput = true :=
  ⟨⟨_, _, rfl, rfl⟩, ⟨_, _, rfl, rfl⟩, ⟨_, _, rfl, rfl⟩, _, _, _, _, rfl, rfl, rfl, rfl⟩

end VoidedEnd

end PredictiveParsing
