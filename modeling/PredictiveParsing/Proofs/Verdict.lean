import Mathlib.Order.Bounds.Basic
import PredictiveParsing.Proofs.Furthest
import PredictiveParsing.Proofs.Termination

/-!
# The verdict of a parse

A parse is a run of its parser with a verdict on the outcome: a success short of the end
of the input is refused, and a failure gives way to one that was recovered from further
on. The verdict is a success exactly when the parser itself succeeds at the end, and a
failure names the furthest position among all failures of the run (`Rules.parse_verdict`).

For the first part the run inside the parse is compared with one from the state before
it, which remembers less of the grammar and records nothing. For the second, the
invariant of `Settled` is carried from the empty record to the end of the run.
-/

namespace PredictiveParsing

variable {σ : Type} {ρ : Nat → Type} {S St α β : Type}

/-! ### Failures -/

section Failures

variable {host : Host σ ρ St}

theorem Noted.lift_failures {q : Inquiry St α} {failures : List (Failure σ)} :
    Yields (fun n : Noted σ St => n.failures = failures) (fun _ => True) (Noted.lift q)
      fun _ => True := by
  intro n hn
  rcases n with ⟨st, noted⟩
  unfold Noted.lift
  dsimp only
  cases q st with
  | error e st' => exact trivial
  | ok a st' => exact ⟨trivial, hn⟩

theorem Host.noted_atEnd_failures {failures : List (Failure σ)} (c : Cursor) :
    Yields (fun n : Noted σ St => n.failures = failures) (fun _ => True) (host.noted.atEnd c)
      fun _ => True := by
  have hcurrent : Yields (fun n : Noted σ St => n.failures = failures) (fun _ => True)
      (host.noted.current c) fun _ => True := fun n hn => ⟨trivial, hn⟩
  exact hcurrent.bind fun _ _ => Yields.pure trivial

def Noted.positions (n : Noted σ St) : Set Nat := {k | ∃ f ∈ n.failures, f.position = k}

theorem Settled.start {n : Noted σ St} (hfailures : n.failures = [])
    (hrecord : host.recovered n.state = none) : Settled host [] 0 n := by
  refine ⟨nofun, ?_, ?_⟩
  · rw [hfailures]
    exact nofun
  · rw [hrecord]
    exact nofun

/-- The failure of a run or the one on record, whichever is further on, is the furthest of all. -/
theorem Settled.isGreatest {n : Noted σ St} {f g : Failure σ}
    (h : Settled host [f] f.position n)
    (hg : Rules.orFurther (host.recovered n.state) (.failure f : Outcome σ α) = .failure g) :
    IsGreatest n.positions g.position := by
  have hf : f ∈ n.failures := h.noted f List.mem_cons_self
  unfold Rules.orFurther at hg
  cases hr : host.recovered n.state with
  | none =>
      rw [hr] at hg
      cases hg
      refine ⟨⟨f, hf, rfl⟩, ?_⟩
      rintro _ ⟨e, he, rfl⟩
      rcases h.bounded e he with hle | ⟨_, hrecord, _⟩
      · exact hle
      · rw [hr] at hrecord
        cases hrecord
  | some r =>
      rw [hr] at hg
      dsimp only at hg
      have hmax : g.position = max f.position r.position := by
        split at hg
        · cases hg
          omega
        · cases hg
          omega
      obtain ⟨e, he, heq⟩ := h.attained r hr
      constructor
      · rw [hmax]
        rcases Nat.le_total f.position r.position with hle | hle
        · exact ⟨e, he, by rw [heq, Nat.max_eq_right hle]⟩
        · exact ⟨f, hf, (Nat.max_eq_left hle).symm⟩
      · rintro _ ⟨e, he, rfl⟩
        rw [hmax]
        rcases h.bounded e he with hle | ⟨r', hr', hle⟩
        · exact Nat.le_trans hle (Nat.le_max_left _ _)
        · rw [hr] at hr'
          cases hr'
          exact Nat.le_trans hle (Nat.le_max_right _ _)

end Failures

/-! ### The furthest failure -/

namespace Rules

section Furthest

variable {host : Host σ ρ St}

theorem wholeInput_settled (h : host.Records) (c : Cursor) (out : Outcome σ α) :
    Ensures (Returned host [] 0 out) (wholeInput host.noted c out)
      (fun out n => ∀ f, out = .failure f → Settled host [] f.position n) fun _ => True := by
  cases out with
  | failure e =>
      refine Ensures.pure ?_
      intro n hn f hf
      cases hf
      exact hn.drop.mono (Nat.le_of_eq (Nat.zero_max _))
  | success a next =>
      refine Ensures.of_and ?_
      intro _
      refine (h.atEnd next).bind_ensures ?_
      intro ended _
      cases ended with
      | true => exact Ensures.pure fun _ _ => nofun
      | false =>
          refine Ensures.pure ?_
          intro n hn f _
          exact hn.mono (Nat.zero_le _)

variable [BEq σ] {rules : Rules σ ρ} {budget : Nat} {p : Parser σ ρ α}

/-- A parse fails where the furthest of the failures is that were noted on the way. -/
theorem parseNoted_isGreatest (h : host.Records) (hp : rules.Throughout Parser.IsPremade p)
    (c : Cursor) :
    Ensures (fun n => n.failures = []) (rules.parseNoted host budget p c)
      (fun out n => ∀ f, out = .failure f → IsGreatest n.positions f.position)
      fun _ => True := by
  refine (Inquiry.act_yields (fun _ => trivial) Noted.lift_failures).bind_ensures ?_
  intro acceptsEmpty _
  refine (Inquiry.act_yields (fun _ => trivial) Noted.lift_failures).bind_ensures ?_
  intro first _
  refine (Host.noted_atEnd_failures c).bind_ensures ?_
  intro ended _
  split
  · intro n hn f hf
    cases hf
    refine ⟨⟨_, List.mem_cons_self, rfl⟩, ?_⟩
    rintro _ ⟨g, hg, rfl⟩
    change g ∈ [_] ++ n.failures at hg
    rw [hn, List.append_nil, List.mem_singleton] at hg
    rw [hg]
  · have hclear : Ensures (fun n => n.failures = [])
        (modify (host.noted.setRecovered none) : Act (Noted σ St) Unit)
        (fun _ n => Settled host [] 0 n) fun _ => True :=
      fun n hn => Settled.start hn (h.setRecovered none n.state)
    refine hclear.bind ?_
    intro _
    refine (applyNoted_returns h hp.body budget hp.start [] 0 _ rfl).bind ?_
    intro out
    refine (wholeInput_settled h c out).bind ?_
    intro out n hn f hf
    cases out with
    | success a next => cases hf
    | failure e =>
        have hadd : Settled host [e] e.position ⟨n.state, e :: n.failures⟩ :=
          (hn e rfl).add (Nat.le_refl _) (Nat.le_refl _)
        exact hadd.isGreatest hf

end Furthest

end Rules

/-! ### The success -/

namespace Rules

variable [BEq σ] {rules : Rules σ ρ} {symbols : List σ} {host : Host σ ρ St} {I : St → Prop}
  {budget : Nat} {p : Parser σ ρ α}

/-- A parse refuses an input that ends before a parser which needs a symbol. Otherwise it runs the
parser from the same place, and succeeds where that succeeds at the end of the input. -/
theorem parse_yields (h : host.Faithful rules symbols I)
    (hp : rules.Throughout Parser.IsPremade p) (c : Cursor) :
    Yields I (fun _ => True) (rules.parse host budget p c) fun out =>
      (∃ f, out = .failure f) ∧ symbols.length ≤ c.position ∧ rules.AcceptsEmpty p false ∨
      ∃ st st' out', I st ∧
        rules.apply host budget p { c with tracked := true } st = .ok out' st' ∧
        ∀ v, (∃ c', out = .success v c') ↔
          ∃ next, out' = .success v next ∧ symbols.length ≤ next.position := by
  refine (Inquiry.act_yields (fun _ => trivial) (h.acceptsEmpty p)).bind ?_
  intro acceptsEmpty hempty
  refine (Inquiry.act_yields (fun _ => trivial) (h.firstSet p)).bind ?_
  intro first _
  refine (h.atEnd c).bind ?_
  intro ended hended
  split
  · rename_i hrefused
    rw [Bool.and_eq_true, Bool.not_eq_true'] at hrefused
    exact Yields.pure (.inl ⟨⟨_, rfl⟩, hended.mp hrefused.1, hrefused.2 ▸ hempty⟩)
  · refine h.clear.bind ?_
    intro _ _
    refine (apply_allows h hp.sure_of_isPremade budget _).of_run.bind ?_
    rintro out' ⟨st, st', hI, hrun⟩
    refine (wholeInput_yields h c out').bind ?_
    intro out hout st'' hI'
    refine ⟨.inr ⟨st, st', out', hI, hrun, ?_⟩, hI'⟩
    intro v
    simp only [orFurther_eq_success]
    exact hout v

end Rules

/-! ### Two sessions -/

namespace Session

variable {T : Type} [BEq σ] [Source S σ] [Source T σ] {rules : Rules σ ρ}
  {symbols : List σ}

def BothConsistent (rules : Rules σ ρ) (symbols : List σ) (s₁ : Session σ S)
    (s₂ : Session σ T) : Prop :=
  Consistent rules symbols s₁ ∧ Consistent rules symbols s₂

theorem inquire_simulates {q : Inquiry (Memory σ) α} {r : α → Prop}
    (hsound : Yields (Consistent (S := S) rules symbols) (fun _ => True) (inquire q) r)
    (hcomplete : ∀ a m, Memory.Working rules [] m → r a →
      ∃ m', q m = .ok a m' ∧ Memory.Working rules [] m') :
    Simulates (BothConsistent (S := S) (T := T) rules symbols) (fun _ => True) (inquire q)
      (inquire q) Eq := by
  intro s₁ s₂ hs
  have hfirst := hsound s₁ hs.1
  cases hq : inquire q s₁ with
  | error e s₁' => exact .inl trivial
  | ok a s₁' =>
      rw [hq] at hfirst
      obtain ⟨m', hm', hworking⟩ := hcomplete a s₂.memory hs.2.memory hfirst.1
      exact ⟨a, { s₂ with memory := m' }, inquire_of_ok hm', rfl, hfirst.2, hworking,
        hs.2.source⟩

/-- Whatever they remember and record, sessions of one grammar over the same symbols answer
alike, and at one position they record without an effect on the run. -/
theorem host_alike (rules : Rules σ ρ) (symbols : List σ) :
    (host (S := S) rules).Alike (host (S := T) rules) (BothConsistent rules symbols)
      (fun _ => True) fun c₁ c₂ => c₁.position = c₂.position where
  cursor := ⟨fun _ _ h => h, fun _ _ h => congrArg (· + 1) h, fun _ _ h => h⟩
  symbolAt i s₁ s₂ hs := by
    have h₁ := (host_faithful rules symbols).symbolAt i s₁ hs.1
    have h₂ := (host_faithful rules symbols).symbolAt i s₂ hs.2
    exact ⟨h₁.1.trans h₂.1.symm, h₁.2, h₂.2⟩
  acceptsEmpty p :=
    Inquiry.act_simulates (inquire_simulates ((host_faithful rules symbols).acceptsEmpty p)
      fun _ _ hm hb => Memory.ask_of_acceptsEmpty hm hb)
  firstSet p :=
    Inquiry.act_simulates (inquire_simulates ((host_faithful rules symbols).firstSet p)
      fun _ _ hm hset => Memory.ask_of_firstSet hm hset)
  recover c₁ c₂ f _ s₁ s₂ hs := by
    have h₁ := (host_faithful (S := S) rules symbols).recover (E := fun _ => True) c₁ f s₁ hs.1
    have h₂ := (host_faithful (S := T) rules symbols).recover (E := fun _ => False) c₂ f s₂ hs.2
    cases hr₁ : (host rules).recover c₁ f s₁ with
    | error e s₁' => exact .inl trivial
    | ok a s₁' =>
        rw [hr₁] at h₁
        cases hr₂ : (host rules).recover c₂ f s₂ with
        | error e s₂' =>
            rw [hr₂] at h₂
            exact h₂.elim
        | ok b s₂' =>
            rw [hr₂] at h₂
            exact ⟨b, s₂', rfl, trivial, h₁.2, h₂.2⟩

end Session

/-- An inquiry does not touch the record of a session. -/
theorem Session.inquire_recovered {q : Inquiry (Memory σ) α} (r : Option (Failure σ)) :
    Yields (fun s : Session σ S => s.recovered = r) (fun _ => True) (inquire q)
      fun _ => True := by
  intro s hs
  cases hq : q s.memory with
  | error e m =>
      rw [inquire_of_error hq]
      exact trivial
  | ok a m =>
      rw [inquire_of_ok hq]
      exact ⟨trivial, hs⟩

theorem Session.host_records [BEq σ] [Source S σ] (rules : Rules σ ρ) :
    (host (S := S) rules).Records where
  symbolAt _ _ := rfl
  acceptsEmpty _ := inquire_recovered
  firstSet _ := inquire_recovered
  setRecovered _ _ := rfl

/-! ### Parses -/

namespace Rules

variable [BEq σ] [Source S σ] {rules : Rules σ ρ} {symbols : List σ} {budget : Nat}
  {p : Parser σ ρ α} {s s' : Session σ S} {c : Cursor} {out : Outcome σ α}

/-- A parse comes to the success that its parser comes to at the end of the input, and to no
other. A failure is at the furthest position of all the failures that were returned on the way,
outside the operand of a `not`, whatever was made of them: those are the failures that the same
parse notes. -/
theorem parse_verdict (hp : rules.Throughout Parser.IsPremade p) (hs : s.Consistent rules symbols)
    (hrun : rules.parse (Session.host rules) budget p c s = .ok out s') :
    (∀ v, (∃ c', out = .success v c') ↔ ∃ budget' next s'',
      rules.apply (Session.host rules) budget' p c s = .ok (.success v next) s'' ∧
        symbols.length ≤ next.position) ∧
    ∃ failures, rules.parseNoted (Session.host rules) budget p c ⟨s, []⟩ =
        .ok out ⟨s', failures⟩ ∧
      ∀ f, out = .failure f → IsGreatest {k | ∃ g ∈ failures, g.position = k} f.position := by
  have h := Session.host_faithful (S := S) rules symbols
  constructor
  · intro v
    rcases ((parse_yields h hp c).of_ok hs hrun).1 with
      ⟨⟨f, rfl⟩, hend, hneeds⟩ | ⟨s₁, s₂, out', hs₁, hrun', hout⟩
    · constructor
      · rintro ⟨c', heq⟩
        cases heq
      · rintro ⟨budget', next, s'', happly, _⟩
        have hallows := ((apply_allows h hp.sure_of_isPremade budget' c).of_ok hs happly).1
        cases hallows.ok_eq_false hend hneeds
    · obtain ⟨out'', s'', happly, halike, _⟩ :=
        (rules.apply_alike (Session.host_alike rules symbols) trivial (Nat.le_refl budget) p
          { c with tracked := true } c rfl).of_ok s ⟨hs₁, hs⟩ hrun'
      rw [hout v]
      constructor
      · rintro ⟨next, rfl, hend⟩
        cases halike with
        | success heq => exact ⟨budget, _, s'', happly, heq ▸ hend⟩
      · rintro ⟨budget', next, s₃, happly', hend⟩
        have heq := apply_unique happly happly'
        subst heq
        cases halike with
        | success heq => exact ⟨_, rfl, heq ▸ hend⟩
  · obtain ⟨failures, hnoted⟩ := parseNoted_of_parse hrun
    exact ⟨failures, hnoted,
      (parseNoted_isGreatest (Session.host_records rules) hp c).of_ok rfl hnoted⟩

/-- Either `abc` or `a`, on `abx`: the first alternative fails behind `b`, the second one succeeds
behind `a`, and the parse fails where the first one did. -/
theorem parse_verdict_alternatives :
    let p : Parser Char (fun _ => Unit) Char :=
      (((Parser.value 'a').andL (Parser.value 'b')).andL (Parser.value 'c')).or (Parser.value 'a')
    let s : Session Char (Array Char) := { source := #['a', 'b', 'x'] }
    ∃ f s', Rules.empty.parse (Session.host Rules.empty) 1 p .start s = .ok (.failure f) s' ∧
      (∀ v budget next s'', Rules.empty.apply (Session.host Rules.empty) budget p .start s =
        .ok (.success v next) s'' → next.position < 3) ∧
      ∃ failures, Rules.empty.parseNoted (Session.host Rules.empty) 1 p .start ⟨s, []⟩ =
          .ok (.failure f) ⟨s', failures⟩ ∧
        IsGreatest {k | ∃ g ∈ failures, g.position = k} 2 := by
  intro p s
  have hpremade : Rules.empty.Throughout Parser.IsPremade p := by
    constructor
    · repeat' constructor
    · exact nofun
  obtain ⟨hsuccess, failures, hnoted, hgreatest⟩ := parse_verdict hpremade
    (Session.consistent_start (Source.holds_array #['a', 'b', 'x'])) (c := .start)
    (rfl : Rules.empty.parse (Session.host Rules.empty) 1 p .start s = .ok _ _)
  refine ⟨_, _, rfl, ?_, failures, hnoted, hgreatest _ rfl⟩
  intro v budget next s'' happly
  by_contra hend
  obtain ⟨c', heq⟩ := (hsuccess v).mpr ⟨budget, next, s'', happly, Nat.not_lt.mp hend⟩
  cases heq

end Rules

end PredictiveParsing
