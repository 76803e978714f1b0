import PredictiveParsing.Proofs.Associativity
import PredictiveParsing.Proofs.Identities
import PredictiveParsing.Proofs.Outcomes

/-!
# Looking without reading

`not` and `lookahead` are exact mirrors of their parser (`Rules.not_lookahead_mirror`). `not` has
its parser run on an untracked cursor, while elsewhere the same parser may run on a tracked one. A
run does not depend on the difference, and an untracked one leaves the record alone
(`Rules.ComesTo.untracked`): it gives untracked cursors only to what it runs, so nothing in it
records. What `and` does at the end of the input does not come between a mirror and its parser,
because there a parser that needs a symbol fails.
-/

namespace PredictiveParsing

variable {σ τ : Type} {ρ : Nat → Type} {S T α β : Type}

namespace Outcome

def untracked : Outcome σ α → Outcome σ α
  | .success a next => .success a next.untracked
  | .failure f => .failure f

def negated (c : Cursor) : Outcome σ α → Outcome σ Unit
  | .success _ _ => .failure ⟨c.position, .message "unexpected success"⟩
  | .failure _ => .success () c

def unread (c : Cursor) : Outcome σ α → Outcome σ α
  | .success a _ => .success a c
  | .failure f => .failure f

theorem Alike.eq_untracked {out₁ out₂ : Outcome σ α}
    (h : out₁.Alike (fun c₁ c₂ => c₂ = c₁.untracked) out₂) : out₂ = out₁.untracked := by
  cases h with
  | success hnext => exact congrArg _ hnext
  | failure => rfl

end Outcome

/-! ### Untracked cursors -/

namespace Session

variable [BEq σ] [Source S σ] [Source T σ] {rules : Rules σ ρ} {symbols : List σ}

def OnRecord (rules : Rules σ ρ) (symbols : List σ) (r : Option (Failure σ)) (s₁ : Session σ S)
    (s₂ : Session σ T) : Prop :=
  BothConsistent rules symbols s₁ s₂ ∧ s₂.recovered = r

/-- What two sessions answer alike without touching the record, they answer alike while it stays as
it is. -/
theorem simulates_onRecord {r : Option (Failure σ)} {F : Halt → Prop} {m₁ : Act (Session σ S) α}
    {m₂ : Act (Session σ T) β} {Q : α → β → Prop}
    (h : Simulates (BothConsistent rules symbols) F m₁ m₂ Q)
    (hr : Yields (fun s : Session σ T => s.recovered = r) (fun _ => True) m₂ fun _ => True) :
    Simulates (OnRecord rules symbols r) (fun _ => True) m₁ m₂ Q := by
  rintro s₁ s₂ ⟨hboth, hrecord⟩
  have hst := h s₁ s₂ hboth
  cases hm : m₁ s₁ with
  | error e s₁' => exact .inl trivial
  | ok a s₁' =>
      rw [hm] at hst
      obtain ⟨b, s₂', hm₂, hQ, hboth'⟩ := hst
      exact ⟨b, s₂', hm₂, hQ, hboth', (hr.of_ok hrecord hm₂).2⟩

/-- A session on untracked cursors answers as another one does on any, and records nothing. -/
theorem host_untracked (rules : Rules σ ρ) (symbols : List σ) (r : Option (Failure σ)) :
    (host (S := S) rules).Alike (host (S := T) rules) (OnRecord rules symbols r)
      (fun _ => True) fun c₁ c₂ => c₂ = c₁.untracked where
  cursor := ⟨fun _ _ h => h ▸ rfl, fun _ _ h => h ▸ rfl, fun _ _ h => congrArg _ h⟩
  symbolAt i s₁ s₂ hs := by
    have h := (host_alike rules symbols).symbolAt i s₁ s₂ hs.1
    exact ⟨h.1, h.2, hs.2⟩
  acceptsEmpty p := simulates_onRecord ((host_alike rules symbols).acceptsEmpty p)
    (Inquiry.act_yields (fun _ => trivial) (inquire_recovered r))
  firstSet p := simulates_onRecord ((host_alike rules symbols).firstSet p)
    (Inquiry.act_yields (fun _ => trivial) (inquire_recovered r))
  recover c₁ c₂ f hc s₁ s₂ hs := by
    -- Only the first session's record can change: `recover` looks at the cursor it is given.
    subst hc
    rw [recover_eq]
    refine ⟨(), s₂, recover_eq rules _ f s₂, trivial, ?_⟩
    cases c₁.tracked with
    | false => exact hs
    | true => exact ⟨⟨⟨hs.1.1.memory, hs.1.1.source⟩, hs.1.2⟩, hs.2⟩

end Session

namespace Rules

variable [BEq σ] {rules : Rules σ ρ} {symbols : List σ} {view : Option (Failure σ) → τ}
  {p : Parser σ ρ α} {q : Parser σ ρ β} {c next : Cursor} {out : Outcome σ α} {a : α}
  {f : Failure σ} {b : Bool} {set : SymbolSet σ}

/-- On an untracked cursor a parser comes to the same outcome, and leaves the record as it is. -/
theorem ComesTo.untracked (h : rules.ComesTo symbols p c out) :
    rules.EndsIn symbols id p c.untracked out.untracked := by
  obtain ⟨budget, s', hrun⟩ := h.exists_run
  have hs := Session.consistent_array rules symbols
  filter_upwards [Filter.eventually_ge_atTop budget] with budget' hle T _ t ht
  have hhosts := Session.host_untracked (S := Array σ) (T := T) rules symbols t.recovered
  have halike := rules.apply_alike hhosts trivial hle p c c.untracked rfl
  obtain ⟨out', t', hrun', hout, hboth, hrecord⟩ := halike.of_ok t ⟨⟨hs, ht⟩, rfl⟩ hrun
  rw [hout.eq_untracked] at hrun'
  exact ⟨t', hrun', hboth.2, hrecord⟩

/-! ### One combinator more -/

/-- The symbol at the cursor alone decides what a set of symbols comes to. -/
theorem endsIn_satisfy (rules : Rules σ ρ) (symbols : List σ) (view : Option (Failure σ) → τ)
    (set : SymbolSet σ) (c : Cursor) :
    rules.EndsIn symbols view (.satisfy set) c (match symbols[c.position]? with
      | none => .failure ⟨c.position, .endOfInput set⟩
      | some x =>
        if set.contains x then .success x c.advance
        else .failure ⟨c.position, .expected set⟩) := by
  filter_upwards [Filter.eventually_gt_atTop 0] with budget hpos S _
  obtain ⟨rounds, rfl⟩ := Nat.exists_eq_add_one.mpr hpos
  refine (Session.settled_current rules symbols view c).bind ?_
  cases symbols[c.position]? with
  | none => exact Session.settled_pure _
  | some x =>
      dsimp only
      split
      · exact Session.settled_pure _
      · exact Session.settled_pure _

theorem comesTo_satisfy {x : σ} (hx : symbols[c.position]? = some x)
    (hcontains : set.contains x = true) :
    rules.ComesTo symbols (.satisfy set) c (.success x c.advance) := by
  have houtcome := endsIn_satisfy rules symbols (fun _ => ()) set c
  simp only [hx, hcontains, if_true] at houtcome
  exact houtcome

theorem comesTo_satisfy_failure (hx : ∀ x ∈ symbols[c.position]?, set.contains x = false) :
    ∃ f, rules.ComesTo symbols (.satisfy set) c (.failure f) ∧ f.position = c.position := by
  have houtcome := endsIn_satisfy rules symbols (fun _ => ()) set c
  cases hsymbol : symbols[c.position]? with
  | none =>
      rw [hsymbol] at houtcome
      exact ⟨_, houtcome, rfl⟩
  | some x =>
      simp only [hsymbol, hx x hsymbol, Bool.false_eq_true, if_false] at houtcome
      exact ⟨_, houtcome, rfl⟩

theorem EndsIn.map (g : α → β) (h : rules.EndsIn symbols view p c out) :
    rules.EndsIn symbols view (p.map g) c (out.map g) := by
  filter_upwards [h, Filter.eventually_gt_atTop 0] with budget h hpos S _
  obtain ⟨rounds, rfl⟩ := Nat.exists_eq_add_one.mpr hpos
  exact (h S).bind (Session.settled_pure _)

theorem EndsIn.not (h : rules.EndsIn symbols view p c.untracked out) :
    rules.EndsIn symbols view p.not c (out.negated c) := by
  filter_upwards [h, Filter.eventually_gt_atTop 0] with budget h hpos S _
  obtain ⟨rounds, rfl⟩ := Nat.exists_eq_add_one.mpr hpos
  refine (h S).bind ?_
  cases out with
  | success a next => exact Session.settled_pure _
  | failure f => exact Session.settled_pure _

theorem EndsIn.lookahead (h : rules.EndsIn symbols view p c out) :
    rules.EndsIn symbols view p.lookahead c (out.unread c) := by
  filter_upwards [h, Filter.eventually_gt_atTop 0] with budget h hpos S _
  obtain ⟨rounds, rfl⟩ := Nat.exists_eq_add_one.mpr hpos
  refine (h S).bind ?_
  cases out with
  | success a next => exact Session.settled_pure _
  | failure f => exact Session.settled_pure _

/-- What comes second is not applied where the first one fails. -/
theorem EndsIn.and_failure (q : Parser σ ρ β) (h : rules.EndsIn symbols view p c (.failure f)) :
    rules.EndsIn symbols view (p.and q) c (.failure f) := by
  filter_upwards [h, Filter.eventually_gt_atTop 0] with budget h hpos S _
  obtain ⟨rounds, rfl⟩ := Nat.exists_eq_add_one.mpr hpos
  exact (h S).bind (Session.settled_pure _)

/-- Nor where the input ends before a symbol that it needs. -/
theorem EndsIn.and_ended (h : rules.EndsIn symbols view p c (.success a next))
    (hq : rules.Replies q false set) (hended : (symbols[next.position]?).isNone = true) :
    rules.EndsIn symbols view (p.and q) c (.failure ⟨next.position, .endOfInput set⟩) := by
  filter_upwards [h, Filter.eventually_gt_atTop 0] with budget h hpos S _
  obtain ⟨rounds, rfl⟩ := Nat.exists_eq_add_one.mpr hpos
  refine (h S).bind ?_
  refine (Session.settled_endsBefore hq.acceptsEmpty _ next).bind ?_
  rw [hended]
  exact (Session.settled_firstSet hq.firstSet).bind (Session.settled_pure _)

/-- Elsewhere it decides. -/
theorem EndsIn.and_success (h : rules.EndsIn symbols view p c (.success a next))
    (hempty : rules.AcceptsEmpty q b) (hruns : ((symbols[next.position]?).isNone && !b) = false)
    {out : Outcome σ β} (hq : rules.EndsIn symbols view q next out) :
    rules.EndsIn symbols view (p.and q) c (out.map (Prod.mk a)) := by
  filter_upwards [h, hq, Filter.eventually_gt_atTop 0] with budget h hq hpos S _
  obtain ⟨rounds, rfl⟩ := Nat.exists_eq_add_one.mpr hpos
  refine (h S).bind ?_
  refine (Session.settled_endsBefore hempty _ next).bind ?_
  rw [hruns]
  refine (hq S).bind ?_
  cases out with
  | success b next => exact Session.settled_pure _
  | failure f => exact Session.settled_pure _

/-! ### Mirrors -/

/-- A parser that is applied at the end of the input needs no symbol if it succeeds. -/
theorem ComesTo.runs (hp : rules.Throughout Parser.IsPremade p)
    (h : rules.ComesTo symbols p c (.success a next)) (hempty : rules.AcceptsEmpty p b) :
    ((symbols[c.position]?).isNone && !b) = false := by
  have hallows := h.allows hp.sure_of_isPremade
  cases b with
  | true => simp
  | false =>
      cases hsymbol : symbols[c.position]? with
      | some s => rfl
      | none => cases hallows.ok_eq_false (List.getElem?_eq_none_iff.mp hsymbol) hempty

/-- On any cursor where a parser comes to an outcome, tracked or not, and whatever is on record,
`not` of it succeeds where it began exactly if the outcome is a failure, and leaves the record as it
is. It is never followed by a success of the parser, while the parser behind `lookahead` of itself
comes to the same outcome as alone. -/
theorem not_lookahead_mirror (hp : rules.Throughout Parser.IsPremade p)
    (hcomputes : rules.Computes p) (h : rules.ComesTo symbols p c out) :
    rules.EndsIn symbols id p.not c (out.negated c) ∧
      (∃ f, rules.ComesTo symbols (p.not.andR p) c (.failure f)) ∧
      rules.ComesTo symbols (p.lookahead.andR p) c out := by
  obtain ⟨b, set, hreplies⟩ := hcomputes
  have hnot : rules.EndsIn symbols id p.not c (out.negated c) := by
    have hnot := h.untracked.not
    cases out with
    | success a next => exact hnot
    | failure f => exact hnot
  refine ⟨hnot, ?_, ?_⟩
  · cases out with
    | success a next => exact ⟨_, (hnot.comesTo.and_failure p).map Prod.snd⟩
    | failure f =>
        cases hruns : (symbols[c.position]?).isNone && !b with
        | false =>
            exact ⟨f, (hnot.comesTo.and_success hreplies.acceptsEmpty hruns h).map Prod.snd⟩
        | true =>
            -- `and` does not apply the parser here, but answers for it with a failure.
            rw [Bool.and_eq_true, Bool.not_eq_true'] at hruns
            obtain ⟨hended, rfl⟩ := hruns
            exact ⟨_, (hnot.comesTo.and_ended hreplies hended).map Prod.snd⟩
  · cases out with
    | success a next =>
        have hruns := h.runs hp hreplies.acceptsEmpty
        exact (h.lookahead.and_success hreplies.acceptsEmpty hruns h).map Prod.snd
    | failure f => exact (h.lookahead.and_failure p).map Prod.snd

/-- Either `abc` or `a`, on `abx` and a tracked cursor: the parser records how the first alternative
failed, and `not` of it does not. -/
theorem not_lookahead_mirror_alternatives :
    let p : Parser Char (fun _ => Unit) Char :=
      (((Parser.value 'a').andL (Parser.value 'b')).andL (Parser.value 'c')).or (Parser.value 'a')
    let s : Session Char (Array Char) := { source := #['a', 'b', 'x'] }
    let c : Cursor := ⟨0, true⟩
    ∃ s', Rules.empty.apply (Session.host Rules.empty) 1 p c s =
        .ok (.success 'a' ⟨1, true⟩) s' ∧ s'.recovered.isSome = true ∧
      Rules.empty.EndsIn ['a', 'b', 'x'] id p.not c
        (.failure ⟨0, .message "unexpected success"⟩) ∧
      Rules.empty.ComesTo ['a', 'b', 'x'] (p.lookahead.andR p) c (.success 'a' ⟨1, true⟩) := by
  intro p s c
  have hpremade : Rules.empty.Throughout Parser.IsPremade p := by
    constructor
    · repeat' constructor
    · exact nofun
  have hs : s.Consistent (Rules.empty : Rules Char fun _ => Unit) ['a', 'b', 'x'] :=
    Session.consistent_start (Source.holds_array #['a', 'b', 'x'])
  have hrun : ∃ s', Rules.empty.apply (Session.host Rules.empty) 1 p c s =
      .ok (.success 'a' ⟨1, true⟩) s' ∧ s'.recovered.isSome = true := ⟨_, rfl, rfl⟩
  obtain ⟨s', hrun, hrecord⟩ := hrun
  obtain ⟨hnot, _, hlookahead⟩ :=
    not_lookahead_mirror hpremade ⟨_, _, rfl, rfl⟩ (comesTo_of_run 1 hs hrun)
  exact ⟨s', hrun, hrecord, hnot, hlookahead⟩

end Rules

end PredictiveParsing
