import PredictiveParsing.Proofs.Formulas
import PredictiveParsing.Proofs.Host
import Mathlib.Data.Fintype.Card
import Mathlib.Data.Set.Finite.Basic
import Mathlib.Logic.Relation

/-!
# Left recursion

A rule is left-recursive when it can apply itself again at the position where it began.
`Enters p i` says that a parser can apply rule `i` where it begins, and one rule leads to
another when its body enters it.

A grammar is asked what its parser begins on before any input is looked at, and the
formulas of the first sets enter rules as runs do, with three exceptions: they pass by the
operand of a `not`, by the first parser of a `flatMap` that accepts empty input, and by
the operator of a chain. These are the hidden applications. Without them, asking fails
exactly where a rule leads to itself: an answer needs a longer chain of rules than the
answers it is put together from, so there is none on a cycle, and since there are finitely
many rules, a parser without an answer leads to a cycle.
-/

namespace PredictiveParsing

variable {σ : Type} {ρ : Nat → Type} {S α β : Type}

namespace Rules

def IsAssigned (rules : Rules σ ρ) : (α : Type) → Parser σ ρ α → Prop
  | _, .rule i => (rules.body? i).isSome
  | _, _ => True

/-- The parser can apply the rule at the position where it begins. The applications that first sets
pass by count if `hidden` holds. -/
inductive Enters (rules : Rules σ ρ) (hidden : Prop) :
    {α : Type} → Parser σ ρ α → Nat → Prop where
  | rule {i : Nat} : Enters rules hidden (.rule i) i
  | map {α β : Type} {f : α → β} {p : Parser σ ρ α} {i : Nat} :
      Enters rules hidden p i → Enters rules hidden (.map f p) i
  | tryMap {α β : Type} {f : α → Except String β} {p : Parser σ ρ α} {i : Nat} :
      Enters rules hidden p i → Enters rules hidden (.tryMap f p) i
  | label {α : Type} {name : String} {p : Parser σ ρ α} {i : Nat} :
      Enters rules hidden p i → Enters rules hidden (.label name p) i
  | recording {α : Type} {f : Failure σ} {p : Parser σ ρ α} {i : Nat} :
      Enters rules hidden p i → Enters rules hidden (.recording f p) i
  | andLeft {α β : Type} {p : Parser σ ρ α} {q : Parser σ ρ β} {i : Nat} :
      Enters rules hidden p i → Enters rules hidden (.and p q) i
  | andRight {α β : Type} {p : Parser σ ρ α} {q : Parser σ ρ β} {i : Nat} :
      rules.AcceptsEmpty p true → Enters rules hidden q i → Enters rules hidden (.and p q) i
  | orLeft {α : Type} {p q : Parser σ ρ α} {i : Nat} :
      Enters rules hidden p i → Enters rules hidden (.or p q) i
  | orRight {α : Type} {p q : Parser σ ρ α} {i : Nat} :
      Enters rules hidden q i → Enters rules hidden (.or p q) i
  | flatMap {α β : Type} {p : Parser σ ρ α} {k : α → Parser σ ρ β} {i : Nat} :
      hidden ∨ ¬rules.AcceptsEmpty p true → Enters rules hidden p i →
        Enters rules hidden (.flatMap p k) i
  | lookahead {α : Type} {p : Parser σ ρ α} {i : Nat} :
      Enters rules hidden p i → Enters rules hidden (.lookahead p) i
  | not {α : Type} {p : Parser σ ρ α} {i : Nat} :
      hidden → Enters rules hidden p i → Enters rules hidden (.not p) i
  | optional {α : Type} {p : Parser σ ρ α} {i : Nat} :
      Enters rules hidden p i → Enters rules hidden (.optional p) i
  | sequence {α : Type} {n : Nat} {ps : Fin n → Parser σ ρ α} {k : Fin n} {i : Nat} :
      (∀ j < k, rules.AcceptsEmpty (ps j) true) → Enters rules hidden (ps k) i →
        Enters rules hidden (.sequence ps) i
  | many {α : Type} {p : Parser σ ρ α} {i : Nat} :
      Enters rules hidden p i → Enters rules hidden (.many p) i
  | many1 {α : Type} {p : Parser σ ρ α} {i : Nat} :
      Enters rules hidden p i → Enters rules hidden (.many1 p) i
  | skipMany {α : Type} {p : Parser σ ρ α} {i : Nat} :
      Enters rules hidden p i → Enters rules hidden (.skipMany p) i
  | times {α : Type} {min max : Nat} {p : Parser σ ρ α} {i : Nat} :
      0 < max → Enters rules hidden p i → Enters rules hidden (.times min max p) i
  | manyTillStop {α ε : Type} {p : Parser σ ρ α} {stop : Parser σ ρ ε} {i : Nat} :
      Enters rules hidden stop i → Enters rules hidden (.manyTill p stop) i
  | manyTillRound {α ε : Type} {p : Parser σ ρ α} {stop : Parser σ ρ ε} {i : Nat} :
      Enters rules hidden p i → Enters rules hidden (.manyTill p stop) i
  | chainOperand {α : Type} {side : Side} {p : Parser σ ρ α} {op : Parser σ ρ (α → α → α)}
      {i : Nat} : Enters rules hidden p i → Enters rules hidden (.chain side p op) i
  | chainOp {α : Type} {side : Side} {p : Parser σ ρ α} {op : Parser σ ρ (α → α → α)} {i : Nat} :
      hidden → rules.AcceptsEmpty p true → Enters rules hidden op i →
        Enters rules hidden (.chain side p op) i

def Leads (rules : Rules σ ρ) (hidden : Prop) (i j : Nat) : Prop :=
  ∃ body, rules.body? i = some body ∧ rules.Enters hidden body j

/-- The rule can apply itself again at the position where it began. -/
def LeftRecursive (rules : Rules σ ρ) (hidden : Prop) (i : Nat) : Prop :=
  Relation.TransGen (rules.Leads hidden) i i

/-- The parser begins with a left-recursive rule, through any number of others. -/
def BeginsLeftRecursive (rules : Rules σ ρ) (hidden : Prop) (p : Parser σ ρ α) : Prop :=
  ∃ i j, rules.Enters hidden p i ∧ Relation.ReflTransGen (rules.Leads hidden) i j ∧
    rules.LeftRecursive hidden j

variable {rules : Rules σ ρ} {p : Parser σ ρ α} {i j : Nat}

theorem Enters.isSome_body? {hidden : Prop} (h : rules.Enters hidden p i)
    (hp : p.Everywhere rules.IsAssigned) : (rules.body? i).isSome := by
  induction h with
  | rule => exact hp
  | map _ ih | tryMap _ ih | label _ ih | recording _ ih | lookahead _ ih | not _ _ ih
  | optional _ ih | many _ ih | many1 _ ih | skipMany _ ih | times _ _ ih => exact ih hp.2
  | andLeft _ ih | orLeft _ ih | flatMap _ _ ih | manyTillRound _ ih | chainOperand _ ih =>
      exact ih hp.2.1
  | andRight _ _ ih | orRight _ ih | manyTillStop _ ih | chainOp _ _ _ ih => exact ih hp.2.2
  | @sequence _ _ _ k _ _ _ ih => exact ih (hp.2 k)

/-! ### On a cycle there is no answer -/

section First

variable [BEq σ] {d : Nat} {set : SymbolSet σ}

theorem exists_firstWithin_of_firstOfAll {ps : List (Parser σ ρ α)} {acc : SymbolSet σ}
    (h : rules.FirstOfAll d acc ps set) {k : Nat} (hk : k < ps.length)
    (hbefore : ∀ m (hm : m < k), rules.AcceptsEmpty ps[m] true) :
    ∃ s, rules.FirstWithin d ps[k] s := by
  induction ps generalizing acc k with
  | nil => exact absurd hk (Nat.not_lt_zero k)
  | cons p ps ih =>
      obtain ⟨first, hfirst, hrest⟩ := firstOfAll_cons.mp h
      cases k with
      | zero => exact ⟨first, hfirst⟩
      | succ k =>
          have hp : rules.AcceptsEmpty p true := hbefore 0 (Nat.succ_pos k)
          rcases hrest with ⟨_, hps⟩ | ⟨hfalse, _⟩
          · refine ih hps (Nat.lt_of_succ_lt_succ hk) ?_
            intro m hm
            exact hbefore (m + 1) (Nat.succ_lt_succ hm)
          · cases hp.unique hfalse

/-- A parser that can say on which symbols it begins has had the answer of every rule it enters,
the hidden applications apart. -/
theorem Enters.exists_firstWithin (h : rules.Enters False p i) (hp : rules.FirstWithin d p set) :
    ∃ s, rules.firstWithin d i () = .ok s () := by
  induction h generalizing set with
  | rule => exact ⟨set, hp⟩
  | map _ ih | tryMap _ ih | recording _ ih | lookahead _ ih | optional _ ih | many _ ih
  | many1 _ ih | skipMany _ ih | chainOperand _ ih => exact ih hp
  | label _ ih =>
      obtain ⟨first, hfirst, _⟩ := firstWithin_label.mp hp
      exact ih hfirst
  | andLeft _ ih =>
      rcases firstWithin_and.mp hp with ⟨_, hl⟩ | ⟨_, l, r, hl, _⟩
      · exact ih hl
      · exact ih hl
  | andRight htrue _ ih =>
      rcases firstWithin_and.mp hp with ⟨hfalse, _⟩ | ⟨_, l, r, _, hr, _⟩
      · cases htrue.unique hfalse
      · exact ih hr
  | orLeft _ ih =>
      obtain ⟨l, r, hl, _⟩ := firstWithin_or.mp hp
      exact ih hl
  | orRight _ ih =>
      obtain ⟨l, r, _, hr, _⟩ := firstWithin_or.mp hp
      exact ih hr
  | flatMap hneeds _ ih =>
      rcases firstWithin_flatMap.mp hp with ⟨htrue, _⟩ | ⟨_, hl⟩
      · exact absurd htrue (hneeds.resolve_left id)
      · exact ih hl
  | not hhidden | chainOp hhidden => exact hhidden.elim
  | @sequence _ n ps k _ hbefore _ ih =>
      have hk : k.val < (List.ofFn ps).length := by simp
      obtain ⟨s, hs⟩ := exists_firstWithin_of_firstOfAll (firstWithin_sequence.mp hp) hk (by
        intro m hm
        rw [List.getElem_ofFn]
        exact hbefore _ hm)
      rw [List.getElem_ofFn] at hs
      exact ih hs
  | times hmax _ ih =>
      rw [firstWithin_times, if_neg (Nat.pos_iff_ne_zero.mp hmax)] at hp
      exact ih hp
  | manyTillStop _ ih =>
      obtain ⟨l, r, hl, _⟩ := firstWithin_manyTill.mp hp
      exact ih hl
  | manyTillRound _ ih =>
      obtain ⟨l, r, _, hr, _⟩ := firstWithin_manyTill.mp hp
      exact ih hr

def Answers (rules : Rules σ ρ) (d i : Nat) : Prop := ∃ s, rules.firstWithin d i () = .ok s ()

theorem Leads.exists_answers_lt (h : rules.Leads False i j) (hi : rules.Answers d i) :
    ∃ d' < d, rules.Answers d' j := by
  obtain ⟨body, hbody, henters⟩ := h
  obtain ⟨s, hs⟩ := hi
  cases d with
  | zero => exact absurd hs (firstWithin_zero i s)
  | succ d =>
      obtain ⟨body', hbody', hfirst⟩ := firstWithin_succ_ok_iff.mp hs
      obtain rfl : body = body' := Option.some.inj (hbody.symm.trans hbody')
      exact ⟨d, Nat.lt_succ_self d, henters.exists_firstWithin hfirst⟩

theorem exists_answers_of_reaches (h : Relation.ReflTransGen (rules.Leads False) i j)
    (hi : rules.Answers d i) : ∃ d', rules.Answers d' j := by
  induction h with
  | refl => exact ⟨d, hi⟩
  | tail _ hstep ih =>
      obtain ⟨d', hd'⟩ := ih
      obtain ⟨d'', _, hd''⟩ := hstep.exists_answers_lt hd'
      exact ⟨d'', hd''⟩

/-- Along a chain of rules the answers need fewer and fewer rules. -/
theorem exists_answers_lt_of_transGen (h : Relation.TransGen (rules.Leads False) i j)
    (hi : rules.Answers d i) : ∃ d' < d, rules.Answers d' j := by
  induction h with
  | single hstep => exact hstep.exists_answers_lt hi
  | tail _ hstep ih =>
      obtain ⟨d', hlt', hd'⟩ := ih
      obtain ⟨d'', hlt'', hd''⟩ := hstep.exists_answers_lt hd'
      exact ⟨d'', hlt''.trans hlt', hd''⟩

theorem LeftRecursive.not_answers (h : rules.LeftRecursive False i) (d : Nat) :
    ¬rules.Answers d i := by
  induction d using Nat.strong_induction_on with
  | _ d ih =>
      intro hi
      obtain ⟨d', hlt, hd'⟩ := exists_answers_lt_of_transGen h hi
      exact ih d' hlt hd'

theorem BeginsLeftRecursive.not_firstSet (h : rules.BeginsLeftRecursive False p)
    (set : SymbolSet σ) : ¬rules.FirstSet p set := by
  intro hp
  obtain ⟨i, j, henters, hreaches, hj⟩ := h
  obtain ⟨d, hd⟩ := exists_answers_of_reaches hreaches (henters.exists_firstWithin hp)
  exact hj.not_answers d hd

/-! ### Without an answer there is a cycle -/

theorem exists_firstOfAll_of_each {ps : List (Parser σ ρ α)} (acc : SymbolSet σ)
    (hfirst : ∀ k (hk : k < ps.length), (∀ m (hm : m < k), rules.AcceptsEmpty ps[m] true) →
      ∃ s, rules.FirstWithin d ps[k] s)
    (hempty : ∀ p ∈ ps, ∀ s, rules.FirstWithin d p s → ∃ b, rules.AcceptsEmpty p b) :
    ∃ set, rules.FirstOfAll d acc ps set := by
  induction ps generalizing acc with
  | nil => exact ⟨acc, firstOfAll_nil.mpr rfl⟩
  | cons p ps ih =>
      rw [List.forall_mem_cons] at hempty
      obtain ⟨first, hp⟩ := hfirst 0 (Nat.succ_pos _) nofun
      obtain ⟨b, hb⟩ := hempty.1 first hp
      cases b with
      | false => exact ⟨_, firstOfAll_cons.mpr ⟨first, hp, .inr ⟨hb, rfl⟩⟩⟩
      | true =>
          have hrest : ∀ k (hk : k < ps.length),
              (∀ m (hm : m < k), rules.AcceptsEmpty ps[m] true) →
                ∃ s, rules.FirstWithin d ps[k] s := by
            intro k hk hbefore
            refine hfirst (k + 1) (Nat.succ_lt_succ hk) ?_
            intro m hm
            cases m with
            | zero => exact hb
            | succ m => exact hbefore m (Nat.lt_of_succ_lt_succ hm)
          obtain ⟨set, hset⟩ := ih (acc.union first) hrest hempty.2
          exact ⟨set, firstOfAll_cons.mpr ⟨first, hp, .inl ⟨hb, hset⟩⟩⟩

/-- A parser can say on which symbols it begins if every rule that it enters can, the hidden
applications apart. -/
theorem exists_firstWithin_of_enters (hp : p.Everywhere Parser.BoundsInOrder)
    (hrules : ∀ i body, rules.body? i = some body → body.Everywhere Parser.BoundsInOrder)
    (h : ∀ i, rules.Enters False p i → rules.Answers d i) :
    ∃ set, rules.FirstWithin d p set := by
  induction p with
  | pure | fail | eof | satisfy | literal | longest | not | declared => exact ⟨_, rfl⟩
  | map _ _ ih => exact ih hp.2 fun i hi => h i hi.map
  | tryMap _ _ ih => exact ih hp.2 fun i hi => h i hi.tryMap
  | lookahead _ ih => exact ih hp.2 fun i hi => h i hi.lookahead
  | optional _ ih => exact ih hp.2 fun i hi => h i hi.optional
  | many _ ih => exact ih hp.2 fun i hi => h i hi.many
  | many1 _ ih => exact ih hp.2 fun i hi => h i hi.many1
  | skipMany _ ih => exact ih hp.2 fun i hi => h i hi.skipMany
  | recording _ _ ih => exact ih hp.2 fun i hi => h i hi.recording
  | chain _ _ _ ih => exact ih hp.2.1 fun i hi => h i hi.chainOperand
  | label name p ih =>
      obtain ⟨first, hfirst⟩ := ih hp.2 fun i hi => h i hi.label
      exact ⟨_, firstWithin_label.mpr ⟨first, hfirst, rfl⟩⟩
  | and p q ihp ihq =>
      obtain ⟨l, hl⟩ := ihp hp.2.1 fun i hi => h i hi.andLeft
      obtain ⟨b, hb⟩ := exists_acceptsEmpty hp.2.1 hrules hl
      cases b with
      | false => exact ⟨l, firstWithin_and.mpr (.inl ⟨hb, hl⟩)⟩
      | true =>
          obtain ⟨r, hr⟩ := ihq hp.2.2 fun i hi => h i (.andRight hb hi)
          exact ⟨_, firstWithin_and.mpr (.inr ⟨hb, l, r, hl, hr, rfl⟩)⟩
  | or p q ihp ihq =>
      obtain ⟨l, hl⟩ := ihp hp.2.1 fun i hi => h i hi.orLeft
      obtain ⟨r, hr⟩ := ihq hp.2.2 fun i hi => h i hi.orRight
      exact ⟨_, firstWithin_or.mpr ⟨l, r, hl, hr, rfl⟩⟩
  | flatMap p k ihp _ =>
      by_cases htrue : rules.AcceptsEmpty p true
      · exact ⟨.all, firstWithin_flatMap.mpr (.inl ⟨htrue, rfl⟩)⟩
      · obtain ⟨s, hs⟩ := ihp hp.2.1 fun i hi => h i (.flatMap (.inr htrue) hi)
        obtain ⟨b, hb⟩ := exists_acceptsEmpty hp.2.1 hrules hs
        cases b with
        | false => exact ⟨s, firstWithin_flatMap.mpr (.inr ⟨hb, hs⟩)⟩
        | true => exact absurd hb htrue
  | sequence ps ih =>
      have hfirst : ∀ k (hk : k < (List.ofFn ps).length),
          (∀ m (hm : m < k), rules.AcceptsEmpty (List.ofFn ps)[m] true) →
            ∃ s, rules.FirstWithin d (List.ofFn ps)[k] s := by
        intro k hk hbefore
        rw [List.getElem_ofFn]
        refine ih _ (hp.2 _) fun i hi => h i (.sequence ?_ hi)
        intro j hj
        have hempty := hbefore j hj
        rw [List.getElem_ofFn] at hempty
        exact hempty
      obtain ⟨set, hset⟩ := exists_firstOfAll_of_each .empty hfirst (by
        intro q hq s hs
        obtain ⟨k, rfl⟩ := List.mem_ofFn.mp hq
        exact exists_acceptsEmpty (hp.2 k) hrules hs)
      exact ⟨set, firstWithin_sequence.mpr hset⟩
  | times min max p ih =>
      by_cases hmax : max = 0
      · exact ⟨.empty, by rw [firstWithin_times, if_pos hmax]⟩
      · obtain ⟨s, hs⟩ := ih hp.2 fun i hi => h i (.times (Nat.pos_of_ne_zero hmax) hi)
        exact ⟨s, by rwa [firstWithin_times, if_neg hmax]⟩
  | manyTill p stop ihp ihs =>
      obtain ⟨l, hl⟩ := ihs hp.2.2 fun i hi => h i hi.manyTillStop
      obtain ⟨r, hr⟩ := ihp hp.2.1 fun i hi => h i hi.manyTillRound
      exact ⟨_, firstWithin_manyTill.mpr ⟨l, r, hl, hr, rfl⟩⟩
  | rule i => exact h i .rule

/-- A rule that is assigned and has no answer leads to another such rule. -/
theorem exists_leads_of_not_answers
    (hrules : ∀ i body, rules.body? i = some body → body.Everywhere Parser.BoundsInOrder)
    (hi : (rules.body? i).isSome) (h : ¬rules.Answers rules.size i) :
    ∃ j, rules.Leads False i j ∧ ¬rules.Answers rules.size j := by
  obtain ⟨body, hbody⟩ := Option.isSome_iff_exists.mp hi
  by_contra hall
  push Not at hall
  obtain ⟨set, hset⟩ := exists_firstWithin_of_enters (hrules i body hbody) hrules
    fun j hj => hall j ⟨body, hbody, hj⟩
  exact h ⟨set, firstSet_rule.mpr ⟨body, hbody, hset⟩⟩

end First

/-- Rules that lead on to each other forever come back to one of them, since there are finitely
many. -/
theorem exists_leftRecursive_of_leads {hidden : Prop} {P : Nat → Prop}
    (hsize : ∀ i, P i → i < rules.size) (hnext : ∀ i, P i → ∃ j, rules.Leads hidden i j ∧ P j)
    (hi : P i) : ∃ j, P j ∧ rules.LeftRecursive hidden j := by
  by_contra hnone
  push Not at hnone
  let Behind (k j : {j // P j}) : Prop := Relation.TransGen (rules.Leads hidden) j.1 k.1
  have hfinite : Finite {j // P j} := (Set.finite_lt_nat rules.size).subset hsize
  have hirrefl : Std.Irrefl Behind := ⟨fun j => hnone j.1 j.2⟩
  have htrans : IsTrans {j // P j} Behind := ⟨fun _ _ _ hab hbc => hbc.trans hab⟩
  have hwf : WellFounded Behind := Finite.wellFounded_of_trans_of_irrefl Behind
  refine hwf.induction (C := fun _ => False) ⟨i, hi⟩ ?_
  intro j ih
  obtain ⟨k, hleads, hk⟩ := hnext j.1 j.2
  exact ih ⟨k, hk⟩ (.single hleads)

/-- Without left recursion a parser of an assigned grammar can say on which symbols it begins. -/
theorem exists_firstSet_of_not_beginsLeftRecursive [BEq σ]
    (hassigned : rules.Throughout rules.IsAssigned p)
    (hbounds : rules.Throughout Parser.BoundsInOrder p)
    (h : ¬rules.BeginsLeftRecursive False p) : ∃ set, rules.FirstSet p set := by
  refine exists_firstWithin_of_enters hbounds.start hbounds.body ?_
  intro i henters
  by_contra hi
  let Lost (j : Nat) : Prop := Relation.ReflTransGen (rules.Leads False) i j ∧
    (rules.body? j).isSome ∧ ¬rules.Answers rules.size j
  have hsize : ∀ j, Lost j → j < rules.size := by
    rintro j ⟨_, hj, _⟩
    obtain ⟨body, hbody⟩ := Option.isSome_iff_exists.mp hj
    exact lt_size_of_body? hbody
  have hnext : ∀ j, Lost j → ∃ k, rules.Leads False j k ∧ Lost k := by
    rintro j ⟨hreaches, hj, hlost⟩
    obtain ⟨k, hleads, hk⟩ := exists_leads_of_not_answers hbounds.body hj hlost
    refine ⟨k, hleads, hreaches.tail hleads, ?_, hk⟩
    obtain ⟨body, hbody, henters⟩ := hleads
    exact henters.isSome_body? (hassigned.body j body hbody)
  obtain ⟨j, hj, hcycle⟩ := exists_leftRecursive_of_leads hsize hnext
    ⟨.refl, henters.isSome_body? hassigned.start, hi⟩
  exact h ⟨i, j, henters, hj.1, hcycle⟩

end Rules

/-! ### Nothing else can go wrong -/

/-- Whatever the state is, the inquiry has an answer or stops with left recursion. -/
def Inquiry.OnlyRecurses {κ : Type} (q : Inquiry κ α) : Prop :=
  Yields (fun _ => True) (fun e => ∃ property, e = Misuse.leftRecursion property) q fun _ => True

namespace Inquiry.OnlyRecurses

variable {κ : Type}

protected theorem pure (a : α) : (pure a : Inquiry κ α).OnlyRecurses := Yields.pure trivial

protected theorem throw (property : Property) :
    (throw (.leftRecursion property) : Inquiry κ α).OnlyRecurses := Yields.throw ⟨property, rfl⟩

theorem bind {q : Inquiry κ α} {f : α → Inquiry κ β} (h : q.OnlyRecurses)
    (hf : ∀ a, (f a).OnlyRecurses) : (q >>= f).OnlyRecurses :=
  Yields.bind h fun a _ => hf a

theorem all {qs : List (Inquiry κ Bool)} (h : ∀ q ∈ qs, q.OnlyRecurses) :
    (Inquiry.all qs).OnlyRecurses := by
  induction qs with
  | nil => exact .pure true
  | cons q qs ih =>
      rw [List.forall_mem_cons] at h
      refine h.1.bind ?_
      intro b
      cases b with
      | true => exact ih h.2
      | false => exact .pure false

theorem unionUpToNonempty {qs : List (Inquiry κ (SymbolSet σ) × Inquiry κ Bool)}
    (h : ∀ q ∈ qs, q.1.OnlyRecurses ∧ q.2.OnlyRecurses) (acc : SymbolSet σ) :
    (Inquiry.unionUpToNonempty acc qs).OnlyRecurses := by
  induction qs generalizing acc with
  | nil => exact .pure acc
  | cons q qs ih =>
      rw [List.forall_mem_cons] at h
      refine h.1.1.bind ?_
      intro first
      refine h.1.2.bind ?_
      intro b
      cases b with
      | true => exact ih h.2 _
      | false => exact .pure _

theorem consult {question : Property × Nat} {known? : Memory σ → Option α}
    {remember : α → Memory σ → Memory σ} {compute : Inquiry (Memory σ) α}
    (h : compute.OnlyRecurses) :
    (Memory.consult question known? remember compute).OnlyRecurses := by
  intro m _
  unfold Memory.consult
  cases known? m with
  | some a => exact ⟨trivial, trivial⟩
  | none =>
      dsimp only
      cases m.inProgress.contains question with
      | true => exact ⟨question.1, rfl⟩
      | false =>
          have hst := h { m with inProgress := question :: m.inProgress } trivial
          rw [if_neg Bool.false_ne_true]
          cases hr : compute { m with inProgress := question :: m.inProgress } with
          | ok a m' => exact ⟨trivial, trivial⟩
          | error e m' =>
              rw [hr] at hst
              exact hst

end Inquiry.OnlyRecurses

namespace Parser

variable {rules : Rules σ ρ} {κ : Type}

theorem acceptsEmpty_onlyRecurses {rule : Nat → Inquiry κ Bool}
    (hrule : ∀ i, (rules.body? i).isSome → (rule i).OnlyRecurses) {p : Parser σ ρ α}
    (hp : p.Everywhere rules.IsAssigned) : (p.acceptsEmpty rule).OnlyRecurses := by
  induction p with
  | pure | fail | eof | satisfy | literal | longest | lookahead | not | optional | many
  | skipMany | declared => exact .pure _
  | map _ _ ih | tryMap _ _ ih | label _ _ ih | many1 _ ih | recording _ _ ih => exact ih hp.2
  | flatMap _ _ ih | chain _ _ _ ih => exact ih hp.2.1
  | manyTill _ _ _ ih => exact ih hp.2.2
  | and p q ihp ihq =>
      refine (ihp hp.2.1).bind ?_
      intro b
      cases b with
      | true => exact ihq hp.2.2
      | false => exact .pure false
  | or p q ihp ihq =>
      refine (ihp hp.2.1).bind ?_
      intro b
      cases b with
      | true => exact .pure true
      | false => exact ihq hp.2.2
  | sequence ps ih =>
      rw [acceptsEmpty_sequence]
      refine .all ?_
      intro q hq
      obtain ⟨r, hr, rfl⟩ := List.mem_map.mp hq
      obtain ⟨i, rfl⟩ := List.mem_ofFn.mp hr
      exact ih i (hp.2 i)
  | times min max p ih =>
      rw [acceptsEmpty_times]
      split
      · exact .pure true
      · exact ih hp.2
  | rule i => exact hrule i hp

theorem firstSet_onlyRecurses [BEq σ] {ruleEmpty : Nat → Inquiry κ Bool}
    {rule : Nat → Inquiry κ (SymbolSet σ)}
    (hempty : ∀ i, (rules.body? i).isSome → (ruleEmpty i).OnlyRecurses)
    (hrule : ∀ i, (rules.body? i).isSome → (rule i).OnlyRecurses) {p : Parser σ ρ α}
    (hp : p.Everywhere rules.IsAssigned) : (p.firstSet ruleEmpty rule).OnlyRecurses := by
  induction p with
  | pure | fail | eof | satisfy | literal | longest | not | declared => exact .pure _
  | map _ _ ih | tryMap _ _ ih | lookahead _ ih | optional _ ih | many _ ih | many1 _ ih
  | skipMany _ ih | recording _ _ ih => exact ih hp.2
  | chain _ _ _ ih => exact ih hp.2.1
  | and p q ihp ihq =>
      refine (acceptsEmpty_onlyRecurses hempty hp.2.1).bind ?_
      intro b
      cases b with
      | false => exact ihp hp.2.1
      | true => exact (ihp hp.2.1).bind fun _ => (ihq hp.2.2).bind fun _ => .pure _
  | or p q ihp ihq => exact (ihp hp.2.1).bind fun _ => (ihq hp.2.2).bind fun _ => .pure _
  | flatMap p k ih =>
      refine (acceptsEmpty_onlyRecurses hempty hp.2.1).bind ?_
      intro b
      cases b with
      | true => exact .pure _
      | false => exact ih hp.2.1
  | label name p ih => exact (ih hp.2).bind fun _ => .pure _
  | sequence ps ih =>
      rw [firstSet_sequence]
      refine .unionUpToNonempty ?_ _
      intro q hq
      obtain ⟨r, hr, rfl⟩ := List.mem_map.mp hq
      obtain ⟨i, rfl⟩ := List.mem_ofFn.mp hr
      exact ⟨ih i (hp.2 i), acceptsEmpty_onlyRecurses hempty (hp.2 i)⟩
  | times min max p ih =>
      rw [firstSet_times]
      split
      · exact .pure _
      · exact ih hp.2
  | manyTill p stop ihp ihs =>
      exact (ihs hp.2.2).bind fun _ => (ihp hp.2.1).bind fun _ => .pure _
  | rule i => exact hrule i hp

end Parser

namespace Memory

variable {rules : Rules σ ρ} {p : Parser σ ρ α}

theorem ruleAcceptsEmpty_onlyRecurses
    (hbody : ∀ i body, rules.body? i = some body → body.Everywhere rules.IsAssigned)
    (depth i : Nat) (hi : (rules.body? i).isSome) :
    (ruleAcceptsEmpty rules depth i).OnlyRecurses := by
  obtain ⟨body, hbodyi⟩ := Option.isSome_iff_exists.mp hi
  induction depth generalizing i body with
  | zero =>
      unfold ruleAcceptsEmpty
      rw [hbodyi]
      exact .consult (.throw _)
  | succ depth ih =>
      unfold ruleAcceptsEmpty
      rw [hbodyi]
      refine .consult (Parser.acceptsEmpty_onlyRecurses ?_ (hbody i body hbodyi))
      intro j hj
      obtain ⟨body', hbodyj⟩ := Option.isSome_iff_exists.mp hj
      exact ih j hj body' hbodyj

theorem ruleFirstSet_onlyRecurses [BEq σ]
    (hbody : ∀ i body, rules.body? i = some body → body.Everywhere rules.IsAssigned)
    (depth i : Nat) (hi : (rules.body? i).isSome) :
    (ruleFirstSet rules depth i).OnlyRecurses := by
  obtain ⟨body, hbodyi⟩ := Option.isSome_iff_exists.mp hi
  induction depth generalizing i body with
  | zero =>
      unfold ruleFirstSet
      rw [hbodyi]
      exact .consult (.throw _)
  | succ depth ih =>
      unfold ruleFirstSet
      rw [hbodyi]
      refine .consult (Parser.firstSet_onlyRecurses
        (fun j hj => ruleAcceptsEmpty_onlyRecurses hbody _ j hj) ?_ (hbody i body hbodyi))
      intro j hj
      obtain ⟨body', hbodyj⟩ := Option.isSome_iff_exists.mp hj
      exact ih j hj body' hbodyj

theorem askAcceptsEmpty_onlyRecurses (hp : rules.Throughout rules.IsAssigned p) :
    (askAcceptsEmpty rules p).OnlyRecurses :=
  Parser.acceptsEmpty_onlyRecurses (fun i hi => ruleAcceptsEmpty_onlyRecurses hp.body _ i hi)
    hp.start

theorem askFirstSet_onlyRecurses [BEq σ] (hp : rules.Throughout rules.IsAssigned p) :
    (askFirstSet rules p).OnlyRecurses :=
  Parser.firstSet_onlyRecurses (fun i hi => ruleAcceptsEmpty_onlyRecurses hp.body _ i hi)
    (fun i hi => ruleFirstSet_onlyRecurses hp.body _ i hi) hp.start

end Memory

/-! ### Parsing -/

namespace Session

variable {q : Inquiry (Memory σ) α} {a : α} {e : Misuse} {m : Memory σ}

theorem act_inquire_of_ok (s : Session σ S) (h : q s.memory = .ok a m) :
    (inquire q).act s = .ok a { s with memory := m } := by
  unfold Inquiry.act
  rw [inquire_of_ok h]

theorem act_inquire_of_error (s : Session σ S) (h : q s.memory = .error e m) :
    (inquire q).act s = .error (.misuse e) { s with memory := m } := by
  unfold Inquiry.act
  rw [inquire_of_error h]

end Session

namespace Rules

variable [BEq σ] [Source S σ] {rules : Rules σ ρ} {p : Parser σ ρ α}

/-- A grammar that begins with a left-recursive rule is refused whatever the input is, before it is
looked at; any other grammar has both answers and goes on to the input. The hidden applications do
not count: a rule that leads to itself only through one of them is not refused. -/
theorem parse_refuses_leftRecursive (hassigned : rules.Throughout rules.IsAssigned p)
    (hbounds : rules.Throughout Parser.BoundsInOrder p) {s : Session σ S}
    (hs : Memory.Working rules [] s.memory) (budget : Nat) (c : Cursor) :
    (rules.BeginsLeftRecursive False p →
      ∃ property m, rules.parse (Session.host rules) budget p c s =
        .error (.misuse (.leftRecursion property)) { s with memory := m }) ∧
    (¬rules.BeginsLeftRecursive False p →
      ∃ b m set m', Memory.askAcceptsEmpty rules p s.memory = .ok b m ∧
        Memory.askFirstSet rules p m = .ok set m') := by
  constructor
  · intro hleft
    cases hempty : Memory.askAcceptsEmpty rules p s.memory with
    | error e m =>
        obtain ⟨property, rfl⟩ :=
          (Memory.askAcceptsEmpty_onlyRecurses hassigned).of_error trivial hempty
        exact ⟨property, m, EStateM.bind_of_error (Session.act_inquire_of_error s hempty)⟩
    | ok b m =>
        obtain ⟨_, _, _, _, hm⟩ := (Memory.askAcceptsEmpty_sound rules p []).of_ok () hs hempty
        cases hfirst : Memory.askFirstSet rules p m with
        | ok set m' => exact absurd (Memory.firstSet_of_ask hm.1 hfirst) (hleft.not_firstSet set)
        | error e m' =>
            obtain ⟨property, rfl⟩ :=
              (Memory.askFirstSet_onlyRecurses hassigned).of_error trivial hfirst
            refine ⟨property, m', ?_⟩
            refine (EStateM.bind_of_ok (Session.act_inquire_of_ok s hempty)).trans ?_
            exact EStateM.bind_of_error
              (Session.act_inquire_of_error { s with memory := m } hfirst)
  · intro hleft
    obtain ⟨set, hset⟩ := exists_firstSet_of_not_beginsLeftRecursive hassigned hbounds hleft
    obtain ⟨b, hb⟩ := exists_acceptsEmpty hbounds.start hbounds.body hset
    obtain ⟨m, hempty, hm⟩ := Memory.ask_of_acceptsEmpty hs hb
    obtain ⟨m', hfirst, _⟩ := Memory.ask_of_firstSet hm hset
    exact ⟨b, m, set, m', hempty, hfirst⟩

def one (body : Parser σ (fun _ => Unit) Unit) : Rules σ fun _ => Unit := ⟨1, fun _ => some body⟩

omit [BEq σ] in
theorem throughout_one {P : (α : Type) → Parser σ (fun _ => Unit) α → Prop}
    {body : Parser σ (fun _ => Unit) Unit} (hstart : P Unit (.rule 0)) (hbody : body.Everywhere P) :
    (one body).Throughout P (.rule 0) where
  start := hstart
  body i body' h := by
    unfold body? at h
    split at h
    · obtain rfl : body = body' := Option.some.inj h
      exact hbody
    · cases h

end Rules

def SelfAlternative.body : Parser Char (fun _ => Unit) Unit := .or (.rule 0) (.valueAs 'a' ())

/-- The rule is refused on an input that its second alternative would match. -/
theorem Rules.parse_refuses_leftRecursive_alternative :
    ∃ property m, Session.parse (Rules.one SelfAlternative.body) (.rule 0) .start
      { source := "a".toList.toArray } =
        .error (.misuse (.leftRecursion property))
          { memory := m, source := "a".toList.toArray } := by
  refine (parse_refuses_leftRecursive ?_ ?_ ⟨Memory.sound_empty, rfl⟩ _ .start).1 ?_
  · exact throughout_one rfl ⟨trivial, rfl, trivial, trivial⟩
  · exact throughout_one trivial ⟨trivial, trivial, trivial, trivial⟩
  · exact ⟨0, 0, .rule, .refl, .single ⟨_, rfl, .orLeft .rule⟩⟩

/-! ### Left recursion through a hidden application -/

namespace SelfNegation

/-- Reads an `a`, or else looks whether the rule does not match where it stands. -/
def body : Parser Char (fun _ => Unit) Unit := .or (.valueAs 'a' ()) (.not (.rule 0))

theorem isAssigned : (Rules.one body).Throughout (Rules.one body).IsAssigned (.rule 0) :=
  Rules.throughout_one rfl ⟨trivial, ⟨trivial, trivial⟩, trivial, rfl⟩

theorem leftRecursive : (Rules.one body).LeftRecursive True 0 :=
  .single ⟨_, rfl, .orRight (.not trivial .rule)⟩

/-- Before a `b` the rule enters itself again, whatever its budget is. -/
theorem apply_exhausted (budget : Nat) (tracked : Bool) (memory : Memory Char)
    (recovered : Option (Failure Char)) :
    ∃ s, (Rules.one body).apply (Session.host (Rules.one body)) budget body ⟨0, tracked⟩
      ⟨memory, recovered, #['b']⟩ = .error .exhausted s := by
  induction budget generalizing tracked with
  | zero => exact ⟨_, rfl⟩
  | succ budget ih =>
      let host : Host Char (fun _ => Unit) (Session Char (Array Char)) :=
        Session.host (Rules.one body)
      let again : Action (Session Char (Array Char)) Char Unit :=
        Host.not (Parser.run.operand host (.rule 0)
          ((Rules.one body).apply host budget body))
      obtain ⟨s, hs⟩ := ih false
      exact ⟨s, EStateM.bind_of_error (m := again ⟨0, tracked⟩)
        (f := host.orElse ⟨0, tracked⟩ ⟨0, .expected (.value 'a')⟩) (EStateM.bind_of_error hs)⟩

def memory : Memory Char := ⟨[(0, true)], [(0, (SymbolSet.value 'a').union .empty)], []⟩

theorem parse_exhausted (budget : Nat) :
    ∃ s, (Rules.one body).parse (Session.host (Rules.one body)) budget (.rule 0) .start
      { source := #['b'] } = .error .exhausted s := by
  cases budget with
  | zero => exact ⟨_, rfl⟩
  | succ budget =>
      let host : Host Char (fun _ => Unit) (Session Char (Array Char)) :=
        Session.host (Rules.one body)
      let start : Session Char (Array Char) := ⟨memory, none, #['b']⟩
      obtain ⟨s, hs⟩ : ∃ s, (Rules.one body).apply host budget body ⟨0, true⟩ start =
        .error .exhausted s := apply_exhausted budget true memory none
      exact ⟨s, EStateM.bind_of_error (f := fun out => do
        let out ← Rules.wholeInput host .start out
        return Rules.orFurther (host.recovered (← get)) out) hs⟩

/-- The rule applies itself where it began, through its `not`. It is not refused: an input on which
the first alternative matches is parsed, and any budget is used up on another. -/
theorem not_refused :
    (Rules.one body).Throughout (Rules.one body).IsAssigned (.rule 0) ∧
      (Rules.one body).BeginsLeftRecursive True (.rule 0) ∧
      parseText (Rules.one body) (.rule 0) "a" = .ok (.ok ()) ∧
      ∀ budget, ∃ s, (Rules.one body).parse (Session.host (Rules.one body)) budget (.rule 0)
        .start { source := "b".toList.toArray } = .error .exhausted s :=
  ⟨isAssigned, ⟨0, 0, .rule, .refl, leftRecursive⟩, by rfl, parse_exhausted⟩

end SelfNegation

end PredictiveParsing
