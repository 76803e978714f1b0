import Mathlib.Data.ENat.Lattice
import PredictiveParsing.Proofs.Act
import PredictiveParsing.Proofs.Source
import PredictiveParsing.Session

/-!
# Streams read a supply once

A supply may go on for ever, and it may have symbols again after it has had none. What a stream
makes of it is what it yields up to the first time that it has none (`Supply.yielded`). One look at
a position answers with that symbol and reaches just beyond the position
(`Stream.ReadTo.symbolAt`), and so by induction any looks do, forwards and back
(`Stream.ReadTo.after`).

A supply that keeps its own record of what it has answered is a supply like any other
(`Supply.Recorded`), and a stream that forgets the record is the stream over the supply itself. The
record holds each symbol that was pulled, once, and at its end that there was none left if some look
went past the last symbol (`Stream.looks_poll_once`).
-/

namespace PredictiveParsing

variable {ι σ S St : Type} {ρ : Nat → Type}

/-! ### What a supply yields -/

namespace Supply

variable [Supply ι σ]

/-- The symbol that the supply gives behind a number of others, unless it has none by then. -/
def yielded : ι → Nat → Option σ
  | supply, 0 => (next supply).1
  | supply, i + 1 =>
    match next supply with
    | (some _, supply) => yielded supply i
    | (none, _) => none

/-- How many symbols the supply gives before it first has none. -/
noncomputable def total (supply : ι) : ℕ∞ := ⨅ i : {i : ℕ // yielded supply i = none}, (i : ℕ∞)

variable {supply supply' : ι} {a : σ} {i j : Nat}

theorem yielded_zero_of_some (h : next supply = (some a, supply')) :
    yielded supply 0 = some a := by
  rw [yielded, h]

theorem yielded_succ_of_some (h : next supply = (some a, supply')) (i : Nat) :
    yielded supply (i + 1) = yielded supply' i := by
  rw [yielded, h]

theorem yielded_of_none (h : next supply = (none, supply')) (i : Nat) :
    yielded supply i = none := by
  cases i with
  | zero => rw [yielded, h]
  | succ i => rw [yielded, h]

theorem yielded_eq_none_of_le (h : yielded supply i = none) (hle : i ≤ j) :
    yielded supply j = none := by
  induction i generalizing supply j with
  | zero =>
      have hnext : next supply = (none, (next supply).2) := Prod.ext h rfl
      exact yielded_of_none hnext j
  | succ i ih =>
      obtain ⟨j, rfl⟩ : ∃ k, j = k + 1 := ⟨j - 1, by omega⟩
      rcases hnext : next supply with ⟨symbol, supply'⟩
      cases symbol with
      | none => exact yielded_of_none hnext _
      | some a =>
          rw [yielded_succ_of_some hnext] at h ⊢
          exact ih h (Nat.le_of_succ_le_succ hle)

theorem total_le_iff : total supply ≤ i ↔ yielded supply i = none := by
  constructor
  · intro h
    by_contra hsome
    have hlater : ((i + 1 : ℕ) : ℕ∞) ≤ total supply := by
      refine le_iInf ?_
      rintro ⟨j, hj⟩
      have hlt : i < j := by
        by_contra hge
        exact hsome (yielded_eq_none_of_le hj (Nat.le_of_not_lt hge))
      exact_mod_cast hlt
    have hle : ((i + 1 : ℕ) : ℕ∞) ≤ i := hlater.trans h
    exact absurd (Nat.cast_le.mp hle) (Nat.not_succ_le_self i)
  · exact fun h => iInf_le _ (⟨i, h⟩ : {i : ℕ // yielded supply i = none})

/-! ### A record of polls -/

structure Recorded (ι σ : Type) where
  supply : ι
  answers : List (Option σ)

namespace Recorded

instance : Supply (Recorded ι σ) σ where
  next s :=
    let (symbol, supply) := next s.supply
    (symbol, ⟨supply, s.answers ++ [symbol]⟩)
  bound s := Supply.bound s.supply

def unpolled (supply : ι) : Recorded ι σ := ⟨supply, []⟩

theorem next_of_eq {s : Recorded ι σ} {symbol : Option σ} (h : next s.supply = (symbol, supply')) :
    next s = (symbol, ⟨supply', s.answers ++ [symbol]⟩) := by
  have hnext : next s =
      ((next s.supply).1, ⟨(next s.supply).2, s.answers ++ [(next s.supply).1]⟩) := rfl
  rw [hnext, h]

theorem answers_of_next {s s' : Recorded ι σ} {symbol : Option σ} (h : next s = (symbol, s')) :
    s'.answers = s.answers ++ [symbol] := by
  have hnext : (next s).2.answers = s.answers ++ [(next s).1] := rfl
  rw [h] at hnext
  exact hnext

/-- To keep a record changes nothing about what is yielded. -/
theorem yielded_eq (s : Recorded ι σ) (i : Nat) : yielded s i = yielded s.supply i := by
  induction i generalizing s with
  | zero => rfl
  | succ i ih =>
      rcases hnext : next s.supply with ⟨symbol, supply'⟩
      cases symbol with
      | none => rw [yielded_of_none hnext, yielded_of_none (next_of_eq hnext)]
      | some a =>
          rw [yielded_succ_of_some hnext, yielded_succ_of_some (next_of_eq hnext)]
          exact ih _

end Recorded

end Supply

/-! ### Pulling -/

namespace Stream

open Supply

variable [Supply ι σ] {supply : ι} {s : Stream ι σ} {i n reach : Nat}

/-- The symbol at a position among those pulled and those still to come. -/
def symbolOf (s : Stream ι σ) (i : Nat) : Option σ :=
  s.pulled[i]?.or (if s.ended then none else yielded s.supply (i - s.pulled.size))

theorem symbolOf_mk_true (pulled : Array σ) (supply : ι) (i : Nat) :
    symbolOf ⟨pulled, true, supply⟩ i = pulled[i]? := Option.or_none

theorem symbolOf_mk_false (pulled : Array σ) (supply : ι) (i : Nat) :
    symbolOf ⟨pulled, false, supply⟩ i = pulled[i]?.or (yielded supply (i - pulled.size)) := rfl

/-- Pulling moves symbols, and changes none. -/
theorem symbolOf_pull (s : Stream ι σ) (n : Nat) : (s.pull n).symbolOf = s.symbolOf := by
  refine pull_induction (I := fun t => t.symbolOf = s.symbolOf) ?_ ?_ rfl n
  · intro pulled supply a supply' hnext h
    refine Eq.trans (funext fun i => ?_) h
    rw [symbolOf_mk_false, symbolOf_mk_false, Array.getElem?_push, Array.size_push]
    rcases Nat.lt_trichotomy i pulled.size with hlt | rfl | hgt
    · rw [if_neg hlt.ne, Array.getElem?_eq_getElem hlt]
      rfl
    · rw [if_pos rfl, Array.getElem?_eq_none_iff.mpr (Nat.le_refl _), Nat.sub_self,
        yielded_zero_of_some hnext]
      rfl
    · obtain ⟨k, rfl⟩ : ∃ k, i = pulled.size + (k + 1) := ⟨i - pulled.size - 1, by omega⟩
      rw [if_neg hgt.ne', Array.getElem?_eq_none_iff.mpr hgt.le, Nat.add_sub_cancel_left,
        yielded_succ_of_some hnext, Nat.add_comm k, ← Nat.add_assoc, Nat.add_sub_cancel_left]
  · intro pulled supply supply' hnext h
    refine Eq.trans (funext fun i => ?_) h
    rw [symbolOf_mk_true, symbolOf_mk_false, yielded_of_none hnext, Option.or_none]

/-- Pulling brings as many symbols as it should, or ends before. -/
theorem size_pull (hs : s.ended = false) (n : Nat) :
    if (s.pull n).ended = true then (s.pull n).pulled.size < s.pulled.size + n
    else (s.pull n).pulled.size = s.pulled.size + n := by
  induction n generalizing s with
  | zero =>
      change if s.ended = true then _ else s.pulled.size = _
      rw [hs]
      rfl
  | succ n ih =>
      rcases s with ⟨pulled, ended, supply⟩
      obtain rfl : ended = false := hs
      unfold Stream.pull
      rcases hnext : Supply.next supply with ⟨symbol, supply'⟩
      cases symbol with
      | none => exact Nat.lt_add_of_pos_right (Nat.succ_pos n)
      | some a =>
          have h := ih (s := ⟨pulled.push a, false, supply'⟩) rfl
          rw [Array.size_push, Nat.add_right_comm, Nat.add_assoc] at h
          exact h

theorem pull_of_ended (hs : s.ended = true) (n : Nat) : s.pull n = s := by
  rcases s with ⟨pulled, ended, supply⟩
  obtain rfl : ended = true := hs
  cases n with
  | zero => rfl
  | succ n => rfl

/-! ### Looking -/

/-- The stream has the symbols that the supply yields, has pulled all of them up to a reach, and
has ended if there are not so many. -/
structure ReadTo (supply : ι) (reach : Nat) (s : Stream ι σ) : Prop where
  symbolOf : s.symbolOf = yielded supply
  size : if s.ended = true then s.pulled.size < reach else s.pulled.size = reach

theorem readTo_ofSupply (supply : ι) : ReadTo supply 0 (ofSupply supply : Stream ι σ) := by
  refine ⟨?_, rfl⟩
  funext i
  rfl

namespace ReadTo

/-- Up to the reach, what has been pulled is what the supply yields. -/
theorem getElem?_pulled (h : s.ReadTo supply reach) (i : Nat) :
    s.pulled[i]? = if i < reach then yielded supply i else none := by
  rcases s with ⟨pulled, ended, rest⟩
  have hsize := h.size
  rw [← h.symbolOf]
  dsimp only at hsize ⊢
  cases ended with
  | true =>
      rw [if_pos rfl] at hsize
      rw [symbolOf_mk_true]
      split
      · rfl
      · exact Array.getElem?_eq_none_iff.mpr (by omega)
  | false =>
      rw [if_neg Bool.false_ne_true] at hsize
      rw [symbolOf_mk_false]
      split
      · rw [Array.getElem?_eq_getElem (by omega)]
        rfl
      · exact Array.getElem?_eq_none_iff.mpr (by omega)

/-- A look answers with the symbol of the supply, and the reach goes just beyond it unless it did
already. -/
theorem symbolAt (h : s.ReadTo supply reach) (i : Nat) :
    (s.symbolAt i).1 = yielded supply i ∧
      (s.symbolAt i).2.ReadTo supply (max reach (i + 1)) := by
  have hread : (s.pull (i + 1 - s.pulled.size)).ReadTo supply (max reach (i + 1)) := by
    refine ⟨(s.symbolOf_pull _).trans h.symbolOf, ?_⟩
    have hsize := h.size
    cases hended : s.ended with
    | true =>
        rw [hended, if_pos rfl] at hsize
        rw [pull_of_ended hended, hended, if_pos rfl]
        exact lt_max_of_lt_left hsize
    | false =>
        rw [hended, if_neg Bool.false_ne_true] at hsize
        have hreach : max reach (i + 1) = s.pulled.size + (i + 1 - s.pulled.size) := by omega
        rw [hreach]
        exact size_pull hended _
  refine ⟨?_, hread⟩
  have hlt : i < max reach (i + 1) := lt_max_of_lt_right (Nat.lt_succ_self i)
  exact (hread.getElem?_pulled i).trans (if_pos hlt)

/-- The supply gives at least the symbols that have been pulled. -/
theorem size_le_total (h : s.ReadTo supply reach) : (s.pulled.size : ℕ∞) ≤ total supply := by
  refine le_iInf ?_
  rintro ⟨i, hi⟩
  rw [Nat.cast_le]
  by_contra hlt
  rw [← h.symbolOf, Stream.symbolOf, Array.getElem?_eq_getElem (Nat.lt_of_not_le hlt)] at hi
  cases hi

/-- A stream that has ended has pulled all symbols. -/
theorem total_le_size (h : s.ReadTo supply reach) (hended : s.ended = true) :
    total supply ≤ s.pulled.size := by
  rw [total_le_iff, ← h.symbolOf, Stream.symbolOf, if_pos hended, Option.or_none]
  exact Array.getElem?_eq_none_iff.mpr (Nat.le_refl _)

/-- The stream has ended if and only if the reach goes beyond the last symbol. -/
theorem ended_iff (h : s.ReadTo supply reach) : s.ended = true ↔ total supply < reach := by
  have hsize := h.size
  constructor
  · intro hended
    rw [if_pos hended] at hsize
    exact (h.total_le_size hended).trans_lt (Nat.cast_lt.mpr hsize)
  · intro hlt
    by_contra hended
    rw [if_neg hended] at hsize
    exact absurd hlt (not_lt_of_ge (hsize ▸ h.size_le_total))

/-- As many symbols have been pulled as lie within the reach. -/
theorem size_eq (h : s.ReadTo supply reach) : (s.pulled.size : ℕ∞) = min (total supply) reach := by
  have hsize := h.size
  cases hended : s.ended with
  | true =>
      rw [min_eq_left (h.ended_iff.mp hended).le]
      exact h.size_le_total.antisymm (h.total_le_size hended)
  | false =>
      rw [if_neg (ne_true_of_eq_false hended)] at hsize
      rw [← hsize, min_eq_right h.size_le_total]

end ReadTo

/-! ### Polling -/

/-- Each symbol that was pulled is on record, in order, and at the end that there was none left if
the stream has ended. -/
def PollsOnce (s : Stream (Recorded ι σ) σ) : Prop :=
  s.supply.answers = s.pulled.toList.map some ++ if s.ended = true then [none] else []

theorem PollsOnce.pull {s : Stream (Recorded ι σ) σ} (h : s.PollsOnce) (n : Nat) :
    (s.pull n).PollsOnce := by
  refine pull_induction (I := PollsOnce) ?_ ?_ h n
  · intro pulled supply a supply' hnext h
    refine (Recorded.answers_of_next hnext).trans ?_
    rw [h]
    simp
  · intro pulled supply supply' hnext h
    refine (Recorded.answers_of_next hnext).trans ?_
    rw [h]
    simp

def forget (s : Stream (Recorded ι σ) σ) : Stream ι σ := ⟨s.pulled, s.ended, s.supply.supply⟩

theorem forget_pull (s : Stream (Recorded ι σ) σ) (n : Nat) :
    (s.pull n).forget = s.forget.pull n := by
  induction n generalizing s with
  | zero => rfl
  | succ n ih =>
      rcases s with ⟨pulled, ended, supply⟩
      cases ended with
      | true => rfl
      | false =>
          rcases hnext : next supply.supply with ⟨symbol, supply'⟩
          unfold Stream.pull forget
          dsimp only
          rw [hnext, Recorded.next_of_eq hnext]
          cases symbol with
          | none => rfl
          | some a => exact ih _

theorem forget_symbolAt (s : Stream (Recorded ι σ) σ) (i : Nat) :
    (s.symbolAt i).2.forget = (s.forget.symbolAt i).2 :=
  s.forget_pull _

/-! ### Any looks -/

def reachFrom (reach : Nat) : List Nat → Nat
  | [] => reach
  | i :: looks => reachFrom (max reach (i + 1)) looks

theorem lt_reachFrom_iff {looks : List Nat} :
    i < reachFrom reach looks ↔ i < reach ∨ ∃ j ∈ looks, i ≤ j := by
  induction looks generalizing reach with
  | nil => simp [reachFrom]
  | cons j looks ih =>
      rw [reachFrom, ih, lt_max_iff, Nat.lt_succ_iff]
      simp [or_assoc]

theorem ReadTo.after (h : s.ReadTo supply reach) (looks : List Nat) :
    (Source.after s looks).ReadTo supply (reachFrom reach looks) := by
  induction looks generalizing s reach with
  | nil => exact h
  | cons i looks ih => exact ih (h.symbolAt i).2

theorem PollsOnce.after {s : Stream (Recorded ι σ) σ} (h : s.PollsOnce) (looks : List Nat) :
    (Source.after s looks).PollsOnce := by
  induction looks generalizing s with
  | nil => exact h
  | cons i looks ih => exact ih (h.pull _)

theorem forget_after (s : Stream (Recorded ι σ) σ) (looks : List Nat) :
    (Source.after s looks).forget = Source.after s.forget looks := by
  induction looks generalizing s with
  | nil => rfl
  | cons i looks ih => exact (ih _).trans (congrArg (Source.after · looks) (s.forget_symbolAt i))

end Stream

/-! ### Cursors -/

inductive Look where
  /-- Whether the input ends there. -/
  | atEnd
  /-- The symbol there. -/
  | current
  /-- The cursor behind that symbol. -/
  | advance

namespace Look

/-- What a look finds: whether the input ends, or a symbol or cursor unless it ends. -/
inductive Answer (σ : Type) where
  | ended (b : Bool)
  | symbol (s : Option σ)
  | moved (next : Option Cursor)

def answer (c : Cursor) (symbol : Option σ) : Look → Answer σ
  | .atEnd => .ended symbol.isNone
  | .current => .symbol symbol
  | .advance => .moved (symbol.map fun _ => c.advance)

def run (host : Host σ ρ St) (c : Cursor) : Look → Act St (Answer σ)
  | .atEnd => do return .ended (← host.atEnd c)
  | .current => do return .symbol (← host.current c)
  | .advance => do return .moved ((← host.current c).map fun _ => c.advance)

def runAll (host : Host σ ρ St) : List (Look × Cursor) → Act St (List (Answer σ))
  | [] => return []
  | (look, c) :: looks => do
    let answer ← look.run host c
    return answer :: (← runAll host looks)

section Session

variable [BEq σ] [Source S σ] (rules : Rules σ ρ)

theorem run_eq (look : Look) (c : Cursor) (memory : Memory σ) (recovered : Option (Failure σ))
    (source : S) : look.run (Session.host rules) c ⟨memory, recovered, source⟩ =
      .ok (look.answer c (Source.symbolAt source c.position).1)
        ⟨memory, recovered, (Source.symbolAt source c.position).2⟩ := by
  cases look with
  | atEnd => rfl
  | current => rfl
  | advance => rfl

/-- Looks change nothing but the source, and each is answered with the symbol that stands there. -/
theorem runAll_eq {symbolOf : Nat → Option σ} {source : S}
    (h : ∀ looks i, (Source.symbolAt (Source.after source looks) i).1 = symbolOf i)
    (memory : Memory σ) (recovered : Option (Failure σ)) (looks : List (Look × Cursor)) :
    runAll (Session.host rules) looks ⟨memory, recovered, source⟩ =
      .ok (looks.map fun l => l.1.answer l.2 (symbolOf l.2.position))
        ⟨memory, recovered, Source.after source (looks.map fun l => l.2.position)⟩ := by
  induction looks generalizing source with
  | nil => rfl
  | cons l looks ih =>
      have hfirst := run_eq rules l.1 l.2 memory recovered source
      have hsymbol : (Source.symbolAt source l.2.position).1 = symbolOf l.2.position := h [] _
      rw [hsymbol] at hfirst
      have hrest := ih fun looks i => h (l.2.position :: looks) i
      exact (EStateM.bind_of_ok hfirst).trans (EStateM.bind_of_ok hrest)

end Session

/-- One more than the furthest position looked at, or nothing without a look. -/
def reach (looks : List (Look × Cursor)) : Nat :=
  Stream.reachFrom 0 (looks.map fun l => l.2.position)

open Supply in
/-- The looks go beyond the last symbol if one of them does. -/
theorem total_lt_reach_iff {ι : Type} [Supply ι σ] {supply : ι} {looks : List (Look × Cursor)} :
    total supply < reach looks ↔ ∃ l ∈ looks, yielded supply l.2.position = none := by
  unfold reach
  simp only [← total_le_iff]
  cases htotal : total supply with
  | top => simp
  | coe n =>
      rw [Nat.cast_lt, Stream.lt_reachFrom_iff]
      simp

end Look

namespace Stream

open Supply

variable [Supply ι σ]

theorem symbolAt_after_ofSupply (supply : ι) (looks : List Nat) (i : Nat) :
    (Source.symbolAt (Source.after (ofSupply supply : Stream ι σ) looks) i).1 =
      yielded supply i :=
  (((readTo_ofSupply supply).after looks).symbolAt i).1

/-- Whatever is asked at whatever cursors, in any order, a stream answers with what its supply
yields up to the first time that it has nothing, and has pulled the symbols up to the furthest
position looked at and no more. The supply has answered one poll for each of these symbols, in
order, and one more with nothing if and only if some look went past the last symbol, and then
none. -/
theorem looks_poll_once [BEq σ] (rules : Rules σ ρ) (supply : ι) (looks : List (Look × Cursor))
    (memory : Memory σ) (recovered : Option (Failure σ)) :
    ∃ (answers : List (Look.Answer σ)) (s : Stream (Recorded ι σ) σ),
      Look.runAll (Session.host rules) looks
        ⟨memory, recovered, (ofSupply supply : Stream ι σ)⟩ =
          .ok answers ⟨memory, recovered, s.forget⟩ ∧
      Look.runAll (Session.host rules) looks
        ⟨memory, recovered, (ofSupply (Recorded.unpolled supply) : Stream (Recorded ι σ) σ)⟩ =
          .ok answers ⟨memory, recovered, s⟩ ∧
      answers = looks.map (fun l => l.1.answer l.2 (yielded supply l.2.position)) ∧
      (∀ i, s.pulled[i]? = if i < Look.reach looks then yielded supply i else none) ∧
      (s.pulled.size : ℕ∞) = min (total supply) (Look.reach looks) ∧
      s.supply.answers = s.pulled.toList.map some ++
        if looks.any (fun l => (yielded supply l.2.position).isNone) = true then [none]
        else [] := by
  let positions := looks.map fun l => l.2.position
  let s : Stream (Recorded ι σ) σ := Source.after (ofSupply (Recorded.unpolled supply)) positions
  have hforget : s.forget = Source.after (ofSupply supply) positions :=
    forget_after (ofSupply (Recorded.unpolled supply)) positions
  have hread : s.forget.ReadTo supply (Look.reach looks) := by
    rw [hforget]
    exact (readTo_ofSupply supply).after positions
  have hunpolled : (ofSupply (Recorded.unpolled supply) : Stream _ σ).PollsOnce := rfl
  have hpolls : s.PollsOnce := hunpolled.after positions
  have hpast : s.ended = true ↔
      looks.any (fun l => (yielded supply l.2.position).isNone) = true := by
    simp only [List.any_eq_true, Option.isNone_iff_eq_none]
    exact hread.ended_iff.trans Look.total_lt_reach_iff
  refine ⟨_, s, ?_, ?_, rfl, hread.getElem?_pulled, hread.size_eq, ?_⟩
  · rw [hforget]
    exact Look.runAll_eq rules (symbolAt_after_ofSupply supply) memory recovered looks
  · refine Look.runAll_eq rules ?_ memory recovered looks
    intro looks i
    exact (symbolAt_after_ofSupply _ looks i).trans (Recorded.yielded_eq _ i)
  · rw [hpolls]
    simp only [hpast]

end Stream

end PredictiveParsing
