import PredictiveParsing.Proofs.Automata
import PredictiveParsing.Regex.Compile
import Mathlib.Tactic.Tauto

/-!
# Derivatives read a character

The partial derivatives of an expression by a character match between them what the expression
matches behind that character (`Regex.matches_cons_iff`). The case with work in it is repetition:
the repetitions in front of the first one that reads something match the empty text, and it is
`Regex.leftToRepeat?` that says how many may follow (`Regex.matches_times_cons_iff`).

The automaton of an expression comes behind the bytes of a text to expressions that match what may
follow it (`Regex.State.behind_foldl_next`). One byte further it tells whether the text matches, as
no assertion can tell a character from the one that its first byte stands for
(`Regex.nullable_begunBy`). So every automaton that `Regex.compile` makes recognizes what its
expression matches (`Regex.compile_recognizes`).
-/

namespace PredictiveParsing

namespace Regex

variable {r s : Regex} {before after : Option Char} {c : Char} {text : List Char}

/-! ### The empty text -/

theorem matches_times_nil (h : Matches r before [] after) (min : Nat) (more : Option Nat) :
    Matches (.times r min more) before [] after := by
  induction min with
  | zero => exact .timesNil
  | succ min ih => exact .timesCons (t := []) (u := []) rfl h ih

theorem matches_nil_of_nullable (h : r.nullable before after = true) :
    Matches r before [] after := by
  induction r with
  | empty => exact .empty
  | chars set => cases h
  | look l => exact .look h
  | cat r s ihr ihs =>
      rw [nullable, Bool.and_eq_true] at h
      exact .cat (t := []) (u := []) (ihr h.1) (ihs h.2)
  | alt r s ihr ihs =>
      rw [nullable, Bool.or_eq_true] at h
      rcases h with h | h
      · exact .altLeft (ihr h)
      · exact .altRight (ihs h)
  | times r min more ih =>
      rw [nullable, Bool.or_eq_true, beq_iff_eq] at h
      rcases h with rfl | h
      · exact .timesNil
      · exact matches_times_nil (ih h) min more

theorem nullable_of_matches {text : List Char} (h : Matches r before text after)
    (htext : text = []) : r.nullable before after = true := by
  induction h with
  | empty => rfl
  | chars _ => cases htext
  | look h => exact h
  | cat hr hs ihr ihs =>
      obtain ⟨rfl, rfl⟩ := List.append_eq_nil_iff.mp htext
      rw [nullable, Bool.and_eq_true]
      exact ⟨ihr rfl, ihs rfl⟩
  | altLeft h ih =>
      rw [nullable, Bool.or_eq_true]
      exact .inl (ih htext)
  | altRight h ih =>
      rw [nullable, Bool.or_eq_true]
      exact .inr (ih htext)
  | timesNil => rfl
  | timesCons h hr hs ihr ihs =>
      obtain ⟨rfl, rfl⟩ := List.append_eq_nil_iff.mp htext
      rw [nullable, Bool.or_eq_true]
      exact .inr (ihr rfl)

theorem nullable_iff_matches : r.nullable before after = true ↔ Matches r before [] after :=
  ⟨matches_nil_of_nullable, fun h => nullable_of_matches h rfl⟩

/-! ### Around a text -/

theorem lastOr_cons (before : Option Char) (c : Char) (text : List Char) :
    lastOr before (c :: text) = lastOr (some c) text := by
  cases text with
  | nil => rfl
  | cons d text => simp [lastOr, List.getLast?_cons]

theorem lastOr_append (before : Option Char) (t u : List Char) :
    lastOr before (t ++ u) = lastOr (lastOr before t) u := by
  simp [lastOr, List.getLast?_append, Option.or_assoc]

theorem firstOr_append (t u : List Char) (after : Option Char) :
    firstOr (t ++ u) after = firstOr t (firstOr u after) := by
  simp [firstOr, List.head?_append, Option.or_assoc]

/-! ### Parts of expressions -/

theorem matches_empty_iff : Matches .empty before text after ↔ text = [] := by
  constructor
  · intro h
    cases h
    rfl
  · rintro rfl
    exact .empty

theorem matches_cat_iff : Matches (.cat r s) before text after ↔ ∃ t u, text = t ++ u ∧
    Matches r before t (firstOr u after) ∧ Matches s (lastOr before t) u after := by
  constructor
  · intro h
    cases h with
    | cat hr hs => exact ⟨_, _, rfl, hr, hs⟩
  · rintro ⟨t, u, rfl, hr, hs⟩
    exact .cat hr hs

theorem matches_alt_iff : Matches (.alt r s) before text after ↔
    Matches r before text after ∨ Matches s before text after := by
  constructor
  · intro h
    cases h with
    | altLeft h => exact .inl h
    | altRight h => exact .inr h
  · rintro (h | h)
    · exact .altLeft h
    · exact .altRight h

theorem matches_empty_cat_iff :
    Matches (.cat .empty s) before text after ↔ Matches s before text after := by
  rw [matches_cat_iff]
  constructor
  · rintro ⟨t, u, rfl, hr, hs⟩
    obtain rfl := matches_empty_iff.mp hr
    exact hs
  · exact fun h => ⟨[], text, rfl, .empty, h⟩

theorem matches_cat_empty_iff :
    Matches (.cat r .empty) before text after ↔ Matches r before text after := by
  rw [matches_cat_iff]
  constructor
  · rintro ⟨t, u, rfl, hr, hs⟩
    obtain rfl := matches_empty_iff.mp hs
    rw [List.append_nil]
    exact hr
  · exact fun h => ⟨text, [], (List.append_nil text).symm, h, .empty⟩

theorem matches_cat_assoc {q : Regex} : Matches (.cat (.cat q r) s) before text after ↔
    Matches (.cat q (.cat r s)) before text after := by
  simp only [matches_cat_iff]
  constructor
  · rintro ⟨_, u, rfl, ⟨t, t', rfl, hq, hr⟩, hs⟩
    rw [lastOr_append] at hs
    rw [← firstOr_append] at hq
    exact ⟨t, t' ++ u, List.append_assoc t t' u, hq, t', u, rfl, hr, hs⟩
  · rintro ⟨t, _, rfl, hq, t', u, rfl, hr, hs⟩
    rw [← lastOr_append] at hs
    rw [firstOr_append] at hq
    exact ⟨t ++ t', u, (List.append_assoc t t' u).symm, ⟨t, t', rfl, hq, hr⟩, hs⟩

theorem matches_cat_congr {r' : Regex} (h : ∀ {before text after},
      Matches r before text after ↔ Matches r' before text after) :
    Matches (.cat s r) before text after ↔ Matches (.cat s r') before text after := by
  simp only [matches_cat_iff, h]

/-- To leave the empty expression out and to turn nested ones to the right changes nothing. -/
theorem matches_append_iff (r s : Regex) {before after : Option Char} {text : List Char} :
    Matches (r.append s) before text after ↔ Matches (.cat r s) before text after := by
  induction r generalizing before text after with
  | empty => exact matches_empty_cat_iff.symm
  | cat q r ihq ihr => exact (matches_cat_congr ihr).trans matches_cat_assoc.symm
  | chars set =>
      cases s with
      | empty => exact matches_cat_empty_iff.symm
      | _ => rfl
  | look l =>
      cases s with
      | empty => exact matches_cat_empty_iff.symm
      | _ => rfl
  | alt q r ihq ihr =>
      cases s with
      | empty => exact matches_cat_empty_iff.symm
      | _ => rfl
  | times r min more ih =>
      cases s with
      | empty => exact matches_cat_empty_iff.symm
      | _ => rfl

/-! ### Repetitions -/

/-- The expression matches a text as often as `count` says, once after the other. -/
inductive MatchesInTurn (r : Regex) :
    (count : Nat) → Option Char → List Char → Option Char → Prop where
  | nil {before after : Option Char} : MatchesInTurn r 0 before [] after
  | cons {count : Nat} {before after : Option Char} {t u : List Char}
      (hr : Matches r before t (firstOr u after))
      (hs : MatchesInTurn r count (lastOr before t) u after) :
      MatchesInTurn r (count + 1) before (t ++ u) after

def Admits (min : Nat) (more : Option Nat) (count : Nat) : Prop :=
  min ≤ count ∧ ∀ m, more = some m → count ≤ min + m

variable {min count : Nat} {more : Option Nat}

theorem admits_zero_iff : Admits min more 0 ↔ min = 0 :=
  ⟨fun h => Nat.le_zero.mp h.1, fun h => ⟨h.le, fun _ _ => Nat.zero_le _⟩⟩

theorem admits_succ_iff : Admits min more (count + 1) ↔
    ∃ counts, oneFewer? min more = some counts ∧ Admits counts.1 counts.2 count := by
  unfold Admits
  cases min with
  | succ min => simp [oneFewer?, Nat.add_right_comm]
  | zero =>
      cases more with
      | none => simp [oneFewer?]
      | some m =>
          cases m with
          | zero => simp [oneFewer?]
          | succ m => simp [oneFewer?]

/-- A repetition is any admitted number of matches in turn. -/
theorem matches_times_iff : Matches (.times r min more) before text after ↔
    ∃ count, Admits min more count ∧ MatchesInTurn r count before text after := by
  constructor
  · intro h
    generalize htimes : Regex.times r min more = whole at h
    induction h generalizing min more with
    | timesNil =>
        cases htimes
        exact ⟨0, admits_zero_iff.mpr rfl, .nil⟩
    | timesCons hcounts hr _ _ ih =>
        cases htimes
        obtain ⟨count, hadmits, hturn⟩ := ih rfl
        exact ⟨count + 1, admits_succ_iff.mpr ⟨_, hcounts, hadmits⟩, .cons hr hturn⟩
    | _ => cases htimes
  · rintro ⟨count, hadmits, hturn⟩
    induction hturn generalizing min more with
    | nil =>
        obtain rfl := admits_zero_iff.mp hadmits
        exact .timesNil
    | cons hr _ ih =>
        obtain ⟨counts, hcounts, hfewer⟩ := admits_succ_iff.mp hadmits
        exact .timesCons hcounts hr (ih hfewer)

theorem matches_repeated_iff : Matches (r.repeated min more) before text after ↔
    Matches (.times r min more) before text after := by
  unfold repeated
  split
  · rw [matches_empty_iff]
    constructor
    · rintro rfl
      exact .timesNil
    · intro h
      cases h with
      | timesNil => rfl
      | timesCons h => cases h
  · constructor
    · intro h
      have honce : Matches (.times r 1 (some 0)) before (text ++ []) after :=
        .timesCons (u := []) rfl h .timesNil
      rwa [List.append_nil] at honce
    · intro h
      cases h with
      | timesCons h hr hs =>
          cases h
          cases hs with
          | timesNil =>
              rw [List.append_nil]
              exact hr
          | timesCons h => cases h
  · rfl

namespace MatchesInTurn

/-- Where the expression matches the empty text, it does so any number of times more. -/
theorem pad (hempty : Matches r before [] (firstOr text after))
    (h : MatchesInTurn r count before text after) (extra : Nat) :
    MatchesInTurn r (count + extra) before text after := by
  induction extra with
  | zero => exact h
  | succ extra ih => exact .cons (t := []) hempty ih

/-- The first of the matches in turn that reads something is the first of all, or all those in front
of it match the empty text there. -/
theorem first_reads (h : MatchesInTurn r count before (c :: text) after) :
    ∃ left t u, text = t ++ u ∧ left < count ∧
      (left + 1 = count ∨ r.nullable before (some c) = true) ∧
      Matches r before (c :: t) (firstOr u after) ∧
      MatchesInTurn r left (lastOr before (c :: t)) u after := by
  generalize hwhole : c :: text = whole at h
  induction h with
  | nil => cases hwhole
  | @cons count before after t u hr hs ih =>
      cases t with
      | nil =>
          obtain rfl : c :: text = u := hwhole
          obtain ⟨left, t, u, rfl, hlt, -, hfirst, hrest⟩ := ih rfl
          have hnull : r.nullable before (some c) = true := nullable_iff_matches.mpr hr
          exact ⟨left, t, u, rfl, Nat.lt_succ_of_lt hlt, .inr hnull, hfirst, hrest⟩
      | cons d t =>
          rw [List.cons_append, List.cons.injEq] at hwhole
          obtain ⟨rfl, rfl⟩ := hwhole
          exact ⟨count, t, u, rfl, Nat.lt_succ_self count, .inl rfl, hr, hs⟩

end MatchesInTurn

/-- What is left to repeat admits a number of times if that many may follow the repetition that
reads something. All the others in front of it read nothing, so there are none of them unless the
empty text matches. -/
theorem exists_leftToRepeat?_iff {nullable : Bool} {left : Nat} :
    (∃ counts, leftToRepeat? nullable min more = some counts ∧ Admits counts.1 counts.2 left) ↔
      ∃ count, Admits min more count ∧ left < count ∧ (left + 1 = count ∨ nullable = true) := by
  unfold leftToRepeat?
  cases nullable with
  | false =>
      refine admits_succ_iff.symm.trans
        ⟨fun h => ⟨left + 1, h, Nat.lt_succ_self left, .inl rfl⟩, ?_⟩
      rintro ⟨count, hadmits, -, rfl | hfalse⟩
      · exact hadmits
      · cases hfalse
  | true =>
      refine admits_succ_iff.symm.trans ⟨?_, ?_⟩
      · -- Empty matches in front make up for those that are missing.
        rintro ⟨-, hbound⟩
        refine ⟨max min (left + 1), ⟨Nat.le_max_left _ _, ?_⟩, Nat.le_max_right _ _, .inr rfl⟩
        intro m hm
        have := hbound (min + m) (Option.map_eq_some_iff.mpr ⟨m, hm, rfl⟩)
        omega
      · rintro ⟨count, hadmits, hlt, -⟩
        refine ⟨Nat.zero_le _, ?_⟩
        intro bound hbound
        obtain ⟨m, hm, rfl⟩ := Option.map_eq_some_iff.mp hbound
        have := hadmits.2 m hm
        omega

/-- A repetition that begins by reading a character goes on with what is left to repeat. -/
theorem matches_times_cons_iff : Matches (.times r min more) before (c :: text) after ↔
    ∃ counts, leftToRepeat? (r.nullable before (some c)) min more = some counts ∧
      ∃ t u, text = t ++ u ∧ Matches r before (c :: t) (firstOr u after) ∧
        Matches (.times r counts.1 counts.2) (lastOr before (c :: t)) u after := by
  constructor
  · intro h
    obtain ⟨count, hadmits, hturn⟩ := matches_times_iff.mp h
    obtain ⟨left, t, u, rfl, hlt, hempty, hreads, hrest⟩ := hturn.first_reads
    obtain ⟨counts, hcounts, hleft⟩ := exists_leftToRepeat?_iff.mpr ⟨count, hadmits, hlt, hempty⟩
    exact ⟨counts, hcounts, t, u, rfl, hreads, matches_times_iff.mpr ⟨left, hleft, hrest⟩⟩
  · rintro ⟨counts, hcounts, t, u, rfl, hreads, hrest⟩
    obtain ⟨left, hleft, hrest⟩ := matches_times_iff.mp hrest
    obtain ⟨count, hadmits, hlt, hempty⟩ := exists_leftToRepeat?_iff.mp ⟨counts, hcounts, hleft⟩
    have hturn : MatchesInTurn r (left + 1) before (c :: t ++ u) after := .cons hreads hrest
    refine matches_times_iff.mpr ⟨count, hadmits, ?_⟩
    rcases hempty with rfl | hnull
    · exact hturn
    · have hpadded := hturn.pad (nullable_iff_matches.mp hnull) (count - (left + 1))
      rwa [Nat.add_sub_cancel' hlt] at hpadded

/-! ### Derivatives -/

/-- A sequence that begins by reading a character reads it in its first part, or in the second if
the first matches the empty text. -/
theorem matches_cat_cons_iff : Matches (.cat r s) before (c :: text) after ↔
    (∃ t u, text = t ++ u ∧ Matches r before (c :: t) (firstOr u after) ∧
      Matches s (lastOr before (c :: t)) u after) ∨
    r.nullable before (some c) = true ∧ Matches s before (c :: text) after := by
  rw [matches_cat_iff]
  constructor
  · rintro ⟨t, u, htext, hr, hs⟩
    cases t with
    | nil =>
        obtain rfl : c :: text = u := htext
        exact .inr ⟨nullable_iff_matches.mpr hr, hs⟩
    | cons d t =>
        rw [List.cons_append, List.cons.injEq] at htext
        obtain ⟨rfl, rfl⟩ := htext
        exact .inl ⟨t, u, rfl, hr, hs⟩
  · rintro (⟨t, u, rfl, hr, hs⟩ | ⟨hr, hs⟩)
    · exact ⟨c :: t, u, rfl, hr, hs⟩
    · exact ⟨[], c :: text, rfl, nullable_iff_matches.mp hr, hs⟩

/-- Expressions that match what is read behind a character, each followed by another expression. -/
theorem exists_mem_map_append_iff {ds : List Regex}
    (h : ∀ {text after}, Matches r before (c :: text) after ↔
      ∃ d ∈ ds, Matches d (some c) text after) :
    (∃ d ∈ ds.map (·.append s), Matches d (some c) text after) ↔
      ∃ t u, text = t ++ u ∧ Matches r before (c :: t) (firstOr u after) ∧
        Matches s (lastOr before (c :: t)) u after := by
  simp only [List.mem_map, exists_exists_and_eq_and, matches_append_iff, matches_cat_iff,
    lastOr_cons, h]
  constructor
  · rintro ⟨d, hd, t, u, rfl, hr, hs⟩
    exact ⟨t, u, rfl, ⟨d, hd, hr⟩, hs⟩
  · rintro ⟨t, u, rfl, ⟨d, hd, hr⟩, hs⟩
    exact ⟨d, hd, t, u, rfl, hr, hs⟩

/-- What an expression matches behind a character is what its derivatives match. -/
theorem matches_cons_iff (r : Regex) {before after : Option Char} {c : Char} {text : List Char} :
    Matches r before (c :: text) after ↔
      ∃ d ∈ r.derivatives before c, Matches d (some c) text after := by
  induction r generalizing text after with
  | empty => simp [derivatives, matches_empty_iff]
  | chars set =>
      constructor
      · intro h
        cases h with
        | chars hc => exact ⟨.empty, by simp [derivatives, hc], .empty⟩
      · rintro ⟨d, hd, h⟩
        unfold derivatives at hd
        split at hd
        · obtain rfl := List.mem_singleton.mp hd
          obtain rfl := matches_empty_iff.mp h
          exact .chars ‹_›
        · cases hd
  | look l =>
      constructor
      · intro h
        cases h
      · rintro ⟨d, hd, -⟩
        cases hd
  | cat r s ihr ihs =>
      rw [matches_cat_cons_iff, ← exists_mem_map_append_iff ihr, ihs, derivatives]
      split
      · rename_i hnull
        simp only [hnull, true_and, List.mem_append, or_and_right, exists_or]
      · rename_i hnull
        simp only [hnull, Bool.false_eq_true, false_and, or_false]
  | alt r s ihr ihs =>
      rw [matches_alt_iff, ihr, ihs]
      simp only [derivatives, List.mem_append, or_and_right, exists_or]
  | times r min more ih =>
      rw [matches_times_cons_iff, derivatives]
      cases leftToRepeat? (r.nullable before (some c)) min more with
      | none => simp
      | some counts =>
          dsimp only
          rw [exists_mem_map_append_iff ih]
          simp [matches_repeated_iff]

/-! ### Dead ends -/

theorem alive_of_matches (h : Matches r before text after) :
    r.isPassable = true ∨ r.isWaiting = true := by
  induction h with
  | empty => exact .inl rfl
  | @chars set _ _ c h =>
      refine .inr ?_
      cases set with
      | mk runs =>
          cases runs with
          | nil => cases h
          | cons run runs => rfl
  | look _ => exact .inr rfl
  | cat _ _ ihr ihs =>
      simp only [isPassable, isWaiting, Bool.and_eq_true, Bool.or_eq_true]
      tauto
  | altLeft _ ih =>
      simp only [isPassable, isWaiting, Bool.or_eq_true]
      tauto
  | altRight _ ih =>
      simp only [isPassable, isWaiting, Bool.or_eq_true]
      tauto
  | timesNil => exact .inl rfl
  | timesCons _ _ _ ihr _ =>
      simp only [isPassable, isWaiting, Bool.or_eq_true]
      tauto

/-- An expression that is given up matches nothing. -/
theorem isAlive_of_matches (h : Matches r before text after) : r.isAlive = true := by
  rw [isAlive, Bool.or_eq_true]
  exact alive_of_matches h

/-! ### First bytes -/

/-- Assertions do not tell the characters beyond the basic alphabet apart. -/
theorem holds_of_beyond (hc : 0x80 ≤ c.toNat) (before : Option Char) (l : Look) :
    l.holds before (some c) = l.holds before (some '\u0080') := by
  have hword : isWordChar c = isWordChar '\u0080' := by
    have hno : isWordChar c = false := by
      refine Bool.eq_false_iff.mpr ?_
      intro hyes
      rw [isWordChar, Bool.or_eq_true, beq_iff_eq] at hyes
      rcases hyes with hyes | rfl
      · have := Text.Utf8.toNat_lt_of_isAlphanum hyes
        omega
      · exact absurd hc (by decide)
    rw [hno]
    rfl
  have hline : (some c == some '\n') = (some '\u0080' == some '\n') := by
    refine beq_eq_false_iff_ne.mpr ?_
    rintro ⟨⟩
    exact absurd hc (by decide)
  have hreturn : (some c == some '\r') = (some '\u0080' == some '\r') := by
    refine beq_eq_false_iff_ne.mpr ?_
    rintro ⟨⟩
    exact absurd hc (by decide)
  have hdiffers : (some c != some '\n') = (some '\u0080' != some '\n') := congrArg (!·) hline
  have hany : (some c).any isWordChar = (some '\u0080').any isWordChar := hword
  unfold Look.holds
  cases l with
  | lineStart crlf => cases crlf <;> simp only [hdiffers]
  | lineEnd crlf => cases crlf <;> simp only [hline, hreturn, Option.isNone_some]
  | _ => simp only [hany, Option.isNone_some]

theorem nullable_of_beyond (hc : 0x80 ≤ c.toNat) (before : Option Char) (r : Regex) :
    r.nullable before (some c) = r.nullable before (some '\u0080') := by
  induction r with
  | empty => rfl
  | chars set => rfl
  | look l => exact holds_of_beyond hc before l
  | cat r s ihr ihs => rw [nullable, nullable, ihr, ihs]
  | alt r s ihr ihs => rw [nullable, nullable, ihr, ihs]
  | times r min more ih => rw [nullable, nullable, ih]

theorem nullable_begunBy {b : UInt8} {bytes : List UInt8}
    (h : String.utf8EncodeChar c = b :: bytes) (before : Option Char) (r : Regex) :
    r.nullable before (some (begunBy b)) = r.nullable before (some c) := by
  by_cases hc : c.toNat < 0x80
  · have hb := (Text.Utf8.toNat_head_of_lt hc h).1
    have hlt : b < 0x80 := UInt8.lt_iff_toNat_lt.mpr (hb ▸ hc)
    rw [begunBy, if_pos hlt, hb, Char.ofNat_toNat]
  · have hle := Nat.le_of_not_lt hc
    have hnot : ¬b < 0x80 := fun hlt =>
      Nat.not_lt.mpr (Text.Utf8.le_toNat_head hle h) (UInt8.lt_iff_toNat_lt.mp hlt)
    rw [begunBy, if_neg hnot, nullable_of_beyond hle]

/-! ### States -/

namespace State

open Text.Utf8

protected def Matches (s : State) (text : List Char) (after : Option Char) : Prop :=
  ∃ r ∈ s.residuals, Regex.Matches r s.before text after

variable {s s' : State} {b : UInt8} {bytes front back : List UInt8}

theorem accepts_iff : s.accepts after = true ↔ s.Matches [] after := by
  simp only [accepts, State.Matches, List.any_eq_true, nullable_iff_matches]

theorem accepts_begunBy (h : String.utf8EncodeChar c = b :: bytes) :
    s.accepts (some (begunBy b)) = s.accepts (some c) := by
  simp only [accepts, nullable_begunBy h]

/-- What a state matches behind a character is matched by the derivatives that are kept. -/
theorem matches_cons_iff : s.Matches (c :: text) after ↔
    ∃ d ∈ s.behind c, Regex.Matches d (some c) text after := by
  simp only [State.Matches, Regex.matches_cons_iff, behind, mem_distinct, List.mem_filter,
    List.mem_flatMap]
  constructor
  · rintro ⟨r, hr, d, hd, h⟩
    exact ⟨d, ⟨⟨r, hr, hd⟩, isAlive_of_matches h⟩, h⟩
  · rintro ⟨d, ⟨⟨r, hr, hd⟩, -⟩, h⟩
    exact ⟨r, hr, d, hd, h⟩

theorem isMatch_next (s : State) (b : UInt8) :
    (s.next b).isMatch = (s.pending.isEmpty && s.accepts (some (begunBy b))) := by
  unfold next
  dsimp only
  split
  · rfl
  · rfl
  · rfl

theorem next_of_incomplete (h : readFront (s.pending ++ [b]) = .incomplete) :
    ∃ told, s.next b = ⟨s.residuals, s.before, s.pending ++ [b], told⟩ := by
  simp only [next, h]
  exact ⟨_, rfl⟩

theorem next_of_char {rest : List UInt8} (h : readFront (s.pending ++ [b]) = .char c rest) :
    ∃ told, s.next b = ⟨s.behind c, some c, [], told⟩ := by
  simp only [next, h]
  exact ⟨_, rfl⟩

/-- Inside a character the bytes are kept, and what may follow does not change. -/
theorem foldl_next_of_inside (hs : s.pending = [])
    (hencode : String.utf8EncodeChar c = front ++ back) (hback : back ≠ []) :
    ∃ told, front.foldl next s = ⟨s.residuals, s.before, front, told⟩ := by
  induction front using List.reverseRecOn generalizing back with
  | nil => exact ⟨s.isMatch, by rw [List.foldl_nil, ← hs]⟩
  | append_singleton front b ih =>
      have hinside : String.utf8EncodeChar c = front ++ (b :: back) := by
        rw [hencode, List.append_assoc, List.singleton_append]
      obtain ⟨told, hfront⟩ := ih hinside (List.cons_ne_nil b back)
      rw [List.foldl_concat, hfront]
      exact next_of_incomplete (readFront_eq_incomplete hencode hback)

/-- Behind the bytes of a character come its derivatives. -/
theorem foldl_next_char (hs : s.pending = []) (c : Char) :
    ∃ told, (String.utf8EncodeChar c).foldl next s = ⟨s.behind c, some c, [], told⟩ := by
  have hne : String.utf8EncodeChar c ≠ [] := by
    obtain ⟨b, bytes, hencode⟩ := Automaton.exists_utf8EncodeChar c
    rw [hencode]
    exact List.cons_ne_nil b bytes
  obtain ⟨front, b, hlast⟩ := (List.eq_nil_or_concat _).resolve_left hne
  rw [List.concat_eq_append] at hlast
  obtain ⟨told, hfront⟩ := foldl_next_of_inside hs hlast (List.cons_ne_nil b [])
  have hread := readFront_encoding c
  rw [hlast] at hread
  rw [hlast, List.foldl_concat, hfront]
  exact next_of_char (s := ⟨s.residuals, s.before, front, told⟩) hread

/-- Behind the bytes of a text a state matches what makes the text one that the expression
matches. -/
theorem behind_foldl_next (r : Regex) (read : List Char) :
    ((bytesOf read).foldl next (start r)).pending = [] ∧
      ∀ {text after}, ((bytesOf read).foldl next (start r)).Matches text after ↔
        Regex.Matches r none (read ++ text) after := by
  induction read using List.reverseRecOn with
  | nil => exact ⟨rfl, by simp [State.Matches, start]⟩
  | append_singleton read c ih =>
      obtain ⟨hpending, hmatches⟩ := ih
      rw [bytesOf_append, bytesOf_cons, bytesOf_nil, List.append_nil, List.foldl_append]
      obtain ⟨told, hc⟩ := foldl_next_char hpending c
      rw [hc]
      refine ⟨rfl, ?_⟩
      intro text after
      rw [List.append_assoc, List.singleton_append, ← hmatches, matches_cons_iff]
      rfl

/-- One byte behind a text the state tells whether the expression matches it. -/
theorem isMatch_next_iff (r : Regex) (text : List Char) {rest : List Char}
    (hencode : String.utf8EncodeChar c = b :: bytes) :
    (((bytesOf text).foldl next (start r)).next b).isMatch = true ↔
      Regex.Matches r none text (c :: rest).head? := by
  obtain ⟨hpending, hmatches⟩ := behind_foldl_next r text
  have htold : (((bytesOf text).foldl next (start r)).next b).isMatch =
      ((bytesOf text).foldl next (start r)).accepts (some c) := by
    rw [isMatch_next, hpending, accepts_begunBy hencode]
    rfl
  rw [htold, accepts_iff, hmatches, List.append_nil]
  rfl

theorem isDead_iff : s.isDead = true ↔ s.residuals = [] ∧ s.isMatch = false := by
  rw [isDead, Bool.and_eq_true, List.isEmpty_iff, Bool.not_eq_true']

theorem accepts_of_isDead (h : s.isDead = true) (after : Option Char) :
    s.accepts after = false := by
  rw [accepts, (isDead_iff.mp h).1]
  rfl

theorem isDead_next (h : s.isDead = true) (b : UInt8) : (s.next b).isDead = true := by
  refine isDead_iff.mpr ⟨?_, ?_⟩
  · have hnone := (isDead_iff.mp h).1
    unfold next
    dsimp only
    split
    · refine List.eq_nil_iff_forall_not_mem.mpr ?_
      simp [behind, mem_distinct, hnone]
    · exact hnone
    · rfl
  · rw [isMatch_next, accepts_of_isDead h, Bool.and_false]

theorem isDead_nextAtEnd (h : s.isDead = true) : s.nextAtEnd.isDead = true :=
  isDead_iff.mpr ⟨rfl, accepts_of_isDead h none⟩

end State

theorem automaton_recognizes (r : Regex) :
    r.automaton.Recognizes (State.start r) fun text rest => Matches r none text rest.head? where
  before text c rest _ _ := State.isMatch_next_iff r text
  atEnd text := by
    obtain ⟨-, hmatches⟩ := State.behind_foldl_next r text
    refine State.accepts_iff.trans (hmatches.trans ?_)
    rw [List.append_nil]
    rfl
  dead_next b h := State.isDead_next h b
  dead_nextAtEnd h := State.isDead_nextAtEnd h
  dead_isMatch h := (State.isDead_iff.mp h).2
  never_quits _ := rfl

/-- Every automaton that is compiled from a pattern tells which texts the expression of the pattern
matches. -/
theorem compile_recognizes {pattern : String} {a : Automaton} (h : compile pattern = .ok a) :
    ∃ r start, ofPattern pattern = .ok r ∧ a.start = .ok start ∧
      a.Recognizes start fun text rest => Matches r none text rest.head? := by
  unfold compile at h
  cases hof : ofPattern pattern with
  | error fault =>
      rw [hof] at h
      cases h
  | ok r =>
      rw [hof] at h
      cases h
      exact ⟨r, State.start r, rfl, rfl, automaton_recognizes r⟩

end Regex

end PredictiveParsing
