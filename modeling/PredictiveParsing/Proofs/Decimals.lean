import PredictiveParsing.Grammar.Json
import PredictiveParsing.Proofs.Integers

/-!
# Decimal numbers

The parsers of decimal numbers put the text of a number together again and refuse it if it writes
none. They never do: what a parser gives is known without a run (`Rules.Gives`), so its parts are
digits, signs and digits again, and a text of such parts writes the number that they are
(`Text.ofText?_textOf`). A check that every value passes is no check, and the parser acts as if it
mapped its values (`Rules.Gives.apply_tryMap`), on whatever it runs.
-/

namespace PredictiveParsing

variable {σ : Type} {ρ : Nat → Type} {St α β : Type}

/-! ### What parsers give -/

def Outcome.Carries (P : α → Prop) : Outcome σ α → Prop
  | .success a _ => P a
  | .failure _ => True

/-- From whatever state, the computation ends with a value that has the property, if it ends. -/
abbrev Comes {ε : Type} (m : EStateM ε St α) (q : α → Prop) : Prop :=
  Yields (fun _ => True) (fun _ => True) m q

theorem comes_true {ε : Type} (m : EStateM ε St α) : Comes m fun _ => True :=
  (Ensures.trivial m).mono (fun _ _ => trivial) (fun _ _ _ => ⟨trivial, trivial⟩) fun _ h => h

namespace Host

variable {host : Host σ ρ St} {P : α → Prop} {Q : β → Prop}

abbrev Gives (act : Action St σ α) (P : α → Prop) : Prop :=
  ∀ c, Comes (act c) (Outcome.Carries P)

theorem gives_satisfy [BEq σ] (host : Host σ ρ St) (set : SymbolSet σ) :
    Gives (host.satisfy set) fun s => set.contains s = true := by
  intro c
  refine (comes_true _).bind ?_
  rintro (_ | s) -
  · exact Yields.pure trivial
  · dsimp only
    split
    · rename_i hs
      exact Yields.pure hs
    · exact Yields.pure trivial

theorem gives_and {p : Operand St σ α} {q : Operand St σ β} (hp : Gives p.apply P)
    (hq : Gives q.apply Q) : Gives (host.and p q) fun v => P v.1 ∧ Q v.2 := by
  intro c
  refine (hp c).bind ?_
  rintro (⟨a, next⟩ | e) ha
  · refine (comes_true _).bind ?_
    rintro (_ | _) -
    · refine (hq next).bind ?_
      rintro (⟨b, next⟩ | e) hb
      · exact Yields.pure ⟨ha, hb⟩
      · exact Yields.pure trivial
    · exact (comes_true _).bind fun _ _ => Yields.pure trivial
  · exact Yields.pure trivial

theorem gives_orElse {c : Cursor} {f : Failure σ} {out : Outcome σ α} (h : out.Carries P) :
    Comes (host.orElse c f out) (Outcome.Carries P) := by
  cases out with
  | success a next => exact (comes_true _).bind fun _ _ => Yields.pure h
  | failure g => exact Yields.pure trivial

theorem gives_or {p q : Operand St σ α} (hp : Gives p.apply P) (hq : Gives q.apply P) :
    Gives (host.or p q) P := by
  intro c
  refine (comes_true _).bind ?_
  rintro (_ | _) -
  · refine (hp c).bind ?_
    rintro (⟨a, next⟩ | f) ha
    · exact Yields.pure ha
    · exact (hq c).bind fun _ hout => gives_orElse hout
  · refine (comes_true _).bind ?_
    rintro accepts -
    refine (comes_true _).bind ?_
    rintro (_ | _) -
    · cases accepts with
      | true => exact hq c
      | false =>
          exact (comes_true _).bind fun _ _ => (comes_true _).bind fun _ _ => Yields.pure trivial
    · refine (hp c).bind ?_
      rintro (⟨a, next⟩ | f) ha
      · exact Yields.pure ha
      · cases accepts with
        | true => exact (hq c).bind fun _ hout => gives_orElse hout
        | false => exact Yields.pure trivial

theorem gives_optional {p : Operand St σ α} (hp : Gives p.apply P) :
    Gives (host.optional p) fun o => ∀ a ∈ o, P a := by
  intro c
  refine (comes_true _).bind ?_
  rintro (_ | _) -
  · refine (hp c).bind ?_
    rintro (⟨a, next⟩ | f) ha
    · refine Yields.pure ?_
      rintro _ ⟨⟩
      exact ha
    · exact (comes_true _).bind fun _ _ => Yields.pure nofun
  · exact Yields.pure nofun

/-- What the rounds keep of their values they keep in the end. -/
theorem gives_roundsWhile [BEq σ] {first : SymbolSet σ} {p : Action St σ α} {step : β → α → β}
    (hp : Gives p P) (hstep : ∀ acc a, Q acc → P a → Q (step acc a)) (rounds : Nat) {acc : β}
    (hacc : Q acc) : Gives (host.roundsWhile first p step rounds acc) Q := by
  induction rounds generalizing acc with
  | zero => exact fun _ => Yields.throw trivial
  | succ rounds ih =>
      intro c
      refine (comes_true _).bind ?_
      rintro (_ | _) -
      · exact Yields.pure hacc
      · refine (hp c).bind ?_
        rintro (⟨a, next⟩ | f) ha
        · exact ih (hstep acc a hacc ha) next
        · dsimp only
          split
          · exact Yields.pure trivial
          · exact (comes_true _).bind fun _ _ => Yields.pure hacc

theorem gives_many1 [BEq σ] {p : Operand St σ α} (hp : Gives p.apply P) (rounds : Nat) :
    Gives (host.many1 rounds p) fun values => values ≠ [] ∧ ∀ a ∈ values, P a := by
  intro c
  refine (comes_true _).bind ?_
  rintro _ -
  refine (hp c).bind ?_
  rintro (⟨a, next⟩ | f) ha
  · refine (comes_true _).bind ?_
    rintro first -
    have hrounds : Gives (host.roundsWhile first p.apply (fun values a => a :: values) rounds [a])
        fun values => values ≠ [] ∧ ∀ a ∈ values, P a :=
      gives_roundsWhile hp
        (fun _ _ hacc ha => ⟨List.cons_ne_nil _ _, List.forall_mem_cons.mpr ⟨ha, hacc.2⟩⟩)
        rounds ⟨List.cons_ne_nil _ _, List.forall_mem_singleton.mpr ha⟩
    refine (hrounds next).bind ?_
    rintro (⟨values, next⟩ | f) hvalues
    · exact Yields.pure ⟨List.reverse_ne_nil_iff.mpr hvalues.1,
        fun a ha => hvalues.2 a (List.mem_reverse.mp ha)⟩
    · exact Yields.pure trivial
  · exact Yields.pure trivial

end Host

namespace Rules

variable [BEq σ] {rules : Rules σ ρ} {p : Parser σ ρ α} {q : Parser σ ρ β} {P P' : α → Prop}
  {Q : β → Prop}

/-- Whatever the parser runs on, it gives only values with the property. -/
def Gives (rules : Rules σ ρ) (p : Parser σ ρ α) (P : α → Prop) : Prop :=
  ∀ (St : Type) (host : Host σ ρ St) rounds, Host.Gives (rules.apply host (rounds + 1) p) P

namespace Gives

theorem mono (h : rules.Gives p P) (hP : ∀ a, P a → P' a) : rules.Gives p P' := by
  intro St host rounds c
  refine (h St host rounds c).mono ?_
  rintro (⟨a, next⟩ | f) ha
  · exact hP a ha
  · exact ha

theorem satisfy (set : SymbolSet σ) :
    rules.Gives (.satisfy set) fun s => set.contains s = true :=
  fun _ host _ => host.gives_satisfy set

theorem map {f : α → β} (h : rules.Gives p fun a => Q (f a)) : rules.Gives (p.map f) Q := by
  intro St host rounds c
  refine (h St host rounds c).bind ?_
  rintro (⟨a, next⟩ | e) ha
  · exact Yields.pure ha
  · exact Yields.pure trivial

theorem and (hp : rules.Gives p P) (hq : rules.Gives q Q) :
    rules.Gives (p.and q) fun v => P v.1 ∧ Q v.2 :=
  fun St host rounds => Host.gives_and (hp St host rounds) (hq St host rounds)

theorem andR (hq : rules.Gives q Q) (hp : rules.Gives p P) : rules.Gives (p.andR q) Q :=
  ((hp.and hq).mono fun _ hv => hv.2).map

theorem or {p' : Parser σ ρ α} (hp : rules.Gives p P) (hp' : rules.Gives p' P) :
    rules.Gives (p.or p') P :=
  fun St host rounds => Host.gives_or (hp St host rounds) (hp' St host rounds)

theorem optional (hp : rules.Gives p P) : rules.Gives p.optional fun o => ∀ a ∈ o, P a :=
  fun St host rounds => Host.gives_optional (hp St host rounds)

theorem many1 (hp : rules.Gives p P) :
    rules.Gives p.many1 fun values => values ≠ [] ∧ ∀ a ∈ values, P a :=
  fun St host rounds => Host.gives_many1 (hp St host rounds) rounds

/-- A check that no value fails does nothing but turn the values into others. -/
theorem apply_tryMap {g : α → Except String β} {f : α → β}
    (h : rules.Gives p fun a => g a = .ok (f a)) (host : Host σ ρ St) (budget : Nat) :
    rules.apply host budget (p.tryMap g) = rules.apply host budget (p.map f) := by
  cases budget with
  | zero => rfl
  | succ rounds =>
      funext c st
      have hst := h St host rounds c st trivial
      change (rules.apply host (rounds + 1) p c >>= _) st =
        (rules.apply host (rounds + 1) p c >>= _) st
      cases hrun : rules.apply host (rounds + 1) p c st with
      | error e st' => rw [EStateM.bind_of_error hrun, EStateM.bind_of_error hrun]
      | ok out st' =>
          rw [hrun] at hst
          rw [EStateM.bind_of_ok hrun, EStateM.bind_of_ok hrun]
          cases out with
          | failure e => rfl
          | success a next =>
              have hvalue : g a = .ok (f a) := hst.1
              dsimp only
              rw [hvalue]
              rfl

end Gives

end Rules

/-! ### Texts of numbers -/

namespace Text

open Decimal

variable {sign : Option Char} {whole ds rest : List Char} {fraction : Option (List Char)}
  {exponent : Option (Option Char × List Char)}

/-- The number that a sign, digits, those of a fraction and an exponent write. -/
def writtenOf (sign : Option Char) (whole : List Char) (fraction : Option (List Char))
    (exponent : Option (Option Char × List Char)) : Written where
  negative := sign = some '-'
  whole
  fraction := fraction.getD []
  exponent := exponent.elim 0 fun e => signedValue e.1 e.2

theorem splitSign_append (hsign : IsSign sign) (hrest : ∀ x ∈ rest.head?, ¬IsSign (some x)) :
    splitSign (sign.toList ++ rest) = (decide (sign = some '-'), rest) := by
  rcases hsign with rfl | rfl | rfl
  · rw [Option.toList_none, List.nil_append]
    unfold splitSign
    split
    · exact absurd (.inr (.inr rfl)) (hrest '-' rfl)
    · exact absurd (.inr (.inl rfl)) (hrest '+' rfl)
    · rfl
  · rfl
  · rfl

theorem splitDigits_append (hds : ∀ d ∈ ds, d.isDigit = true)
    (hrest : ∀ x ∈ rest.head?, x.isDigit = false) : splitDigits (ds ++ rest) = (ds, rest) := by
  have hnone : rest.takeWhile Char.isDigit = [] ∧ rest.dropWhile Char.isDigit = rest := by
    cases rest with
    | nil => exact ⟨rfl, rfl⟩
    | cons x rest =>
        have hx : ¬x.isDigit = true := Bool.not_eq_true _ ▸ hrest x rfl
        exact ⟨List.takeWhile_cons_of_neg hx, List.dropWhile_cons_of_neg hx⟩
  unfold splitDigits
  rw [List.takeWhile_append_of_pos hds, List.dropWhile_append_of_pos hds, hnone.1, hnone.2,
    List.append_nil]

theorem splitFraction_append (hfraction : ∀ ds ∈ fraction, IsNumeral ds)
    (hrest : ∀ x ∈ rest.head?, x = 'e') :
    splitFraction (fraction.elim [] ('.' :: ·) ++ rest) = (fraction.getD [], rest) := by
  cases fraction with
  | none =>
      change splitFraction rest = ([], rest)
      unfold splitFraction
      split
      · exact absurd (hrest '.' rfl) (by decide)
      · rfl
  | some ds =>
      refine splitDigits_append (hfraction ds rfl).isDigit ?_
      intro x hx
      rw [hrest x hx]
      rfl

theorem IsNumeral.head?_append (hds : IsNumeral ds) (rest : List Char) :
    ∀ x ∈ (ds ++ rest).head?, x.isDigit = true := by
  obtain ⟨d, ds, rfl⟩ := List.exists_cons_of_ne_nil hds.ne_nil
  rintro _ ⟨⟩
  exact hds.isDigit d (List.mem_cons_self ..)

theorem readExponent?_text (hexponent : ∀ e ∈ exponent, IsSign e.1 ∧ IsNumeral e.2) :
    readExponent? (exponent.elim [] fun e => 'e' :: (e.1.toList ++ e.2)) =
      some (exponent.elim 0 fun e => signedValue e.1 e.2) := by
  cases exponent with
  | none => rfl
  | some e =>
      obtain ⟨hsign, hds⟩ := hexponent e rfl
      have hhead : ∀ x ∈ e.2.head?, ¬IsSign (some x) := by
        intro x hx
        rw [← List.append_nil e.2] at hx
        exact not_isSign_of_isDigit (hds.head?_append [] x hx)
      have hne : e.2.isEmpty = false := List.isEmpty_eq_false_iff.mpr hds.ne_nil
      have hall : e.2.all Char.isDigit = true := List.all_eq_true.mpr hds.isDigit
      simp only [Option.elim, readExponent?, splitSign_append hsign hhead, hne, hall,
        value_eq_ofDigitChars hds.isDigit, signedValue, decide_eq_true_eq]
      rfl

/-- A text that is put together from the parts of a number writes that number. -/
theorem ofText?_textOf (hsign : IsSign sign) (hwhole : IsNumeral whole)
    (hfraction : ∀ ds ∈ fraction, IsNumeral ds)
    (hexponent : ∀ e ∈ exponent, IsSign e.1 ∧ IsNumeral e.2) :
    Written.ofText? (textOf sign whole fraction exponent) =
      some (writtenOf sign whole fraction exponent) := by
  let tail := exponent.elim [] fun e => 'e' :: (e.1.toList ++ e.2)
  have htail : ∀ x ∈ tail.head?, x = 'e' := by
    cases exponent with
    | none => exact nofun
    | some e =>
        rintro _ ⟨⟩
        rfl
  have hsplit : splitSign (textOf sign whole fraction exponent) =
      (decide (sign = some '-'), whole ++ (fraction.elim [] ('.' :: ·) ++ tail)) := by
    rw [textOf, List.append_assoc, List.append_assoc]
    refine splitSign_append hsign ?_
    intro x hx
    exact not_isSign_of_isDigit (hwhole.head?_append _ x hx)
  have hdigits : splitDigits (whole ++ (fraction.elim [] ('.' :: ·) ++ tail)) =
      (whole, fraction.elim [] ('.' :: ·) ++ tail) := by
    refine splitDigits_append hwhole.isDigit ?_
    cases fraction with
    | none =>
        intro x hx
        rw [htail x hx]
        rfl
    | some ds =>
        rintro _ ⟨⟩
        rfl
  have hpoint : splitFraction (fraction.elim [] ('.' :: ·) ++ tail) = (fraction.getD [], tail) :=
    splitFraction_append hfraction htail
  have hne : whole.isEmpty = false := List.isEmpty_eq_false_iff.mpr hwhole.ne_nil
  simp only [Written.ofText?, hsplit, hdigits, hpoint, hne, Bool.false_and, Bool.false_eq_true,
    if_false]
  rw [readExponent?_text hexponent]
  rfl

/-- So the check of such a text gives its number. -/
theorem toFloat?_textOf (message : String) (hsign : IsSign sign) (hwhole : IsNumeral whole)
    (hfraction : ∀ ds ∈ fraction, IsNumeral ds)
    (hexponent : ∀ e ∈ exponent, IsSign e.1 ∧ IsNumeral e.2) :
    toFloat? message (textOf sign whole fraction exponent) =
      .ok (writtenOf sign whole fraction exponent).toFloat := by
  rw [toFloat?, ofText?_textOf hsign hwhole hfraction hexponent]

/-! ### Parsers of decimal numbers -/

variable {rules : Rules Char ρ}

theorem gives_digits : rules.Gives digits IsNumeral :=
  (Rules.Gives.satisfy _).many1.mono fun _ hds => ⟨hds.1, hds.2⟩

theorem isNumeral_zero : IsNumeral ['0'] :=
  ⟨List.cons_ne_nil _ _, List.forall_mem_singleton.mpr rfl⟩

theorem gives_chr (c : Char) : rules.Gives (chr c) (· = c) :=
  (Rules.Gives.satisfy _).mono fun _ hx => (beq_iff_eq.mp hx).symm

theorem isSign_of_mem {o : Option Char} (h : ∀ x ∈ o, IsSign (some x)) : IsSign o := by
  cases o with
  | none => exact .inl rfl
  | some x => exact h x rfl

theorem gives_sign : rules.Gives Text.sign IsSign := by
  have hplus : rules.Gives (chr '+') fun x => IsSign (some x) :=
    (gives_chr '+').mono fun _ hx => .inr (.inl (congrArg some hx))
  have hminus : rules.Gives (chr '-') fun x => IsSign (some x) :=
    (gives_chr '-').mono fun _ hx => .inr (.inr (congrArg some hx))
  exact (hplus.or hminus).optional.mono fun _ => isSign_of_mem

theorem gives_fraction :
    rules.Gives ((chr '.').andR digits).optional fun fraction => ∀ ds ∈ fraction, IsNumeral ds :=
  (gives_digits.andR (gives_chr '.')).optional

/-- No fraction is refused, on whatever the parser runs. -/
theorem apply_floating (host : Host Char ρ St) (budget : Nat) :
    rules.apply host budget floating = rules.apply host budget
      (digits.map fun ds => (writtenOf none ['0'] (some ds) none).toFloat) := by
  refine Rules.Gives.apply_tryMap ?_ host budget
  refine gives_digits.mono ?_
  intro ds hds
  exact toFloat?_textOf _ (.inl rfl) isNumeral_zero (fun _ h => Option.mem_some.mp h ▸ hds) nofun

/-- No number is refused. -/
theorem apply_dble (host : Host Char ρ St) (budget : Nat) :
    rules.apply host budget dble = rules.apply host budget
      (((Text.sign.and digits).and ((chr '.').andR digits).optional).map fun parts =>
        (writtenOf (some (parts.1.1.getD '+')) parts.1.2 (some (parts.2.getD ['0']))
          none).toFloat) := by
  refine Rules.Gives.apply_tryMap ?_ host budget
  refine ((gives_sign.and gives_digits).and gives_fraction).mono ?_
  rintro ⟨⟨sign, whole⟩, fraction⟩ ⟨⟨hsign, hwhole⟩, hfraction⟩
  refine toFloat?_textOf _ ?_ hwhole ?_ nofun
  · cases sign with
    | none => exact .inr (.inl rfl)
    | some x => exact hsign
  · rintro _ ⟨⟩
    cases fraction with
    | none => exact isNumeral_zero
    | some ds => exact hfraction ds rfl

end Text

namespace Json

open Text

variable {rules : Rules Char ρ}

theorem gives_numberParts : rules.Gives numberParts fun parts =>
    ((IsSign parts.1.1.1 ∧ IsNumeral parts.1.1.2) ∧ ∀ ds ∈ parts.1.2, IsNumeral ds) ∧
      ∀ e ∈ parts.2, IsSign e.1 ∧ IsNumeral e.2 := by
  have hminus : rules.Gives (chr '-').optional IsSign :=
    (gives_chr '-').optional.mono fun _ h =>
      isSign_of_mem fun x hx => .inr (.inr (congrArg some (h x hx)))
  have hmark : rules.Gives ((chr 'e').or (chr 'E')) fun _ => True :=
    ((gives_chr 'e').mono fun _ _ => trivial).or ((gives_chr 'E').mono fun _ _ => trivial)
  exact ((hminus.and gives_digits).and gives_fraction).and
    ((gives_sign.andR hmark).and gives_digits).optional

/-- No number of a text is refused, on whatever the parser runs. -/
theorem apply_numberLiteral (host : Host Char ρ St) (budget : Nat) :
    rules.apply host budget numberLiteral = rules.apply host budget
      (numberParts.map fun parts =>
        (writtenOf parts.1.1.1 parts.1.1.2 parts.1.2 parts.2).toFloat) := by
  refine Rules.Gives.apply_tryMap ?_ host budget
  refine gives_numberParts.mono ?_
  rintro ⟨⟨⟨minus, whole⟩, fraction⟩, exponent⟩ ⟨⟨⟨hminus, hwhole⟩, hfraction⟩, hexponent⟩
  exact toFloat?_textOf _ hminus hwhole hfraction hexponent

end Json

end PredictiveParsing
