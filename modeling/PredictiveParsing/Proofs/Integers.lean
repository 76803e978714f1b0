import PredictiveParsing.Proofs.Choice
import PredictiveParsing.Proofs.Mirrors
import PredictiveParsing.Proofs.Repetition
import PredictiveParsing.Proofs.Whole
import PredictiveParsing.Text.Parsers

/-!
# Integers

The integer parsers are made of a digit, its repetition, an optional sign and a check of the value.
What each part comes to follows from what stands in the input there: a sign and digits with no
further digit behind them (`Text.NumberAt`). Either such a number stands at a position and is read
and checked, or no integer is read there (`Text.ReadsNumbers`). A text is therefore parsed exactly
if it is nothing but a number that is in range (`Text.integers_accepted`).

The value of digits is that of `Nat.ofDigitChars`, which knows nothing of the parsers and undoes the
printing of a number.
-/

namespace PredictiveParsing

variable {σ : Type} {ρ : Nat → Type} {α β : Type}

/-! ### Combinators -/

/-- What a value comes to that is checked where it has been read: a success behind it, or a failure
where it began. -/
def Outcome.checked (c next : Cursor) : Except String α → Outcome σ α
  | .ok a => .success a next
  | .error message => .failure ⟨c.position, .message message⟩

namespace Rules

variable [BEq σ] {rules : Rules σ ρ} {symbols : List σ} {p : Parser σ ρ α} {c next : Cursor}
  {out : Outcome σ α} {a : α} {f : Failure σ}

theorem ComesTo.tryMap (g : α → Except String β)
    (h : rules.ComesTo symbols p c (.success a next)) :
    rules.ComesTo symbols (p.tryMap g) c (.checked c next (g a)) := by
  filter_upwards [h, Filter.eventually_gt_atTop 0] with budget h hpos S _
  obtain ⟨rounds, rfl⟩ := Nat.exists_eq_add_one.mpr hpos
  refine (h S).bind ?_
  dsimp only
  cases g a with
  | ok b => exact Session.settled_pure _
  | error message => exact Session.settled_pure _

theorem ComesTo.tryMap_failure (g : α → Except String β)
    (h : rules.ComesTo symbols p c (.failure f)) :
    rules.ComesTo symbols (p.tryMap g) c (.failure f) := by
  filter_upwards [h, Filter.eventually_gt_atTop 0] with budget h hpos S _
  obtain ⟨rounds, rfl⟩ := Nat.exists_eq_add_one.mpr hpos
  exact (h S).bind (Session.settled_pure _)

theorem ComesTo.optional (hc : c.position < symbols.length) (h : rules.ComesTo symbols p c out) :
    rules.ComesTo symbols p.optional c (match out with
      | .success a next => .success (some a) next
      | .failure _ => .success none c) := by
  filter_upwards [h, Filter.eventually_gt_atTop 0] with budget h hpos S _
  obtain ⟨rounds, rfl⟩ := Nat.exists_eq_add_one.mpr hpos
  have hends : Session.Settled rules symbols (fun _ => ())
      ((Session.host (S := S) rules).endsBefore
        (rules.operand (Session.host rules) (rounds + 1) p) c) false := by
    refine (Session.settled_atEnd rules symbols _ c).bind ?_
    rw [List.getElem?_eq_getElem hc]
    exact Session.settled_pure _
  refine hends.bind ((h S).bind ?_)
  cases out with
  | success a next => exact Session.settled_pure _
  | failure f => exact (Session.settled_recover c fun _ => rfl).bind (Session.settled_pure _)

/-- At the end of the input, a parser that needs a symbol is not applied. -/
theorem comesTo_optional_ended (hneeds : rules.AcceptsEmpty p false)
    (hc : symbols.length ≤ c.position) :
    rules.ComesTo symbols p.optional c (.success none c) := by
  filter_upwards [Filter.eventually_gt_atTop 0] with budget hpos S _
  obtain ⟨rounds, rfl⟩ := Nat.exists_eq_add_one.mpr hpos
  refine (Session.settled_endsBefore hneeds _ c).bind ?_
  rw [List.getElem?_eq_none hc]
  exact Session.settled_pure _

/-- `many1` fails as its first round does. -/
theorem ComesTo.many1_failure (hneeds : rules.AcceptsEmpty p false)
    (h : rules.ComesTo symbols p c (.failure f)) :
    rules.ComesTo symbols p.many1 c (.failure f) := by
  filter_upwards [h, Filter.eventually_gt_atTop 0] with budget h hpos S _
  obtain ⟨rounds, rfl⟩ := Nat.exists_eq_add_one.mpr hpos
  have hsymbol : Session.Settled (S := S) rules symbols (fun _ => ())
      (Host.needsSymbol .many1 (rules.operand (Session.host rules) (rounds + 1) p)) () :=
    (Session.settled_acceptsEmpty hneeds).bind (Session.settled_pure _)
  exact hsymbol.bind ((h S).bind (Session.settled_pure _))

end Rules

/-! ### Numerals -/

namespace Text

structure IsNumeral (ds : List Char) : Prop where
  ne_nil : ds ≠ []
  isDigit : ∀ d ∈ ds, d.isDigit = true

def IsSign (sign : Option Char) : Prop := sign = none ∨ sign = some '+' ∨ sign = some '-'

def signedValue (sign : Option Char) (ds : List Char) : Int :=
  if sign = some '-' then -(Nat.ofDigitChars 10 ds 0 : Int) else Nat.ofDigitChars 10 ds 0

variable {symbols rest : List Char} {ds : List Char} {c : Cursor} {sign : Option Char}

theorem value_eq_ofDigitChars (hds : ∀ d ∈ ds, d.isDigit = true) :
    Decimal.value ds = Nat.ofDigitChars 10 ds 0 := by
  rw [Nat.ofDigitChars_eq_foldl]
  refine List.foldl_ext _ _ _ ?_
  intro n d hd
  rw [Decimal.digitValue, if_pos (hds d hd)]

theorem isNumeral_toDigits (n : Nat) : IsNumeral (Nat.toDigits 10 n) where
  ne_nil := Nat.toDigits_ne_nil
  isDigit _ := Nat.isDigit_of_mem_toDigits (by decide) (by decide)

/-! ### Conversions -/

theorem toUnsigned?_eq_ok (hds : ∀ d ∈ ds, d.isDigit = true) {n : UInt64} :
    toUnsigned? ds = .ok n ↔ Nat.ofDigitChars 10 ds 0 = n.toNat := by
  unfold toUnsigned?
  rw [value_eq_ofDigitChars hds]
  dsimp only
  constructor
  · intro h
    split at h
    · rename_i hlt
      cases h
      exact (UInt64.toNat_ofNat_of_lt' hlt).symm
    · cases h
  · intro h
    rw [h, if_pos n.toNat_lt, UInt64.ofNat_toNat]

theorem toUnsigned?_eq_error (hds : ∀ d ∈ ds, d.isDigit = true)
    (h : UInt64.size ≤ Nat.ofDigitChars 10 ds 0) :
    toUnsigned? ds = .error "integer out of range" := by
  unfold toUnsigned?
  rw [value_eq_ofDigitChars hds]
  exact if_neg (Nat.not_lt_of_le h)

theorem toSigned?_eq (hds : ∀ d ∈ ds, d.isDigit = true) (sign : Option Char) :
    toSigned? sign ds =
      if Int64.minValue.toInt ≤ signedValue sign ds ∧
          signedValue sign ds ≤ Int64.maxValue.toInt then
        .ok (Int64.ofInt (signedValue sign ds))
      else .error "integer out of range" := by
  unfold toSigned? signedValue
  rw [value_eq_ofDigitChars hds]

theorem toSigned?_eq_ok (hds : ∀ d ∈ ds, d.isDigit = true) {n : Int64} :
    toSigned? sign ds = .ok n ↔ signedValue sign ds = n.toInt := by
  rw [toSigned?_eq hds]
  constructor
  · intro h
    split at h
    · rename_i hrange
      cases h
      exact (Int64.toInt_ofInt_of_le hrange.1 (Int.lt_of_le_sub_one hrange.2)).symm
    · cases h
  · intro h
    rw [h, if_pos ⟨n.minValue_le_toInt, n.toInt_le⟩, Int64.ofInt_toInt]

theorem toSigned?_eq_error (hds : ∀ d ∈ ds, d.isDigit = true)
    (h : signedValue sign ds < Int64.minValue.toInt ∨
      Int64.maxValue.toInt < signedValue sign ds) :
    toSigned? sign ds = .error "integer out of range" := by
  rw [toSigned?_eq hds]
  refine if_neg ?_
  omega

/-! ### Digits and signs -/

theorem comesTo_digit {x : Char} (hx : symbols[c.position]? = some x) (hdigit : x.isDigit = true) :
    (Rules.empty : Rules Char ρ).ComesTo symbols digit c (.success x c.advance) :=
  Rules.comesTo_satisfy hx hdigit

theorem comesTo_digit_failure (hx : ∀ x ∈ symbols[c.position]?, x.isDigit = false) :
    ∃ f, (Rules.empty : Rules Char ρ).ComesTo symbols digit c (.failure f) ∧
      f.position = c.position :=
  Rules.comesTo_satisfy_failure hx

/-- Digit after digit is read. -/
theorem iterates_digit (hds : ∀ d ∈ ds, d.isDigit = true)
    (h : symbols.drop c.position = ds ++ rest) :
    (Rules.empty : Rules Char ρ).Iterates symbols digit c ds
      ⟨c.position + ds.length, c.tracked⟩ := by
  induction ds generalizing c with
  | nil => exact .nil c
  | cons d ds ih =>
      rw [List.forall_mem_cons] at hds
      have hd : symbols[c.position]? = some d := by
        rw [← List.head?_drop, h]
        rfl
      have hrest : symbols.drop c.advance.position = ds ++ rest := by
        have htail := congrArg List.tail h
        rw [List.tail_drop] at htail
        exact htail
      have hsteps := ih hds.2 hrest
      rw [List.length_cons, Nat.add_comm ds.length 1, ← Nat.add_assoc]
      exact .cons (comesTo_digit hd hds.1) hsteps

theorem replies_digit :
    (Rules.empty : Rules Char ρ).Replies digit false (.predicate "digit" Char.isDigit) := ⟨rfl, rfl⟩

/-- The longest run of digits is read. -/
theorem comesTo_digits (hds : IsNumeral ds) (h : symbols.drop c.position = ds ++ rest)
    (hrest : ∀ x ∈ rest.head?, x.isDigit = false) :
    (Rules.empty : Rules Char ρ).ComesTo symbols digits c
      (.success ds ⟨c.position + ds.length, c.tracked⟩) := by
  -- Behind the last digit one round more fails where it began, so the repetition ends there.
  let e : Cursor := ⟨c.position + ds.length, c.tracked⟩
  have hbehind : symbols[e.position]? = rest.head? := by
    rw [← List.head?_drop, ← List.drop_drop, h, List.drop_left]
  have hpremade : (Rules.empty : Rules Char ρ).Throughout Rules.empty.Premade digit :=
    Rules.throughout_empty (by repeat' constructor)
  obtain ⟨f, hfails, hposition⟩ := comesTo_digit_failure (ρ := ρ) (c := e) (hbehind ▸ hrest)
  have hdigits := Rules.comesTo_many1 hpremade (iterates_digit hds.isDigit h) hfails hds.ne_nil
    (.inl ⟨false, _, replies_digit, fun _ => rfl⟩)
  rw [Outcome.ofRounds, if_pos hposition] at hdigits
  exact hdigits

theorem replies_digits :
    (Rules.empty : Rules Char ρ).Replies digits false (.predicate "digit" Char.isDigit) :=
  ⟨rfl, rfl⟩

theorem comesTo_digits_failure (hx : ∀ x ∈ symbols[c.position]?, x.isDigit = false) :
    ∃ f, (Rules.empty : Rules Char ρ).ComesTo symbols digits c (.failure f) := by
  obtain ⟨f, hfails, _⟩ := comesTo_digit_failure hx
  exact ⟨f, hfails.many1_failure replies_digit.acceptsEmpty⟩

theorem comesTo_chr {x : Char} (hx : symbols[c.position]? = some x) :
    (Rules.empty : Rules Char ρ).ComesTo symbols (chr x) c (.success x c.advance) :=
  Rules.comesTo_satisfy hx (beq_self_eq_true x)

theorem comesTo_chr_failure {x y : Char} (hx : symbols[c.position]? = some x) (hne : x ≠ y) :
    ∃ f, (Rules.empty : Rules Char ρ).ComesTo symbols (chr y) c (.failure f) := by
  have hcontains : ∀ z ∈ symbols[c.position]?, (SymbolSet.value y).contains z = false := by
    rw [hx]
    rintro _ ⟨⟩
    exact beq_false_of_ne hne.symm
  exact (Rules.comesTo_satisfy_failure hcontains).imp fun _ h => h.1

theorem comesTo_sign_some {x : Char} (hx : symbols[c.position]? = some x)
    (hsign : IsSign (some x)) :
    (Rules.empty : Rules Char ρ).ComesTo symbols Text.sign c (.success (some x) c.advance) := by
  obtain ⟨hc, _⟩ := List.getElem?_eq_some_iff.mp hx
  rcases hsign with hnone | hplus | hminus
  · cases hnone
  · cases hplus
    exact ((comesTo_chr hx).or_success hc (chr '-')).optional hc
  · cases hminus
    have hminus := comesTo_chr (ρ := ρ) hx
    obtain ⟨f, hplus⟩ := comesTo_chr_failure (ρ := ρ) hx (y := '+') (by decide)
    exact (hplus.or_failure hc hminus).optional hc

theorem comesTo_sign_none (hsign : ∀ x ∈ symbols[c.position]?, ¬IsSign (some x)) :
    (Rules.empty : Rules Char ρ).ComesTo symbols Text.sign c (.success none c) := by
  cases hx : symbols[c.position]? with
  | none => exact Rules.comesTo_optional_ended rfl (List.getElem?_eq_none_iff.mp hx)
  | some x =>
      obtain ⟨hc, _⟩ := List.getElem?_eq_some_iff.mp hx
      have hne : ∀ y, IsSign (some y) → x ≠ y := fun y hy heq => hsign x hx (heq ▸ hy)
      obtain ⟨f, hplus⟩ := comesTo_chr_failure (ρ := ρ) hx (hne '+' (.inr (.inl rfl)))
      obtain ⟨g, hminus⟩ := comesTo_chr_failure (ρ := ρ) hx (hne '-' (.inr (.inr rfl)))
      exact (hplus.or_failure hc hminus).optional hc

/-- A sign is read wherever one stands, and elsewhere none. -/
theorem exists_comesTo_sign (symbols : List Char) (c : Cursor) :
    ∃ sign, IsSign sign ∧
      symbols.drop c.position = sign.toList ++ symbols.drop (c.position + sign.toList.length) ∧
      (Rules.empty : Rules Char ρ).ComesTo symbols Text.sign c
        (.success sign ⟨c.position + sign.toList.length, c.tracked⟩) := by
  by_cases hsigned : ∃ x ∈ symbols[c.position]?, IsSign (some x)
  · obtain ⟨x, hx, hsign⟩ := hsigned
    refine ⟨some x, hsign, ?_, comesTo_sign_some hx hsign⟩
    obtain ⟨hc, rfl⟩ := List.getElem?_eq_some_iff.mp hx
    exact List.drop_eq_getElem_cons hc
  · refine ⟨none, .inl rfl, rfl, comesTo_sign_none ?_⟩
    exact fun x hx hsign => hsigned ⟨x, hx, hsign⟩

/-! ### Numbers -/

/-- A sign and digits stand at the position, and no further digit behind them. -/
structure NumberAt (symbols : List Char) (i : Nat) (sign : Option Char) (ds : List Char) :
    Prop where
  isSign : IsSign sign
  isNumeral : IsNumeral ds
  longest : ∃ rest, symbols.drop i = sign.toList ++ ds ++ rest ∧
    ∀ x ∈ rest.head?, x.isDigit = false

theorem not_isSign_of_isDigit {x : Char} (h : x.isDigit = true) : ¬IsSign (some x) := by
  rintro (hnone | hplus | hminus)
  · cases hnone
  · cases hplus
    cases h
  · cases hminus
    cases h

theorem NumberAt.comesTo_sign (h : NumberAt symbols c.position sign ds) :
    (Rules.empty : Rules Char ρ).ComesTo symbols Text.sign c
      (.success sign ⟨c.position + sign.toList.length, c.tracked⟩) := by
  obtain ⟨rest, hdrop, _⟩ := h.longest
  have hhead : symbols[c.position]? = (sign.toList ++ ds ++ rest).head? := by
    rw [← List.head?_drop, hdrop]
  cases sign with
  | none =>
      refine comesTo_sign_none ?_
      intro x hx
      rw [hhead] at hx
      obtain ⟨d, ds, rfl⟩ := List.exists_cons_of_ne_nil h.isNumeral.ne_nil
      cases hx
      exact not_isSign_of_isDigit (h.isNumeral.isDigit _ (List.mem_cons_self ..))
  | some x => exact comesTo_sign_some hhead h.isSign

theorem NumberAt.comesTo_digits (h : NumberAt symbols c.position sign ds) :
    (Rules.empty : Rules Char ρ).ComesTo symbols digits
      ⟨c.position + sign.toList.length, c.tracked⟩
      (.success ds ⟨c.position + (sign.toList ++ ds).length, c.tracked⟩) := by
  obtain ⟨rest, hdrop, hrest⟩ := h.longest
  rw [List.append_assoc] at hdrop
  rw [List.length_append, ← Nat.add_assoc]
  refine Text.comesTo_digits h.isNumeral ?_ hrest
  rw [← List.drop_drop, hdrop, List.drop_left]

/-- Behind a sign either digits stand, or no digit comes next. -/
theorem numberAt_or {i : Nat} (hsign : IsSign sign)
    (h : symbols.drop i = sign.toList ++ symbols.drop (i + sign.toList.length)) :
    (∃ ds, NumberAt symbols i sign ds) ∨
      ∀ x ∈ symbols[i + sign.toList.length]?, x.isDigit = false := by
  rw [← List.head?_drop]
  generalize symbols.drop (i + sign.toList.length) = rest at h ⊢
  cases rest with
  | nil => exact .inr nofun
  | cons x rest =>
      cases hx : x.isDigit with
      | false =>
          refine .inr ?_
          rintro _ ⟨⟩
          exact hx
      | true =>
          -- The number ends with the longest run of digits, so what is left begins with none.
          refine .inl ⟨(x :: rest).takeWhile Char.isDigit, hsign, ⟨?_, ?_⟩, ?_⟩
          · rw [List.takeWhile_cons_of_pos hx]
            exact List.cons_ne_nil _ _
          · exact List.all_eq_true.mp List.all_takeWhile
          · refine ⟨(x :: rest).dropWhile Char.isDigit, ?_, ?_⟩
            · rw [h, List.append_assoc, List.takeWhile_append_dropWhile]
            · have hhead := List.head?_dropWhile_not Char.isDigit (x :: rest)
              intro y hy
              rw [hy] at hhead
              exact hhead

/-! ### Parsers of numbers -/

/-- The parser reads numbers with the signs it allows, as far as they can be converted, and fails
where none stands. -/
structure ReadsNumbers (p : Parser Char ρ α) (Allowed : Option Char → Prop)
    (convert : Option Char → List Char → Except String α) : Prop where
  premade : (Rules.empty : Rules Char ρ).Throughout Parser.IsPremade p
  founded : (Rules.empty : Rules Char ρ).Throughout Rules.empty.Founded p
  computes : (Rules.empty : Rules Char ρ).Computes p
  reads : ∀ symbols c sign ds, Allowed sign → NumberAt symbols c.position sign ds →
    (Rules.empty : Rules Char ρ).ComesTo symbols p c
      (.checked c ⟨c.position + (sign.toList ++ ds).length, c.tracked⟩ (convert sign ds))
  reads_or_fails : ∀ symbols (c : Cursor),
    (∃ sign ds, Allowed sign ∧ NumberAt symbols c.position sign ds) ∨
      ∃ f, (Rules.empty : Rules Char ρ).ComesTo symbols p c (.failure f)

theorem readsNumbers_uint :
    ReadsNumbers (ρ := ρ) uint (· = none) (fun _ => toUnsigned?) where
  premade := Rules.throughout_empty (by repeat' constructor)
  founded := by
    refine Rules.throughout_empty ?_
    repeat' apply And.intro
    all_goals exact ⟨⟨_, _, rfl⟩, ⟨_, _, rfl⟩, trivial⟩
  computes := ⟨_, _, rfl, rfl⟩
  reads := by
    rintro symbols c _ ds rfl hnumber
    exact hnumber.comesTo_digits.tryMap toUnsigned?
  reads_or_fails := by
    intro symbols c
    rcases numberAt_or (.inl rfl) rfl with ⟨ds, hnumber⟩ | hdigit
    · exact .inl ⟨none, ds, rfl, hnumber⟩
    · obtain ⟨f, hdigits⟩ := comesTo_digits_failure (ρ := ρ) hdigit
      exact .inr ⟨f, hdigits.tryMap_failure _⟩

/-- Without a digit behind the sign there is no number. -/
theorem comesTo_sign_and_digits_failure {next : Cursor}
    (hsign : (Rules.empty : Rules Char ρ).ComesTo symbols Text.sign c (.success sign next))
    (hdigit : ∀ x ∈ symbols[next.position]?, x.isDigit = false) :
    ∃ f, (Rules.empty : Rules Char ρ).ComesTo symbols (Text.sign.and digits) c (.failure f) := by
  cases hended : (symbols[next.position]?).isNone with
  | true => exact ⟨_, hsign.and_ended replies_digits hended⟩
  | false =>
      obtain ⟨f, hdigits⟩ := comesTo_digits_failure hdigit
      exact ⟨f, hsign.and_success replies_digits.acceptsEmpty (by rw [hended]; rfl) hdigits⟩

theorem readsNumbers_int : ReadsNumbers (ρ := ρ) int (fun _ => True) toSigned? where
  premade := Rules.throughout_empty (by repeat' constructor)
  founded := by
    refine Rules.throughout_empty ?_
    repeat' apply And.intro
    all_goals exact ⟨⟨_, _, rfl⟩, ⟨_, _, rfl⟩, trivial⟩
  computes := ⟨_, _, rfl, rfl⟩
  reads := by
    intro symbols c sign ds _ hnumber
    have hpremade : (Rules.empty : Rules Char ρ).Throughout Parser.IsPremade digits :=
      Rules.throughout_empty (by repeat' constructor)
    have hdigits := hnumber.comesTo_digits (ρ := ρ)
    have hruns := hdigits.runs hpremade replies_digits.acceptsEmpty
    have hboth : (Rules.empty : Rules Char ρ).ComesTo symbols (Text.sign.and digits) c
        (.success (sign, ds) ⟨c.position + (sign.toList ++ ds).length, c.tracked⟩) :=
      hnumber.comesTo_sign.and_success replies_digits.acceptsEmpty hruns hdigits
    exact hboth.tryMap _
  reads_or_fails := by
    intro symbols c
    obtain ⟨sign, hsign, hdrop, hout⟩ := exists_comesTo_sign (ρ := ρ) symbols c
    rcases numberAt_or hsign hdrop with ⟨ds, hnumber⟩ | hdigit
    · exact .inl ⟨sign, ds, trivial, hnumber⟩
    · obtain ⟨f, hboth⟩ := comesTo_sign_and_digits_failure hout hdigit
      exact .inr ⟨f, hboth.tryMap_failure _⟩

/-! ### Whole texts -/

namespace ReadsNumbers

variable {p : Parser Char ρ α} {Allowed : Option Char → Prop}
  {convert : Option Char → List Char → Except String α} {s : String} {n : α}

/-- A text that begins with a number is parsed if nothing else stands in it. -/
theorem parseText_of_numberAt (hp : ReadsNumbers p Allowed convert) (hallowed : Allowed sign)
    (hnumber : NumberAt s.toList 0 sign ds) :
    parseText Rules.empty p s = .ok (.ok n) ↔
      convert sign ds = .ok n ∧ s.toList = sign.toList ++ ds := by
  obtain ⟨b, set, hreplies⟩ := hp.computes
  have hout := hp.reads s.toList ⟨0, true⟩ sign ds hallowed hnumber
  obtain ⟨rest, hrest, _⟩ := hnumber.longest
  have hlength : s.toList.length ≤ 0 + (sign.toList ++ ds).length ↔
      s.toList = sign.toList ++ ds := by
    rw [List.drop_zero] at hrest
    rw [hrest, List.length_append, List.append_right_eq_self, ← List.length_eq_zero_iff]
    omega
  unfold parseText
  rw [parseSymbols_eq_ok_iff hp.premade hp.founded hreplies hout, ← hlength]
  cases convert sign ds with
  | ok a => simp [Outcome.checked]
  | error message => simp [Outcome.checked]

/-- A text is parsed exactly if it is a number that is allowed and can be converted. -/
theorem parseText_eq_ok (hp : ReadsNumbers p Allowed convert) :
    parseText Rules.empty p s = .ok (.ok n) ↔
      ∃ sign ds, Allowed sign ∧ IsSign sign ∧ IsNumeral ds ∧ s.toList = sign.toList ++ ds ∧
        convert sign ds = .ok n := by
  constructor
  · intro h
    rcases hp.reads_or_fails s.toList ⟨0, true⟩ with ⟨sign, ds, hallowed, hnumber⟩ | ⟨f, hfails⟩
    · obtain ⟨hvalue, hwhole⟩ := (hp.parseText_of_numberAt hallowed hnumber).mp h
      exact ⟨sign, ds, hallowed, hnumber.isSign, hnumber.isNumeral, hwhole, hvalue⟩
    · obtain ⟨b, set, hreplies⟩ := hp.computes
      obtain ⟨_, hout, _⟩ := (parseSymbols_eq_ok_iff hp.premade hp.founded hreplies hfails n).mp h
      cases hout
  · rintro ⟨sign, ds, hallowed, hsign, hnumeral, hwhole, hvalue⟩
    have hnumber : NumberAt s.toList 0 sign ds := ⟨hsign, hnumeral, [], by simp [hwhole], nofun⟩
    exact (hp.parseText_of_numberAt hallowed hnumber).mpr ⟨hvalue, hwhole⟩

end ReadsNumbers

theorem parseText_uint_eq_ok {s : String} {n : UInt64} :
    parseText (Rules.empty : Rules Char ρ) uint s = .ok (.ok n) ↔
      IsNumeral s.toList ∧ Nat.ofDigitChars 10 s.toList 0 = n.toNat := by
  rw [readsNumbers_uint.parseText_eq_ok]
  constructor
  · rintro ⟨_, ds, rfl, _, hnumeral, hwhole, hvalue⟩
    rw [hwhole]
    exact ⟨hnumeral, (toUnsigned?_eq_ok hnumeral.isDigit).mp hvalue⟩
  · rintro ⟨hnumeral, hvalue⟩
    exact ⟨none, s.toList, rfl, .inl rfl, hnumeral, rfl,
      (toUnsigned?_eq_ok hnumeral.isDigit).mpr hvalue⟩

theorem parseText_int_eq_ok {s : String} {n : Int64} :
    parseText (Rules.empty : Rules Char ρ) int s = .ok (.ok n) ↔
      ∃ sign ds, IsSign sign ∧ IsNumeral ds ∧ s.toList = sign.toList ++ ds ∧
        signedValue sign ds = n.toInt := by
  rw [readsNumbers_int.parseText_eq_ok]
  refine exists₂_congr ?_
  intro sign ds
  rw [true_and]
  refine and_congr_right fun _ => and_congr_right fun hnumeral => and_congr_right fun _ => ?_
  exact toSigned?_eq_ok hnumeral.isDigit

/-! ### Printed numbers -/

theorem parseText_uint_toString (n : UInt64) :
    parseText (Rules.empty : Rules Char ρ) uint (toString n) = .ok (.ok n) := by
  have hprinted : (toString n).toList = Nat.toDigits 10 n.toNat := by
    change (toString n.toNat).toList = _
    rw [Nat.toString_eq_ofList_toDigits, String.toList_ofList]
  rw [parseText_uint_eq_ok, hprinted]
  exact ⟨isNumeral_toDigits _, Nat.ofDigitChars_ten_toDigits⟩

theorem parseText_int_toString (n : Int64) :
    parseText (Rules.empty : Rules Char ρ) int (toString n) = .ok (.ok n) := by
  have hprinted : toString n = n.toInt.repr := rfl
  rw [parseText_int_eq_ok, hprinted, Int.repr_eq_if]
  by_cases hnonneg : 0 ≤ n.toInt
  · rw [if_pos hnonneg]
    refine ⟨none, Nat.toDigits 10 n.toInt.toNat, .inl rfl, isNumeral_toDigits _, ?_, ?_⟩
    · rw [Nat.repr_eq_ofList_toDigits, String.toList_ofList]
      rfl
    · rw [signedValue, Nat.ofDigitChars_ten_toDigits]
      exact Int.toNat_of_nonneg hnonneg
  · rw [if_neg hnonneg]
    refine ⟨some '-', Nat.toDigits 10 (-n.toInt).toNat, .inr (.inr rfl), isNumeral_toDigits _,
      ?_, ?_⟩
    · rw [Nat.repr_eq_ofList_toDigits, String.toList_append]
      exact congrArg (List.cons '-') String.toList_ofList
    · rw [signedValue, Nat.ofDigitChars_ten_toDigits, if_pos rfl]
      omega

/-! ### Integers -/

/-- The unsigned integer parser accepts of all texts exactly the numerals whose value fits in 64
bits, and gives that value, and so does the signed one with numerals behind at most one sign. Where
such a number stands in an input, each reads up to the last of its digits if it is in range, and
fails where it begins if it is not. Both read back what is printed. -/
theorem integers_accepted :
    (∀ (s : String) (n : UInt64), parseText (Rules.empty : Rules Char ρ) uint s = .ok (.ok n) ↔
      IsNumeral s.toList ∧ Nat.ofDigitChars 10 s.toList 0 = n.toNat) ∧
    (∀ (s : String) (n : Int64), parseText (Rules.empty : Rules Char ρ) int s = .ok (.ok n) ↔
      ∃ sign ds, IsSign sign ∧ IsNumeral ds ∧ s.toList = sign.toList ++ ds ∧
        signedValue sign ds = n.toInt) ∧
    (∀ symbols c ds, NumberAt symbols c.position none ds →
      (∀ n : UInt64, Nat.ofDigitChars 10 ds 0 = n.toNat →
        (Rules.empty : Rules Char ρ).ComesTo symbols uint c
          (.success n ⟨c.position + ds.length, c.tracked⟩)) ∧
      (UInt64.size ≤ Nat.ofDigitChars 10 ds 0 →
        (Rules.empty : Rules Char ρ).ComesTo symbols uint c
          (.failure ⟨c.position, .message "integer out of range"⟩))) ∧
    (∀ symbols c sign ds, NumberAt symbols c.position sign ds →
      (∀ n : Int64, signedValue sign ds = n.toInt →
        (Rules.empty : Rules Char ρ).ComesTo symbols int c
          (.success n ⟨c.position + (sign.toList ++ ds).length, c.tracked⟩)) ∧
      (signedValue sign ds < Int64.minValue.toInt ∨ Int64.maxValue.toInt < signedValue sign ds →
        (Rules.empty : Rules Char ρ).ComesTo symbols int c
          (.failure ⟨c.position, .message "integer out of range"⟩))) ∧
    (∀ n : UInt64, parseText (Rules.empty : Rules Char ρ) uint (toString n) = .ok (.ok n)) ∧
    ∀ n : Int64, parseText (Rules.empty : Rules Char ρ) int (toString n) = .ok (.ok n) := by
  refine ⟨fun _ _ => parseText_uint_eq_ok, fun _ _ => parseText_int_eq_ok, ?_, ?_,
    parseText_uint_toString, parseText_int_toString⟩
  · intro symbols c ds hnumber
    have hdigits := hnumber.isNumeral.isDigit
    have hout := readsNumbers_uint.reads (ρ := ρ) symbols c none ds rfl hnumber
    refine ⟨fun n hvalue => ?_, fun hlarge => ?_⟩
    · rw [(toUnsigned?_eq_ok hdigits).mpr hvalue] at hout
      exact hout
    · rw [toUnsigned?_eq_error hdigits hlarge] at hout
      exact hout
  · intro symbols c sign ds hnumber
    have hdigits := hnumber.isNumeral.isDigit
    have hout := readsNumbers_int.reads (ρ := ρ) symbols c sign ds trivial hnumber
    refine ⟨fun n hvalue => ?_, fun hbeyond => ?_⟩
    · rw [(toSigned?_eq_ok hdigits).mpr hvalue] at hout
      exact hout
    · rw [toSigned?_eq_error hdigits hbeyond] at hout
      exact hout

/-- Leading zeros and the least number, and one that is too large by one. -/
theorem integers_accepted_limits :
    parseText (Rules.empty : Rules Char fun _ => Unit) int "-0009223372036854775808" =
        .ok (.ok Int64.minValue) ∧
      (Rules.empty : Rules Char fun _ => Unit).ComesTo "+9223372036854775808;".toList int .start
        (.failure ⟨0, .message "integer out of range"⟩) := by
  obtain ⟨_, hint, _, hnumber, _⟩ := integers_accepted (ρ := fun _ => Unit)
  constructor
  · refine (hint _ _).mpr ⟨some '-', "0009223372036854775808".toList, .inr (.inr rfl), ?_, rfl, ?_⟩
    · exact ⟨List.cons_ne_nil _ _, List.all_eq_true.mp rfl⟩
    · decide
  · refine (hnumber "+9223372036854775808;".toList .start (some '+')
      "9223372036854775808".toList ?_).2 (.inr (by decide))
    refine ⟨.inr (.inl rfl), ⟨List.cons_ne_nil _ _, List.all_eq_true.mp rfl⟩, [';'], rfl, ?_⟩
    rintro _ ⟨⟩
    rfl

end Text

end PredictiveParsing
