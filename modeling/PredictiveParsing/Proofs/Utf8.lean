import PredictiveParsing.Text.Utf8
import Mathlib.Data.List.Infix
import Mathlib.Data.Nat.Notation

/-!
# UTF-8 is read as it is written

`readChar` reads a character off the front of some bytes exactly when they begin with the
encoding of one (`readChar_encoding`, `eq_encoding_of_readChar`). Bytes that it finds
incomplete can be completed to an encoding, and those that it finds malformed cannot be,
whatever follows them.

So `readChars` takes off the longest run of characters that the bytes begin with
(`readChars_readOff`), and no text that the bytes begin with goes on behind it
(`Longest`).
-/

namespace PredictiveParsing.Text.Utf8

def bytesOf (cs : List Char) : List UInt8 := cs.flatMap String.utf8EncodeChar

@[simp] theorem bytesOf_nil : bytesOf [] = [] := rfl

@[simp] theorem bytesOf_cons (c : Char) (cs : List Char) :
    bytesOf (c :: cs) = String.utf8EncodeChar c ++ bytesOf cs := rfl

@[simp] theorem bytesOf_append (cs ds : List Char) :
    bytesOf (cs ++ ds) = bytesOf cs ++ bytesOf ds :=
  List.flatMap_append

theorem encode_eq_bytesOf (s : String) : encode s = bytesOf s.toList := rfl

/-! ### The first byte -/

/-- What a first byte says of the bytes behind it: how many there are, the bounds of the next one,
and the bits of the code point so far. -/
structure Lead where
  tails : Nat
  low : Nat
  high : Nat
  bits : Nat

/-- What a byte says as a first one, if it can be one. The bounds leave out what has a shorter
encoding, surrogates and what is no code point. -/
def lead? (n : Nat) : Option Lead :=
  if n < 0x80 then some ⟨0, 0x80, 0xBF, n⟩
  else if n < 0xC2 then none
  else if n < 0xE0 then some ⟨1, 0x80, 0xBF, n - 0xC0⟩
  else if n < 0xF0 then
    some ⟨2, if n = 0xE0 then 0xA0 else 0x80, if n = 0xED then 0x9F else 0xBF, n - 0xE0⟩
  else if n < 0xF5 then
    some ⟨3, if n = 0xF0 then 0x90 else 0x80, if n = 0xF4 then 0x8F else 0xBF, n - 0xF0⟩
  else none

section Lead

variable {n : Nat}

theorem lead?_one (h : n < 0x80) : lead? n = some ⟨0, 0x80, 0xBF, n⟩ := by
  rw [lead?, if_pos h]

theorem lead?_two (h : 0xC2 ≤ n) (h' : n < 0xE0) :
    lead? n = some ⟨1, 0x80, 0xBF, n - 0xC0⟩ := by
  rw [lead?, if_neg (by omega), if_neg (by omega), if_pos h']

theorem lead?_three (h : 0xE0 ≤ n) (h' : n < 0xF0) :
    lead? n = some ⟨2, if n = 0xE0 then 0xA0 else 0x80, if n = 0xED then 0x9F else 0xBF,
      n - 0xE0⟩ := by
  rw [lead?, if_neg (by omega), if_neg (by omega), if_neg (by omega), if_pos h']

theorem lead?_four (h : 0xF0 ≤ n) (h' : n < 0xF5) :
    lead? n = some ⟨3, if n = 0xF0 then 0x90 else 0x80, if n = 0xF4 then 0x8F else 0xBF,
      n - 0xF0⟩ := by
  rw [lead?, if_neg (by omega), if_neg (by omega), if_neg (by omega), if_neg (by omega), if_pos h']

theorem of_lead?_eq_some {l : Lead} (h : lead? n = some l) :
    n < 0x80 ∨ 0xC2 ≤ n ∧ n < 0xE0 ∨ 0xE0 ≤ n ∧ n < 0xF0 ∨ 0xF0 ≤ n ∧ n < 0xF5 := by
  by_contra hout
  rw [lead?, if_neg (by omega)] at h
  by_cases hlow : n < 0xC2
  · rw [if_pos hlow] at h
    cases h
  · rw [if_neg hlow, if_neg (by omega), if_neg (by omega), if_neg (by omega)] at h
    cases h

end Lead

theorem readChar_eq (b : UInt8) (rest : List UInt8) :
    readChar b rest = match lead? b.toNat with
      | some l => readTails l.tails l.low l.high l.bits rest
      | none => .malformed := by
  unfold readChar
  dsimp only
  generalize b.toNat = n
  by_cases hone : n < 0x80
  · rw [if_pos hone, lead?_one hone]
    rfl
  rw [if_neg hone]
  by_cases hnone : n < 0xC2
  · rw [if_pos hnone, lead?, if_neg hone, if_pos hnone]
  rw [if_neg hnone]
  by_cases htwo : n < 0xE0
  · rw [if_pos htwo, lead?_two (by omega) htwo]
  rw [if_neg htwo]
  by_cases hthree : n < 0xF0
  · rw [lead?_three (by omega) hthree]
    by_cases hlow : n = 0xE0
    · subst hlow
      rfl
    by_cases hhigh : n = 0xED
    · subst hhigh
      rfl
    rw [if_neg hlow, if_neg hhigh, if_pos hthree, if_neg hlow, if_neg hhigh]
  rw [if_neg (by omega), if_neg (by omega), if_neg hthree]
  by_cases hfour : n < 0xF5
  · rw [lead?_four (by omega) hfour]
    by_cases hlow : n = 0xF0
    · subst hlow
      rfl
    by_cases hhigh : n = 0xF4
    · subst hhigh
      rfl
    rw [if_neg hlow, if_pos (by omega), if_neg hlow, if_neg hhigh]
  rw [if_neg (by omega), if_neg (by omega), if_neg (by omega), lead?, if_neg hone, if_neg hnone,
    if_neg htwo, if_neg hthree, if_neg hfour]

/-! ### The bytes behind the first -/

/-- Bytes within the bounds of a first one, and the code point that they make with it. -/
inductive Tails : (tails low high bits : Nat) → List UInt8 → Nat → Prop where
  | nil {low high bits : Nat} : Tails 0 low high bits [] bits
  | cons {tails low high bits v : Nat} {b : UInt8} {bs : List UInt8} :
      low ≤ b.toNat → b.toNat ≤ high → Tails tails 0x80 0xBF (bits * 64 + (b.toNat - 0x80)) bs v →
        Tails (tails + 1) low high bits (b :: bs) v

variable {tails low high bits v : Nat} {bs rest more : List UInt8} {c : Char}

theorem tails_zero_iff : Tails 0 low high bits bs v ↔ bs = [] ∧ v = bits := by
  constructor
  · rintro ⟨⟩
    exact ⟨rfl, rfl⟩
  · rintro ⟨rfl, rfl⟩
    exact .nil

theorem tails_succ_iff : Tails (tails + 1) low high bits bs v ↔
    ∃ b rest, bs = b :: rest ∧ low ≤ b.toNat ∧ b.toNat ≤ high ∧
      Tails tails 0x80 0xBF (bits * 64 + (b.toNat - 0x80)) rest v := by
  constructor
  · rintro (_ | ⟨hlow, hhigh, htails⟩)
    exact ⟨_, _, rfl, hlow, hhigh, htails⟩
  · rintro ⟨b, rest, rfl, hlow, hhigh, htails⟩
    exact .cons hlow hhigh htails

theorem Tails.readTails (h : Tails tails low high bits bs v) (rest : List UInt8) :
    readTails tails low high bits (bs ++ rest) = .char (Char.ofNat v) rest := by
  induction h with
  | nil => rfl
  | cons hlow hhigh _ ih =>
      rw [List.cons_append, Utf8.readTails, if_pos ⟨hlow, hhigh⟩]
      exact ih

theorem tails_of_readTails (h : readTails tails low high bits bs = .char c rest) :
    ∃ front v, Tails tails low high bits front v ∧ bs = front ++ rest ∧ c = Char.ofNat v := by
  induction tails generalizing low high bits bs with
  | zero =>
      cases h
      exact ⟨[], bits, .nil, rfl, rfl⟩
  | succ tails ih =>
      cases bs with
      | nil => cases h
      | cons b bs =>
          rw [readTails] at h
          split at h
          · rename_i hb
            obtain ⟨front, v, htails, rfl, hc⟩ := ih h
            exact ⟨b :: front, v, .cons hb.1 hb.2 htails, rfl, hc⟩
          · cases h

/-- Bytes that stop short can be gone on with. -/
theorem exists_tails_of_incomplete (hbounds : low ≤ high) (hhigh : high ≤ 0xBF)
    (h : readTails tails low high bits bs = .incomplete) :
    ∃ more v, Tails tails low high bits (bs ++ more) v := by
  induction tails generalizing low high bits bs with
  | zero => cases h
  | succ tails ih =>
      cases bs with
      | nil =>
          have hbyte : (UInt8.ofNat high).toNat = high := by
            rw [UInt8.toNat_ofNat']
            omega
          obtain ⟨more, v, htails⟩ : ∃ more v,
              Tails tails 0x80 0xBF (bits * 64 + ((UInt8.ofNat high).toNat - 0x80)) more v := by
            cases tails with
            | zero => exact ⟨[], _, .nil⟩
            | succ n =>
                have hstop : ∀ bits, readTails (n + 1) 0x80 0xBF bits [] = .incomplete :=
                  fun _ => rfl
                exact ih (by decide) (by decide) (hstop _)
          exact ⟨UInt8.ofNat high :: more, v, .cons (by omega) (by omega) htails⟩
      | cons b bs =>
          rw [readTails] at h
          split at h
          · rename_i hb
            obtain ⟨more, v, htails⟩ := ih (by decide) (by decide) h
            exact ⟨more, v, .cons hb.1 hb.2 htails⟩
          · cases h

/-- Bytes out of their bounds stay so. -/
theorem readTails_append_of_malformed (h : readTails tails low high bits bs = .malformed)
    (more : List UInt8) : readTails tails low high bits (bs ++ more) = .malformed := by
  induction tails generalizing low high bits bs with
  | zero => cases h
  | succ tails ih =>
      cases bs with
      | nil => cases h
      | cons b bs =>
          rw [List.cons_append, readTails]
          rw [readTails] at h
          split at h
          · rename_i hb
            rw [if_pos hb]
            exact ih h
          · rename_i hb
            rw [if_neg hb]

/-! ### Code points -/

def encodePoint (v : Nat) : List UInt8 :=
  if v ≤ 127 then [UInt8.ofNat v]
  else if v ≤ 2047 then [UInt8.ofNat (v / 64 % 32 + 192), UInt8.ofNat (v % 64 + 128)]
  else if v ≤ 65535 then
    [UInt8.ofNat (v / 4096 % 16 + 224), UInt8.ofNat (v / 64 % 64 + 128), UInt8.ofNat (v % 64 + 128)]
  else
    [UInt8.ofNat (v / 262144 % 8 + 240), UInt8.ofNat (v / 4096 % 64 + 128),
      UInt8.ofNat (v / 64 % 64 + 128), UInt8.ofNat (v % 64 + 128)]

theorem utf8EncodeChar_eq (c : Char) : String.utf8EncodeChar c = encodePoint c.toNat := rfl

def Spells (b : UInt8) (bs : List UInt8) (v : Nat) : Prop :=
  ∃ l, lead? b.toNat = some l ∧ Tails l.tails l.low l.high l.bits bs v

theorem ofNat_eq_of_toNat {b : UInt8} {n : Nat} (h : n = b.toNat) : UInt8.ofNat n = b := by
  rw [h, UInt8.ofNat_toNat]

/-- What a first byte and bytes within its bounds make is encoded by them. -/
theorem Spells.point {b : UInt8} (h : Spells b bs v) :
    v.isValidChar ∧ encodePoint v = b :: bs := by
  obtain ⟨l, hlead, htails⟩ := h
  rcases of_lead?_eq_some hlead with h | ⟨h, h'⟩ | ⟨h, h'⟩ | ⟨h, h'⟩
  · obtain rfl := Option.some.inj ((lead?_one h).symm.trans hlead)
    simp only [tails_zero_iff] at htails
    obtain ⟨rfl, hv⟩ := htails
    refine ⟨.inl (by omega), ?_⟩
    rw [encodePoint, if_pos (by omega), ofNat_eq_of_toNat hv]
  · obtain rfl := Option.some.inj ((lead?_two h h').symm.trans hlead)
    simp only [tails_succ_iff, tails_zero_iff] at htails
    obtain ⟨x, _, rfl, hx, hx', rfl, hv⟩ := htails
    refine ⟨.inl (by omega), ?_⟩
    rw [encodePoint, if_neg (by omega), if_pos (by omega)]
    rw [ofNat_eq_of_toNat (b := b) (by omega), ofNat_eq_of_toNat (b := x) (by omega)]
  · obtain rfl := Option.some.inj ((lead?_three h h').symm.trans hlead)
    simp only [tails_succ_iff, tails_zero_iff] at htails
    obtain ⟨x, _, rfl, hx, hx', y, _, rfl, hy, hy', rfl, hv⟩ := htails
    have hlow : 0x80 ≤ x.toNat ∧ (b.toNat = 0xE0 → 0xA0 ≤ x.toNat) := by
      split at hx <;> omega
    have hhigh : x.toNat ≤ 0xBF ∧ (b.toNat = 0xED → x.toNat ≤ 0x9F) := by
      split at hx' <;> omega
    refine ⟨?_, ?_⟩
    · rw [Nat.isValidChar]
      omega
    · rw [encodePoint, if_neg (by omega), if_neg (by omega), if_pos (by omega)]
      rw [ofNat_eq_of_toNat (b := b) (by omega), ofNat_eq_of_toNat (b := x) (by omega),
        ofNat_eq_of_toNat (b := y) (by omega)]
  · obtain rfl := Option.some.inj ((lead?_four h h').symm.trans hlead)
    simp only [tails_succ_iff, tails_zero_iff] at htails
    obtain ⟨x, _, rfl, hx, hx', y, _, rfl, hy, hy', z, _, rfl, hz, hz', rfl, hv⟩ := htails
    have hlow : 0x80 ≤ x.toNat ∧ (b.toNat = 0xF0 → 0x90 ≤ x.toNat) := by
      split at hx <;> omega
    have hhigh : x.toNat ≤ 0xBF ∧ (b.toNat = 0xF4 → x.toNat ≤ 0x8F) := by
      split at hx' <;> omega
    refine ⟨.inr ⟨by omega, by omega⟩, ?_⟩
    rw [encodePoint, if_neg (by omega), if_neg (by omega), if_neg (by omega)]
    rw [ofNat_eq_of_toNat (b := b) (by omega), ofNat_eq_of_toNat (b := x) (by omega),
      ofNat_eq_of_toNat (b := y) (by omega), ofNat_eq_of_toNat (b := z) (by omega)]

/-- The encoding of a code point spells it. -/
theorem exists_spells (hv : v.isValidChar) : ∃ b bs, encodePoint v = b :: bs ∧ Spells b bs v := by
  have hmax : v < 0x110000 := by
    rcases hv with h | h
    · omega
    · exact h.2
  have hbyte : ∀ n, n < 256 → (UInt8.ofNat n).toNat = n := fun n hn => by
    rw [UInt8.toNat_ofNat', Nat.mod_eq_of_lt hn]
  have hlast := hbyte (v % 64 + 128) (by omega)
  have hlast' := hbyte (v / 64 % 64 + 128) (by omega)
  unfold encodePoint
  split_ifs with h₁ h₂ h₃
  · have hlead := hbyte v (by omega)
    exact ⟨_, _, rfl, _, lead?_one (by omega), tails_zero_iff.mpr ⟨rfl, hlead.symm⟩⟩
  · have hlead := hbyte (v / 64 % 32 + 192) (by omega)
    refine ⟨_, _, rfl, _, lead?_two (by omega) (by omega), .cons ?_ ?_
      (tails_zero_iff.mpr ⟨rfl, ?_⟩)⟩
    all_goals
      dsimp only
      omega
  · have hlead := hbyte (v / 4096 % 16 + 224) (by omega)
    refine ⟨_, _, rfl, _, lead?_three (by omega) (by omega), .cons ?_ ?_ (.cons ?_ ?_
      (tails_zero_iff.mpr ⟨rfl, ?_⟩))⟩
    · -- With less, two bytes would do.
      dsimp only
      split
      · omega
      · omega
    · -- More behind the same first byte would be a surrogate.
      dsimp only
      split
      · omega
      · omega
    · omega
    · omega
    · dsimp only
      omega
  · have hlead := hbyte (v / 262144 % 8 + 240) (by omega)
    have hnext := hbyte (v / 4096 % 64 + 128) (by omega)
    refine ⟨_, _, rfl, _, lead?_four (by omega) (by omega), .cons ?_ ?_ (.cons ?_ ?_ (.cons ?_ ?_
      (tails_zero_iff.mpr ⟨rfl, ?_⟩)))⟩
    · -- With less, three bytes would do.
      dsimp only
      split
      · omega
      · omega
    · -- More behind the same first byte would be past the last code point.
      dsimp only
      split
      · omega
      · omega
    · omega
    · omega
    · omega
    · omega
    · dsimp only
      omega

/-! ### Characters -/

def BeginsChar (bytes : List UInt8) : Prop := ∃ c rest, bytes = String.utf8EncodeChar c ++ rest

/-- With more bytes behind them, the bytes begin with the encoding of a character. -/
def Completable (bytes : List UInt8) : Prop := ∃ more, BeginsChar (bytes ++ more)

theorem completable_nil : Completable [] := ⟨String.utf8EncodeChar 'a', 'a', [], by simp⟩

variable {b : UInt8} {bytes : List UInt8}

theorem toNat_ofNat_of_isValidChar (h : v.isValidChar) : (Char.ofNat v).toNat = v := by
  rw [Char.ofNat, dif_pos h]
  rfl

theorem utf8EncodeChar_ofNat (h : v.isValidChar) :
    String.utf8EncodeChar (Char.ofNat v) = encodePoint v := by
  rw [utf8EncodeChar_eq, toNat_ofNat_of_isValidChar h]

/-- A character is read off the front of its encoding. -/
theorem readChar_encoding (c : Char) (rest : List UInt8) :
    ∃ b bs, String.utf8EncodeChar c = b :: bs ∧ readChar b (bs ++ rest) = .char c rest := by
  obtain ⟨b, bs, hencode, l, hlead, htails⟩ := exists_spells c.valid
  refine ⟨b, bs, hencode, ?_⟩
  rw [readChar_eq, hlead]
  dsimp only
  rw [htails.readTails]
  exact congrArg (Front.char · rest) (Char.ofNat_toNat c)

/-- A character that is read off the front of some bytes is encoded there. -/
theorem eq_encoding_of_readChar (h : readChar b bytes = .char c rest) :
    b :: bytes = String.utf8EncodeChar c ++ rest := by
  rw [readChar_eq] at h
  cases hlead : lead? b.toNat with
  | none =>
      rw [hlead] at h
      cases h
  | some l =>
      rw [hlead] at h
      obtain ⟨front, v, htails, rfl, rfl⟩ := tails_of_readTails h
      obtain ⟨hv, hpoint⟩ := Spells.point ⟨l, hlead, htails⟩
      rw [utf8EncodeChar_ofNat hv, hpoint, List.cons_append]

theorem beginsChar_cons_iff :
    BeginsChar (b :: bytes) ↔ ∃ c rest, readChar b bytes = .char c rest := by
  constructor
  · rintro ⟨c, rest, h⟩
    obtain ⟨b', bs, hencode, hread⟩ := readChar_encoding c rest
    rw [hencode, List.cons_append] at h
    cases h
    exact ⟨c, rest, hread⟩
  · rintro ⟨c, rest, h⟩
    exact ⟨c, rest, eq_encoding_of_readChar h⟩

theorem not_beginsChar_nil : ¬BeginsChar [] := by
  rintro ⟨c, rest, h⟩
  obtain ⟨b, bs, hencode, _⟩ := readChar_encoding c rest
  rw [hencode] at h
  cases h

theorem lead?_bounds {n : Nat} {l : Lead} (h : lead? n = some l) :
    l.low ≤ l.high ∧ l.high ≤ 0xBF := by
  rcases of_lead?_eq_some h with h' | ⟨h', h''⟩ | ⟨h', h''⟩ | ⟨h', h''⟩
  · obtain rfl := Option.some.inj ((lead?_one h').symm.trans h)
    exact ⟨(by decide : 0x80 ≤ 0xBF), Nat.le_refl 0xBF⟩
  · obtain rfl := Option.some.inj ((lead?_two h' h'').symm.trans h)
    exact ⟨(by decide : 0x80 ≤ 0xBF), Nat.le_refl 0xBF⟩
  · obtain rfl := Option.some.inj ((lead?_three h' h'').symm.trans h)
    dsimp only
    split_ifs <;> omega
  · obtain rfl := Option.some.inj ((lead?_four h' h'').symm.trans h)
    dsimp only
    split_ifs <;> omega

/-- The beginning of a character can be completed to it. -/
theorem completable_of_readChar_incomplete (h : readChar b bytes = .incomplete) :
    Completable (b :: bytes) := by
  rw [readChar_eq] at h
  cases hlead : lead? b.toNat with
  | none =>
      rw [hlead] at h
      cases h
  | some l =>
      rw [hlead] at h
      obtain ⟨hlow, hhigh⟩ := lead?_bounds hlead
      obtain ⟨more, v, htails⟩ := exists_tails_of_incomplete hlow hhigh h
      obtain ⟨hv, hpoint⟩ := Spells.point ⟨l, hlead, htails⟩
      refine ⟨more, Char.ofNat v, [], ?_⟩
      rw [utf8EncodeChar_ofNat hv, hpoint, List.append_nil, List.cons_append]

theorem readChar_append_of_malformed (h : readChar b bytes = .malformed) (more : List UInt8) :
    readChar b (bytes ++ more) = .malformed := by
  rw [readChar_eq] at h ⊢
  cases hlead : lead? b.toNat with
  | none => rfl
  | some l =>
      rw [hlead] at h
      exact readTails_append_of_malformed h more

/-- Nothing completes bytes that begin no character. -/
theorem not_completable_of_readChar_malformed (h : readChar b bytes = .malformed) :
    ¬Completable (b :: bytes) := by
  rintro ⟨more, hbegins⟩
  rw [List.cons_append, beginsChar_cons_iff, readChar_append_of_malformed h more] at hbegins
  obtain ⟨c, rest, hchar⟩ := hbegins
  cases hchar

theorem Completable.of_append (h : Completable (bytes ++ more)) : Completable bytes := by
  obtain ⟨more', hbegins⟩ := h
  exact ⟨more ++ more', by rwa [← List.append_assoc]⟩

theorem toNat_lt_of_isAlphanum (h : c.isAlphanum = true) : c.toNat < 0x80 := by
  rcases Bool.or_eq_true_iff.mp h with hletter | hdigit
  · rcases Bool.or_eq_true_iff.mp hletter with hupper | hlower
    · have hle : c.val ≥ 'A'.val ∧ c.val ≤ 'Z'.val := of_decide_eq_true hupper
      exact Nat.lt_of_le_of_lt hle.2 (by decide)
    · have hle : c.val ≤ 'z'.val := of_decide_eq_true (Bool.and_eq_true_iff.mp hlower).2
      exact Nat.lt_of_le_of_lt hle (by decide)
  · have hle : c.val ≤ '9'.val := of_decide_eq_true (Bool.and_eq_true_iff.mp hdigit).2
    exact Nat.lt_of_le_of_lt hle (by decide)

/-! The first byte of a character tells those of the basic alphabet from the others. -/

theorem toNat_head_of_lt (hc : c.toNat < 0x80) (h : String.utf8EncodeChar c = b :: bytes) :
    b.toNat = c.toNat ∧ bytes = [] := by
  rw [utf8EncodeChar_eq, encodePoint, if_pos (by omega)] at h
  obtain ⟨rfl, rfl⟩ := List.cons.inj h
  refine ⟨?_, rfl⟩
  rw [UInt8.toNat_ofNat']
  omega

/-- The bytes of the other characters are all beyond it. -/
theorem le_toNat_of_mem (hc : 0x80 ≤ c.toNat) (hb : b ∈ String.utf8EncodeChar c) :
    0x80 ≤ b.toNat := by
  have hbyte : ∀ n, 0x80 ≤ n % 256 → 0x80 ≤ (UInt8.ofNat n).toNat := by
    intro n hn
    rwa [UInt8.toNat_ofNat']
  rw [utf8EncodeChar_eq, encodePoint, if_neg (by omega)] at hb
  split_ifs at hb
  · simp only [List.mem_cons, List.not_mem_nil, or_false] at hb
    rcases hb with rfl | rfl
    · exact hbyte _ (by omega)
    · exact hbyte _ (by omega)
  · simp only [List.mem_cons, List.not_mem_nil, or_false] at hb
    rcases hb with rfl | rfl | rfl
    · exact hbyte _ (by omega)
    · exact hbyte _ (by omega)
    · exact hbyte _ (by omega)
  · simp only [List.mem_cons, List.not_mem_nil, or_false] at hb
    rcases hb with rfl | rfl | rfl | rfl
    · exact hbyte _ (by omega)
    · exact hbyte _ (by omega)
    · exact hbyte _ (by omega)
    · exact hbyte _ (by omega)

theorem le_toNat_head (hc : 0x80 ≤ c.toNat) (h : String.utf8EncodeChar c = b :: bytes) :
    0x80 ≤ b.toNat :=
  le_toNat_of_mem hc (h ▸ List.mem_cons_self ..)

/-- A character of the basic alphabet is one byte, and no other character has that byte. -/
theorem count_encoding {a : Char} (ha : a.toNat < 0x80) (c : Char) :
    (String.utf8EncodeChar c).count (UInt8.ofNat a.toNat) = if c = a then 1 else 0 := by
  have hbyte : (UInt8.ofNat a.toNat).toNat = a.toNat := by
    rw [UInt8.toNat_ofNat']
    omega
  rcases Nat.lt_or_ge c.toNat 0x80 with hc | hc
  · obtain ⟨b, bytes, hencode⟩ : ∃ b bytes, String.utf8EncodeChar c = b :: bytes :=
      List.exists_cons_of_ne_nil String.utf8EncodeChar_ne_nil
    obtain ⟨hb, rfl⟩ := toNat_head_of_lt hc hencode
    have hsame : b = UInt8.ofNat a.toNat ↔ c = a := by
      rw [← UInt8.toNat_inj, hb, hbyte, Char.toNat_inj]
    rw [hencode, List.count_singleton]
    simp only [beq_iff_eq, hsame]
  · have hne : c ≠ a := fun heq => absurd (heq ▸ hc) (Nat.not_le.mpr ha)
    rw [if_neg hne, List.count_eq_zero]
    intro hmem
    exact absurd (hbyte ▸ le_toNat_of_mem hc hmem) (Nat.not_le.mpr ha)

theorem count_bytesOf {a : Char} (ha : a.toNat < 0x80) (cs : List Char) :
    (bytesOf cs).count (UInt8.ofNat a.toNat) = cs.count a := by
  induction cs with
  | nil => rfl
  | cons c cs ih =>
      rw [bytesOf_cons, List.count_append, count_encoding ha, ih, List.count_cons, Nat.add_comm]
      simp only [beq_iff_eq]

/-! ### Texts -/

theorem length_le_length_bytesOf (cs : List Char) : cs.length ≤ (bytesOf cs).length := by
  induction cs with
  | nil => exact Nat.le_refl 0
  | cons c cs ih =>
      have hpos : 0 < (String.utf8EncodeChar c).length := by
        obtain ⟨b, bs, hencode, _⟩ := readChar_encoding c []
        rw [hencode]
        exact Nat.zero_lt_succ _
      rw [bytesOf_cons, List.length_append, List.length_cons]
      omega

/-- The characters are those that the bytes begin with, and no text that they begin with goes on
behind them. -/
structure Longest (bytes : List UInt8) (cs : List Char) : Prop where
  isPrefix : bytesOf cs <+: bytes
  longest : ∀ ds, bytesOf ds <+: bytes → ds <+: cs

theorem Longest.unique {cs ds : List Char} (h : Longest bytes cs) (h' : Longest bytes ds) :
    cs = ds :=
  (h'.longest cs h.isPrefix).eq_of_length_le ((h.longest ds h'.isPrefix).length_le)

/-- One encoding stands at the front of some bytes at most. -/
theorem encoding_append_inj {c d : Char} {rest rest' : List UInt8}
    (h : String.utf8EncodeChar c ++ rest = String.utf8EncodeChar d ++ rest') :
    c = d ∧ rest = rest' := by
  obtain ⟨b, bs, hc, hreadc⟩ := readChar_encoding c rest
  obtain ⟨b', bs', hd, hreadd⟩ := readChar_encoding d rest'
  rw [hc, hd, List.cons_append, List.cons_append] at h
  obtain ⟨rfl, hbytes⟩ := List.cons.inj h
  rw [hbytes, hreadd] at hreadc
  cases hreadc
  exact ⟨rfl, rfl⟩

/-- In the middle of an encoding more bytes are needed. -/
theorem readFront_eq_incomplete (hencode : String.utf8EncodeChar c = bs ++ more)
    (hmore : more ≠ []) : readFront bs = .incomplete := by
  cases bs with
  | nil => rfl
  | cons b bs =>
      obtain ⟨b', bs', hencode', hread⟩ := readChar_encoding c []
      rw [List.append_nil] at hread
      have hwhole := hencode'.symm.trans hencode
      rw [List.cons_append] at hwhole
      obtain ⟨rfl, rfl⟩ := List.cons.inj hwhole
      rw [readFront]
      cases hfront : readChar b' bs with
      | incomplete => rfl
      | char d rest =>
          have htwice : String.utf8EncodeChar c ++ [] =
              String.utf8EncodeChar d ++ (rest ++ more) := by
            rw [List.append_nil, hencode, eq_encoding_of_readChar hfront, List.append_assoc]
          obtain ⟨-, hnil⟩ := encoding_append_inj htwice
          exact absurd (List.append_eq_nil_iff.mp hnil.symm).2 hmore
      | malformed =>
          rw [readChar_append_of_malformed hfront] at hread
          cases hread

theorem readFront_encoding (c : Char) : readFront (String.utf8EncodeChar c) = .char c [] := by
  obtain ⟨b, bs, hencode, hread⟩ := readChar_encoding c []
  rw [hencode, readFront, ← hread, List.append_nil]

/-- Characters behind which no other one begins are the longest text. -/
theorem longest_of_not_beginsChar {cs : List Char} (h : ¬BeginsChar rest) :
    Longest (bytesOf cs ++ rest) cs := by
  refine ⟨List.prefix_append _ _, ?_⟩
  intro ds hds
  induction cs generalizing ds with
  | nil =>
      cases ds with
      | nil => exact List.prefix_rfl
      | cons d ds =>
          obtain ⟨tail, htail⟩ := hds
          rw [bytesOf_nil, List.nil_append, bytesOf_cons, List.append_assoc] at htail
          exact absurd ⟨d, _, htail.symm⟩ h
  | cons c cs ih =>
      cases ds with
      | nil => exact List.nil_prefix
      | cons d ds =>
          obtain ⟨tail, htail⟩ := hds
          rw [bytesOf_cons, bytesOf_cons, List.append_assoc, List.append_assoc] at htail
          obtain ⟨rfl, hrest⟩ := encoding_append_inj htail
          rw [List.cons_prefix_cons]
          exact ⟨rfl, ih ds ⟨tail, hrest⟩⟩

theorem bytesOf_injective : Function.Injective bytesOf := by
  have hlongest : ∀ cs, Longest (bytesOf cs) cs := by
    intro cs
    have hall : Longest (bytesOf cs ++ []) cs := longest_of_not_beginsChar not_beginsChar_nil
    rwa [List.append_nil] at hall
  intro cs ds h
  exact (hlongest cs).unique (h ▸ hlongest ds)

/-! ### Reading characters off -/

/-- The characters in front of some bytes have been read, and what is left begins no other one. -/
structure ReadOff (bytes : List UInt8) (cs : List Char) (rest : List UInt8) (remainder : Remainder) :
    Prop where
  bytes_eq : bytes = bytesOf cs ++ rest
  not_beginsChar : ¬BeginsChar rest
  remainder : remainder = .malformed ↔ ¬Completable rest

theorem ReadOff.cons (hchar : readChar b bytes = .char c rest) {cs : List Char}
    {rest' : List UInt8} {remainder : Remainder} (h : ReadOff rest cs rest' remainder) :
    ReadOff (b :: bytes) (c :: cs) rest' remainder := by
  refine ⟨?_, h.not_beginsChar, h.remainder⟩
  rw [eq_encoding_of_readChar hchar, bytesOf_cons, List.append_assoc, ← h.bytes_eq]

theorem readCharsOnto_readOff (cs : List Char) (bytes : List UInt8) :
    ∃ ds, (readCharsOnto cs bytes).1 = ds.reverse ++ cs ∧
      ReadOff bytes ds (readCharsOnto cs bytes).2.1 (readCharsOnto cs bytes).2.2 := by
  fun_induction readCharsOnto cs bytes with
  | case1 cs => exact ⟨[], rfl, rfl, not_beginsChar_nil, nofun, fun h => absurd completable_nil h⟩
  | case2 cs b bytes c rest hchar _ ih =>
      obtain ⟨ds, hds, hread⟩ := ih
      refine ⟨c :: ds, ?_, hread.cons hchar⟩
      rw [hds, List.reverse_cons, List.append_assoc, List.singleton_append]
  | case3 cs b bytes hchar =>
      refine ⟨[], rfl, rfl, ?_, nofun, fun h => absurd (completable_of_readChar_incomplete hchar) h⟩
      rw [beginsChar_cons_iff, hchar]
      exact nofun
  | case4 cs b bytes hchar =>
      have hnot := not_completable_of_readChar_malformed hchar
      refine ⟨[], rfl, rfl, ?_, fun _ => hnot, fun _ => rfl⟩
      rw [beginsChar_cons_iff, hchar]
      exact nofun

/-- The characters read are the longest text in front of the bytes, and the bytes left are malformed
exactly when nothing could complete them. -/
theorem readChars_readOff (bytes : List UInt8) :
    ReadOff bytes (readChars bytes).1 (readChars bytes).2.1 (readChars bytes).2.2 := by
  obtain ⟨ds, hds, hread⟩ := readCharsOnto_readOff [] bytes
  have hchars : (readChars bytes).1 = ds := by
    change (readCharsOnto [] bytes).1.reverse = ds
    rw [hds, List.append_nil, List.reverse_reverse]
  rw [hchars]
  exact hread

theorem ReadOff.longest {cs : List Char} {remainder : Remainder}
    (h : ReadOff bytes cs rest remainder) : Longest bytes cs := by
  rw [h.bytes_eq]
  exact longest_of_not_beginsChar h.not_beginsChar

end PredictiveParsing.Text.Utf8
