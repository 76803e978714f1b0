import PredictiveParsing.Proofs.Source
import PredictiveParsing.Proofs.Utf8
import PredictiveParsing.Source.Reader

/-!
# Characters from a reader depend on its bytes only

`Reader.bytes` are the bytes before the end of a reader, its first read that gives none or
fails, and `Reader.fault?` is the error it ends with, if it does. However the reads split
the bytes and whatever interrupts them, the characters given are the longest text that the
bytes begin with, and the error kept in the end is the `Verdict` on the bytes behind it.

The invariant is `ReaderChars.Serves`: while reading goes on, the characters given and
decoded, the bytes undecoded and the bytes still to come make up the bytes of the reader;
when it is over, nothing is left to come but what no character begins.
-/

namespace PredictiveParsing

open Text.Utf8

namespace Reader

/-- The bytes before the end: before the first read that gives none or fails. -/
def bytes : Reader → List UInt8
  | [] => []
  | .bytes [] :: _ => []
  | .bytes (b :: bs) :: rest => b :: bs ++ bytes rest
  | .interrupted :: rest => bytes rest
  | .failed _ :: _ => []

def fault? : Reader → Option String
  | [] => none
  | .bytes [] :: _ => none
  | .bytes (_ :: _) :: rest => fault? rest
  | .interrupted :: rest => fault? rest
  | .failed message :: _ => some message

def Reads (r next : Reader) : ReadEvent → Prop
  | .bytes [] => r.bytes = [] ∧ r.fault? = none
  | .bytes (b :: bs) => r.bytes = b :: bs ++ next.bytes ∧ r.fault? = next.fault?
  | .interrupted => r.bytes = next.bytes ∧ r.fault? = next.fault?
  | .failed message => r.bytes = [] ∧ r.fault? = some message

theorem read_reads (r : Reader) : r.Reads r.read.2 r.read.1 := by
  match r with
  | [] => exact ⟨rfl, rfl⟩
  | .interrupted :: rest => exact ⟨rfl, rfl⟩
  | .failed message :: rest => exact ⟨rfl, rfl⟩
  | .bytes [] :: rest => exact ⟨rfl, rfl⟩
  | .bytes (b :: bs) :: rest =>
      unfold read
      dsimp only
      cases hmore : (b :: bs).drop chunkSize with
      | nil => exact ⟨rfl, rfl⟩
      | cons b' bs' =>
          -- The piece is more than what is asked for at once; what is left comes next.
          have hsplit : (b :: bs).take chunkSize ++ b' :: bs' = b :: bs := by
            rw [← hmore, List.take_append_drop]
          cases htake : (b :: bs).take chunkSize with
          | nil => cases htake
          | cons c cs =>
              rw [htake] at hsplit
              refine ⟨?_, rfl⟩
              change b :: bs ++ bytes rest = c :: cs ++ (b' :: bs' ++ bytes rest)
              rw [← List.append_assoc, hsplit]

end Reader

namespace ReaderChars

/-- The error with which reading ends, when these bytes stand behind the last character. -/
inductive Verdict (rest : List UInt8) (offset : Nat) (fault? : Option String) :
    Option ReadError → Prop where
  /-- No further bytes could complete them to a character. -/
  | malformed : ¬Completable rest → Verdict rest offset fault? (some (.invalidUtf8 offset))
  | failed {message : String} : Completable rest → fault? = some message →
      Verdict rest offset fault? (some (.io message))
  /-- A character has been begun and the end is clean. -/
  | truncated : Completable rest → rest ≠ [] → fault? = none →
      Verdict rest offset fault? (some (.invalidUtf8 offset))
  | clean : rest = [] → fault? = none → Verdict rest offset fault? none

theorem Verdict.unique {rest : List UInt8} {offset : Nat} {fault? : Option String}
    {e e' : Option ReadError} (h : Verdict rest offset fault? e) (h' : Verdict rest offset fault? e') :
    e = e' := by
  have hnil : rest = [] → Completable rest := fun h => h ▸ completable_nil
  cases h <;> cases h' <;> simp_all

variable {reader : Reader} {taken text : List Char} {r : ReaderChars}

/-- The characters `taken` have been given, and those decoded are to be given next. -/
inductive Serves (reader : Reader) (taken : List Char) (r : ReaderChars) : Prop where
  | reading (status : r.status = .reading)
      (bytes : reader.bytes = bytesOf (taken ++ r.decoded) ++ (r.undecoded ++ r.reader.bytes))
      (fault : reader.fault? = r.reader.fault?) (not_beginsChar : ¬BeginsChar r.undecoded)
      (completable : Completable r.undecoded)
      (offset : r.bytesDecoded = (bytesOf (taken ++ r.decoded)).length)
  | done (status : r.status ≠ .reading) (rest : List UInt8)
      (bytes : reader.bytes = bytesOf (taken ++ r.decoded) ++ rest)
      (not_beginsChar : ¬BeginsChar rest)
      (verdict : Verdict rest r.bytesDecoded reader.fault? r.error?)
      (offset : r.bytesDecoded = (bytesOf (taken ++ r.decoded)).length)

theorem serves_start (reader : Reader) : Serves reader [] { reader } :=
  .reading rfl rfl rfl not_beginsChar_nil completable_nil rfl

section Decode

variable {bytes rest : List UInt8} {chars : List Char}

theorem decode_of_open (h : readChars (r.undecoded ++ bytes) = (chars, rest, .open)) :
    r.decode bytes =
      { r with
        undecoded := rest
        decoded := r.decoded ++ chars
        bytesDecoded := r.bytesDecoded + ((r.undecoded ++ bytes).length - rest.length) } := by
  unfold decode
  dsimp only
  rw [h]

theorem decode_of_malformed (h : readChars (r.undecoded ++ bytes) = (chars, rest, .malformed)) :
    r.decode bytes =
      { r with
        undecoded := rest
        decoded := r.decoded ++ chars
        bytesDecoded := r.bytesDecoded + ((r.undecoded ++ bytes).length - rest.length)
        status := .failed (.invalidUtf8
          (r.bytesDecoded + ((r.undecoded ++ bytes).length - rest.length))) } := by
  unfold decode
  dsimp only
  rw [h]

/-- Bytes that follow the undecoded ones are decoded as far as they make characters. -/
theorem decode_serves (status : r.status = .reading)
    (hbytes : reader.bytes =
      bytesOf (taken ++ r.decoded) ++ (r.undecoded ++ (bytes ++ r.reader.bytes)))
    (fault : reader.fault? = r.reader.fault?)
    (offset : r.bytesDecoded = (bytesOf (taken ++ r.decoded)).length) :
    Serves reader taken (r.decode bytes) := by
  have hread := readChars_readOff (r.undecoded ++ bytes)
  rcases hresult : readChars (r.undecoded ++ bytes) with ⟨chars, rest, remainder⟩
  rw [hresult] at hread
  obtain ⟨hall, hnot, hremainder⟩ := hread
  dsimp only at hall hnot hremainder
  have hsplit : reader.bytes =
      bytesOf (taken ++ (r.decoded ++ chars)) ++ (rest ++ r.reader.bytes) := by
    rw [hbytes, ← List.append_assoc r.undecoded, hall, ← List.append_assoc taken,
      bytesOf_append _ chars, List.append_assoc, List.append_assoc]
  have hoffset : r.bytesDecoded + ((r.undecoded ++ bytes).length - rest.length) =
      (bytesOf (taken ++ (r.decoded ++ chars))).length := by
    rw [hall, offset, ← List.append_assoc, bytesOf_append _ chars]
    simp only [List.length_append]
    omega
  cases remainder with
  | «open» =>
      rw [decode_of_open hresult]
      have hcompletable : Completable rest := by
        by_contra hnone
        cases hremainder.mpr hnone
      exact .reading status hsplit fault hnot hcompletable hoffset
  | malformed =>
      rw [decode_of_malformed hresult]
      have hnone : ¬Completable rest := hremainder.mp rfl
      refine .done nofun (rest ++ r.reader.bytes) hsplit ?_ ?_ hoffset
      · exact fun hbegins => hnone ⟨_, hbegins⟩
      · exact .malformed fun hcompletable => hnone hcompletable.of_append

end Decode

/-- One read, while reading goes on. -/
theorem readOnce_serves (status : r.status = .reading) (h : Serves reader taken r) :
    Serves reader taken r.readOnce := by
  cases h with
  | done hstatus => exact absurd status hstatus
  | reading _ bytes fault hnot completable offset =>
      have hread := r.reader.read_reads
      unfold readOnce
      rcases hnext : r.reader.read with ⟨event, next⟩
      rw [hnext] at hread
      dsimp only at hread ⊢
      cases event with
      | interrupted =>
          obtain ⟨hbytes, hfault⟩ := hread
          rw [hbytes] at bytes
          exact .reading status bytes (fault.trans hfault) hnot completable offset
      | failed message =>
          obtain ⟨hbytes, hfault⟩ := hread
          rw [hbytes, List.append_nil] at bytes
          exact .done nofun r.undecoded bytes hnot (.failed completable (fault.trans hfault)) offset
      | bytes read =>
          cases read with
          | cons b bs =>
              obtain ⟨hbytes, hfault⟩ := hread
              rw [hbytes] at bytes
              exact decode_serves (r := { r with reader := next }) status bytes
                (fault.trans hfault) offset
          | nil =>
              obtain ⟨hbytes, hfault⟩ := hread
              rw [hbytes, List.append_nil] at bytes
              cases hleft : r.undecoded with
              | nil =>
                  rw [hleft] at bytes hnot
                  exact .done nofun [] bytes hnot (.clean rfl (fault.trans hfault)) offset
              | cons b bs =>
                  rw [hleft] at bytes hnot completable
                  exact .done nofun (b :: bs) bytes hnot
                    (.truncated completable (List.cons_ne_nil b bs) (fault.trans hfault)) offset

theorem status_readOnce_of_nil (h : r.reader = []) : r.readOnce.status ≠ .reading := by
  unfold readOnce
  rw [h]
  dsimp only [Reader.read]
  cases r.undecoded with
  | nil => exact nofun
  | cons b bs => exact nofun

/-- Reads are repeated until there is a character to give or reading is over. -/
theorem fill_serves (h : Serves reader taken r) :
    Serves reader taken r.fill ∧ (r.fill.decoded = [] → r.fill.status ≠ .reading) := by
  fun_induction fill r with
  | case1 r status decoded hnil =>
      exact ⟨readOnce_serves status h, fun _ => status_readOnce_of_nil hnil⟩
  | case2 r status decoded _ _ ih => exact ih (readOnce_serves status h)
  | case3 r hstop => exact ⟨h, fun decoded status => hstop decoded status⟩

/-! ### Characters one by one -/

/-- The next character of a reader, of which the characters `taken` have been given, or none when
nothing will be read any more. -/
def Hands (reader : Reader) (taken : List Char) : Option Char × ReaderChars → Prop
  | (some c, r) => Serves reader (taken ++ [c]) r
  | (none, r) => Serves reader taken r ∧ r.decoded = [] ∧ r.status ≠ .reading

theorem pop_hands (h : Serves reader taken r) (hdone : r.decoded = [] → r.status ≠ .reading) :
    Hands reader taken r.pop := by
  unfold pop
  cases hdecoded : r.decoded with
  | nil => exact ⟨h, hdecoded, hdone hdecoded⟩
  | cons c rest =>
      have happend : taken ++ [c] ++ rest = taken ++ r.decoded := by
        rw [hdecoded, List.append_assoc, List.singleton_append]
      cases h with
      | reading status bytes fault hnot completable offset =>
          rw [← happend] at bytes offset
          exact .reading status bytes fault hnot completable offset
      | done status left bytes hnot verdict offset =>
          rw [← happend] at bytes offset
          exact .done status left bytes hnot verdict offset

theorem next_hands (h : Serves reader taken r) : Hands reader taken r.next := by
  unfold next
  cases hdecoded : r.decoded with
  | nil =>
      obtain ⟨hfill, hdone⟩ := fill_serves h
      exact pop_hands hfill hdone
  | cons c rest => exact pop_hands h fun hnil => by rw [hdecoded] at hnil; cases hnil

/-- When nothing will be read any more, the next character is none and nothing changes. -/
theorem next_eq_self (hdecoded : r.decoded = []) (status : r.status ≠ .reading) :
    r.next = (none, r) := by
  have hfill : r.fill = r := by
    unfold fill
    split
    · rename_i hstatus
      exact absurd hstatus status
    · rfl
  unfold next
  rw [hdecoded, hfill]
  unfold pop
  rw [hdecoded]

theorem Serves.isPrefix (h : Serves reader taken r) : bytesOf taken <+: reader.bytes := by
  have hprefix : bytesOf taken <+: bytesOf (taken ++ r.decoded) := by
    rw [bytesOf_append]
    exact List.prefix_append _ _
  cases h with
  | reading _ bytes => exact hprefix.trans ⟨_, bytes.symm⟩
  | done _ _ bytes => exact hprefix.trans ⟨_, bytes.symm⟩

/-- When reading is over, the characters given and decoded are the longest text. -/
theorem Serves.longest (h : Serves reader taken r) (status : r.status ≠ .reading) :
    Longest reader.bytes (taken ++ r.decoded) := by
  cases h with
  | reading hreading => exact absurd hreading status
  | done _ rest bytes hnot =>
      rw [bytes]
      exact longest_of_not_beginsChar hnot

/-- When reading is over, the error kept is the verdict on the bytes behind the longest text. -/
theorem Serves.verdict {rest : List UInt8} (h : Serves reader taken r) (status : r.status ≠ .reading)
    (htext : Longest reader.bytes text) (hbytes : reader.bytes = bytesOf text ++ rest) :
    r.bytesDecoded = (bytesOf text).length ∧
      Verdict rest (bytesOf text).length reader.fault? r.error? := by
  have hall : taken ++ r.decoded = text := (h.longest status).unique htext
  cases h with
  | reading hreading => exact absurd hreading status
  | done _ rest' bytes _ verdict offset =>
      rw [hall] at bytes offset
      have hrest : rest' = rest := List.append_cancel_left (bytes.symm.trans hbytes)
      rw [hrest, offset] at verdict
      exact ⟨offset, verdict⟩

/-- Asked for more characters than there are, the supply gives the longest text. -/
theorem take_serves {rest : List Char} (h : Serves reader taken r)
    (htext : Longest reader.bytes (taken ++ rest)) {n : Nat} (hn : rest.length < n) :
    ∃ r', take n r = (rest, r') ∧ Serves reader (taken ++ rest) r' ∧ r'.decoded = [] ∧
      r'.status ≠ .reading := by
  induction n generalizing taken rest r with
  | zero => exact absurd hn (Nat.not_lt_zero _)
  | succ n ih =>
      have hnext := next_hands h
      unfold take
      rcases hstep : r.next with ⟨symbol, r'⟩
      rw [hstep] at hnext
      cases symbol with
      | none =>
          obtain ⟨hserves, hdecoded, hstatus⟩ := hnext
          have hall := hserves.longest hstatus
          rw [hdecoded, List.append_nil] at hall
          have hnil : rest = [] := List.append_right_eq_self.mp (htext.unique hall)
          subst hnil
          rw [List.append_nil]
          exact ⟨r', rfl, hserves, hdecoded, hstatus⟩
      | some c =>
          have hserves : Serves reader (taken ++ [c]) r' := hnext
          obtain ⟨rest', hrest⟩ := htext.longest _ hserves.isPrefix
          rw [List.append_assoc, List.append_cancel_left_eq, List.singleton_append] at hrest
          subst hrest
          have htext' : Longest reader.bytes (taken ++ [c] ++ rest') := by
            rwa [List.append_assoc, List.singleton_append]
          obtain ⟨r'', htake, hserves', hend⟩ := ih hserves htext' (Nat.lt_of_succ_lt_succ hn)
          dsimp only
          rw [htake]
          rw [List.append_assoc, List.singleton_append] at hserves'
          exact ⟨r'', rfl, hserves', hend⟩

/-- Whatever the reads are, the characters given are the longest text that the bytes begin with,
and the offset is its length. The error kept is the verdict on the bytes behind it, and once the
supply has ended it stays as it is. -/
theorem take_eq_longest (reader : Reader) :
    ∃ text rest error?, reader.bytes = bytesOf text ++ rest ∧ Longest reader.bytes text ∧
      Verdict rest (bytesOf text).length reader.fault? error? ∧
      ∀ n, text.length < n → ∃ r, take n { reader } = (text, r) ∧
        r.bytesDecoded = (bytesOf text).length ∧ r.error? = error? ∧ r.next = (none, r) := by
  have hread := readChars_readOff reader.bytes
  generalize (readChars reader.bytes).1 = text at hread
  generalize (readChars reader.bytes).2.1 = rest at hread
  have htext : Longest reader.bytes text := hread.longest
  have htake : ∀ n, text.length < n → ∃ r, take n { reader } = (text, r) ∧
      Serves reader text r ∧ r.decoded = [] ∧ r.status ≠ .reading :=
    fun n hn => take_serves (serves_start reader) htext hn
  obtain ⟨last, _, hlast, _, hlastStatus⟩ := htake (text.length + 1) (Nat.lt_succ_self _)
  have hverdict := (hlast.verdict hlastStatus htext hread.bytes_eq).2
  refine ⟨text, rest, last.error?, hread.bytes_eq, htext, hverdict, ?_⟩
  intro n hn
  obtain ⟨r, hr, hserves, hdecoded, hstatus⟩ := htake n hn
  obtain ⟨hoffset, hverdict'⟩ := hserves.verdict hstatus htext hread.bytes_eq
  exact ⟨r, hr, hoffset, hverdict'.unique hverdict, next_eq_self hdecoded hstatus⟩

end ReaderChars

end PredictiveParsing
