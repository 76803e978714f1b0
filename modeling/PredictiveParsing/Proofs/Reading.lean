import PredictiveParsing.Proofs.Backings
import PredictiveParsing.Proofs.Reader

/-!
# Parsing what is read

To a parser, an error of a reader looks like the end of the input, so a parse can succeed
on a text that was cut short. `parseReader` accepts a value all the same only if the end
is clean and the bytes before it are those of a text of which the parse gives that value.
A parse succeeds only after it has seen the input end (`Session.parse_sees_end`), a stream
that has ended has had the last character of its supply, and by then the supply holds the
verdict on everything behind it.

The invariant of the stream is `Stream.Follows`. It answers the looks of a parser with the
text of the reader (`Stream.answers_follows`), so that the parse ends as it does over that
text.
-/

namespace PredictiveParsing

open Text.Utf8

variable {ρ : Nat → Type} {α σ : Type}

/-! ### The text of a reader -/

namespace Reader

/-- The longest text that the bytes begin with. -/
def text (reader : Reader) : String := String.ofList (readChars reader.bytes).1

/-- The end is clean, and the bytes before it are those of the text. -/
structure Holds (reader : Reader) (t : String) : Prop where
  clean : reader.fault? = none
  bytes : reader.bytes = encode t

variable {reader : Reader} {t : String}

theorem longest_text (reader : Reader) : Longest reader.bytes reader.text.toList := by
  have hchars : reader.text.toList = (readChars reader.bytes).1 := String.toList_ofList
  rw [hchars]
  exact (readChars_readOff reader.bytes).longest

theorem Holds.text_eq (h : reader.Holds t) : reader.text = t := by
  have hlongest : Longest reader.bytes t.toList := by
    rw [h.bytes, encode_eq_bytesOf, ← List.append_nil (bytesOf t.toList)]
    exact longest_of_not_beginsChar not_beginsChar_nil
  exact String.toList_inj.mp ((longest_text reader).unique hlongest)

theorem exists_bytes_eq (reader : Reader) :
    ∃ rest, reader.bytes = encode reader.text ++ rest := by
  obtain ⟨rest, hrest⟩ := (longest_text reader).isPrefix
  exact ⟨rest, hrest.symm⟩

theorem length_bytes_le_weight (reader : Reader) : reader.bytes.length ≤ reader.weight := by
  fun_induction bytes reader with
  | case1 => exact Nat.zero_le _
  | case2 => exact Nat.zero_le _
  | case3 b bs rest ih =>
      rw [weight, List.length_append]
      omega
  | case4 rest ih =>
      change (bytes rest).length ≤ 1 + weight rest
      omega
  | case5 => exact Nat.zero_le _

/-- A text is no longer than the budget of a parse of the reader allows for. -/
theorem length_text_le_weight (reader : Reader) : reader.text.toList.length ≤ reader.weight := by
  have hprefix : (bytesOf reader.text.toList).length ≤ reader.bytes.length :=
    (longest_text reader).isPrefix.length_le
  calc
    reader.text.toList.length ≤ (bytesOf reader.text.toList).length := length_le_length_bytesOf _
    _ ≤ reader.bytes.length := hprefix
    _ ≤ reader.weight := length_bytes_le_weight reader

end Reader

namespace ReaderChars

variable {reader : Reader} {taken : List Char} {r : ReaderChars} {t : String} {e : ReadError}

theorem status_ne_reading_of_error? (h : r.error? = some e) : r.status ≠ .reading := by
  intro hstatus
  unfold error? at h
  rw [hstatus] at h
  cases h

/-- The error kept is the verdict on the bytes behind the text. -/
theorem Serves.verdict_text (h : Serves reader taken r) (status : r.status ≠ .reading) :
    ∃ rest, reader.bytes = encode reader.text ++ rest ∧
      Verdict rest (encode reader.text).length reader.fault? r.error? := by
  obtain ⟨rest, hrest⟩ := reader.exists_bytes_eq
  exact ⟨rest, hrest, (h.verdict status reader.longest_text hrest).2⟩

/-- When reading is over without an error, the reader holds its text. -/
theorem Serves.holds (h : Serves reader taken r) (status : r.status ≠ .reading)
    (herror : r.error? = none) : reader.Holds reader.text := by
  obtain ⟨rest, hrest, hverdict⟩ := h.verdict_text status
  rw [herror] at hverdict
  cases hverdict with
  | clean hnil hclean =>
      rw [hnil, List.append_nil] at hrest
      exact ⟨hclean, hrest⟩

/-- A reader that holds a text never meets an error. -/
theorem Serves.error?_eq_none (h : Serves reader taken r) (ht : reader.Holds t) :
    r.error? = none := by
  cases herror : r.error? with
  | none => rfl
  | some e =>
      obtain ⟨rest, hrest, hverdict⟩ := h.verdict_text (status_ne_reading_of_error? herror)
      have hnil : rest = [] := by
        rw [ht.text_eq, ht.bytes] at hrest
        exact List.append_right_eq_self.mp hrest.symm
      have hclean : Verdict rest (encode reader.text).length reader.fault? none :=
        .clean hnil ht.clean
      rw [herror] at hverdict
      cases hverdict.unique hclean

end ReaderChars

/-! ### The stream of a reader -/

namespace Stream

/-- What has been pulled is what the supply has given, and when the stream has ended nothing will
be read any more. -/
structure Follows (reader : Reader) (s : Stream ReaderChars Char) : Prop where
  serves : s.supply.Serves reader s.pulled.toList
  ended : s.ended = true → s.supply.decoded = [] ∧ s.supply.status ≠ .reading

variable {reader : Reader} {s : Stream ReaderChars Char}

theorem follows_start (reader : Reader) :
    (Stream.ofSupply { reader } : Stream ReaderChars Char).Follows reader :=
  ⟨ReaderChars.serves_start reader, nofun⟩

theorem Follows.pull (h : s.Follows reader) (n : Nat) : (s.pull n).Follows reader := by
  refine pull_induction ?_ ?_ h n
  · intro pulled supply c supply' hnext h
    have hhands : ReaderChars.Hands reader pulled.toList (Supply.next supply) :=
      ReaderChars.next_hands h.serves
    rw [hnext] at hhands
    have hserves : supply'.Serves reader (pulled.push c).toList := by
      rw [Array.toList_push]
      exact hhands
    exact ⟨hserves, nofun⟩
  · intro pulled supply supply' hnext h
    have hhands : ReaderChars.Hands reader pulled.toList (Supply.next supply) :=
      ReaderChars.next_hands h.serves
    rw [hnext] at hhands
    obtain ⟨hserves, hover⟩ := hhands
    exact ⟨hserves, fun _ => hover⟩

theorem Follows.covers (h : s.Follows reader) : s.Covers reader.text.toList := by
  refine ⟨reader.longest_text.longest _ h.serves.isPrefix, ?_⟩
  intro hended
  obtain ⟨hdecoded, hstatus⟩ := h.ended hended
  have hlongest := h.serves.longest hstatus
  rw [hdecoded, List.append_nil] at hlongest
  exact hlongest.unique reader.longest_text

/-- The stream of a reader answers with its text. -/
theorem answers_follows (reader : Reader) :
    Source.Answers (Follows reader) reader.text.toList :=
  fun _ hs _ => ⟨Covers.symbolAt (hs.pull _).covers, hs.pull _⟩

end Stream

/-! ### What a success has seen -/

namespace Session

variable {S : Type} [BEq σ] [Source S σ] {Z : S → Prop}

theorem atEnd_sees_end (hZ : ∀ s i, (Source.symbolAt s i).1 = none → Z (Source.symbolAt s i).2)
    (rules : Rules σ ρ) (c : Cursor) :
    Ensures (fun _ => True) ((host (S := S) rules).atEnd c) (fun b s => b = true → Z s.source)
      fun _ => True :=
  fun s _ hend => hZ s.source c.position (Option.isNone_iff_eq_none.mp hend)

theorem wholeInput_sees_end
    (hZ : ∀ s i, (Source.symbolAt s i).1 = none → Z (Source.symbolAt s i).2)
    (rules : Rules σ ρ) (c : Cursor) (out : Outcome σ α) :
    Ensures (fun _ => True) (Rules.wholeInput (host (S := S) rules) c out)
      (fun out s => ∀ a next, out = .success a next → Z s.source) fun _ => True := by
  cases out with
  | failure f => exact Ensures.pure fun _ _ => nofun
  | success a next =>
      refine (atEnd_sees_end hZ rules next).bind ?_
      intro ended
      cases ended with
      | false => exact Ensures.pure fun _ _ => nofun
      | true => exact Ensures.pure fun s hs _ _ _ => hs rfl

/-- A parse that succeeds has asked for a symbol where there was none, and asked for no other one
after that. -/
theorem parse_sees_end (hZ : ∀ s i, (Source.symbolAt s i).1 = none → Z (Source.symbolAt s i).2)
    (rules : Rules σ ρ) (budget : Nat) (p : Parser σ ρ α) (c : Cursor) :
    Ensures (fun _ => True) (rules.parse (host (S := S) rules) budget p c)
      (fun out s => ∀ a next, out = .success a next → Z s.source) fun _ => True := by
  refine (Ensures.trivial _).bind fun acceptsEmpty => (Ensures.trivial _).bind fun first =>
    (Ensures.trivial _).bind fun ended => ?_
  split
  · exact Ensures.pure fun _ _ => nofun
  · refine (Ensures.trivial _).bind fun _ => (Ensures.trivial _).bind fun out => ?_
    refine (wholeInput_sees_end hZ rules c out).bind ?_
    intro out s hs a next hout
    exact hs a next (Rules.orFurther_eq_success.mp hout)

end Session

/-! ### Parsing a reader -/

variable {rules : Rules Char ρ} {p : Parser Char ρ α} {reader : Reader}
  {parsed : Except ParseError α}

def ReaderChars.left (rules : Rules Char ρ) (p : Parser Char ρ α) (reader : Reader) : ReaderChars :=
  (parseSource rules p (Stream.ofSupply { reader } : Stream ReaderChars Char)).2.supply

theorem Reader.bound_text_le (reader : Reader) :
    Source.bound reader.text.toList.toArray ≤
      Source.bound (Stream.ofSupply { reader } : Stream ReaderChars Char) := by
  have hle := reader.length_text_le_weight
  simpa [Source.bound, Stream.ofSupply, Supply.bound, ReaderChars.bound] using hle

/-- A reader is parsed as its text is. Where that succeeds, its stream has ended. -/
theorem parseSource_follows (h : parseText rules p reader.text = .ok parsed) :
    ∃ stream : Stream ReaderChars Char,
      parseSource rules p (Stream.ofSupply { reader }) = (.ok parsed, stream) ∧
      stream.Follows reader ∧ ∀ a, parsed = .ok a → stream.ended = true := by
  unfold parseText parseSymbols at h
  rw [parseSource_eq] at h
  cases harray : Session.parse rules p .start { source := reader.text.toList.toArray } with
  | error halt s =>
      rw [harray] at h
      cases h
  | ok out s₁ =>
      rw [harray] at h
      have hresult : out.result = parsed := Except.ok.inj h
      -- The reader has the larger budget, so only a parse of the text can be exhausted alone.
      obtain ⟨s₂, hstream, hfollows⟩ := Session.exists_parse
        (Source.answers_array reader.text.toList) (Stream.answers_follows reader) rfl
        (Stream.follows_start reader) reader.bound_text_le harray
      have hsees : ∀ a next, out = .success a next → s₂.source.ended = true :=
        (Session.parse_sees_end (Z := fun s => s.ended = true)
          (fun s i => Stream.ended_of_symbolAt) rules _ p .start).of_ok trivial hstream
      refine ⟨s₂.source, ?_, hfollows, ?_⟩
      · rw [parseSource_eq, hstream, ← hresult]
        rfl
      · intro a ha
        rw [ha] at hresult
        cases out with
        | success b next => exact hsees b next rfl
        | failure f => cases hresult

/-- An error that reading has met is the result, and otherwise what the parse gave is. -/
theorem parseReader_eq {stream : Stream ReaderChars Char}
    (h : parseSource rules p (Stream.ofSupply { reader }) = (.ok parsed, stream)) :
    parseReader rules p reader = .ok (match stream.supply.error? with
      | some e => .error (.read e)
      | none => parsed.mapError .parse) := by
  unfold parseReader
  dsimp only
  rw [h]
  dsimp only
  cases stream.supply.error? with
  | some e => rfl
  | none =>
      cases parsed with
      | error e => rfl
      | ok a => rfl

/-- Where the text of a reader is parsed to a result, the reader is parsed to a value exactly when
it holds a text of which the parse gives that value. A reader that holds a text fails with the
error of the text. An error that reading has met is the result, whatever the parse gave, and it is
the verdict on the bytes behind the text. -/
theorem parseReader_agrees (h : parseText rules p reader.text = .ok parsed) :
    ∃ result, parseReader rules p reader = .ok result ∧
      (∀ a, result = .ok a ↔ ∃ t, reader.Holds t ∧ parseText rules p t = .ok (.ok a)) ∧
      (∀ t e, reader.Holds t → parseText rules p t = .ok (.error e) →
        result = .error (.parse e)) ∧
      ∀ e, (ReaderChars.left rules p reader).error? = some e →
        result = .error (.read e) ∧ ∃ rest, reader.bytes = encode reader.text ++ rest ∧
          ReaderChars.Verdict rest (encode reader.text).length reader.fault? (some e) := by
  obtain ⟨stream, hparse, hfollows, hended⟩ := parseSource_follows h
  have hleft : ReaderChars.left rules p reader = stream.supply := by
    unfold ReaderChars.left
    rw [hparse]
  refine ⟨_, parseReader_eq hparse, ?_, ?_, ?_⟩
  · intro a
    constructor
    · intro hvalue
      cases herror : stream.supply.error? with
      | some e =>
          rw [herror] at hvalue
          cases hvalue
      | none =>
          rw [herror] at hvalue
          cases parsed with
          | error e => cases hvalue
          | ok b =>
              have hb : b = a := Except.ok.inj hvalue
              subst hb
              have hstatus := (hfollows.ended (hended b rfl)).2
              exact ⟨reader.text, hfollows.serves.holds hstatus herror, h⟩
    · rintro ⟨t, ht, hvalue⟩
      rw [ht.text_eq, hvalue] at h
      cases h
      rw [hfollows.serves.error?_eq_none ht]
      rfl
  · intro t e ht hfailure
    rw [ht.text_eq, hfailure] at h
    cases h
    rw [hfollows.serves.error?_eq_none ht]
    rfl
  · intro e herror
    rw [hleft] at herror
    obtain ⟨rest, hrest, hverdict⟩ :=
      hfollows.serves.verdict_text (ReaderChars.status_ne_reading_of_error? herror)
    rw [herror] at hverdict ⊢
    exact ⟨rfl, rest, hrest, hverdict⟩

/-- A character that two reads bring, with an interruption between them, is parsed. -/
theorem parseReader_agrees_many :
    parseReader (ρ := fun _ => Unit) Rules.empty (.many .any)
      [.bytes [0xCE], .interrupted, .bytes [0xBB]] = .ok (.ok ['λ']) := by
  have hholds : Reader.Holds [.bytes [0xCE], .interrupted, .bytes [0xBB]] "λ" := ⟨rfl, by decide⟩
  have hparsed : parseText (ρ := fun _ => Unit) Rules.empty (.many .any)
      (Reader.text [.bytes [0xCE], .interrupted, .bytes [0xBB]]) = .ok (.ok ['λ']) := by
    rw [hholds.text_eq]
    rfl
  obtain ⟨result, hresult, hvalue, _⟩ := parseReader_agrees hparsed
  rw [hholds.text_eq] at hparsed
  rw [hresult, (hvalue ['λ']).mpr ⟨"λ", hholds, hparsed⟩]

end PredictiveParsing
