import PredictiveParsing.Proofs.Host
import PredictiveParsing.Proofs.Lockstep
import PredictiveParsing.Proofs.Memories

/-!
# All backings are one input

A run cannot tell two sources of the same symbols apart: over an array and over a stream it
ends with the same outcome or stops with the same fault, whatever either session remembers
and records (`Session.apply_alike`, `Session.parse_alike`). Here `Source.Answers I symbols`
says that sources with the property `I` answer with the symbols and keep `I`, so that what
a run leaves of its source is part of the comparison.

A stream may have been used before: looked at, or run and parsed over with any grammar.
None of this changes what it holds (`Stream.Used.splits`), since a run does nothing to its
source but look at it.
-/

namespace PredictiveParsing

variable {σ ι : Type} {ρ : Nat → Type} {S T ε St St₁ St₂ α : Type}

/-! ### How a computation ends -/

def ending : EStateM.Result ε St α → Except ε α
  | .ok a _ => .ok a
  | .error e _ => .error e

def stateLeft : EStateM.Result ε St α → St
  | .ok _ st => st
  | .error _ st => st

/-- Where nothing is excused, both computations end in the same way. -/
theorem Simulates.ending_eq {R : St₁ → St₂ → Prop} {m₁ : EStateM ε St₁ α} {m₂ : EStateM ε St₂ α}
    (h : Simulates R (fun _ => False) m₁ m₂ Eq) {st₁ : St₁} {st₂ : St₂} (hR : R st₁ st₂) :
    ending (m₁ st₁) = ending (m₂ st₂) ∧ R (stateLeft (m₁ st₁)) (stateLeft (m₂ st₂)) := by
  have hst := h st₁ st₂ hR
  cases hm : m₁ st₁ with
  | ok a st₁' =>
      rw [hm] at hst
      obtain ⟨_, st₂', hm₂, rfl, hR'⟩ := hst
      rw [hm₂]
      exact ⟨rfl, hR'⟩
  | error e st₁' =>
      rw [hm] at hst
      obtain ⟨st₂', hm₂, hR'⟩ := hst.resolve_left id
      rw [hm₂]
      exact ⟨rfl, hR'⟩

theorem Maintains.of_ending {I : St → Prop} {m : EStateM ε St α} {q : α → Prop}
    (h : Maintains I m q) {st : St} (hI : I st) {a : α} (ha : ending (m st) = .ok a) : q a := by
  cases hm : m st with
  | ok b st' =>
      rw [hm] at ha
      cases ha
      exact (h.of_ok hI hm).1
  | error e st' =>
      rw [hm] at ha
      cases ha

theorem Maintains.stateLeft {I : St → Prop} {m : EStateM ε St α} {q : α → Prop}
    (h : Maintains I m q) {st : St} (hI : I st) : I (stateLeft (m st)) := by
  cases hm : m st with
  | ok a st' => exact (h.of_ok hI hm).2
  | error e st' => exact h.of_error hI hm

/-- Where the states of a computation are its own, it keeps what relates a state to itself. -/
theorem Simulates.stateLeft_self {J : St → Prop} {m : EStateM ε St α} {Q : α → α → Prop}
    (h : Simulates (fun st st' => st = st' ∧ J st) (fun _ => False) m m Q) {st : St} (hJ : J st) :
    J (stateLeft (m st)) := by
  have hst := h st st ⟨rfl, hJ⟩
  cases hm : m st with
  | ok a st' =>
      rw [hm] at hst
      obtain ⟨_, _, _, _, rfl, hJ'⟩ := hst
      exact hJ'
  | error e st' =>
      rw [hm] at hst
      obtain ⟨_, _, rfl, hJ'⟩ := hst.resolve_left id
      exact hJ'

/-! ### Sources -/

/-- A source with `I` answers a look with the symbols and keeps `I`. -/
def Source.Answers [Source S σ] (I : S → Prop) (symbols : List σ) : Prop :=
  ∀ s, I s → ∀ i, (symbolAt s i).1 = symbols[i]? ∧ I (symbolAt s i).2

theorem Source.answers_array (symbols : List σ) :
    Source.Answers (fun array => array = symbols.toArray) symbols := by
  rintro _ rfl i
  exact ⟨List.getElem?_toArray, rfl⟩

theorem Stream.answers_splits [Supply ι σ] (symbols : List σ) :
    Source.Answers (Stream.Splits (ι := ι) symbols) symbols :=
  fun _ hs i => hs.symbolAt i

/-! ### Two sessions over the same symbols -/

namespace Session

variable [BEq σ] {rules : Rules σ ρ} {symbols : List σ} {I₁ : S → Prop} {I₂ : T → Prop}
  {recorded : Prop} {F : Halt → Prop}

/-- Sessions that any parser takes for one another. They record the same where `recorded`
holds. -/
structure Agree (rules : Rules σ ρ) (I₁ : S → Prop) (I₂ : T → Prop) (recorded : Prop)
    (s₁ : Session σ S) (s₂ : Session σ T) : Prop where
  memory : Memory.Alike rules [] s₁.memory s₂.memory
  first : I₁ s₁.source
  second : I₂ s₂.source
  recovered : recorded → s₁.recovered = s₂.recovered

/-- What two memories answer alike, two sessions do. -/
theorem inquire_alike {q : Inquiry (Memory σ) α} {E : Misuse → Prop}
    (h : Simulates (Memory.Alike rules []) E q q Eq) :
    Simulates (Agree rules I₁ I₂ recorded) E (inquire q) (inquire q) Eq :=
  inquire_framed (fun _ _ hs => hs.memory)
    (fun _ _ _ _ hs hm => ⟨hm, hs.first, hs.second, hs.recovered⟩) h

omit [BEq σ] in
/-- A question about the grammar leaves the source as it is. -/
theorem inquire_keeps {q : Inquiry (Memory σ) α} {E : Misuse → Prop} {J : S → Prop} :
    Simulates (fun s t => s = t ∧ J s.source) E (inquire q) (inquire q) Eq := by
  rintro s _ ⟨rfl, hs⟩
  cases hq : q s.memory with
  | ok a m =>
      rw [inquire_of_ok hq]
      exact ⟨a, _, rfl, rfl, rfl, hs⟩
  | error e m =>
      rw [inquire_of_error hq]
      exact .inr ⟨_, rfl, rfl, hs⟩

variable [Source S σ] [Source T σ]

omit [BEq σ] in
/-- Where more symbols are to be expected, a run may take longer. -/
theorem outlasts_of_bound_le (rules : Rules σ ρ) {source : S} {source' : T}
    (h : Source.bound source ≤ Source.bound source') :
    Outlasts (fun e => e = .exhausted) (budget rules { source })
      (budget rules { source := source' }) :=
  .of_le rfl (Nat.mul_le_mul_right _ (Nat.add_le_add_right h 2))

omit [Source S σ] [Source T σ] in
theorem agree_start (rules : Rules σ ρ) {source : S} {source' : T} (h₁ : I₁ source)
    (h₂ : I₂ source') : Agree rules I₁ I₂ recorded { source } { source := source' } :=
  ⟨⟨⟨Memory.sound_empty, rfl⟩, Memory.sound_empty, rfl⟩, h₁, h₂, fun _ => rfl⟩

theorem host_agree (rules : Rules σ ρ) (h₁ : Source.Answers I₁ symbols)
    (h₂ : Source.Answers I₂ symbols) :
    (host (S := S) rules).Alike (host (S := T) rules) (Agree rules I₁ I₂ recorded) F Eq where
  cursor := Cursor.alike_eq
  symbolAt i s₁ s₂ hs := by
    have hfirst := h₁ s₁.source hs.first i
    have hsecond := h₂ s₂.source hs.second i
    exact ⟨hfirst.1.trans hsecond.1.symm, hs.memory, hfirst.2, hsecond.2, hs.recovered⟩
  acceptsEmpty p := Inquiry.act_simulates (inquire_alike (Memory.askAcceptsEmpty_alike rules p))
  firstSet p := Inquiry.act_simulates (inquire_alike (Memory.askFirstSet_alike rules p))
  recover c₁ c₂ f hc s₁ s₂ hs := by
    subst hc
    unfold Host.recover
    cases c₁.tracked with
    | false => exact ⟨(), s₂, rfl, trivial, hs⟩
    | true =>
        refine ⟨(), _, rfl, trivial, hs.memory, hs.first, hs.second, ?_⟩
        intro hrecorded
        have hrecord : (host rules).recovered s₁ = (host rules).recovered s₂ :=
          hs.recovered hrecorded
        change some _ = some _
        rw [hrecord]

/-- A run over one source ends as it does over another. -/
theorem apply_alike (rules : Rules σ ρ) (h₁ : Source.Answers I₁ symbols)
    (h₂ : Source.Answers I₂ symbols) {budget₁ budget₂ : Nat} (hb : Outlasts F budget₁ budget₂)
    (p : Parser σ ρ α) (c : Cursor) :
    Simulates (Agree (S := S) (T := T) rules I₁ I₂ recorded) F
      (rules.apply (host rules) budget₁ p c) (rules.apply (host rules) budget₂ p c) Eq :=
  (rules.apply_alike_of_outlasts (host_agree rules h₁ h₂) hb p c c rfl).mono fun _ _ h => h.eq

/-- A parse of one source ends as it does of another, whatever has been recorded before. -/
theorem parse_alike (rules : Rules σ ρ) (h₁ : Source.Answers I₁ symbols)
    (h₂ : Source.Answers I₂ symbols) {budget₁ budget₂ : Nat} (hb : Outlasts F budget₁ budget₂)
    (p : Parser σ ρ α) (c : Cursor) :
    Simulates (Agree (S := S) (T := T) rules I₁ I₂ recorded) F
      (rules.parse (host rules) budget₁ p c) (rules.parse (host rules) budget₂ p c) Eq := by
  refine rules.parse_alike (K := Agree rules I₁ I₂ True) (host_agree rules h₁ h₂)
    (host_agree rules h₁ h₂) ?_ ?_ ?_ hb p c
  · intro s₁ s₂ hs
    exact ⟨hs.memory, hs.first, hs.second, fun _ => rfl⟩
  · intro s₁ s₂ hs
    exact hs.recovered trivial
  · intro s₁ s₂ hs
    exact ⟨hs.memory, hs.first, hs.second, fun _ => hs.recovered trivial⟩

section Start

variable {p : Parser σ ρ α} {out : Outcome σ α} {source : S} {source' : T} {s' : Session σ S}
  (h₁ : Source.Answers I₁ symbols) (h₂ : Source.Answers I₂ symbols) (hs : I₁ source)
  (ht : I₂ source') (hle : Source.bound source ≤ Source.bound source')

include h₁ h₂ hs ht hle

/-- What a run of a new session comes to, one over another source does that allows for as long a
run. -/
theorem exists_apply (h : apply rules p .start { source } = .ok out s') :
    ∃ t', apply rules p .start { source := source' } = .ok out t' ∧ I₂ t'.source := by
  have hstart : Agree rules I₁ I₂ False { source } { source := source' } :=
    agree_start rules hs ht
  obtain ⟨_, t', hrun, rfl, ht'⟩ := (apply_alike rules h₁ h₂ (outlasts_of_bound_le rules hle) p
    .start).of_ok _ hstart h
  exact ⟨t', hrun, ht'.second⟩

theorem exists_parse (h : parse rules p .start { source } = .ok out s') :
    ∃ t', parse rules p .start { source := source' } = .ok out t' ∧ I₂ t'.source := by
  have hstart : Agree rules I₁ I₂ False { source } { source := source' } :=
    agree_start rules hs ht
  obtain ⟨_, t', hrun, rfl, ht'⟩ := (parse_alike rules h₁ h₂ (outlasts_of_bound_le rules hle) p
    .start).of_ok _ hstart h
  exact ⟨t', hrun, ht'.second⟩

end Start

/-! ### What runs leave of a source -/

section Keeps

variable {J : S → Prop}

/-- A session does nothing to its source but look at it. -/
theorem host_keeps (rules : Rules σ ρ) (hJ : ∀ s, J s → ∀ i, J (Source.symbolAt s i).2) :
    (host (S := S) rules).Alike (host (S := S) rules) (fun s t => s = t ∧ J s.source) F Eq where
  cursor := Cursor.alike_eq
  symbolAt i s _ := by
    rintro ⟨rfl, hs⟩
    exact ⟨rfl, rfl, hJ s.source hs i⟩
  acceptsEmpty p := Inquiry.act_simulates inquire_keeps
  firstSet p := Inquiry.act_simulates inquire_keeps
  recover c _ f hc s _ := by
    rintro ⟨rfl, hs⟩
    subst hc
    unfold Host.recover
    cases c.tracked with
    | false => exact ⟨(), s, rfl, trivial, rfl, hs⟩
    | true => exact ⟨(), _, rfl, trivial, rfl, hs⟩

theorem apply_keeps (rules : Rules σ ρ) (hJ : ∀ s, J s → ∀ i, J (Source.symbolAt s i).2)
    (budget : Nat) (p : Parser σ ρ α) (c : Cursor) {s : Session σ S} (hs : J s.source) :
    J (stateLeft (rules.apply (host rules) budget p c s)).source :=
  ((rules.apply_alike_of_outlasts (host_keeps rules hJ) (Outlasts.refl budget) p) c c
    rfl).stateLeft_self (J := fun s : Session σ S => J s.source) hs

theorem parse_keeps (rules : Rules σ ρ) (hJ : ∀ s, J s → ∀ i, J (Source.symbolAt s i).2)
    (budget : Nat) (p : Parser σ ρ α) (c : Cursor) {s : Session σ S} (hs : J s.source) :
    J (stateLeft (rules.parse (host rules) budget p c s)).source := by
  refine (rules.parse_alike (host_keeps rules hJ) (host_keeps rules hJ) ?_ ?_ ?_
    (Outlasts.refl budget) p c).stateLeft_self (J := fun s : Session σ S => J s.source) hs
  · rintro s _ ⟨rfl, hs⟩
    exact ⟨rfl, hs⟩
  · rintro s _ ⟨rfl, _⟩
    rfl
  · exact fun _ _ h => h

end Keeps

end Session

/-! ### Streams that have been used -/

/-- A stream over the symbols that may have been looked at, and run and parsed over, in any session
and with any parser of any grammar. -/
inductive Stream.Used [BEq σ] [Supply ι σ] (symbols : List σ) : Stream ι σ → Prop where
  | fresh {supply : ι} : Supply.Gives supply symbols → Used symbols (.ofSupply supply)
  | looked {stream : Stream ι σ} (i : Nat) :
      Used symbols stream → Used symbols (stream.symbolAt i).2
  | applied {ρ : Nat → Type} {α : Type} (rules : Rules σ ρ) (budget : Nat) (p : Parser σ ρ α)
      (c : Cursor) {s : Session σ (Stream ι σ)} : Used symbols s.source →
      Used symbols (stateLeft (rules.apply (Session.host rules) budget p c s)).source
  | parsed {ρ : Nat → Type} {α : Type} (rules : Rules σ ρ) (budget : Nat) (p : Parser σ ρ α)
      (c : Cursor) {s : Session σ (Stream ι σ)} : Used symbols s.source →
      Used symbols (stateLeft (rules.parse (Session.host rules) budget p c s)).source

theorem Stream.Used.splits [BEq σ] [Supply ι σ] {symbols : List σ} {stream : Stream ι σ}
    (h : stream.Used symbols) : stream.Splits symbols := by
  have hkeeps : ∀ s : Stream ι σ, s.Splits symbols → ∀ i, (Source.symbolAt s i).2.Splits symbols :=
    fun s hs i => (hs.symbolAt i).2
  induction h with
  | fresh hgives => exact ⟨symbols, rfl, hgives⟩
  | looked i _ ih => exact hkeeps _ ih i
  | applied rules budget p c _ ih => exact Session.apply_keeps rules hkeeps budget p c ih
  | parsed rules budget p c _ ih => exact Session.parse_keeps rules hkeeps budget p c ih

/-- The runs end alike, the stream has pulled a prefix of the symbols, and both memories are as good
for the next run. -/
structure EndAlike [BEq σ] (rules : Rules σ ρ) (symbols : List σ)
    (onArray : EStateM.Result Halt (Session σ (Array σ)) α)
    (onStream : EStateM.Result Halt (Session σ (Stream ι σ)) α) : Prop where
  ending : ending onArray = ending onStream
  pulled : (stateLeft onStream).source.pulled.toList <+: symbols
  memory : Memory.Alike rules [] (stateLeft onArray).memory (stateLeft onStream).memory

theorem Simulates.endAlike [BEq σ] [Supply ι σ] {rules : Rules σ ρ} {symbols : List σ}
    {m₁ : Act (Session σ (Array σ)) α} {m₂ : Act (Session σ (Stream ι σ)) α}
    {s₁ : Session σ (Array σ)} {s₂ : Session σ (Stream ι σ)}
    (h : Simulates (Session.Agree rules (fun array => array = symbols.toArray)
      (Stream.Splits symbols) False) (fun _ => False) m₁ m₂ Eq)
    (hm : Memory.Alike rules [] s₁.memory s₂.memory) (hs₁ : s₁.source = symbols.toArray)
    (hs₂ : s₂.source.Splits symbols) : EndAlike rules symbols (m₁ s₁) (m₂ s₂) := by
  obtain ⟨hending, hleft⟩ := h.ending_eq ⟨hm, hs₁, hs₂, False.elim⟩
  exact ⟨hending, hleft.second.covers.isPrefix, hleft.memory⟩

namespace Rules

variable [BEq σ] [Supply ι σ] {rules : Rules σ ρ} {symbols : List σ}

/-- Running a parser and parsing with it end over a stream as they do over an array of the same
symbols: with the same success or failure, or stopping for the same reason. The stream may have
been used before, the parsers may have been asked before, and failures may be on record. -/
theorem backings_agree {stream : Stream ι σ} (hstream : stream.Used symbols) {m₁ m₂ : Memory σ}
    (hm₁ : Memory.Working rules [] m₁) (hm₂ : Memory.Working rules [] m₂)
    (r₁ r₂ : Option (Failure σ)) (p : Parser σ ρ α) (c : Cursor) (budget : Nat) :
    EndAlike rules symbols
        (rules.apply (Session.host rules) budget p c ⟨m₁, r₁, symbols.toArray⟩)
        (rules.apply (Session.host rules) budget p c ⟨m₂, r₂, stream⟩) ∧
      EndAlike rules symbols
        (rules.parse (Session.host rules) budget p c ⟨m₁, r₁, symbols.toArray⟩)
        (rules.parse (Session.host rules) budget p c ⟨m₂, r₂, stream⟩) := by
  have harray := Source.answers_array symbols
  have hsplits := Stream.answers_splits (ι := ι) symbols
  constructor
  · exact (Session.apply_alike rules harray hsplits (Outlasts.refl budget) p c).endAlike
      ⟨hm₁, hm₂⟩ rfl hstream.splits
  · exact (Session.parse_alike rules harray hsplits (Outlasts.refl budget) p c).endAlike
      ⟨hm₁, hm₂⟩ rfl hstream.splits

/-- A stream of which a parse has pulled all symbols, though it failed before the last one, is
parsed as the array is. -/
theorem backings_agree_many :
    ∃ stream : Stream (List Char) Char, stream.pulled = "aab".toList.toArray ∧
      ending (empty.parse (ρ := fun _ => Unit) (Session.host empty) 9 (.many (.value 'a')) .start
          { source := "aab".toList.toArray }) =
        ending (empty.parse (ρ := fun _ => Unit) (Session.host empty) 9 (.many (.value 'a')) .start
          { source := stream }) := by
  have hparsed := Stream.Used.parsed (ρ := fun _ => Unit) empty 9 (.many (.value 'a')) .start
    (s := { source := Stream.ofSupply "aab".toList })
    (Stream.Used.fresh (Supply.gives_list "aab".toList))
  exact ⟨_, by rfl, (backings_agree hparsed ⟨Memory.sound_empty, rfl⟩
    ⟨Memory.sound_empty, rfl⟩ none none (.many (.value 'a')) .start 9).2.ending⟩

end Rules

/-! ### Parsing a source -/

section Parse

variable [Symbol σ] [Source S σ]

theorem parseSource_eq (rules : Rules σ ρ) (p : Parser σ ρ α) (source : S) :
    parseSource rules p source =
      ((ending (Session.parse rules p .start { source })).map Outcome.result,
        (stateLeft (Session.parse rules p .start { source })).source) := by
  unfold parseSource
  cases Session.parse rules p .start { source } with
  | ok out s => rfl
  | error halt s => rfl

/-- What a source is parsed to, another source of the same symbols is, if it allows for as long a
parse. -/
theorem parseSource_alike [Source T σ] {rules : Rules σ ρ} {p : Parser σ ρ α} {symbols : List σ}
    {I₁ : S → Prop} {I₂ : T → Prop} (h₁ : Source.Answers I₁ symbols)
    (h₂ : Source.Answers I₂ symbols) {source : S} {source' : T} (hs : I₁ source) (ht : I₂ source')
    (hle : Source.bound source ≤ Source.bound source') {parsed : Except ParseError α}
    (h : (parseSource rules p source).1 = .ok parsed) :
    (parseSource rules p source').1 = .ok parsed := by
  rw [parseSource_eq] at h ⊢
  cases hparse : Session.parse rules p .start { source } with
  | error halt s =>
      rw [hparse] at h
      cases h
  | ok out s =>
      obtain ⟨s', hparse', _⟩ := Session.exists_parse h₁ h₂ hs ht hle hparse
      rw [hparse] at h
      rw [hparse']
      exact h

end Parse

end PredictiveParsing
