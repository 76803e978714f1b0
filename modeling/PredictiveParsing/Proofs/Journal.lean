import PredictiveParsing.Proofs.Backings
import PredictiveParsing.Proofs.Noted
import PredictiveParsing.Proofs.Within

/-!
# Positions of what is recorded

During a parse the record holds one failure at a time, so that most of what goes into it is
not there at the end. `Host.journaled` writes down beside the state each failure that is put
in the record, and what the record holds from then on. Writing it down changes nothing
(`Rules.parseJournaled_simulates`), and everything written down is within the bounds
(`Rules.parseJournaled_maintains`), also in a parse that stops with a fault.

The record that was there before a parse may hold anything. It is cleared before the first
parser runs, which is when the bounds begin to hold for it.
-/

namespace PredictiveParsing

variable {σ : Type} {ρ : Nat → Type} {S St α ε : Type}

/-! ### The journal -/

/-- The host with a journal beside its state. It does not show the record to a run: what the run
then gives it to record is the failure alone, and the host merges the two itself. -/
def Host.journaled (host : Host σ ρ St) : Host σ ρ (Noted σ St) where
  symbolAt := host.noted.symbolAt
  acceptsEmpty := host.noted.acceptsEmpty
  firstSet := host.noted.firstSet
  recovered _ := none
  setRecovered
    | none, ⟨st, failures⟩ => ⟨host.setRecovered none st, failures⟩
    | some f, ⟨st, failures⟩ =>
      let furthest := match host.recovered st with
        | some g => g.merge f
        | none => f
      ⟨host.setRecovered (some furthest) st, furthest :: f :: failures⟩

def Rules.parseJournaled [BEq σ] (rules : Rules σ ρ) (host : Host σ ρ St) (budget : Nat)
    (p : Parser σ ρ α) : Action (Noted σ St) σ α := fun c => do
  let acceptsEmpty ← (host.journaled.acceptsEmpty p).act
  let first ← (host.journaled.firstSet p).act
  let ended ← host.journaled.atEnd c
  if ended && !acceptsEmpty then return .failure ⟨c.position, .endOfInput first⟩
  else
    modify (host.journaled.setRecovered none)
    let outcome ← rules.apply host.journaled budget p { c with tracked := true }
    let outcome ← wholeInput host.journaled c outcome
    return orFurther (host.recovered (← get).state) outcome

theorem Host.journaled_alike {F : Halt → Prop} (host : Host σ ρ St) :
    host.Alike host.journaled Noted.Of F Eq where
  cursor := Cursor.alike_eq
  symbolAt := (host.noted_alike (F := F)).symbolAt
  acceptsEmpty := host.noted_alike.acceptsEmpty
  firstSet := host.noted_alike.firstSet
  recover c₁ c₂ f hc := by
    subst hc
    intro st n hn
    rcases n with ⟨state, failures⟩
    change state = st at hn
    subst hn
    unfold Host.recover
    cases c₁.tracked with
    | true => exact ⟨(), _, rfl, trivial, rfl⟩
    | false => exact ⟨(), _, rfl, trivial, rfl⟩

theorem Rules.parseJournaled_simulates [BEq σ] {rules : Rules σ ρ} {F : Halt → Prop}
    (host : Host σ ρ St) (budget : Nat) (p : Parser σ ρ α) (c : Cursor) :
    Simulates Noted.Of F (rules.parse host budget p c) (rules.parseJournaled host budget p c)
      Eq := by
  have h : host.Alike host.journaled Noted.Of F Eq := host.journaled_alike
  refine (h.acceptsEmpty p).bind_eq ?_
  intro acceptsEmpty
  refine (h.firstSet p).bind_eq ?_
  intro first
  refine (h.atEnd rfl).bind_eq ?_
  intro ended
  split
  · exact Simulates.pure rfl
  · refine Simulates.modify_bind ?_ (fun st n hn => congrArg (host.setRecovered none) hn)
      fun _ _ hn => hn
    have happly := rules.apply_alike_of_outlasts h (.refl budget) p
    refine ((happly _ _ rfl).mono fun _ _ hout => hout.eq).bind_eq ?_
    intro out
    refine (wholeInput_alike h c out).bind_eq ?_
    intro out st n hn
    change n.state = st at hn
    subst hn
    exact ⟨_, _, rfl, rfl, rfl⟩

/-! ### What the journal holds -/

structure Noted.Within (J : St → Prop) (lo n : Nat) (x : Noted σ St) : Prop where
  state : J x.state
  failures : ∀ f ∈ x.failures, f.Within lo n

def Failure.RecordWithin (lo n : Nat) (recovered : Option (Failure σ)) : Prop :=
  ∀ f, recovered = some f → f.Within lo n

section Journal

variable {host : Host σ ρ St} {J J₀ : St → Prop} {lo n : Nat}

theorem Noted.lift_maintains {m : EStateM ε St α} {q : α → Prop} (h : Maintains J m q) :
    Maintains (Noted.Within J lo n) (Noted.lift (σ := σ) m) q := by
  rintro ⟨st, failures⟩ hx
  have hst := h st hx.state
  unfold Noted.lift
  dsimp only
  cases hm : m st with
  | ok a st' =>
      rw [hm] at hst
      exact ⟨hst.1, hst.2, hx.failures⟩
  | error e st' =>
      rw [hm] at hst
      exact ⟨hst, hx.failures⟩

theorem Host.Ends.journaled (h : host.Ends n J) :
    host.journaled.Ends n (Noted.Within J lo n) where
  symbolAt i x hx := by
    obtain ⟨hsymbol, hJ⟩ := h.symbolAt i x.state hx.state
    exact ⟨hsymbol, hJ, hx.failures⟩
  acceptsEmpty p := Noted.lift_maintains (h.acceptsEmpty p)
  firstSet p := Noted.lift_maintains (h.firstSet p)

/-- What goes into the journal is within the bounds if the record is. -/
theorem Host.Confines.journaled (h : host.Ends n J)
    (hrecord : ∀ st, J st → Failure.RecordWithin lo n (host.recovered st))
    (hset : ∀ f st, f.Within lo n → J st → J (host.setRecovered (some f) st)) :
    host.journaled.Confines lo n (Noted.Within J lo n) where
  toEnds := h.journaled
  recover c f hf := by
    rintro ⟨st, failures⟩ hx
    unfold Host.recover
    cases c.tracked with
    | false => exact ⟨trivial, hx⟩
    | true =>
        have hfurthest : Failure.Within lo n (match host.recovered st with
            | some g => g.merge f
            | none => f) := by
          cases hr : host.recovered st with
          | none => exact hf
          | some g => exact (hrecord st hx.state g hr).merge hf
        refine ⟨trivial, hset _ st hfurthest hx.state, ?_⟩
        intro g hg
        rcases List.mem_cons.mp hg with rfl | hg
        · exact hfurthest
        · rcases List.mem_cons.mp hg with rfl | hg
          · exact hf
          · exact hx.failures g hg

/-- A parse with a journal stays within the bounds, and so does all that it writes down. Of the
record this is required only once it is cleared. -/
theorem Rules.parseJournaled_maintains [BEq σ] {rules : Rules σ ρ} {p : Parser σ ρ α} {c : Cursor}
    (hp : rules.Throughout Parser.RecordsNothing p) (h₀ : host.Ends n J₀) (h : host.Ends n J)
    (hrecord : ∀ st, J st → Failure.RecordWithin c.position n (host.recovered st))
    (hset : ∀ f st, f.Within c.position n → J st → J (host.setRecovered (some f) st))
    (hclear : ∀ st, J₀ st → J (host.setRecovered none st)) (hforget : ∀ st, J st → J₀ st)
    (hc : c.position ≤ n) (budget : Nat) :
    Maintains (Noted.Within J₀ c.position n) (rules.parseJournaled host budget p c)
      (Outcome.Within c.position n) := by
  refine (Inquiry.act_maintains (h₀.journaled.acceptsEmpty p)).bind ?_
  intro acceptsEmpty _
  refine (Inquiry.act_maintains (h₀.journaled.firstSet p)).bind ?_
  intro first _
  refine (h₀.journaled.atEnd c).bind ?_
  intro ended hended
  split
  · rename_i hrefused
    rw [Bool.and_eq_true] at hrefused
    exact Maintains.pure (Failure.Within.of_ended hc (hended.mp hrefused.1))
  · have hconfines := Host.Confines.journaled h hrecord hset
    refine Maintains.modify_bind (J := Noted.Within J c.position n) ?_
      (fun x hx => ⟨hclear x.state hx.state, hx.failures⟩)
      fun x hx => ⟨hforget x.state hx.state, hx.failures⟩
    refine (apply_confined hconfines hp budget { c with tracked := true }
      ⟨Nat.le_refl _, hc⟩).bind ?_
    intro out hout
    refine (wholeInput_confined hconfines c hout).bind ?_
    intro out hout x hx
    exact ⟨orFurther_within (hrecord x.state hx.state) hout, hx⟩

end Journal

/-! ### Sessions -/

namespace Session

structure Shows [Source S σ] (symbols : List σ) (P : Option (Failure σ) → Prop)
    (s : Session σ S) : Prop where
  source : Source.Holds s.source symbols
  recovered : P s.recovered

variable [BEq σ] [Source S σ] {symbols : List σ} {P : Option (Failure σ) → Prop}

omit [BEq σ] in
theorem inquire_maintains {q : Inquiry (Memory σ) α} :
    Maintains (Shows symbols P : Session σ S → Prop) (inquire q) fun _ => True := by
  intro s hs
  cases hq : q s.memory with
  | ok a m =>
      rw [inquire_of_ok hq]
      exact ⟨trivial, hs.source, hs.recovered⟩
  | error e m =>
      rw [inquire_of_error hq]
      exact ⟨hs.source, hs.recovered⟩

theorem host_ends (rules : Rules σ ρ) :
    (host rules).Ends symbols.length (Shows symbols P : Session σ S → Prop) where
  symbolAt i s hs := by
    refine ⟨?_, hs.source.next i, hs.recovered⟩
    have hsymbol : ((host rules).symbolAt i s).1 = symbols[i]? := hs.source.symbolAt i
    rw [hsymbol, List.getElem?_eq_none_iff]
  acceptsEmpty _ := inquire_maintains
  firstSet _ := inquire_maintains

theorem host_recordsFreely (rules : Rules σ ρ) :
    (host rules).RecordsFreely (Shows symbols fun _ => True : Session σ S → Prop) := by
  intro c f s hs
  unfold Host.recover
  cases c.tracked with
  | true => exact ⟨trivial, hs.source, trivial⟩
  | false => exact ⟨trivial, hs⟩

theorem host_confines (rules : Rules σ ρ) (lo : Nat) :
    (host rules).Confines lo symbols.length
      (Shows symbols fun _ => True : Session σ S → Prop) where
  toEnds := host_ends rules
  recover c f _ := host_recordsFreely rules c f

theorem host_confines_record (rules : Rules σ ρ) (lo : Nat) :
    (host rules).Confines lo symbols.length
      (Shows symbols (Failure.RecordWithin lo symbols.length) : Session σ S → Prop) where
  toEnds := host_ends rules
  recover c f hf := by
    rintro ⟨memory, recovered, source⟩ hs
    unfold Host.recover
    cases c.tracked with
    | false => exact ⟨trivial, hs⟩
    | true =>
        cases recovered with
        | none => exact ⟨trivial, hs.source, fun _ hg => Option.some.inj hg ▸ hf⟩
        | some g =>
            have hmerge := (hs.recovered g rfl).merge hf
            exact ⟨trivial, hs.source, fun _ hg => Option.some.inj hg ▸ hmerge⟩

end Session

namespace Rules

variable [BEq σ] [Source S σ] {rules : Rules σ ρ} {symbols : List σ} {p : Parser σ ρ α}
  {s : Session σ S} {c : Cursor}

/-- From a position of the input, a run goes on or fails between that position and the end of the
input, and so does a parse; where the failure says that the input ended, it is at the end exactly.
The same holds of each failure that a parse puts in the record and of each one that the record
holds meanwhile, even if the parse stops with a fault: they are the ones in the journal of the
parse, which ends as it does without one. -/
theorem positions_within (hp : rules.Throughout Parser.RecordsNothing p)
    (hs : Source.Holds s.source symbols) (hc : c.position ≤ symbols.length) (budget : Nat) :
    let parsed := rules.parse (Session.host rules) budget p c s
    let journaled := rules.parseJournaled (Session.host rules) budget p c ⟨s, []⟩
    (∀ out s', rules.apply (Session.host rules) budget p c s = .ok out s' →
      out.Within c.position symbols.length) ∧
    (∀ out s', parsed = .ok out s' → out.Within c.position symbols.length) ∧
    ending journaled = ending parsed ∧ (stateLeft journaled).state = stateLeft parsed ∧
    ∀ f ∈ (stateLeft journaled).failures, f.Within c.position symbols.length := by
  intro parsed journaled
  have hstart : Noted.Within (Session.Shows symbols fun _ => True) c.position symbols.length
      (⟨s, []⟩ : Noted σ (Session σ S)) := ⟨⟨hs, trivial⟩, nofun⟩
  have hjournal : Maintains (Noted.Within (Session.Shows symbols fun _ => True) c.position
        symbols.length) (rules.parseJournaled (Session.host (S := S) rules) budget p c)
      (Outcome.Within c.position symbols.length) :=
    parseJournaled_maintains hp (Session.host_ends rules)
      (Session.host_ends (P := Failure.RecordWithin c.position symbols.length) rules)
      (fun _ h => h.recovered) (fun f _ hf h => ⟨h.source, fun _ hg => Option.some.inj hg ▸ hf⟩)
      (fun _ h => ⟨h.source, nofun⟩) (fun _ h => ⟨h.source, trivial⟩) hc budget
  obtain ⟨hending, hstate⟩ := (parseJournaled_simulates (Session.host rules) budget p c).ending_eq
    (rfl : Noted.Of s ⟨s, []⟩)
  refine ⟨?_, ?_, hending.symm, hstate, (hjournal.stateLeft hstart).failures⟩
  · intro out s' hrun
    have hconfines : (Session.host (S := S) rules).Confines c.position symbols.length
      (Session.Shows symbols fun _ => True) := Session.host_confines rules c.position
    exact ((apply_confined hconfines hp budget c (.refl hc)).of_ok ⟨hs, trivial⟩ hrun).1
  · intro out s' hrun
    refine hjournal.of_ending hstart (hending.symm.trans ?_)
    exact congrArg ending hrun

/-- Either `abc` or `a`, on `xab` from the second symbol on. The first alternative fails where the
input ends, which is recorded; the second succeeds before `b`, and the parse fails with what is on
record. -/
theorem positions_within_alternatives :
    let p : Parser Char (fun _ => Unit) Char :=
      (((Parser.value 'a').andL (Parser.value 'b')).andL (Parser.value 'c')).or (Parser.value 'a')
    let s : Session Char (Array Char) := { source := #['x', 'a', 'b'] }
    let c : Cursor := ⟨1, false⟩
    let journaled := Rules.empty.parseJournaled (Session.host Rules.empty) 1 p c ⟨s, []⟩
    ∃ f s', Rules.empty.parse (Session.host Rules.empty) 1 p c s = .ok (.failure f) s' ∧
      f.isEndOfInput = true ∧ f.Within 1 3 ∧ ∃ g, (stateLeft journaled).failures = [g, g] ∧
      g.position = 3 ∧ g.Within 1 3 := by
  intro p s c journaled
  have hrecords : Rules.empty.Throughout Parser.RecordsNothing p := by
    constructor
    · repeat' constructor
    · exact nofun
  obtain ⟨_, hparse, _, _, hjournal⟩ := positions_within (s := s) (c := c) hrecords
    (Source.holds_array #['x', 'a', 'b']) (by decide : 1 ≤ 3) 1
  exact ⟨_, _, rfl, rfl, hparse _ _ rfl, _, rfl, rfl, hjournal _ List.mem_cons_self⟩

end Rules

end PredictiveParsing
