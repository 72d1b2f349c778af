import CallContract.Guard.Session
import CallContract.Proofs.Dict
import CallContract.Proofs.Tally
import Mathlib.Data.List.Sort

/-!
# The records of a memory sink

**Theorem (`Session.records_play_iff`).** Over any history of any guards, what is added to a memory
sink is *recorded* by the events (`Recorded`), and nothing else is. An event records something if
it has a bag validated by a guard which reports to the sink and which is not quiet at that moment:
one record for each field that the schema of the guard does not declare, in ascending order.

`Recorded` follows the list of events and says of each what it records. It knows of the session only
the global quiet setting and the guards, which each event may change, and does not look at the
outcome of a validation. A step of the session agrees with it: the memory sinks after an event are
those after the diagnostics of its bag, if it has one (`Session.sinks_handle`).
-/

namespace CallContract

/-! ## What is recorded -/

/-- The fields that a schema declares, if it takes its arguments by name. -/
def Schema.declared? : Schema → Option (List Field)
  | object fields => some fields
  | single field => some [field]
  | positional _ => none
  | zeroArg => none

/-- The names are those of the fields in a bag that a schema does not declare, in ascending
order. -/
inductive Schema.Undeclared (s : Schema) : Bag → List String → Prop where
  | named {declared : List Field} {values : Dict Value} {names : List String}
      (hdeclared : s.declared? = some declared) (hascending : names.Pairwise (· < ·))
      (hnames : ∀ name, name ∈ names ↔
        (∃ v, values.get? name = some v) ∧ ∀ f ∈ declared, f.name ≠ name) :
      s.Undeclared (.named values) names
  /-- No names are declared, and all names pass. -/
  | unnamed {bag : Bag} (hdeclared : s.declared? = none) : s.Undeclared bag []
  /-- There are no names in the bag. -/
  | ordered {values : List Value} : s.Undeclared (.ordered values) []

/-- The diagnostics are those that a guard adds to a memory sink when it validates a bag. Its own
quiet setting goes before the global one. -/
inductive Guard.Records (g : Guard) (number : Nat) (globalQuiet : Bool) (bag : Bag) :
    List Diagnostic → Prop where
  | heard {names : List String} (hsink : g.channel.sink = .memory number)
      (hquiet : g.channel.config.quiet.getD globalQuiet = false)
      (hnames : g.contract.schema.Undeclared bag names) :
      g.Records number globalQuiet bag
        (names.map fun field => { guard := g.channel.config.displayName, field })
  | quiet (hquiet : g.channel.config.quiet.getD globalQuiet = true) :
      g.Records number globalQuiet bag []
  /-- The guard reports to another sink. -/
  | elsewhere (hsink : g.channel.sink ≠ .memory number) : g.Records number globalQuiet bag []

/-- A guard with the bag that it makes of some arguments, if it can. -/
def Guard.withBag? (g : Guard) (args : List Value) : Option (Guard × Bag) :=
  match Bag.ofCall g.contract.schema args with
  | .error _ => none
  | .ok bag => some (g, bag)

namespace Event

/-- The guard and the bag of a validation, if the event has one. -/
def validated? (guards : List Guard) : Event → Option (Guard × Bag)
  | operation (.call guard args) => guards[guard]?.bind fun g => g.withBag? args
  | operation (.validate guard args) => guards[guard]?.bind fun g => g.withBag? args
  | operation (.resolve _) => none
  | operation (.drop _) => none
  | operation (.clone _) => none
  | validateBag guard bag => guards[guard]?.map fun g => (g, bag)
  | setQuiet _ => none

/-- The global quiet setting after an event. -/
def quietAfter (globalQuiet : Bool) : Event → Bool
  | operation _ => globalQuiet
  | validateBag .. => globalQuiet
  | setQuiet on => on

/-- The guards after an event. -/
def guardsAfter (guards : List Guard) : Event → List Guard
  | operation (.clone guard) => guards ++ guards[guard]?.toList
  | _ => guards

end Event

/-- The diagnostics are those that some events add to a memory sink, the events one after another.
Before the first one there are the given quiet setting and guards. -/
inductive Recorded (number : Nat) :
    Bool → List Guard → List Event → List Diagnostic → Prop where
  | nil {globalQuiet : Bool} {guards : List Guard} : Recorded number globalQuiet guards [] []
  | validation {globalQuiet : Bool} {guards : List Guard} {e : Event} {events : List Event}
      {g : Guard} {bag : Bag} {ds rest : List Diagnostic}
      (hbag : e.validated? guards = some (g, bag)) (hds : g.Records number globalQuiet bag ds)
      (hrest : Recorded number (e.quietAfter globalQuiet) (e.guardsAfter guards) events rest) :
      Recorded number globalQuiet guards (e :: events) (ds ++ rest)
  | other {globalQuiet : Bool} {guards : List Guard} {e : Event} {events : List Event}
      {rest : List Diagnostic} (hbag : e.validated? guards = none)
      (hrest : Recorded number (e.quietAfter globalQuiet) (e.guardsAfter guards) events rest) :
      Recorded number globalQuiet guards (e :: events) rest

/-! ## Fields that are not declared -/

namespace Schema

variable {s : Schema}

theorem extraFields_named {declared : List Field} (h : s.declared? = some declared)
    (values : Dict Value) : s.extraFields (.named values) = extraNames declared values := by
  cases s <;> cases h <;> rfl

theorem extraFields_unnamed (h : s.declared? = none) (bag : Bag) : s.extraFields bag = [] := by
  cases s with
  | object fields => cases h
  | single field => cases h
  | positional ds => rfl
  | zeroArg => rfl

theorem extraFields_ordered (s : Schema) (values : List Value) :
    s.extraFields (.ordered values) = [] := by
  cases s <;> rfl

end Schema

theorem Dict.ascending_keys {α : Type} (d : Dict α) : d.keys.Pairwise (· < ·) :=
  List.pairwise_map.2 d.ascending

theorem ascending_extraNames (fields : List Field) (values : Dict Value) :
    (extraNames fields values).Pairwise (· < ·) :=
  values.ascending_keys.filter _

theorem mem_extraNames {fields : List Field} {values : Dict Value} {name : String} :
    name ∈ extraNames fields values ↔
      (∃ v, values.get? name = some v) ∧ ∀ f ∈ fields, f.name ≠ name := by
  simp [extraNames, Dict.mem_keys, Option.isSome_iff_exists]

/-- **The undeclared names of a bag are the ones that are reported.** Names in ascending order are
determined by what is among them. -/
theorem Schema.undeclared_iff {s : Schema} {bag : Bag} {names : List String} :
    s.Undeclared bag names ↔ names = s.extraFields bag := by
  constructor
  · intro h
    cases h with
    | named hdeclared hascending hnames =>
      rw [extraFields_named hdeclared]
      apply hascending.eq_of_mem_iff (ascending_extraNames _ _)
      intro name
      rw [hnames, mem_extraNames]
    | unnamed hdeclared => rw [extraFields_unnamed hdeclared]
    | ordered => rw [extraFields_ordered]
  · intro h
    subst h
    cases hdeclared : s.declared? with
    | none =>
      rw [extraFields_unnamed hdeclared]
      exact .unnamed hdeclared
    | some declared =>
      cases bag with
      | named values =>
        rw [extraFields_named hdeclared]
        exact .named hdeclared (ascending_extraNames _ _) fun _ => mem_extraNames
      | ordered values =>
        rw [extraFields_ordered]
        exact .ordered

/-! ## Deliveries to a memory sink -/

namespace Ledger

variable (l : Ledger)

/-- What the records of memory sinks depend on: the global quiet setting, and the records there
are. -/
def sinks : Bool × List (List Diagnostic) := (l.globalQuiet, l.memory)

@[simp] theorem sinks_note (activities : List Activity) : (l.note activities).sinks = l.sinks := rfl

@[simp] theorem sinks_tally (number : Nat) (t : Tally) : (l.tally number t).sinks = l.sinks := rfl

theorem sinks_deliverAll (sink : Sink) (ds : List Diagnostic) :
    (l.deliverAll sink ds).sinks = (l.globalQuiet, (l.deliverAll sink ds).memory) := by
  rw [sinks, globalQuiet_deliverAll]

variable {l}

theorem records_deliver {number : Nat} (h : l.HasSink (.memory number)) (d : Diagnostic) :
    (l.deliver (.memory number) d).records number = l.records number ++ [d] := by
  have hnumber : number < l.memory.length := h
  simp [records, deliver, hnumber]

/-- **A memory sink keeps what is delivered to it**, in order. -/
theorem records_deliverAll {number : Nat} (h : l.HasSink (.memory number))
    (ds : List Diagnostic) :
    (l.deliverAll (.memory number) ds).records number = l.records number ++ ds := by
  induction ds generalizing l with
  | nil => exact (List.append_nil _).symm
  | cons d ds ih =>
    show ((l.deliver (.memory number) d).deliverAll (.memory number) ds).records number = _
    rw [ih (hasSink_deliver_iff.2 h), records_deliver h, List.append_assoc]
    rfl

theorem records_deliver_of_ne {sink : Sink} {number : Nat} (h : sink ≠ .memory number)
    (d : Diagnostic) : (l.deliver sink d).records number = l.records number := by
  cases sink with
  | log | supplied _ => rfl
  | memory other =>
    have hother : other ≠ number := fun heq => h (by rw [heq])
    simp [records, deliver, hother]

/-- A memory sink keeps nothing of what is delivered to another one. -/
theorem records_deliverAll_of_ne {sink : Sink} {number : Nat} (h : sink ≠ .memory number)
    (ds : List Diagnostic) : (l.deliverAll sink ds).records number = l.records number := by
  induction ds generalizing l with
  | nil => rfl
  | cons d ds ih =>
    show ((l.deliver sink d).deliverAll sink ds).records number = _
    rw [ih, records_deliver_of_ne h]

end Ledger

/-- The diagnostics of a bag that is validated, delivered. -/
def Ledger.deliverFor (l : Ledger) : Option (Guard × Bag) → Ledger
  | none => l
  | some (g, bag) =>
    l.deliverAll g.channel.sink
      (g.channel.diagnostics l.globalQuiet (g.contract.schema.extraFields bag))

theorem Ledger.hasSink_deliverFor_iff {l : Ledger} {validated : Option (Guard × Bag)}
    {number : Nat} :
    (l.deliverFor validated).HasSink (.memory number) ↔ l.HasSink (.memory number) := by
  cases validated with
  | none => rfl
  | some validated => exact hasSink_deliverAll_iff

namespace Guard

variable {g : Guard} {number : Nat} {globalQuiet : Bool} {bag : Bag}

/-- Each validation has its records. -/
theorem exists_records (g : Guard) (number : Nat) (globalQuiet : Bool) (bag : Bag) :
    ∃ ds, g.Records number globalQuiet bag ds := by
  by_cases hsink : g.channel.sink = .memory number
  · cases hquiet : g.channel.config.quiet.getD globalQuiet with
    | true => exact ⟨[], .quiet hquiet⟩
    | false => exact ⟨_, .heard hsink hquiet (Schema.undeclared_iff.2 rfl)⟩
  · exact ⟨[], .elsewhere hsink⟩

/-- **A validation adds its records to a memory sink.** -/
theorem Records.records_deliverFor {l : Ledger} {ds : List Diagnostic}
    (h : g.Records number l.globalQuiet bag ds) (hsink : l.HasSink (.memory number)) :
    (l.deliverFor (some (g, bag))).records number = l.records number ++ ds := by
  rw [Ledger.deliverFor]
  cases h with
  | heard htarget hquiet hnames =>
    rw [Schema.undeclared_iff.1 hnames, htarget, Ledger.records_deliverAll hsink,
      Channel.diagnostics, Config.isQuiet, hquiet]
    rfl
  | quiet hquiet =>
    rw [Channel.diagnostics, Config.isQuiet, if_pos hquiet, List.append_nil]
    rfl
  | elsewhere htarget => rw [Ledger.records_deliverAll_of_ne htarget, List.append_nil]

theorem deliverAll_diagnostics (g : Guard) (args : List Value) (l : Ledger) :
    l.deliverAll g.channel.sink (g.diagnostics l.globalQuiet args) =
      l.deliverFor (g.withBag? args) := by
  rw [diagnostics, Schema.extraIn, withBag?]
  cases Bag.ofCall g.contract.schema args with
  | error e => rw [Channel.diagnostics_nil]; rfl
  | ok bag => rfl

end Guard

/-! ## Steps of a session -/

namespace Guard

variable (g : Guard) (args : List Value) (l : Ledger)

theorem sinks_validate :
    (g.validate args l).2.sinks = (l.globalQuiet, (l.deliverFor (g.withBag? args)).memory) := by
  rw [validate_snd, Ledger.sinks_tally, Ledger.sinks_note, Ledger.sinks_deliverAll,
    deliverAll_diagnostics]

theorem sinks_call :
    (g.call args l).2.sinks = (l.globalQuiet, (l.deliverFor (g.withBag? args)).memory) := by
  rw [call_snd, Ledger.sinks_tally, Ledger.sinks_note, Ledger.sinks_deliverAll,
    deliverAll_diagnostics]

theorem sinks_validateBag (bag : Bag) :
    (g.channel.validate g.contract.schema bag l).2.sinks =
      (l.globalQuiet, (l.deliverFor (some (g, bag))).memory) := by
  rw [Channel.validate_snd, Ledger.sinks_tally, Ledger.sinks_note, Ledger.sinks_deliverAll,
    Ledger.deliverFor]

theorem sinks_checkResult (v : Value) : (g.checkResult v l).2.sinks = l.sinks := by
  rw [checkResult_snd, Ledger.sinks_tally, Ledger.sinks_note]

end Guard

theorem Reply.sinks_resolve (r : Reply) (l : Ledger) : (r.resolve l).2.sinks = l.sinks := by
  match r with
  | ready v => rfl
  | pending g (.error fault) => rfl
  | pending g (.ok v) => exact g.sinks_checkResult (l.note [.settled]) v

namespace Session

variable (s : Session) (e : Event)

theorem guards_handle : (s.handle e).guards = e.guardsAfter s.guards := by
  cases e with
  | operation op =>
    rw [handle]
    cases op with
    | call guard args => rw [step]; cases s.guards[guard]? <;> rfl
    | validate guard args => rw [step]; cases s.guards[guard]? <;> rfl
    | resolve call => rw [step]; cases s.held? call <;> rfl
    | drop call => rw [step]; cases s.held? call <;> rfl
    | clone guard =>
      rw [step, Event.guardsAfter]
      cases s.guards[guard]? with
      | none => exact (List.append_nil _).symm
      | some g => rfl
  | validateBag guard bag => rw [handle]; cases s.guards[guard]? <;> rfl
  | setQuiet on => rfl

/-- **An event delivers the diagnostics of the bag that it has validated**, whatever comes of it,
and nothing else. -/
theorem sinks_handle :
    (s.handle e).ledger.sinks =
      (e.quietAfter s.ledger.globalQuiet,
        (s.ledger.deliverFor (e.validated? s.guards)).memory) := by
  cases e with
  | operation op =>
    rw [handle, Event.quietAfter]
    cases op with
    | call guard args =>
      rw [step, Event.validated?]
      cases s.guards[guard]? with
      | none => rfl
      | some g => exact g.sinks_call args s.ledger
    | validate guard args =>
      rw [step, Event.validated?]
      cases s.guards[guard]? with
      | none => rfl
      | some g => exact g.sinks_validate args s.ledger
    | resolve call =>
      rw [step]
      cases s.held? call with
      | none => rfl
      | some reply => exact reply.sinks_resolve s.ledger
    | drop call => rw [step]; cases s.held? call <;> rfl
    | clone guard => rw [step]; cases s.guards[guard]? <;> rfl
  | validateBag guard bag =>
    rw [handle, Event.validated?]
    cases s.guards[guard]? with
    | none => rfl
    | some g => exact g.sinks_validateBag s.ledger bag
  | setQuiet on => rfl

theorem globalQuiet_handle :
    (s.handle e).ledger.globalQuiet = e.quietAfter s.ledger.globalQuiet :=
  congrArg Prod.fst (s.sinks_handle e)

theorem memory_handle :
    (s.handle e).ledger.memory = (s.ledger.deliverFor (e.validated? s.guards)).memory :=
  congrArg Prod.snd (s.sinks_handle e)

theorem records_handle (number : Nat) :
    (s.handle e).ledger.records number =
      (s.ledger.deliverFor (e.validated? s.guards)).records number := by
  rw [Ledger.records, memory_handle, Ledger.records]

theorem hasSink_handle {number : Nat} (h : s.ledger.HasSink (.memory number)) :
    (s.handle e).ledger.HasSink (.memory number) := by
  rw [Ledger.HasSink, memory_handle]
  exact Ledger.hasSink_deliverFor_iff.2 h

end Session

/-! ## Histories -/

/-- Every history has its records. -/
theorem exists_recorded (number : Nat) (globalQuiet : Bool) (guards : List Guard)
    (events : List Event) : ∃ ds, Recorded number globalQuiet guards events ds := by
  induction events generalizing globalQuiet guards with
  | nil => exact ⟨[], .nil⟩
  | cons e events ih =>
    obtain ⟨rest, hrest⟩ := ih (e.quietAfter globalQuiet) (e.guardsAfter guards)
    cases hbag : e.validated? guards with
    | none => exact ⟨rest, .other hbag hrest⟩
    | some validated =>
      obtain ⟨ds, hds⟩ := validated.1.exists_records number globalQuiet validated.2
      exact ⟨ds ++ rest, .validation hbag hds hrest⟩

namespace Session

/-- What a history records is what it adds to the memory sink. -/
theorem records_play {s : Session} {number : Nat} (hsink : s.ledger.HasSink (.memory number))
    {events : List Event} {ds : List Diagnostic}
    (h : Recorded number s.ledger.globalQuiet s.guards events ds) :
    (s.play events).ledger.records number = s.ledger.records number ++ ds := by
  induction events generalizing s ds with
  | nil =>
    cases h with
    | nil => exact (List.append_nil _).symm
  | cons e events ih =>
    have hplay : (s.play (e :: events)).ledger = ((s.handle e).play events).ledger := rfl
    have hstep := s.records_handle e number
    -- the rest is recorded with the setting and the guards that the first event leaves
    have hlater := @ih (s.handle e)
    rw [s.guards_handle, s.globalQuiet_handle] at hlater
    cases h with
    | validation hbag hds hrest =>
      rw [hbag, hds.records_deliverFor hsink] at hstep
      rw [hplay, hlater (s.hasSink_handle e hsink) hrest, hstep, List.append_assoc]
    | other hbag hrest =>
      rw [hbag] at hstep
      rw [hplay, hlater (s.hasSink_handle e hsink) hrest, hstep, Ledger.deliverFor]

/-- **A memory sink holds exactly what is recorded**, after any events on any guards: what was in it
before, and then the records of the validations, one after another. -/
theorem records_play_iff {s : Session} {number : Nat} (hsink : s.ledger.HasSink (.memory number))
    {events : List Event} {ds : List Diagnostic} :
    (s.play events).ledger.records number = s.ledger.records number ++ ds ↔
      Recorded number s.ledger.globalQuiet s.guards events ds := by
  constructor
  · intro h
    -- something is recorded, and it is what has been added
    obtain ⟨ds', hrecorded⟩ := exists_recorded number s.ledger.globalQuiet s.guards events
    have heq : ds = ds' := by
      apply List.append_cancel_left
      rw [← h, records_play hsink hrecorded]
    rw [heq]
    exact hrecorded
  · intro h
    exact records_play hsink h

/-- A guard that pins the setting and one that does not. Recorded are a call that is refused, and a
bag after the global setting has been changed back; not the same bag before that, nor arguments
without names. -/
theorem records_play_iff_pinned_and_unpinned :
    let loud : Config := { name := some "switch", quiet := some false }
    let callback : Callback := fun _ => .ok (.ready .null)
    let pinned : Guard :=
      { contract :=
          { schema := .object [⟨"flag", .kind .boolean⟩], returns := none, config := loud }
        callback
        channel := { config := loud, sink := .memory 0, counters := 0 } }
    let unpinned : Guard :=
      { contract :=
          { schema := .single ⟨"value", .kind .boolean⟩, returns := none, config := {} }
        callback
        channel := { config := {}, sink := .memory 0, counters := 1 } }
    let l : Ledger := { counters := [{}, {}], memory := [[]] }
    let bag : Bag := .named ((Dict.empty.insert "value" .null).insert "size" .null)
    let events : List Event :=
      [.setQuiet true, .operation (.call 0 [.object [("size", .null), ("color", .null)]]),
        .validateBag 1 bag, .setQuiet false, .validateBag 1 bag, .validateBag 1 (.ordered [.null]),
        .operation (.call 0 [.null])]
    let ds : List Diagnostic :=
      [⟨"switch", "color"⟩, ⟨"switch", "size"⟩, ⟨"anonymous", "size"⟩]
    l.HasSink (.memory 0) ∧
      ((started [pinned, unpinned] l).play events).ledger.records 0 = ds ∧
      Recorded 0 false [pinned, unpinned] events ds := by
  intro loud callback pinned unpinned l bag events ds
  let s : Session := started [pinned, unpinned] l
  have hsink : s.ledger.HasSink (.memory 0) := Nat.zero_lt_one
  have hrecords : (s.play events).ledger.records 0 = s.ledger.records 0 ++ ds := rfl
  have hrecorded : Recorded 0 s.ledger.globalQuiet s.guards events ds :=
    (records_play_iff hsink).1 hrecords
  exact ⟨hsink, hrecords, hrecorded⟩

end Session

end CallContract
