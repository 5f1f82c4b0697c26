import LoongClaw.Foundation.Machine
import LoongClaw.Spec.Resilience

namespace LoongClaw.Spec

open Foundation OrderedMap

/-!
# Rate limits under interleaving

Calls reserve their starts one after the other under the lock, and sleep
outside of it.  A run is any sequence of reservations and wake-ups, with any
readings of the clock; a call that slept wakes no earlier than its wait allows.
-/

/-- A call that has reserved its start. -/
structure RateCall where
  connectorName : String
  start : Nat
  wakesAt : Nat
  deriving DecidableEq

structure RateState where
  rates : OrderedMap String Nat
  waiting : List RateCall
  reserved : List RateCall
  started : List (RateCall × Nat)

inductive RateEvent where
  | reserve (connectorName : String) (now : Nat)
  | wake (call : RateCall) (now : Nat)

variable (rateLimits : OrderedMap String ProgrammaticConnectorRateLimit)

def rateStep (state : RateState) : RateEvent -> RateState
  | .reserve connectorName now =>
    match lookup connectorName rateLimits with
    | none => state
    | some limit =>
      let scheduled := lookup connectorName state.rates
      let (wait, next) := reserveStart limit now scheduled
      let call : RateCall :=
        { connectorName, start := max (scheduled.getD now) now, wakesAt := now + wait }
      { state with
        rates := insert connectorName next state.rates
        waiting := call :: state.waiting
        reserved := call :: state.reserved }
  | .wake call now =>
    if call ∈ state.waiting /\ call.wakesAt <= now then
      { state with
        waiting := state.waiting.erase call
        started := (call, now) :: state.started }
    else state

/-- The state after some events, the first of them on an empty table. -/
def rateRun (events : List RateEvent) : RateState :=
  Machine.run (rateStep rateLimits) ⟨[], [], [], []⟩ events

def minInterval (connectorName : String) : Nat :=
  (lookup connectorName rateLimits).elim 0 fun limit => nanosOfMillis limit.minIntervalMs

/-- A later call of the same connector starts an interval after the earlier one. -/
def Spaced (later earlier : RateCall) : Prop :=
  earlier.connectorName = later.connectorName ->
    earlier.start + minInterval rateLimits earlier.connectorName <= later.start

structure RateInvariant (state : RateState) : Prop where
  spaced : state.reserved.Pairwise (Spaced rateLimits)
  /-- The next start of a connector is an interval after every reserved one. -/
  next : ∀ call, call ∈ state.reserved ->
    ∃ next, lookup call.connectorName state.rates = some next /\
      call.start + minInterval rateLimits call.connectorName <= next
  waits : ∀ call, call ∈ state.waiting -> call.start <= call.wakesAt
  starts : ∀ entry, entry ∈ state.started -> entry.1.start <= entry.2

variable {rateLimits} {state : RateState}

/-- A reservation is what the program of a call does under the lock: it leaves
the same table, and the call is told to sleep until it wakes. -/
theorem perform_applyProgrammaticRateLimit {π ω : Type} [Inhabited ω] {spec : SpecState π ω}
    (sameTable : spec.rates = state.rates) (connectorName : String) (moment : SpecMoment ω) :
    let next := rateStep rateLimits state (.reserve connectorName moment.now)
    let performed := (applyProgrammaticRateLimit rateLimits connectorName).perform ([moment], spec)
    performed.2.2 = { spec with rates := next.rates } /\
      ∀ call, next.reserved = call :: state.reserved ->
        performed.1 = .ok (millisOfNanos (call.wakesAt - moment.now)) := by
  cases limited : lookup connectorName rateLimits with
  | none =>
    simp only [applyProgrammaticRateLimit, rateStep, limited, <- sameTable]
    refine ⟨rfl, fun call longer => ?_⟩
    exact absurd (congrArg List.length longer) (Nat.ne_of_lt (Nat.lt_succ_self _))
  | some limit =>
    simp only [applyProgrammaticRateLimit, rateStep, limited, <- sameTable]
    refine ⟨rfl, fun call first => ?_⟩
    rw [<- (List.cons.inj first).1, Nat.add_sub_cancel_left]
    rfl

theorem rateStep_invariant (event : RateEvent) (holds : RateInvariant rateLimits state) :
    RateInvariant rateLimits (rateStep rateLimits state event) := by
  cases event with
  | wake call now =>
    simp only [rateStep]
    split
    case isTrue slept =>
      refine ⟨holds.spaced, holds.next, ?_, ?_⟩
      · intro other member
        exact holds.waits other (List.mem_of_mem_erase member)
      · have awake := (holds.waits call slept.1).trans slept.2
        exact List.forall_mem_cons.mpr ⟨awake, holds.starts⟩
    case isFalse => exact holds
  | reserve connectorName now =>
    cases limited : lookup connectorName rateLimits with
    | none => simpa only [rateStep, limited] using holds
    | some limit =>
      simp only [rateStep, limited]
      have interval : minInterval rateLimits connectorName = nanosOfMillis limit.minIntervalMs := by
        simp [minInterval, limited]
      have later : ∀ call, call ∈ state.reserved -> call.connectorName = connectorName ->
          call.start + minInterval rateLimits call.connectorName <=
            max ((lookup connectorName state.rates).getD now) now := by
        intro call member same
        rcases holds.next call member with ⟨next, scheduled, apart⟩
        rw [same] at scheduled
        rw [scheduled]
        exact apart.trans (le_max_left _ _)
      refine ⟨List.pairwise_cons.mpr ⟨later, holds.spaced⟩, ?_, ?_, holds.starts⟩
      · refine List.forall_mem_cons.mpr ⟨⟨_, lookup_insert_self, ?_⟩, ?_⟩
        · rw [interval]
          exact le_rfl
        · intro call earlier
          rw [lookup_insert]
          by_cases same : call.connectorName = connectorName
          · exact ⟨_, if_pos same, (later call earlier same).trans (Nat.le_add_right _ _)⟩
          · rw [if_neg same]
            exact holds.next call earlier
      · refine List.forall_mem_cons.mpr ⟨?_, holds.waits⟩
        simp only [reserveStart]
        omega

/-- However calls interleave, the starts reserved for one connector are the
minimum interval apart, and no call starts before its reserved start. -/
theorem rateRun_spaced (events : List RateEvent) :
    (rateRun rateLimits events).reserved.Pairwise (Spaced rateLimits) /\
      ∀ call time, (call, time) ∈ (rateRun rateLimits events).started -> call.start <= time := by
  have holds : RateInvariant rateLimits (rateRun rateLimits events) :=
    Machine.run_invariant _ (fun _ => rateStep_invariant) ⟨.nil, nofun, nofun, nofun⟩ events
  exact ⟨holds.spaced, fun call time => holds.starts (call, time)⟩

end LoongClaw.Spec
