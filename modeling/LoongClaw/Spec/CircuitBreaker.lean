import LoongClaw.Spec.Resilience

namespace LoongClaw.Spec

open Foundation Kernel Machine OrderedMap

/-!
# Circuit breakers under interleaving

The calls of a batch share the table of circuits.  Each call acquires a slot
before its connector runs and records an outcome afterwards, and the two
operations of different calls alternate freely.  A trace is any sequence of the
two operations, each with the moment at which it holds the lock.

The entry of one connector is followed through a trace.  What an operation does
to it is computed by `acquireSlot` and `recordOutcome`; operations on other
connectors leave it alone.
-/

inductive CircuitOperation where
  | acquire (call : ConnectorInvocation)
  | record (connectorName : String) (success : Bool)

namespace CircuitOperation

def program {π ω : Type} (breakers : OrderedMap String ProgrammaticCircuitBreakerPolicy) :
    CircuitOperation -> SpecProgram π ω String
  | acquire call => acquireProgrammaticCircuitSlot breakers call
  | record connectorName success =>
    recordProgrammaticCircuitOutcome breakers connectorName success

def connectorName : CircuitOperation -> String
  | acquire call => call.connectorName
  | record connectorName _ => connectorName

variable (policy : ProgrammaticCircuitBreakerPolicy)

/-- What the operation does to the entry of its connector. -/
def transition (now : Nat)
    (entry : ProgrammaticCircuitRuntimeState) :
    CircuitOperation -> ProgrammaticCircuitRuntimeState
  | acquire call => (acquireSlot policy call now entry).2
  | record _ success => recordOutcome policy now success entry

/-- The operation asks for a slot and gets it. -/
def admitted (now : Nat)
    (entry : ProgrammaticCircuitRuntimeState) : CircuitOperation -> Bool
  | acquire call => (acquireSlot policy call now entry).1.isOk
  | record _ _ => false

def isAcquire (connector : String) : CircuitOperation -> Bool
  | acquire call => decide (call.connectorName = connector)
  | record _ _ => false

def isRecord (connector : String) : CircuitOperation -> Bool
  | acquire _ => false
  | record connectorName _ => decide (connectorName = connector)

end CircuitOperation

open CircuitOperation

/-- An operation and the moment at which it holds the lock. -/
structure TimedOperation (ω : Type) where
  moment : SpecMoment ω
  operation : CircuitOperation

section Traces

variable {π ω : Type} [Inhabited ω]
variable (breakers : OrderedMap String ProgrammaticCircuitBreakerPolicy) (connector : String)
  (state : SpecState π ω)

def circuitOf : ProgrammaticCircuitRuntimeState :=
  (lookup connector state.circuits).getD .default

variable (timed : TimedOperation ω)

def operate : Except String String :=
  ((timed.operation.program breakers).perform ([timed.moment], state)).1

def afterOperation : SpecState π ω :=
  ((timed.operation.program breakers).perform ([timed.moment], state)).2.2

/-- A call of the connector asks for a slot and gets it. -/
def admitsCall : Bool :=
  timed.operation.isAcquire connector && (operate breakers state timed).isOk

def admissions : SpecState π ω -> List (TimedOperation ω) -> Nat
  | _, [] => 0
  | state, timed :: rest =>
    (admitsCall breakers connector state timed).toNat +
      admissions (afterOperation breakers state timed) rest

variable (trace : List (TimedOperation ω))

/-- The clock never goes back along the trace. -/
def NonDecreasing : Prop :=
  trace.Pairwise fun earlier later => earlier.moment.now <= later.moment.now

/-- The circuit is half open after every operation of the trace. -/
def HalfOpenWindow : Prop :=
  Guarded (afterOperation breakers) (fun reached timed =>
      (circuitOf connector (afterOperation breakers reached timed)).phase = .halfOpen) state trace

/-- Every outcome of the connector that the trace records is a failure, and is
recorded while the circuit is closed. -/
def ClosedFailures : Prop :=
  Guarded (afterOperation breakers)
    (fun reached timed => ∀ success, timed.operation = .record connector success ->
      (circuitOf connector reached).phase = .closed /\ success = false) state trace

/-- How many outcomes of the connector the trace records. -/
def recordedOutcomes : Nat :=
  trace.countP fun timed => timed.operation.isRecord connector

end Traces

/-! ## One operation -/

/-- An open circuit does not wait any more. -/
def CooledDown (now : Nat) (entry : ProgrammaticCircuitRuntimeState) : Prop :=
  entry.phase = .opened -> entry.openUntil.filter (fun deadline => decide (now < deadline)) = none

/-- Everything an operation can do to the entry of its connector: whether it
admits a call, and the entry that it leaves. -/
inductive CircuitMove (policy : ProgrammaticCircuitBreakerPolicy) (now : Nat)
    (entry : ProgrammaticCircuitRuntimeState) :
    CircuitOperation -> Bool -> ProgrammaticCircuitRuntimeState -> Prop where
  | kept {operation : CircuitOperation} {admits : Bool}
      (closed : admits = true -> entry.phase = .closed) :
      CircuitMove policy now entry operation admits entry
  | probed {call : ConnectorInvocation} {window : ProgrammaticCircuitRuntimeState}
      (due : CooledDown now entry)
      (halfOpen : window.phase = .halfOpen) (left : window.halfOpenRemainingCalls ≠ 0)
      (probes : window.halfOpenRemainingCalls =
        if entry.phase = .halfOpen then entry.halfOpenRemainingCalls
        else policy.halfOpenMaxCalls) :
      CircuitMove policy now entry (.acquire call) true
        { window with halfOpenRemainingCalls := window.halfOpenRemainingCalls - 1 }
  | tripped {operation : CircuitOperation} {later : ProgrammaticCircuitRuntimeState}
      (due : CooledDown now entry)
      (opened : later.phase = .opened)
      (waits : later.openUntil = some (now + nanosOfMillis policy.cooldownMs)) :
      CircuitMove policy now entry operation false later
  | recorded {connectorName : String} {success : Bool} {later : ProgrammaticCircuitRuntimeState}
      (before : entry.phase ≠ .opened) (after : later.phase ≠ .opened)
      (window : later.phase = .halfOpen -> entry.phase = .halfOpen /\
        later.halfOpenRemainingCalls = entry.halfOpenRemainingCalls) :
      CircuitMove policy now entry (.record connectorName success) false later

section Entry

variable {policy : ProgrammaticCircuitBreakerPolicy} {call : ConnectorInvocation} {now : Nat}
  {entry later window : ProgrammaticCircuitRuntimeState}

theorem cooledDown_of_unopened (unopened : entry.phase ≠ .opened) : CooledDown now entry :=
  fun opened => absurd opened unopened

theorem admitCall_move (due : CooledDown now entry) (halfOpen : window.phase = .halfOpen)
    (probes : window.halfOpenRemainingCalls =
      if entry.phase = .halfOpen then entry.halfOpenRemainingCalls
      else policy.halfOpenMaxCalls) :
    CircuitMove policy now entry (.acquire call) (admitCall policy call now window).1.isOk
      (admitCall policy call now window).2 := by
  unfold admitCall
  rw [if_pos halfOpen]
  by_cases spent : window.halfOpenRemainingCalls = 0
  · rw [if_pos spent]
    exact .tripped due rfl rfl
  · rw [if_neg spent]
    exact .probed due halfOpen spent probes

theorem acquireSlot_move :
    CircuitMove policy now entry (.acquire call) (acquireSlot policy call now entry).1.isOk
      (acquireSlot policy call now entry).2 := by
  unfold acquireSlot
  cases reached : entry.phase with
  | closed =>
    simp only [admitCall, reached, reduceCtorEq, if_false]
    exact .kept fun _ => reached
  | halfOpen =>
    exact admitCall_move (cooledDown_of_unopened (by rw [reached]; exact nofun)) reached
      (if_pos reached).symm
  | opened =>
    rw [if_pos rfl]
    split
    · exact .kept nofun
    · rename_i cool
      exact admitCall_move (fun _ => cool) rfl (if_neg (by rw [reached]; exact nofun)).symm

theorem recordOutcome_closed_failure (closed : entry.phase = .closed) :
    recordOutcome policy now false entry =
      if policy.failureThreshold <= entry.consecutiveFailures + 1 then
        { phase := .opened
          consecutiveFailures := entry.consecutiveFailures + 1
          openUntil := some (now + nanosOfMillis policy.cooldownMs)
          halfOpenRemainingCalls := 0
          halfOpenSuccesses := 0 }
      else { entry with consecutiveFailures := entry.consecutiveFailures + 1 } := by
  unfold recordOutcome
  rw [closed]
  rfl

theorem recordOutcome_move {connectorName : String} {success : Bool} :
    CircuitMove policy now entry (.record connectorName success) false
      (recordOutcome policy now success entry) := by
  unfold recordOutcome
  split
  case h_5 => exact .kept nofun
  all_goals
    rename_i reached
    have unopened : entry.phase ≠ .opened := by
      rw [reached]
      exact nofun
  case h_1 => exact .recorded unopened unopened (by rw [reached]; exact nofun)
  case h_2 =>
    dsimp only
    split
    · exact .tripped (cooledDown_of_unopened unopened) rfl rfl
    · exact .recorded unopened unopened (by rw [reached]; exact nofun)
  case h_3 =>
    dsimp only
    split
    · exact .recorded unopened nofun nofun
    · split
      · exact .tripped (cooledDown_of_unopened unopened) rfl rfl
      · exact .recorded unopened unopened fun _ => ⟨reached, rfl⟩
  case h_4 => exact .tripped (cooledDown_of_unopened unopened) rfl rfl

theorem transition_move {operation : CircuitOperation} :
    CircuitMove policy now entry operation (operation.admitted policy now entry)
      (operation.transition policy now entry) := by
  cases operation with
  | acquire call => exact acquireSlot_move
  | record connectorName success => exact recordOutcome_move

namespace CircuitMove

variable {operation : CircuitOperation} {admits : Bool}

section

variable (move : CircuitMove policy now entry operation admits later)

include move

/-- A circuit that waits for the end of its cooldown keeps waiting, and admits
nothing. -/
theorem waiting {deadline : Nat}
    (opened : entry.phase = .opened) (waits : entry.openUntil = some deadline)
    (early : now < deadline) : admits = false /\ later = entry := by
  have pending : ¬ CooledDown now entry := by
    intro due
    have cool := due opened
    simp [waits, Option.filter, early] at cool
  cases move with
  | kept closed =>
    refine ⟨Bool.eq_false_iff.mpr fun admitted => ?_, rfl⟩
    exact absurd (opened.symm.trans (closed admitted)) nofun
  | probed due | tripped due => exact absurd due pending
  | recorded before => exact absurd opened before

theorem opens (before : entry.phase ≠ .opened) (opened : later.phase = .opened) :
    later.openUntil = some (now + nanosOfMillis policy.cooldownMs) := by
  cases move with
  | kept => exact absurd opened before
  | probed _ halfOpen => exact absurd (halfOpen.symm.trans opened) nofun
  | tripped _ _ waits => exact waits
  | recorded _ after => exact absurd opened after

/-- What is left of the probes and what was admitted add up: to the probes left
before, or to all of them when the operation opens the window. -/
theorem window_probes (reached : later.phase = .halfOpen) :
    admits.toNat + later.halfOpenRemainingCalls =
      if entry.phase = .halfOpen then entry.halfOpenRemainingCalls
      else policy.halfOpenMaxCalls := by
  cases move with
  | kept closed =>
    have refused : admits = false := Bool.eq_false_iff.mpr fun admitted =>
      absurd (reached.symm.trans (closed admitted)) nofun
    rw [refused, if_pos reached, Bool.toNat_false, Nat.zero_add]
  | probed _ _ left probes =>
    rw [<- probes]
    exact Nat.add_sub_cancel' (Nat.pos_of_ne_zero left)
  | tripped _ opened => exact absurd (opened.symm.trans reached) nofun
  | recorded _ _ window =>
    rcases window reached with ⟨halfOpen, same⟩
    rw [if_pos halfOpen, same, Bool.toNat_false, Nat.zero_add]

end

theorem acquire_closed (move : CircuitMove policy now entry (.acquire call) admits later)
    (closed : later.phase = .closed) : later = entry := by
  cases move with
  | kept => rfl
  | probed _ halfOpen => exact absurd (halfOpen.symm.trans closed) nofun
  | tripped _ opened => exact absurd (opened.symm.trans closed) nofun

end CircuitMove

end Entry

/-! ## One operation of a trace -/

section Trace

variable {π ω : Type} {connector : String}

theorem circuitOf_insert {name : String} {entry : ProgrammaticCircuitRuntimeState}
    {state : SpecState π ω} :
    circuitOf connector { state with circuits := insert name entry state.circuits } =
      if name = connector then entry else circuitOf connector state := by
  unfold circuitOf
  rw [lookup_insert]
  by_cases same : connector = name
  · rw [if_pos same, if_pos same.symm]
    rfl
  · rw [if_neg same, if_neg (Ne.symm same)]

theorem recordedOutcomes_cons {timed : TimedOperation ω} {rest : List (TimedOperation ω)} :
    recordedOutcomes connector (timed :: rest) =
      (timed.operation.isRecord connector).toNat + recordedOutcomes connector rest := by
  unfold recordedOutcomes
  rw [List.countP_cons, Nat.add_comm]
  cases timed.operation.isRecord connector <;> rfl

variable {timed : TimedOperation ω} {state : SpecState π ω} [Inhabited ω]
variable {breakers : OrderedMap String ProgrammaticCircuitBreakerPolicy}
variable {policy : ProgrammaticCircuitBreakerPolicy}

theorem afterOperation_eq :
    afterOperation breakers state timed =
      match lookup timed.operation.connectorName breakers with
      | none => state
      | some policy =>
        { state with
          circuits := insert timed.operation.connectorName
            (timed.operation.transition policy timed.moment.now
              (circuitOf timed.operation.connectorName state)) state.circuits } := by
  rcases timed with ⟨moment, operation⟩
  cases operation with
  | acquire call =>
    simp only [afterOperation, program, acquireProgrammaticCircuitSlot, connectorName]
    cases lookup call.connectorName breakers <;> rfl
  | record name success =>
    simp only [afterOperation, program, recordProgrammaticCircuitOutcome, connectorName]
    cases lookup name breakers <;> rfl

theorem circuitOf_own (own : timed.operation.connectorName = connector)
    (guarded : lookup connector breakers = some policy) :
    circuitOf connector (afterOperation breakers state timed) =
      timed.operation.transition policy timed.moment.now (circuitOf connector state) := by
  subst own
  rw [afterOperation_eq, guarded]
  exact (circuitOf_insert ..).trans (if_pos rfl)

theorem circuitOf_other (other : timed.operation.connectorName ≠ connector) :
    circuitOf connector (afterOperation breakers state timed) = circuitOf connector state := by
  rw [afterOperation_eq]
  cases lookup timed.operation.connectorName breakers with
  | none => rfl
  | some own => exact (circuitOf_insert ..).trans (if_neg other)

theorem admitsCall_own (own : timed.operation.connectorName = connector)
    (guarded : lookup connector breakers = some policy) :
    admitsCall breakers connector state timed =
      timed.operation.admitted policy timed.moment.now (circuitOf connector state) := by
  rcases timed with ⟨moment, operation⟩
  cases operation with
  | acquire call =>
    have named : call.connectorName = connector := own
    subst named
    simp only [admitsCall, isAcquire, decide_true, Bool.true_and, operate,
      program, acquireProgrammaticCircuitSlot, guarded]
    rfl
  | record name success => rfl

theorem admitsCall_other (other : timed.operation.connectorName ≠ connector) :
    admitsCall breakers connector state timed = false := by
  rcases timed with ⟨moment, operation⟩
  cases operation with
  | acquire call =>
    have foreign : call.connectorName ≠ connector := other
    simp [admitsCall, isAcquire, foreign]
  | record name success => rfl

variable (guarded : lookup connector breakers = some policy)

include guarded

/-- Operations on other connectors keep the entry, so every operation of a
trace makes one of the moves. -/
theorem operation_moves :
    CircuitMove policy timed.moment.now (circuitOf connector state) timed.operation
      (admitsCall breakers connector state timed)
      (circuitOf connector (afterOperation breakers state timed)) := by
  by_cases own : timed.operation.connectorName = connector
  · rw [admitsCall_own own guarded, circuitOf_own own guarded]
    exact transition_move
  · rw [admitsCall_other own, circuitOf_other own]
    exact .kept nofun

/-! ## The cooldown -/

variable {deadline : Nat} {trace : List (TimedOperation ω)} {opening : TimedOperation ω}

theorem waiting_run (early : ∀ timed, timed ∈ trace -> timed.moment.now < deadline)
    (opened : (circuitOf connector state).phase = .opened)
    (waits : (circuitOf connector state).openUntil = some deadline) :
    circuitOf connector (run (afterOperation breakers) state trace) =
      circuitOf connector state := by
  induction trace generalizing state with
  | nil => rfl
  | cons timed rest ih =>
    have kept := ((operation_moves guarded).waiting opened waits (early timed List.mem_cons_self)).2
    rw [run_cons, <- kept]
    apply ih
    · exact fun other member => early other (List.mem_cons_of_mem timed member)
    · rw [kept, opened]
    · rw [kept, waits]

/-- From the operation that opens a circuit to the end of the cooldown no call
is admitted. -/
theorem cooldown_refuses {attempt : TimedOperation ω} {between : List (TimedOperation ω)}
    (ordered : NonDecreasing (opening :: (between ++ [attempt])))
    (before : (circuitOf connector state).phase ≠ .opened)
    (opens : (circuitOf connector (afterOperation breakers state opening)).phase = .opened)
    (early : attempt.moment.now < opening.moment.now + nanosOfMillis policy.cooldownMs) :
    admitsCall breakers connector
      (run (afterOperation breakers) state (opening :: between)) attempt = false := by
  have waits := (operation_moves guarded).opens before opens
  have earlier : ∀ timed, timed ∈ between ->
      timed.moment.now < opening.moment.now + nanosOfMillis policy.cooldownMs := by
    intro timed member
    have sorted := (List.pairwise_append.mp (List.pairwise_cons.mp ordered).2).2.2
    exact Nat.lt_of_le_of_lt (sorted timed member attempt List.mem_cons_self) early
  have kept := waiting_run guarded earlier opens waits
  rw [run_cons]
  apply ((operation_moves guarded).waiting _ _ early).1
  · rw [kept, opens]
  · rw [kept, waits]

/-! ## The half-open window -/

/-- Inside a window the calls admitted are probes that were left. -/
theorem window_run (halfOpen : (circuitOf connector state).phase = .halfOpen)
    (window : HalfOpenWindow breakers connector state trace) :
    admissions breakers connector state trace <=
      (circuitOf connector state).halfOpenRemainingCalls := by
  induction trace generalizing state with
  | nil => exact Nat.zero_le _
  | cons timed rest ih =>
    have here := (operation_moves guarded).window_probes window.1
    have later := ih window.1 window.2
    rw [if_pos halfOpen] at here
    unfold admissions
    omega

/-! ## Consecutive failures -/

/-- A closed circuit was closed before, and has counted the failure that was
recorded. -/
theorem closedFailures_step (failure : ∀ success, timed.operation = .record connector success ->
      (circuitOf connector state).phase = .closed /\ success = false)
    (closed : (circuitOf connector (afterOperation breakers state timed)).phase = .closed) :
    (circuitOf connector state).phase = .closed /\
      (circuitOf connector (afterOperation breakers state timed)).consecutiveFailures =
        (circuitOf connector state).consecutiveFailures +
          (timed.operation.isRecord connector).toNat := by
  rcases timed with ⟨moment, operation⟩
  by_cases own : operation.connectorName = connector
  · rw [circuitOf_own own guarded] at closed ⊢
    cases operation with
    | acquire call =>
      have kept := transition_move.acquire_closed closed
      rw [kept] at closed ⊢
      exact ⟨closed, rfl⟩
    | record name success =>
      have named : name = connector := own
      subst named
      rcases failure success rfl with ⟨before, rfl⟩
      refine ⟨before, ?_⟩
      simp only [transition, isRecord, decide_true, Bool.toNat_true]
      rw [recordOutcome_closed_failure before]
      split <;> rfl
  · rw [circuitOf_other own] at closed ⊢
    refine ⟨closed, ?_⟩
    cases operation with
    | acquire call => rfl
    | record name success =>
      have other : name ≠ connector := own
      simp [isRecord, other]

theorem closedFailures_run (failures : ClosedFailures breakers connector state trace)
    (closed : (circuitOf connector (run (afterOperation breakers) state trace)).phase = .closed) :
    (circuitOf connector state).phase = .closed /\ (circuitOf connector
          (run (afterOperation breakers) state trace)).consecutiveFailures =
        (circuitOf connector state).consecutiveFailures + recordedOutcomes connector trace := by
  induction trace generalizing state with
  | nil => exact ⟨closed, rfl⟩
  | cons timed rest ih =>
    rcases ih failures.2 closed with ⟨reached, later⟩
    rcases closedFailures_step guarded failures.1 reached with ⟨before, here⟩
    refine ⟨before, ?_⟩
    rw [run_cons, later, here, recordedOutcomes_cons, Nat.add_assoc]

/-- The failure that completes the threshold opens the circuit. -/
theorem threshold_opens {last : TimedOperation ω}
    (recorded : last.operation.isRecord connector = true)
    (failures : ClosedFailures breakers connector state (trace ++ [last]))
    (enough : recordedOutcomes connector (trace ++ [last]) = policy.failureThreshold) :
    (circuitOf connector
      (run (afterOperation breakers) state (trace ++ [last]))).phase = .opened := by
  rcases (guarded_append _).mp failures with ⟨earlier, final⟩
  rcases last with ⟨moment, operation⟩
  cases operation with
  | acquire call => cases recorded
  | record name success =>
    have named : name = connector := of_decide_eq_true recorded
    subst named
    rcases final.1 success rfl with ⟨closed, rfl⟩
    have counted := (closedFailures_run guarded earlier closed).2
    have reaches : policy.failureThreshold <= (circuitOf name
        (run (afterOperation breakers) state trace)).consecutiveFailures + 1 := by
      rw [<- enough, counted, recordedOutcomes, List.countP_append, List.countP_singleton,
        if_pos recorded]
      exact Nat.add_le_add_right (Nat.le_add_left _ _) 1
    have own : (TimedOperation.mk moment (.record name false)).operation.connectorName = name :=
      rfl
    rw [run_append, run_cons, run_nil, circuitOf_own own guarded]
    simp only [transition]
    rw [recordOutcome_closed_failure closed, if_pos reaches]

/-! ## The laws of a circuit -/

/-- The state is any state, so the three laws hold wherever in a run they are
read: from the operation that opens the circuit to the end of the cooldown no
call is admitted; a half-open window admits at most `halfOpenMaxCalls` calls;
and once `failureThreshold` outcomes in a row, all recorded while the circuit is
closed, are failures, the circuit is open. -/
theorem circuit_breaker_laws (state : SpecState π ω) : (∀ opening between attempt,
      NonDecreasing (opening :: (between ++ [attempt])) ->
      (circuitOf connector state).phase ≠ .opened ->
      (circuitOf connector (afterOperation breakers state opening)).phase = .opened ->
      attempt.moment.now < opening.moment.now + nanosOfMillis policy.cooldownMs ->
      admitsCall breakers connector
        (run (afterOperation breakers) state (opening :: between)) attempt = false) /\
    (∀ window, (circuitOf connector state).phase ≠ .halfOpen ->
      HalfOpenWindow breakers connector state window ->
      admissions breakers connector state window <= policy.halfOpenMaxCalls) /\
    ∀ trace last, last.operation.isRecord connector = true ->
      ClosedFailures breakers connector state (trace ++ [last]) ->
      recordedOutcomes connector (trace ++ [last]) = policy.failureThreshold ->
      (circuitOf connector
        (run (afterOperation breakers) state (trace ++ [last]))).phase = .opened := by
  refine ⟨?_, ?_, ?_⟩
  · intro opening between attempt ordered before opens early
    exact cooldown_refuses guarded ordered before opens early
  · intro window before halfOpen
    cases window with
    | nil => exact Nat.zero_le _
    | cons timed rest =>
      have here := (operation_moves guarded).window_probes halfOpen.1
      have later := window_run guarded halfOpen.1 halfOpen.2
      rw [if_neg before] at here
      unfold admissions
      omega
  · intro trace last recorded failures enough
    exact threshold_opens guarded recorded failures enough

end Trace

namespace CircuitSample

def policy : ProgrammaticCircuitBreakerPolicy where
  failureThreshold := 2
  cooldownMs := 1000
  halfOpenMaxCalls := 2
  successThreshold := 2

def breakers : OrderedMap String ProgrammaticCircuitBreakerPolicy :=
  [("crm", policy)]

def state (phase : ProgrammaticCircuitPhase) : SpecState StaticPolicyEngine Unit where
  kernel := .withRuntime .new fun _ _ => none
  rates := []
  circuits := [("crm", { ProgrammaticCircuitRuntimeState.default with phase := phase })]
  executions := []

def timed (now : Nat) (operation : CircuitOperation) : TimedOperation Unit where
  moment := { (default : SpecMoment Unit) with now := now }
  operation := operation

def call : ConnectorInvocation where
  provenance :=
    { caller := "agent", stepId := "step", stepIndex := 0, callId := none, supplied := .null }
  connectorName := "crm"
  operation := "send"
  requiredCapabilities := ∅
  retryPolicy := defaultProgrammaticRetryPolicy
  priorityClass := .normal

/-- Two failures in a row. -/
def failures : List (TimedOperation Unit) :=
  [timed 0 (.record "crm" false), timed 100 (.record "crm" false)]

/-- Two probes, the first of them with a success. -/
def probes : List (TimedOperation Unit) :=
  [timed 0 (.acquire call), timed 1 (.record "crm" true), timed 2 (.acquire call)]

end CircuitSample

open CircuitSample

/-- Two failures open the circuit and a call half a second later is refused.  A
window of two probes admits both, and a third call is refused. -/
theorem circuit_breaker_laws_sample :
    (circuitOf "crm" (run (afterOperation breakers) (state .closed) failures)).phase = .opened /\
      admitsCall breakers "crm" (run (afterOperation breakers) (state .closed) failures)
        (timed 500000000 (.acquire call)) = false /\
      admissions breakers "crm" (state .opened) probes <= policy.halfOpenMaxCalls /\
      admissions breakers "crm" (state .opened) probes = 2 /\
      admitsCall breakers "crm" (run (afterOperation breakers) (state .opened) probes)
        (timed 3 (.acquire call)) = false := by
  have guarded : lookup "crm" breakers = some policy := rfl
  have opens : (circuitOf "crm" (run (afterOperation breakers) (state .closed)
      ([timed 0 (.record "crm" false)] ++ [timed 100 (.record "crm" false)]))).phase = .opened := by
    apply (circuit_breaker_laws guarded (state .closed)).2.2
    · decide
    · refine ⟨?_, ?_, True.intro⟩
      · rintro success ⟨⟩
        exact ⟨rfl, rfl⟩
      · rintro success ⟨⟩
        exact ⟨rfl, rfl⟩
    · decide
  refine ⟨opens, ?_, ?_, rfl, rfl⟩
  · apply (circuit_breaker_laws guarded
      (afterOperation breakers (state .closed) (timed 0 (.record "crm" false)))).1
    · simp [NonDecreasing, timed]
    · decide
    · exact opens
    · decide
  · apply (circuit_breaker_laws guarded (state .opened)).2.1
    · decide
    · exact ⟨rfl, rfl, rfl, True.intro⟩

end LoongClaw.Spec
