import CustomerService.CircuitBreaker

/-! Interleaved gateway calls over one breaker. A call is in flight from its
admission to its end; the guard and the exit handler are its two steps. How
often the breaker has gone from closed to open is counted, and an admitted call
keeps the count it was admitted under. -/
namespace CustomerService.GatewayCalls
open CircuitBreaker Transition

structure Call where
  id : Nat
  method : Method
  probe : Bool
  openings : Nat
deriving DecidableEq

structure Gateway where
  breaker : Option BreakerState := none
  inFlight : List Call := []
  openings : Nat := 0
  nextCall : Nat := 0
  clock : ℚ := 0

inductive Action where
  | guard (method : Method) (now : ℚ)
  | finish (call : Nat) (ending : Ending) (now : ℚ)

def enterCall (gateway : Gateway) (method : Method) (now : ℚ) (breaker : Option BreakerState)
    (probe : Bool) : Gateway :=
  {gateway with
    breaker := breaker
    inFlight := gateway.inFlight ++ [⟨gateway.nextCall,method,probe,gateway.openings⟩]
    nextCall := gateway.nextCall+1
    clock := now}

def guardStep (settings : Settings) (gateway : Gateway) (method : Method) (now : ℚ) : Gateway :=
  match guardLlmCircuit settings now gateway.breaker with
  | (.reject _,breaker) => {gateway with breaker := breaker, clock := now}
  | (.pass,breaker) => enterCall gateway method now breaker false
  | (.probe,breaker) => enterCall gateway method now breaker true

def others (gateway : Gateway) (call : Nat) : List Call :=
  gateway.inFlight.filter (fun other => other.id != call)

def finishStep (settings : Settings) (gateway : Gateway) (call : Call) (ending : Ending)
    (now : ℚ) : Gateway :=
  match exitRecord call.method ending with
  | .success =>
    {gateway with
      breaker := recordLlmSuccess gateway.breaker
      inFlight := others gateway call.id
      clock := now}
  | .failure =>
    {gateway with
      breaker := (recordLlmFailure settings now gateway.breaker).2
      inFlight := others gateway call.id
      openings := gateway.openings+(recordLlmFailure settings now gateway.breaker).1.toNat
      clock := now}
  | .nothing => {gateway with inFlight := others gateway call.id, clock := now}

def lookup (gateway : Gateway) (call : Nat) : Option Call :=
  gateway.inFlight.find? (fun other => other.id == call)

/-- The clock never runs backwards, and only a call in flight can end. -/
def step (settings : Settings) (gateway : Gateway) : Action → Gateway
  | .guard method now =>
    if now < gateway.clock then gateway else guardStep settings gateway method now
  | .finish id ending now =>
    if now < gateway.clock then gateway
    else match lookup gateway id with
      | none => gateway
      | some call => finishStep settings gateway call ending now

def ProbeRunning (gateway : Gateway) : Prop :=
  ∃ call ∈ gateway.inFlight, call.probe = true

/-- The flag is up only while a probe runs, and without a running probe the
guard admits as soon as the cooldown is over. -/
def ProbeFlagSound (settings : Settings) (gateway : Gateway) : Prop :=
  (probeFlag gateway.breaker = true → ProbeRunning gateway) ∧
  (¬ProbeRunning gateway → ∀ now,
    (∀ at', openedAt gateway.breaker = some at' → settings.cooldown ≤ now - at') →
      (guardLlmCircuit settings now gateway.breaker).1.admitted = true)

/-- The last running probe does not end, with the flag up, on an exit that
records neither success nor failure. -/
def ProbeReleased (gateway : Gateway) : Action → Prop
  | .guard _ _ => True
  | .finish id ending now =>
    gateway.clock ≤ now → probeFlag gateway.breaker = true →
      ∀ call, lookup gateway id = some call → exitRecord call.method ending = .nothing →
        ∃ other ∈ others gateway call.id, other.probe = true

private theorem sound_of_flag (settings : Settings) (gateway : Gateway)
    (flag : probeFlag gateway.breaker = true → ProbeRunning gateway) :
    ProbeFlagSound settings gateway := by
  refine ⟨flag,?_⟩
  intro idle now cooled
  rcases guard_cases settings now gateway.breaker with
    ⟨verdict,_⟩ | ⟨verdict,_⟩ | ⟨_,_,⟨at',opened,refused⟩,_⟩
  · simp [verdict,Admission.admitted]
  · simp [verdict,Admission.admitted]
  · rcases refused with cooling | raised
    · exact absurd (cooled at' opened) (not_le.mpr cooling)
    · exact absurd (flag raised) idle

private theorem running_enter (gateway : Gateway) (method : Method) (now : ℚ)
    (breaker : Option BreakerState) (probe : Bool)
    (running : probe = true ∨ ProbeRunning gateway) :
    ProbeRunning (enterCall gateway method now breaker probe) := by
  rcases running with set | ⟨call,member,isProbe⟩
  · exact ⟨⟨gateway.nextCall,method,probe,gateway.openings⟩,by simp [enterCall],set⟩
  · exact ⟨call,by simp [enterCall,member],isProbe⟩

private theorem guardStep_cases (settings : Settings) (gateway : Gateway) (method : Method) (now : ℚ) :
    (probeFlag gateway.breaker = false ∧ 0 < settings.threshold ∧
      (∃ at', openedAt gateway.breaker = some at' ∧ settings.cooldown ≤ now - at') ∧
      guardStep settings gateway method now =
        enterCall gateway method now (some {gateway.breaker.getD {} with probeInFlight := true}) true) ∨
    (∃ breaker, breaker.getD {} = gateway.breaker.getD {} ∧
      (settings.threshold ≤ 0 ∨ openedAt gateway.breaker = none) ∧
      guardStep settings gateway method now = enterCall gateway method now breaker false) ∨
    (∃ breaker, breaker.getD {} = gateway.breaker.getD {} ∧
      (∃ at', openedAt gateway.breaker = some at' ∧
        (now - at' < settings.cooldown ∨ probeFlag gateway.breaker = true)) ∧
      guardStep settings gateway method now = {gateway with breaker := breaker, clock := now}) := by
  have verdict := guard_cases settings now gateway.breaker
  unfold guardStep
  generalize guardLlmCircuit settings now gateway.breaker = outcome at verdict ⊢
  obtain ⟨admission,breaker⟩ := outcome
  rcases verdict with ⟨probing,on,idle,cooled,state⟩ | ⟨passing,off,same⟩ | ⟨refused,_,why,same⟩
  · dsimp only at probing state
    subst probing state
    exact Or.inl ⟨idle,on,cooled,rfl⟩
  · dsimp only at passing
    subst passing
    exact Or.inr (Or.inl ⟨breaker,same,off,rfl⟩)
  · cases admission with
    | pass => cases refused
    | probe => cases refused
    | reject error => exact Or.inr (Or.inr ⟨breaker,same,why,rfl⟩)

/-- A step that changes anything is a guard step or the end of a call in
flight, at a time the clock has not passed. -/
theorem step_cases (settings : Settings) (gateway : Gateway) (action : Action) :
    step settings gateway action = gateway ∨
    (∃ method now, action = .guard method now ∧ gateway.clock ≤ now ∧
      step settings gateway action = guardStep settings gateway method now) ∨
    (∃ id ending now call, action = .finish id ending now ∧ gateway.clock ≤ now ∧
      lookup gateway id = some call ∧
      step settings gateway action = finishStep settings gateway call ending now) := by
  cases action with
  | guard method now =>
    by_cases backwards : now < gateway.clock
    · exact Or.inl (by simp [step,backwards])
    · exact Or.inr (Or.inl ⟨method,now,rfl,not_lt.mp backwards,by simp [step,backwards]⟩)
  | finish id ending now =>
    by_cases backwards : now < gateway.clock
    · exact Or.inl (by simp [step,backwards])
    · cases found : lookup gateway id with
      | none => exact Or.inl (by simp [step,found])
      | some call =>
        exact Or.inr (Or.inr ⟨id,ending,now,call,rfl,not_lt.mp backwards,found,
          by simp [step,backwards,found]⟩)

private theorem probeFlag_congr {first second : Option BreakerState}
    (same : first.getD {} = second.getD {}) : probeFlag first = probeFlag second := by
  rw [probeFlag,probeFlag,same]

private theorem guardStep_flag (settings : Settings) (gateway : Gateway) (method : Method) (now : ℚ)
    (flag : probeFlag gateway.breaker = true → ProbeRunning gateway) :
    probeFlag (guardStep settings gateway method now).breaker = true →
      ProbeRunning (guardStep settings gateway method now) := by
  intro raised
  rcases guardStep_cases settings gateway method now with
    ⟨_,_,_,next⟩ | ⟨breaker,same,_,next⟩ | ⟨breaker,same,_,next⟩
  · rw [next]
    exact running_enter _ _ _ _ _ (Or.inl rfl)
  · rw [next] at raised ⊢
    exact running_enter _ _ _ _ _ (Or.inr (flag ((probeFlag_congr same).symm.trans raised)))
  · rw [next] at raised ⊢
    exact flag ((probeFlag_congr same).symm.trans raised)

private theorem finishStep_flag (settings : Settings) (gateway : Gateway) (call : Call)
    (ending : Ending) (now : ℚ)
    (released : probeFlag gateway.breaker = true → exitRecord call.method ending = .nothing →
      ∃ other ∈ others gateway call.id, other.probe = true) :
    probeFlag (finishStep settings gateway call ending now).breaker = true →
      ProbeRunning (finishStep settings gateway call ending now) := by
  unfold finishStep
  cases recorded : exitRecord call.method ending with
  | success => intro raised; cases raised
  | failure =>
    intro raised
    have lowered := failure_flag settings now gateway.breaker
    rw [lowered] at raised
    cases raised
  | nothing => exact fun raised => released raised recorded

/-- The probe flag is sound throughout a run exactly when no step of it lets
the last running probe end without recording a success or a failure. -/
theorem probe_flag_sound_iff (settings : Settings) (actions : List Action) :
    Throughout (step settings) (ProbeFlagSound settings) {} actions ↔
      Along (step settings) ProbeReleased {} actions := by
  apply throughout_iff_along
    (fun gateway => probeFlag gateway.breaker = true → ProbeRunning gateway)
  · exact sound_of_flag settings
  · intro gateway action flag released
    rcases step_cases settings gateway action with
      same | ⟨method,now,_,_,next⟩ | ⟨id,ending,now,call,rfl,forward,found,next⟩
    · rw [same]
      exact flag
    · rw [next]
      exact guardStep_flag settings gateway method now flag
    · rw [next]
      exact finishStep_flag settings gateway call ending now
        (fun raised recorded => released forward raised call found recorded)
  · intro gateway action flag stuck sound
    cases action with
    | guard method now => exact stuck trivial
    | finish id ending now =>
      simp only [ProbeReleased,not_forall] at stuck
      obtain ⟨forward,raised,call,found,recorded,alone⟩ := stuck
      have next : step settings gateway (.finish id ending now) =
          {gateway with inFlight := others gateway call.id, clock := now} := by
        simp [step,not_lt.mpr forward,found,finishStep,recorded]
      rw [next] at sound
      exact alone (sound.1 raised)
  · intro raised
    cases raised

/-- A probe whose stream the consumer closes: the flag stays up with no call in
flight, and no later guard step admits. -/
theorem probe_flag_stuck_after_closed_stream :
    ¬∀ (settings : Settings) (actions : List Action),
      Throughout (step settings) (ProbeFlagSound settings) {} actions := by
  intro law
  have always := law ⟨1,10⟩ [.guard .invoke 0,.finish 0 .providerError 0,.guard .astream 10,
    .finish 1 .interrupted 11]
  have sound := always.last
  have raised : probeFlag (run (step ⟨1,10⟩) {} [.guard .invoke 0,.finish 0 .providerError 0,
      .guard .astream 10,.finish 1 .interrupted 11]).breaker = true := by decide +kernel
  have empty : (run (step ⟨1,10⟩) {} [.guard .invoke 0,.finish 0 .providerError 0,
      .guard .astream 10,.finish 1 .interrupted 11]).inFlight = [] := by decide +kernel
  obtain ⟨call,member,_⟩ := sound.1 raised
  rw [empty] at member
  cases member

/-- The calls in flight that were admitted after the last opening; while the
breaker is open, the calls admitted since it opened. -/
def sinceOpened (gateway : Gateway) : List Call :=
  gateway.inFlight.filter (fun call => call.openings == gateway.openings)

def SingleProbe (settings : Settings) (gateway : Gateway) : Prop :=
  ∀ now, gateway.clock ≤ now →
    (snapshotLlmBreaker settings now gateway.breaker).state = .halfOpen →
      (sinceOpened gateway).length ≤ 1

/-- A failure recorded by an open breaker is recorded by the only call that was
admitted since it opened, not by a call that the probe outlives. -/
def FailureIsOwn (gateway : Gateway) : Action → Prop
  | .guard _ _ => True
  | .finish id ending now =>
    gateway.clock ≤ now → (openedAt gateway.breaker).isSome = true →
      ∀ call, lookup gateway id = some call → exitRecord call.method ending = .failure →
        ∀ other ∈ sinceOpened gateway, other.id = call.id

structure ProbesCounted (settings : Settings) (gateway : Gateway) : Prop where
  disabled : settings.threshold ≤ 0 → openedAt gateway.breaker = none
  tripped : (openedAt gateway.breaker).isSome = true →
    settings.threshold ≤ (failures gateway.breaker : Int)
  earlier : ∀ call ∈ gateway.inFlight, call.openings ≤ gateway.openings
  single : (openedAt gateway.breaker).isSome = true → (sinceOpened gateway).length ≤ 1
  idle : (openedAt gateway.breaker).isSome = true → probeFlag gateway.breaker = false →
    sinceOpened gateway = []

private theorem counted_closed (settings : Settings) (gateway : Gateway)
    (closed : openedAt gateway.breaker = none)
    (earlier : ∀ call ∈ gateway.inFlight, call.openings ≤ gateway.openings) :
    ProbesCounted settings gateway := by
  refine ⟨fun _ => closed,?_,earlier,?_,?_⟩ <;>
    (intro opened; rw [closed] at opened; cases opened)

theorem ProbesCounted.congr {settings : Settings} {gateway : Gateway}
    (counted : ProbesCounted settings gateway) (breaker : Option BreakerState) (now : ℚ)
    (same : breaker.getD {} = gateway.breaker.getD {}) :
    ProbesCounted settings {gateway with breaker := breaker, clock := now} := by
  obtain ⟨disabled,tripped,earlier,single,idle⟩ := counted
  simp only [openedAt,failures,probeFlag] at disabled tripped single idle
  rw [← same] at disabled tripped single idle
  exact ⟨disabled,tripped,earlier,single,idle⟩

private theorem sinceOpened_enter (gateway : Gateway) (method : Method) (now : ℚ)
    (breaker : Option BreakerState) (probe : Bool) :
    sinceOpened (enterCall gateway method now breaker probe) =
      sinceOpened gateway ++ [⟨gateway.nextCall,method,probe,gateway.openings⟩] := by
  simp [sinceOpened,enterCall]

private theorem earlier_enter (gateway : Gateway) (method : Method) (now : ℚ)
    (breaker : Option BreakerState) (probe : Bool)
    (earlier : ∀ call ∈ gateway.inFlight, call.openings ≤ gateway.openings) :
    ∀ call ∈ (enterCall gateway method now breaker probe).inFlight,
      call.openings ≤ (enterCall gateway method now breaker probe).openings := by
  intro call member
  rcases List.mem_append.mp member with old | new
  · exact earlier call old
  · rw [List.mem_singleton.mp new]
    exact le_refl _

private theorem guardStep_counted (settings : Settings) (gateway : Gateway) (method : Method) (now : ℚ)
    (counted : ProbesCounted settings gateway) :
    ProbesCounted settings (guardStep settings gateway method now) := by
  rcases guardStep_cases settings gateway method now with
    ⟨lowered,on,⟨at',opened,_⟩,next⟩ | ⟨breaker,same,off,next⟩ | ⟨breaker,same,_,next⟩
  · have some' : (openedAt gateway.breaker).isSome = true := by rw [opened]; rfl
    have alone := sinceOpened_enter gateway method now
      (some {gateway.breaker.getD {} with probeInFlight := true}) true
    rw [counted.idle some' lowered] at alone
    rw [next]
    refine ⟨fun off => absurd on (not_lt.mpr off),fun _ => counted.tripped some',
      earlier_enter _ _ _ _ _ counted.earlier,fun _ => by simp [alone],?_⟩
    intro _ down
    cases down
  · have closed : openedAt gateway.breaker = none := off.elim counted.disabled id
    rw [next]
    refine counted_closed settings _ ?_ (earlier_enter _ _ _ _ _ counted.earlier)
    rw [openedAt] at closed ⊢
    exact (congrArg BreakerState.openedAt same).trans closed
  · rw [next]
    exact counted.congr breaker now same

private theorem sinceOpened_others (gateway : Gateway) (call : Nat) (now : ℚ) :
    sinceOpened {gateway with inFlight := others gateway call, clock := now} =
      (sinceOpened gateway).filter (fun other => other.id != call) := by
  simp only [sinceOpened,others,List.filter_filter]
  exact List.filter_congr fun _ _ => Bool.and_comm _ _

def afterFailure (settings : Settings) (gateway : Gateway) (call : Call) (now : ℚ) : Gateway :=
  {gateway with
    breaker := (recordLlmFailure settings now gateway.breaker).2
    inFlight := others gateway call.id
    openings := gateway.openings+(recordLlmFailure settings now gateway.breaker).1.toNat
    clock := now}

private theorem finishStep_failure (settings : Settings) (gateway : Gateway) {call : Call}
    {ending : Ending} (now : ℚ) (recorded : exitRecord call.method ending = .failure) :
    finishStep settings gateway call ending now = afterFailure settings gateway call now := by
  rw [finishStep,recorded]
  rfl

private theorem earlier_afterFailure (settings : Settings) (gateway : Gateway) (call : Call) (now : ℚ)
    (earlier : ∀ other ∈ gateway.inFlight, other.openings ≤ gateway.openings) :
    ∀ other ∈ (afterFailure settings gateway call now).inFlight,
      other.openings ≤ (afterFailure settings gateway call now).openings :=
  fun other member => (earlier other (List.mem_filter.mp member).1).trans (Nat.le_add_right _ _)

/-- A failure that opens the breaker, or is the failure of the only call admitted since it
opened, leaves no such call in flight. -/
theorem since_afterFailure (settings : Settings) (gateway : Gateway) (call : Call) (now : ℚ)
    (earlier : ∀ other ∈ gateway.inFlight, other.openings ≤ gateway.openings)
    (own : (openedAt gateway.breaker).isSome = true →
      ∀ other ∈ sinceOpened gateway, other.id = call.id)
    (justOpened : (recordLlmFailure settings now gateway.breaker).1 =
      (openedAt gateway.breaker).isNone) :
    sinceOpened (afterFailure settings gateway call now) = [] := by
  apply List.filter_eq_nil_iff.mpr
  intro other member current
  obtain ⟨inside,different⟩ := List.mem_filter.mp member
  rw [beq_iff_eq,afterFailure,justOpened] at current
  cases before : openedAt gateway.breaker with
  | none =>
    have old := earlier other inside
    simp [before] at current
    omega
  | some at' =>
    simp only [before,Option.isNone_some,Bool.toNat_false,Nat.add_zero] at current
    have since : other ∈ sinceOpened gateway := by simp [sinceOpened,inside,current]
    simp [own (by rw [before]; rfl) other since] at different

private theorem afterFailure_counted (settings : Settings) (gateway : Gateway) (call : Call) (now : ℚ)
    (counted : ProbesCounted settings gateway)
    (own : (openedAt gateway.breaker).isSome = true →
      ∀ other ∈ sinceOpened gateway, other.id = call.id) :
    ProbesCounted settings (afterFailure settings gateway call now) := by
  have kept := earlier_afterFailure settings gateway call now counted.earlier
  rcases failure_cases settings now gateway.breaker with
    ⟨off,_,_,same⟩ | ⟨on,reached,justOpened,count,_⟩ | ⟨_,short,_,_,same⟩
  · exact counted_closed settings _ (same.trans (counted.disabled off)) kept
  · have empty := since_afterFailure settings gateway call now counted.earlier own justOpened
    have tripped : settings.threshold ≤
        (failures (afterFailure settings gateway call now).breaker : Int) := by
      rw [afterFailure,count]
      exact_mod_cast reached
    exact ⟨fun off => absurd on (not_lt.mpr off),fun _ => tripped,kept,
      fun _ => by simp [empty],fun _ _ => empty⟩
  · have closed : openedAt gateway.breaker = none := by
      cases before : openedAt gateway.breaker with
      | none => rfl
      | some at' =>
        have reached := counted.tripped (by rw [before]; rfl)
        omega
    exact counted_closed settings _ (same.trans closed) kept

private theorem finishStep_counted (settings : Settings) (gateway : Gateway) (call : Call)
    (ending : Ending) (now : ℚ) (counted : ProbesCounted settings gateway)
    (own : (openedAt gateway.breaker).isSome = true →
      exitRecord call.method ending = .failure →
        ∀ other ∈ sinceOpened gateway, other.id = call.id) :
    ProbesCounted settings (finishStep settings gateway call ending now) := by
  have kept : ∀ other ∈ others gateway call.id, other.openings ≤ gateway.openings :=
    fun other member => counted.earlier other (List.mem_filter.mp member).1
  cases recorded : exitRecord call.method ending with
  | success =>
    rw [finishStep,recorded]
    exact counted_closed settings _ rfl kept
  | nothing =>
    rw [finishStep,recorded]
    refine ⟨counted.disabled,counted.tripped,kept,fun opened => ?_,fun opened lowered => ?_⟩
    · rw [sinceOpened_others]
      exact (List.length_filter_le _ _).trans (counted.single opened)
    · rw [sinceOpened_others]
      exact List.filter_eq_nil_iff.mpr (by simp [counted.idle opened lowered])
  | failure =>
    rw [finishStep_failure settings gateway now recorded]
    exact afterFailure_counted settings gateway call now counted (fun opened => own opened recorded)

private theorem step_counted (settings : Settings) (gateway : Gateway) (action : Action)
    (counted : ProbesCounted settings gateway) (own : FailureIsOwn gateway action) :
    ProbesCounted settings (step settings gateway action) := by
  rcases step_cases settings gateway action with
    same | ⟨method,now,_,_,next⟩ | ⟨id,ending,now,call,rfl,forward,found,next⟩
  · rw [same]
    exact counted
  · rw [next]
    exact guardStep_counted settings gateway method now counted
  · rw [next]
    exact finishStep_counted settings gateway call ending now counted
      (fun opened recorded => own forward opened call found recorded)

private theorem initial_counted (settings : Settings) : ProbesCounted settings {} :=
  counted_closed settings {} rfl (fun _ member => by cases member)

private theorem single_of_counted (settings : Settings) (gateway : Gateway)
    (counted : ProbesCounted settings gateway) : SingleProbe settings gateway := by
  intro now _ half
  obtain ⟨at',opened,_⟩ := (halfOpen_iff settings now gateway.breaker).mp half
  exact counted.single (by rw [opened]; rfl)

/-- A guard step at the end of the cooldown always admits a probe when the flag
is down, whoever is in flight. -/
theorem guardStep_halfOpen (settings : Settings) (gateway : Gateway) (method : Method) (now : ℚ)
    (on : 0 < settings.threshold) (at' : ℚ)
    (opened : openedAt gateway.breaker = some at') (cooled : settings.cooldown ≤ now - at')
    (lowered : probeFlag gateway.breaker = false) :
    guardStep settings gateway method now =
      enterCall gateway method now (some {gateway.breaker.getD {} with probeInFlight := true}) true := by
  rcases guardStep_cases settings gateway method now with
    ⟨_,_,_,next⟩ | ⟨_,_,off,_⟩ | ⟨_,_,⟨other,same,refused⟩,_⟩
  · exact next
  · rcases off with off | closed
    · omega
    · rw [closed] at opened
      cases opened
  · rw [opened] at same
    cases same
    rcases refused with cooling | raised
    · exact absurd cooled (not_le.mpr cooling)
    · rw [lowered] at raised
      cases raised

private theorem late_failure_cases (settings : Settings) (gateway : Gateway) (action : Action)
    (counted : ProbesCounted settings gateway) (late : ¬FailureIsOwn gateway action) :
    0 < settings.threshold ∧ ∃ now,
      openedAt (step settings gateway action).breaker = some now ∧
      probeFlag (step settings gateway action).breaker = false ∧
      (step settings gateway action).clock = now ∧
      sinceOpened (step settings gateway action) ≠ [] := by
  cases action with
  | guard method now => exact absurd trivial late
  | finish id ending now =>
    simp only [FailureIsOwn,not_forall] at late
    obtain ⟨forward,some',call,found,recorded,probe,since,different⟩ := late
    have on : 0 < settings.threshold := by
      by_contra off
      rw [counted.disabled (not_lt.mp off)] at some'
      cases some'
    have next : step settings gateway (.finish id ending now) =
        afterFailure settings gateway call now := by
      simp [step,not_lt.mpr forward,found,finishStep_failure settings gateway now recorded]
    rw [next]
    rcases failure_cases settings now gateway.breaker with
      ⟨off,_⟩ | ⟨_,_,justOpened,_,opened⟩ | ⟨_,short,_⟩
    · omega
    · refine ⟨on,now,opened,failure_flag settings now gateway.breaker,rfl,?_⟩
      have open' : (openedAt gateway.breaker).isNone = false := by
        rw [← Option.not_isSome,some']
        rfl
      obtain ⟨inside,current⟩ := List.mem_filter.mp since
      have still : probe ∈ sinceOpened (afterFailure settings gateway call now) := by
        simp only [sinceOpened,afterFailure,others,List.mem_filter,justOpened,open']
        exact ⟨⟨inside,by simpa using different⟩,current⟩
      exact List.ne_nil_of_mem still
    · have reached := counted.tripped some'
      omega

private theorem second_probe_after_late_failure (settings : Settings) (gateway : Gateway)
    (action : Action) (counted : ProbesCounted settings gateway)
    (late : ¬FailureIsOwn gateway action) (cooldown : 0 ≤ settings.cooldown) :
    ∃ next, ¬SingleProbe settings (step settings (step settings gateway action) next) := by
  obtain ⟨on,now,opened,lowered,clock,still⟩ := late_failure_cases settings gateway action counted late
  generalize step settings gateway action = restarted at opened lowered clock still ⊢
  have forward : ¬now+settings.cooldown < restarted.clock := by
    rw [clock]
    exact not_lt.mpr (le_add_of_nonneg_right cooldown)
  have admitted : step settings restarted (.guard .invoke (now+settings.cooldown)) =
      enterCall restarted .invoke (now+settings.cooldown)
        (some {restarted.breaker.getD {} with probeInFlight := true}) true := by
    simp only [step,forward,if_false]
    exact guardStep_halfOpen settings restarted .invoke _ on now opened (by simp) lowered
  refine ⟨.guard .invoke (now+settings.cooldown),fun single => ?_⟩
  rw [admitted] at single
  have two := single (now+settings.cooldown) (le_refl _)
    ((halfOpen_iff _ _ _).mpr ⟨now,opened,by simp⟩)
  rw [sinceOpened_enter,List.length_append,List.length_singleton] at two
  have one := List.length_pos_of_ne_nil still
  omega

/-- While every failure an open breaker records is the probe's own, no two calls
admitted since it opened are in flight together; the first failure that is not
can always be followed by two such calls. -/
theorem single_probe_of_own_failures (settings : Settings) (actions : List Action) :
    (Along (step settings) FailureIsOwn {} actions →
      Throughout (step settings) (SingleProbe settings) {} actions) ∧
    ∀ action, Along (step settings) FailureIsOwn {} actions →
      ¬FailureIsOwn (run (step settings) {} actions) action → 0 ≤ settings.cooldown →
        ∃ next, ¬SingleProbe settings (run (step settings) {} (actions ++ [action,next])) := by
  have counted : Along (step settings) FailureIsOwn {} actions →
      Throughout (step settings) (ProbesCounted settings) {} actions :=
    Throughout.of_along (step_counted settings) (initial_counted settings)
  constructor
  · exact fun own => (counted own).imp (single_of_counted settings)
  · intro action own late cooldown
    obtain ⟨next,broken⟩ := second_probe_after_late_failure settings _ action
      (counted own).last late cooldown
    exact ⟨next,by simpa [run_append,run_cons,run_nil] using broken⟩

theorem single_probe_of_own_failures_recovery :
    Throughout (step ⟨1,10⟩) (SingleProbe ⟨1,10⟩) {}
      [.guard .invoke 0,.finish 0 .providerError 0,.guard .invoke 10,.finish 1 .returned 11] := by
  refine (single_probe_of_own_failures ⟨1,10⟩ _).1 ⟨trivial,?_,trivial,?_,trivial⟩
  · intro _ opened
    cases opened
  · intro _ _ call found recorded
    have itself : call = ⟨1,.invoke,true,1⟩ := by
      refine (Option.some.inj ?_).symm
      rw [← found]
      decide +kernel
    subst itself
    cases recorded

/-- Two calls admitted while closed; the second fails only after the first has
opened the breaker and a probe runs. -/
theorem two_probes_after_late_failure :
    ¬∀ (settings : Settings) (actions : List Action),
      Throughout (step settings) (SingleProbe settings) {} actions := by
  intro law
  have single := (law ⟨1,10⟩ [.guard .invoke 0,.guard .invoke 0,.finish 0 .providerError 0,
    .guard .invoke 10,.finish 1 .providerError 11,.guard .invoke 21]).last 21 (by decide +kernel)
      (by decide +kernel)
  exact absurd single (by decide +kernel)

end CustomerService.GatewayCalls
