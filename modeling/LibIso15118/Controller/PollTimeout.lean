import LibIso15118.Controller.Loop

set_option autoImplicit false

/-!
# The timeout of `poll`

`loop` computes the next event before it polls the session, and reads the clock again afterwards.
-/

namespace LibIso15118

open Datatypes Shared

/-- A reading of the clock by `loop`. -/
def ControllerInput.reading? : ControllerInput → Option TimePoint
  | .wait clock _ | .iterate clock _ _ => some clock
  | _ => none

/-- What `session->poll` returned. -/
def ControllerOutput.returned? : ControllerOutput → Option TimePoint
  | .polled _ (.ok ()) left => some left.nextSessionEvent
  | _ => none

def ClockNondecreasing (start : TimePoint) (inputs : List ControllerInput) : Prop :=
  (start :: inputs.filterMap (·.reading?)).Pairwise (· ≤ ·)

namespace TbdController

/-- What a round waits for: 50 ms after its reading of the clock, and what `session->poll` returned. -/
def roundDeadlines? (record : ControllerStep) : Option (List TimePoint) :=
  match record.input with
  | .iterate clock _ _ => some (offsetTimePointByMs clock 50 :: record.outputs.filterMap (·.returned?))
  | _ => none

/-- What the last round waits for; before the first one it is the start of `loop`. -/
def deadlines (start : TimePoint) (past : List ControllerStep) : List TimePoint :=
  (past.filterMap roundDeadlines?).getLast?.getD [start]

def Earliest (deadline : TimePoint) (deadlines : List TimePoint) : Prop :=
  deadline ∈ deadlines ∧ ∀ other ∈ deadlines, deadline ≤ other

instance (deadline : TimePoint) (deadlines : List TimePoint) : Decidable (Earliest deadline deadlines) :=
  inferInstanceAs (Decidable (_ ∧ _))

/-- The milliseconds since a deadline, counted with 32 bits, are again 0 or negative. -/
def Wrapped (late : Int) : Prop := late.tdiv 1000000 % 2 ^ 32 = 0 ∨ 2 ^ 31 < late.tdiv 1000000 % 2 ^ 32

/-- A round starts less than a millisecond after the earliest of the deadlines, or weeks later. -/
def Punctual (clock : TimePoint) (deadlines : List TimePoint) : Prop :=
  ∃ deadline, Earliest deadline deadlines ∧
    (clock < offsetTimePointByMs deadline 1 ∨ Wrapped (clock - deadline))

def Unwaited : TbdController → TbdController → List ControllerOutput → Prop :=
  Lacks fun out => ∃ timeoutMs, out = .wait timeoutMs

variable (platform : Platform)

theorem callSession_unwaited (input : SessionInput) : Act.Keeps Unwaited (callSession platform input) :=
  Lacks.callSession platform (by simp) input

theorem pollSession_unwaited (env : PollEnv) : Act.Keeps Unwaited (pollSession platform env) := by
  intro controller
  rw [pollSession]
  split
  · exact Lacks.silent _ _
  · rintro out member ⟨timeoutMs, rfl⟩
    simp at member

theorem resetFinished_unwaited (new : NewSession) : Act.Keeps Unwaited (resetFinished new) := by
  intro controller
  rw [resetFinished]
  split
  · simp [Unwaited, Lacks]
  · split <;> simp [Unwaited, Lacks]

theorem modify_unwaited (f : TbdController → TbdController) :
    Act.Keeps Unwaited (Act.modify f : ControllerAct Unit) :=
  fun _ => Lacks.silent _ _

theorem iterate_unwaited (clock : TimePoint) (env : PollEnv) (new : NewSession) :
    Act.Keeps Unwaited (iterate platform clock env new) := by
  refine .bind Lacks.trans (modify_unwaited _) fun _ => .bind Lacks.trans ?_ fun _ => resetFinished_unwaited new
  refine .tryCatch Lacks.trans (pollSession_unwaited platform env) fun e => ?_
  cases e with
  | runtimeError => exact callSession_unwaited platform _
  | _ => exact .bind Lacks.trans (modify_unwaited _) fun _ => .throw (fun _ => Lacks.silent _ _) _

theorem act_unwaited (input : ControllerInput) (other : ∀ clock throws, input ≠ .wait clock throws) :
    Act.Keeps Unwaited (act platform input) := by
  have rule : CallRule platform Unwaited := Lacks.rule platform (by simp)
  cases input with
  | wait clock throws => exact absurd rfl (other clock throws)
  | iterate clock env new =>
      refine .bind .trans (.get rule.refl) fun controller => ?_
      exact .ite (fun _ => iterate_unwaited platform clock env new) fun _ => .pure rule.refl ()
  | _ => exact rule.act _ rfl

theorem tdiv_nonpos_iff (late : Int) : late.tdiv 1000000 ≤ 0 ↔ late < 1000000 := by
  rcases Int.le_total 0 late with later | earlier
  · rw [Int.tdiv_eq_ediv_of_nonneg later]
    omega
  · rw [← Int.neg_neg late, Int.neg_tdiv, Int.tdiv_eq_ediv_of_nonneg (by omega)]
    omega

theorem le_tdiv {late : Int} (near : -50000000 ≤ late) : -50 ≤ late.tdiv 1000000 := by
  rcases Int.le_total 0 late with later | earlier
  · rw [Int.tdiv_eq_ediv_of_nonneg later]
    omega
  · rw [← Int.neg_neg late, Int.neg_tdiv, Int.tdiv_eq_ediv_of_nonneg (by omega)]
    omega

theorem getTimeoutMsUntil_bounds {clock nextEvent : TimePoint} (near : nextEvent ≤ offsetTimePointByMs clock 50) :
    0 ≤ getTimeoutMsUntil clock nextEvent pollManagerTimeoutMs ∧
        getTimeoutMsUntil clock nextEvent pollManagerTimeoutMs ≤ 50 ↔
      clock < offsetTimePointByMs nextEvent 1 ∨ Wrapped (clock - nextEvent) := by
  -- The time left is not negative when the clock has not passed the next event by a millisecond;
  -- `near` excludes that it is too long for 32 bits.
  have opposite : (nextEvent - clock).tdiv 1000000 = -(clock - nextEvent).tdiv 1000000 := by
    rw [← Int.neg_tdiv, neg_sub]
  have least : -50 ≤ (clock - nextEvent).tdiv 1000000 := by
    have ahead : nextEvent - clock ≤ 50000000 := sub_le_iff_le_add'.mpr near
    exact le_tdiv (by rw [← neg_sub]; exact Int.neg_le_neg ahead)
  have punctual : clock < offsetTimePointByMs nextEvent 1 ↔ (clock - nextEvent).tdiv 1000000 ≤ 0 := by
    rw [tdiv_nonpos_iff, sub_lt_iff_lt_add']
    rfl
  rw [punctual]
  unfold getTimeoutMsUntil pollManagerTimeoutMs Wrapped
  rw [opposite]
  generalize (clock - nextEvent).tdiv 1000000 = late at least ⊢
  simp only [Int.bmod_def]
  split_ifs <;> omega

@[simp] theorem returned_sessions (number : Nat) (outs : List SessionOutput) :
    (outs.map (ControllerOutput.session number)).filterMap (·.returned?) = [] := by
  simp [ControllerOutput.returned?]

def Idles (controller controller' : TbdController) (log : List ControllerOutput) : Prop :=
  (controller'.looping = true → controller.looping = true ∧ controller'.nextEvent = controller.nextEvent) ∧
    log.filterMap (·.returned?) = []

def Waits (controller controller' : TbdController) (log : List ControllerOutput) : Prop :=
  controller'.looping = true → controller.looping = true ∧
    Earliest controller'.nextEvent (controller.nextEvent :: log.filterMap (·.returned?))

section Relations

variable {s t u : TbdController} {l l' : List ControllerOutput}

theorem Idles.refl (controller : TbdController) : Idles controller controller [] := ⟨fun loops => ⟨loops, rfl⟩, rfl⟩

theorem Idles.trans (first : Idles s t l) (next : Idles t u l') : Idles s u (l ++ l') := by
  constructor
  · intro loops
    obtain ⟨loops, later⟩ := next.1 loops
    obtain ⟨loops, earlier⟩ := first.1 loops
    exact ⟨loops, later.trans earlier⟩
  · rw [List.filterMap_append, first.2, next.2, List.nil_append]

theorem earliest_self (deadline : TimePoint) : Earliest deadline [deadline] := by
  simp [Earliest]

theorem earliest_min (deadline returned : TimePoint) : Earliest (min deadline returned) [deadline, returned] := by
  rcases le_total deadline returned with first | second
  · simp [Earliest, first]
  · simp [Earliest, second]

theorem Idles.waits (idles : Idles s t l) : Waits s t l := by
  intro loops
  obtain ⟨loops, nextEvent⟩ := idles.1 loops
  rw [nextEvent, idles.2]
  exact ⟨loops, earliest_self _⟩

theorem Waits.trans (first : Waits s t l) (next : Waits t u l') : Waits s u (l ++ l') := by
  intro loops
  obtain ⟨loops, later⟩ := next loops
  obtain ⟨loops, earlier⟩ := first loops
  refine ⟨loops, ?_, ?_⟩
  · rw [List.filterMap_append, ← List.cons_append]
    rcases List.mem_cons.mp later.1 with same | returned
    · exact List.mem_append_left _ (same ▸ earlier.1)
    · exact List.mem_append_right _ returned
  · intro other member
    rw [List.filterMap_append, ← List.cons_append] at member
    rcases List.mem_append.mp member with before | returned
    · exact (later.2 _ List.mem_cons_self).trans (earlier.2 other before)
    · exact later.2 other (List.mem_cons_of_mem _ returned)

end Relations

theorem callSession_idles (input : SessionInput) : Act.Keeps Idles (callSession platform input) := by
  intro controller
  rw [callSession]
  split
  · exact .refl _
  · exact ⟨fun loops => ⟨loops, rfl⟩, returned_sessions _ _⟩

theorem idles_rule : CallRule platform Idles where
  trans := .trans
  still _ _ looping nextEvent := ⟨fun loops => ⟨looping ▸ loops, nextEvent⟩, rfl⟩
  build _ _ _ := ⟨fun loops => ⟨loops, rfl⟩, rfl⟩
  call input _ _ := callSession_idles platform input

theorem act_idles (input : ControllerInput) (other : ∀ clock env new, input ≠ .iterate clock env new) :
    Act.Keeps Idles (act platform input) := by
  cases input with
  | iterate clock env new => exact absurd rfl (other clock env new)
  | wait clock throws =>
      intro controller
      rw [act_wait]
      cases looping : controller.looping with
      | false => exact .refl _
      | true => cases throws <;> exact ⟨fun _ => ⟨looping, rfl⟩, rfl⟩
  | _ => exact (idles_rule platform).act _ rfl

theorem resetFinished_idles (new : NewSession) : Act.Keeps Idles (resetFinished new) := by
  intro controller
  rw [resetFinished]
  split
  · exact .refl _
  · split
    · refine ⟨fun loops => ?_, by simp [ControllerOutput.returned?]⟩
      revert loops
      dsimp only
      split <;> exact fun loops => ⟨loops, rfl⟩
    · exact .refl _

theorem pollSession_waits (env : PollEnv) : Act.Keeps Waits (pollSession platform env) := by
  intro controller
  rw [pollSession]
  split
  · exact (Idles.refl _).waits
  · rename_i number linked _
    cases result : (LinkedSession.act platform (.poll env) linked).result with
    | ok _ =>
        intro loops
        simpa [result, ControllerOutput.returned?] using ⟨loops, earliest_min _ _⟩
    | error e =>
        intro loops
        simpa [result, ControllerOutput.returned?] using ⟨loops, earliest_self _⟩

theorem iterate_earliest (clock : TimePoint) (env : PollEnv) (new : NewSession) (controller : TbdController) :
    Waits { controller with nextEvent := offsetTimePointByMs clock 50 }
      (iterate platform clock env new controller).state (iterate platform clock env new controller).log := by
  refine Act.Keeps.bind Waits.trans (.tryCatch Waits.trans (pollSession_waits platform env) fun e => ?_)
    (fun _ _ => (resetFinished_idles new _).waits) _
  cases e with
  | runtimeError => exact fun _ => (callSession_idles platform .close _).waits
  | _ => exact fun _ loops => absurd loops Bool.false_ne_true

theorem deadlines_append (start : TimePoint) (past : List ControllerStep) (record : ControllerStep) :
    deadlines start (past ++ [record]) = (roundDeadlines? record).getD (deadlines start past) := by
  cases round : roundDeadlines? record <;> simp [deadlines, round]

variable (config : TbdConfig) (evseSetup : EvseSetupConfig) (session : NewSession) (start : TimePoint)

theorem nextEvent_earliest (inputs : List ControllerInput) :
    (Machine.final (act platform) (new config evseSetup session start) inputs).looping = true →
      Earliest (Machine.final (act platform) (new config evseSetup session start) inputs).nextEvent
        (deadlines start (Machine.steps (act platform) (new config evseSetup session start) inputs)) := by
  -- While the loop runs, the next event is the earliest time that the last round waits for.
  refine Machine.run_induction (act platform) _ (motive := fun past state => state.looping = true →
    Earliest state.nextEvent (deadlines start past)) ?_ ?_ inputs
  · intro _
    rw [new]
    split <;> exact earliest_self start
  · intro past state input earlier loops
    rw [deadlines_append]
    by_cases round : ∃ clock env new, input = .iterate clock env new
    · obtain ⟨clock, env, new, rfl⟩ := round
      have looping : state.looping = true := by
        by_contra stopped
        rw [act_iterate, if_neg stopped] at loops
        exact stopped loops
      have iterates : act platform (.iterate clock env new) state = iterate platform clock env new state := by
        rw [act_iterate, if_pos looping]
      change Earliest _ (offsetTimePointByMs clock 50 :: (act platform (.iterate clock env new) state).log.filterMap
        (·.returned?))
      rw [iterates] at loops ⊢
      exact (iterate_earliest platform clock env new state loops).2
    · have idles := act_idles platform input (fun clock env new same => round ⟨clock, env, new, same⟩) state
      obtain ⟨looping, nextEvent⟩ := idles.1 loops
      have unrounded : roundDeadlines? (Machine.stepOf (act platform) state input) = none := by
        cases input with
        | iterate clock env new => exact absurd ⟨clock, env, new, rfl⟩ round
        | _ => rfl
      rw [unrounded, nextEvent]
      exact earlier looping

theorem deadlines_near (past : List ControllerStep) :
    ∃ deadline ∈ deadlines start past, ∃ reading ∈ start :: past.filterMap (·.input.reading?),
      deadline ≤ offsetTimePointByMs reading 50 := by
  -- Of the times that a round waits for, one is at most 50 ms after a reading of the clock.
  cases last : (past.filterMap roundDeadlines?).getLast? with
  | none =>
      refine ⟨start, by simp [deadlines, last], start, List.mem_cons_self, ?_⟩
      exact le_add_of_nonneg_right (by decide)
  | some round =>
      obtain ⟨record, member, waits⟩ := List.mem_filterMap.mp (List.mem_of_getLast? last)
      rw [roundDeadlines?] at waits
      split at waits
      · rename_i clock env new iterates
        obtain rfl := Option.some.inj waits
        exact ⟨_, by simp [deadlines, last], clock, List.mem_cons_of_mem _
          (List.mem_filterMap.mpr ⟨record, member, by simp [iterates, ControllerInput.reading?]⟩), le_rfl⟩
      · cases waits

theorem wait_outputs (clock : TimePoint) (throws : Bool) (controller : TbdController) (timeoutMs : Int) :
    .wait timeoutMs ∈ (act platform (.wait clock throws) controller).log ↔
      controller.looping = true ∧
        timeoutMs = getTimeoutMsUntil clock controller.nextEvent pollManagerTimeoutMs := by
  rw [act, Act.get_bind]
  by_cases looping : controller.looping = true
  · cases throws <;>
      simp [looping, wait, Act.bind_apply, eq_comm (a := timeoutMs)]
  · simp [looping]

theorem wait_bounded (past : List ControllerInput) (clock : TimePoint)
    (earlier : ∀ reading ∈ start :: past.filterMap (·.reading?), reading ≤ clock)
    (looping : (Machine.final (act platform) (new config evseSetup session start) past).looping = true) :
    let nextEvent := (Machine.final (act platform) (new config evseSetup session start) past).nextEvent
    0 ≤ getTimeoutMsUntil clock nextEvent pollManagerTimeoutMs ∧
        getTimeoutMsUntil clock nextEvent pollManagerTimeoutMs ≤ 50 ↔
      Punctual clock
        (deadlines start (Machine.steps (act platform) (new config evseSetup session start) past)) := by
  intro nextEvent
  have earliest : Earliest nextEvent _ := nextEvent_earliest platform config evseSetup session start past looping
  obtain ⟨deadline, member, reading, read, near⟩ :=
    deadlines_near start (Machine.steps (act platform) (new config evseSetup session start) past)
  have inputs := Machine.steps_inputs (act platform) (new config evseSetup session start) past
  have before : reading ≤ clock := by
    refine earlier reading ?_
    rwa [← inputs, List.filterMap_map]
  have ahead : nextEvent ≤ offsetTimePointByMs clock 50 :=
    ((earliest.2 deadline member).trans near).trans (add_le_add_left before _)
  rw [getTimeoutMsUntil_bounds ahead]
  constructor
  · exact fun onTime => ⟨nextEvent, earliest, onTime⟩
  · rintro ⟨other, first, onTime⟩
    have same : other = nextEvent := le_antisymm (first.2 _ earliest.1) (earliest.2 _ first.1)
    exact same ▸ onTime

theorem readings_before {start : TimePoint} {past future : List ControllerInput} {clock : TimePoint} {throws : Bool}
    (nondecreasing : ClockNondecreasing start (past ++ .wait clock throws :: future)) :
    ∀ reading ∈ start :: past.filterMap (·.reading?), reading ≤ clock := by
  simp only [ClockNondecreasing, List.filterMap_append, ← List.cons_append] at nondecreasing
  exact fun reading member => (List.pairwise_append.mp nondecreasing).2.2 reading member clock
    (by simp [ControllerInput.reading?])

end TbdController

open TbdController in
/-- Every timeout of `poll` lies between 0 and 50 ms exactly if every round starts less than a
millisecond after the earliest time that the round before it waits for. -/
theorem poll_timeout_iff (platform : Platform) (config : TbdConfig) (evseSetup : EvseSetupConfig)
    (session : NewSession) (start : TimePoint) (inputs : List ControllerInput)
    (nondecreasing : ClockNondecreasing start inputs) :
    (∀ record ∈ Machine.steps (act platform) (.new config evseSetup session start) inputs,
        ∀ timeoutMs, .wait timeoutMs ∈ record.outputs → 0 ≤ timeoutMs ∧ timeoutMs ≤ 50) ↔
      ∀ past record future,
        Machine.steps (act platform) (.new config evseSetup session start) inputs = past ++ record :: future →
        ∀ clock throws, record.input = .wait clock throws → record.before.looping = true →
          Punctual clock (deadlines start past) := by
  constructor
  · intro bounded past record future split clock throws waits looping
    have member : record ∈ Machine.steps (act platform) (.new config evseSetup session start) inputs := by
      simp [split]
    obtain ⟨before, _, after, rfl, rfl, rfl⟩ := Machine.split_of_steps (act platform) split
    obtain rfl : _ = ControllerInput.wait clock throws := waits
    refine (wait_bounded platform config evseSetup session start before clock
      (readings_before nondecreasing) looping).mp (bounded _ member _ ?_)
    exact (wait_outputs platform clock throws _ _).mpr ⟨looping, rfl⟩
  · intro punctual record member timeoutMs waited
    obtain ⟨before, input, after, rfl, rfl⟩ := Machine.exists_split_of_mem (act platform) member
    by_cases starts : ∃ clock throws, input = .wait clock throws
    · obtain ⟨clock, throws, rfl⟩ := starts
      obtain ⟨looping, rfl⟩ := (wait_outputs platform clock throws _ timeoutMs).mp waited
      refine (wait_bounded platform config evseSetup session start before clock
        (readings_before nondecreasing) looping).mpr ?_
      exact punctual _ _ _ (Machine.steps_append ..) clock throws rfl looping
    · have unwaited := act_unwaited platform input (fun clock throws same => starts ⟨clock, throws, same⟩)
      exact absurd ⟨timeoutMs, rfl⟩ (unwaited _ _ waited)

namespace Sample

def setup : EvseSetupConfig :=
  { evseId := "DE*PNX*E12345*1"
    supportedEnergyServices := [.ac, .dc]
    authorizationServices := [.eim]
    supportedVasServices := []
    enableCertificateInstallService := false
    dcLimits
    acLimits := { chargePower := limit, nominalFrequency := ⟨50, 0⟩ }
    controlMobilityModes := []
    powersupplyLimits := dcLimits }

def controller : TbdController := .new { enableSdpServer := false } setup {} 0

def rounds (delay : Nat) : List ControllerInput :=
  [.wait 0 false, .iterate 0 {} {}, .wait (offsetTimePointByMs 0 delay) false]

end Sample

open TbdController Sample in
/-- A round that takes 60 ms is followed by a `poll` with -10. -/
theorem poll_timeout_negative :
    ¬∀ (platform : Platform) (config : TbdConfig) (evseSetup : EvseSetupConfig) (session : NewSession)
        (start : TimePoint) (inputs : List ControllerInput), ClockNondecreasing start inputs →
      ∀ record ∈ Machine.steps (act platform) (.new config evseSetup session start) inputs,
        ∀ timeoutMs, .wait timeoutMs ∈ record.outputs → 0 ≤ timeoutMs ∧ timeoutMs ≤ 50 := by
  intro bounded
  have waited : .wait (-10) ∈ (act platform (.wait (offsetTimePointByMs 0 60) false)
      (Machine.final (act platform) controller ((rounds 60).take 2))).log :=
    (wait_outputs platform _ false _ (-10)).mpr (by decide +kernel)
  have nondecreasing : ClockNondecreasing 0 (rounds 60) := by
    simp [ClockNondecreasing, rounds, ControllerInput.reading?, offsetTimePointByMs]
  have positive := (bounded platform { enableSdpServer := false } setup {} 0 (rounds 60) nondecreasing _
    (List.mem_cons_of_mem _ (List.mem_cons_of_mem _ (List.mem_singleton_self _))) (-10) waited).1
  exact absurd positive (by decide)

open TbdController Sample in
/-- A round that takes 20 ms is followed by a `poll` with 30. -/
theorem poll_timeout_waits :
    .wait 30 ∈ (Machine.stepOf (act platform) (Machine.final (act platform) controller ((rounds 20).take 2))
      (.wait (offsetTimePointByMs 0 20) false)).outputs ∧ (0 : Int) ≤ 30 ∧ (30 : Int) ≤ 50 := by
  have waited : .wait 30 ∈ (act platform (.wait (offsetTimePointByMs 0 20) false)
      (Machine.final (act platform) controller ((rounds 20).take 2))).log :=
    (wait_outputs platform _ false _ 30).mpr (by decide +kernel)
  refine ⟨waited, (poll_timeout_iff platform { enableSdpServer := false } setup {} 0 (rounds 20)
    (by simp [ClockNondecreasing, rounds, ControllerInput.reading?, offsetTimePointByMs])).mpr ?_ _
    (List.mem_cons_of_mem _ (List.mem_cons_of_mem _ (List.mem_singleton_self _))) 30 waited⟩
  rintro past record future split clock throws waits -
  -- the first round starts with the loop, the third input starts the second one
  rcases past with _ | ⟨first, _ | ⟨round, _ | ⟨third, _⟩⟩⟩
  · obtain ⟨rfl, -⟩ := List.cons.inj split
    obtain ⟨rfl, -⟩ := ControllerInput.wait.inj waits
    exact ⟨0, by decide, .inl (by decide)⟩
  · obtain ⟨-, rest⟩ := List.cons.inj split
    obtain ⟨rfl, -⟩ := List.cons.inj rest
    cases waits
  · obtain ⟨rfl, rest⟩ := List.cons.inj split
    obtain ⟨rfl, last⟩ := List.cons.inj rest
    obtain ⟨rfl, -⟩ := List.cons.inj last
    obtain ⟨rfl, -⟩ := ControllerInput.wait.inj waits
    exact ⟨offsetTimePointByMs 0 50, by decide +kernel, .inl (by decide)⟩
  · simp [Machine.steps, rounds] at split

end LibIso15118
