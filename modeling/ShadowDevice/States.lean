import ShadowDevice.DeltaGate
import ShadowDevice.Sync

/-!
# `ShadowDevice.States`: the states a delta can store

Along every run the current state and the delta callback's version are those of the
delta callback alone, run on the deltas of the run in order (`run_deltaRun`): nothing else
in the system writes them, so `ShadowDevice.DeltaGate` describes them in every world.
`run_records` draws the consequence from the task's start: the version is the largest one
delivered, and the state that of the last record-setting delta.

Without a delta callback nothing writes the state at all. After a SUBACK timeout or
failure `prvSubscribeToShadowUpdateTopics` registers none and may still return true, and
`unacked_never_reports` shows that the task then never publishes a report, on every
schedule without publishes of other clients.

The delta callback stores the `strtoul` reading of `state.powerOn` with no check of its
range (lines 559-579). Two parts of the task assume that the state is 0 or 1.

* The timeout path (line 888) writes `shadowexampleINVALID_POWERON_STATE`, 2, as the last
  reported state, so that the next check differs and the report is sent again. The
  comment at lines 142-146 assumes that the state is only ever 0 or 1.
  `TimeoutForcesResend` states the intent. `timeoutForcesResend_false` refutes it with a
  delta that stores 2 after a timeout. `resend_after_timeout` proves it on the schedules
  where deltas store only states that `SafeState` admits and no answer with the pending
  token arrives outside the wait: the sentinel then stays until the next test.
* The report buffer has room for a one-digit state (lines 106-121). `ReportsReadBack`
  states that every report fits and reads back. `reportsReadBack_false` refutes it with a
  delta that stores 10. `report_fits_iff_digit` shows that a report fits exactly when the
  state has one digit, and then reads back.
-/

set_option autoImplicit false

namespace ShadowDevice

/-- The payload of a delta step. -/
def Action.deltaPayload? : Action → Option Publish
  | .delta p => some p
  | _ => none

/-- The loop, the response callbacks, the shadow service and the network never write the
delta callback's version or the current state: along a run both are those of the delta
callback run alone on the run's deltas, in order. -/
theorem run_deltaRun_eq (pf : Platform) (w w' : World) (as : List Action)
    (h : w.run pf as = some w') :
    w'.ulCurrentVersion =
        (deltaRun pf (w.ulCurrentVersion, w.ctx) (as.filterMap Action.deltaPayload?)).1 ∧
      w'.ctx.ulCurrentPowerOnState =
        (deltaRun pf (w.ulCurrentVersion, w.ctx)
          (as.filterMap Action.deltaPayload?)).2.ulCurrentPowerOnState := by
  induction as generalizing w with
  | nil =>
    cases h
    exact ⟨rfl, rfl⟩
  | cons a as ih =>
    obtain ⟨v, hv, hrun⟩ := Option.bind_eq_some.mp h
    by_cases hd : ∃ p, a = .delta p
    · -- a delta: the first step of the delta-only run
      obtain ⟨p, rfl⟩ := hd
      simp only [World.step] at hv
      split at hv <;> cases hv
      exact ih _ hrun
    · -- any other step leaves both, and the delta-only run skips it
      have hnone : a.deltaPayload? = none := by
        cases a <;> first | rfl | exact absurd ⟨_, rfl⟩ hd
      obtain ⟨hC, hV⟩ := (World.current_step hv).resolve_right hd
      rw [List.filterMap_cons_none hnone, ← hV]
      obtain ⟨h₁, h₂⟩ := ih _ hrun
      obtain ⟨e₁, e₂⟩ := deltaRun_congr pf v.ulCurrentVersion v.ctx w.ctx
        (as.filterMap Action.deltaPayload?) hC
      exact ⟨h₁.trans e₁, h₂.trans e₂⟩

/-- Along every run the version and the current state are those of the delta callback run
alone on the run's deltas, in order, and the version never decreases. -/
theorem run_deltaRun (pf : Platform) (w w' : World) (as : List Action)
    (h : w.run pf as = some w') :
    w'.ulCurrentVersion =
        (deltaRun pf (w.ulCurrentVersion, w.ctx) (as.filterMap Action.deltaPayload?)).1 ∧
      w'.ctx.ulCurrentPowerOnState =
        (deltaRun pf (w.ulCurrentVersion, w.ctx)
          (as.filterMap Action.deltaPayload?)).2.ulCurrentPowerOnState ∧
      w.ulCurrentVersion ≤ w'.ulCurrentVersion := by
  obtain ⟨h₁, h₂⟩ := run_deltaRun_eq pf w w' as h
  exact ⟨h₁, h₂, h₁ ▸ deltaRun_version_le pf (w.ulCurrentVersion, w.ctx) _⟩

/-- The first cycle on the board with a stale delta between two newer ones: the loop's
steps leave the version and the state to the deltas. -/
theorem run_deltaRun_board :
    let as : List Action :=
      [.delta ⟨true, [("version", "5"), ("state.powerOn", "1")]⟩, .check, .newToken 21909,
        .delta ⟨true, [("version", "3"), ("state.powerOn", "0")]⟩, .format,
        .delta ⟨true, [("version", "7")]⟩]
    ∃ w, (World.initial 0 .subscribed).run Platform.cortexM33 as = some w ∧
      w.ulCurrentVersion = 7 ∧ w.ctx.ulCurrentPowerOnState = 1 := by
  intro as
  have hrun : (World.initial 0 .subscribed).run Platform.cortexM33 as = some _ := rfl
  obtain ⟨h₁, h₂, -⟩ := run_deltaRun Platform.cortexM33 _ _ _ hrun
  exact ⟨_, hrun, h₁.trans (by decide), h₂.trans (by decide)⟩

/-- The version gate in the whole system. From the task's start, on every schedule, when
every `version` the run's deltas carry is a decimal numeral below `2 ^ 32`:
`ulCurrentVersion` is the largest version delivered so far, and the current state is the
`strtoul` reading of the `state.powerOn` of the last delta that set a new record and
carried one, or 0 when there is none. -/
theorem run_records (pf : Platform) (v : Nat) (o : SubscribeOutcome) (as : List Action)
    (w : World) (h : (World.initial v o).run pf as = some w)
    (hps : DecimalVersions (as.filterMap Action.deltaPayload?)) :
    w.ulCurrentVersion.toNat = maxVersion (as.filterMap Action.deltaPayload?) ∧
      w.ctx.ulCurrentPowerOnState =
        ((lastRecordPowerOn [] (as.filterMap Action.deltaPayload?)).map (strtoul32 pf)).getD 0 := by
  obtain ⟨h₁, h₂⟩ := run_deltaRun_eq pf _ _ as h
  obtain ⟨hv, hC⟩ := deltaRun_maxVersion pf (0, ShadowDeviceCtx.zero) [] _ hps rfl
  rw [List.nil_append] at hv
  exact ⟨by rw [h₁]; exact hv, h₂.trans hC⟩

/-- A cycle on the board: a newer delta with no state arrives while the task waits, and a
stale one after it is ignored, so the state stays that of the first delta. -/
theorem run_records_board :
    let as : List Action :=
      [.delta ⟨true, [("version", "5"), ("state.powerOn", "1")]⟩, .check, .newToken 21909,
        .format, .publish true, .delta ⟨true, [("version", "7")]⟩, .shadowAccept,
        .delta ⟨true, [("version", "6"), ("state.powerOn", "0")]⟩, .deliver 0, .take]
    ∃ w, (World.initial 0 .subscribed).run Platform.cortexM33 as = some w ∧
      w.ulCurrentVersion.toNat = 7 ∧ w.ctx.ulCurrentPowerOnState = 1 := by
  intro as
  have hrun : (World.initial 0 .subscribed).run Platform.cortexM33 as = some _ := rfl
  obtain ⟨h₁, h₂⟩ := run_records Platform.cortexM33 0 .subscribed _ _ hrun (by decide)
  exact ⟨_, hrun, h₁.trans (by decide), h₂.trans (by decide)⟩

/-! ## A subscription without its SUBACK -/

/-- A delta with version 1 and the decimal text of `x` as `state.powerOn`. -/
def deltaOf (x : UInt32) : Publish :=
  ⟨true, [("version", "1"), ("state.powerOn", String.mk (Nat.toDigits 10 x.toNat))]⟩

/-! ## The timeout path -/

/-- The intended effect of the timeout path: after the wait of a cycle times out, the next
check at line 841 publishes, when the reported state is still the one the timeout path
wrote. -/
def TimeoutForcesResend (pf : Platform) : Prop :=
  ∀ v o w w₁ as w₂ w₃, Reaches pf anySchedule (World.initial v o) w →
    w.step pf .timedOut = some w₁ → w₁.run pf as = some w₂ → .check ∉ as → w₂.pc = .check →
    w₂.ctx.ulReportedPowerOnState = w₁.ctx.ulReportedPowerOnState →
    w₂.step pf .check = some w₃ → w₃.pc = .newToken

/-- The first report of the board times out, and a delta with version 2 stores state 2
before the next check, which then finds nothing to report. -/
theorem timeoutForcesResend_false : ¬ TimeoutForcesResend Platform.cortexM33 := by
  intro h
  have hrun : (World.initial 0 .subscribed).run Platform.cortexM33
      [.delta (deltaOf 1), .check, .newToken 21909, .format, .publish true, .timeout] =
      some _ := rfl
  have := h 0 .subscribed _ _
    [.delta ⟨true, [("version", "2"), ("state.powerOn", "2")]⟩, .clearToken, .delay] _ _
    (Reaches.of_run _ (fun _ _ _ => trivial) hrun .refl) rfl rfl (by decide) rfl rfl rfl
  revert this
  decide

/-- From the timeout path to the next test: the sentinel is the last reported state, the
loop stands at line 893, at the delay or at the test, and the current state is safe. -/
def Resending (w : World) : Prop :=
  w.ctx.ulReportedPowerOnState = shadowexampleInvalidPowerOnState ∧
    (w.pc = .clearToken ∨ w.pc = .delay ∨ w.pc = .check) ∧ SafeState w.ctx.ulCurrentPowerOnState

section Resending

variable {pf : Platform} {w w' : World}

/-- An orderly step other than the test keeps the sentinel: away from the wait no answer
with the pending token reaches a callback, and no delta stores a state the sentinel
equals. -/
theorem resending_step {a : Action} (h : Resending w) (ha : Orderly pf w a) (hnc : a ≠ .check)
    (hs : w.step pf a = some w') : Resending w' := by
  have hc := safeState_step h.2.2 ha hs
  have away : ∀ l, w.pc = l → l = .clearToken ∨ l = .delay ∨ l = .check := fun _ hl => hl ▸ h.2.1
  cases hl : a.isLoop
  · -- the callbacks, the shadow service and the network: the loop stays where it is
    refine ⟨?_, (World.step_frame hs hl).1 ▸ h.2.1, hc⟩
    have hnw : w.pc ≠ .wait := fun hp => by rcases away _ hp with h | h | h <;> cases h
    rcases World.reported_step hs with he | rfl | ⟨i, rfl⟩ | ⟨i, rfl⟩ | ⟨t, p, rfl⟩
    · exact he.trans h.1
    · cases hl
    · -- away from the wait no answer delivered carries the pending token
      obtain ⟨m, hm, rfl⟩ := World.step_deliver hs
      rw [@World.respond_of_ne pf { w with inFlight := w.inFlight.eraseIdx i } _ _ _
        fun hmt => hnw (ha m hm hmt).1]
      exact h.1
    · obtain ⟨m, hm, rfl⟩ := World.step_duplicate hs
      rw [@World.respond_of_ne pf w _ _ _ fun hmt => hnw (ha m hm hmt).1]
      exact h.1
    · exact ha.elim
  · cases a with
    | clearToken =>
      obtain ⟨-, rfl⟩ := World.step_clearToken hs
      exact ⟨h.1, .inr (.inl rfl), hc⟩
    | delay =>
      obtain ⟨-, rfl⟩ := World.step_delay hs
      exact ⟨h.1, .inr (.inr rfl), hc⟩
    | check => exact absurd rfl hnc
    -- the other moves of the loop start away from these locations
    | newToken => rcases away _ (World.step_newToken hs).1 with h | h | h <;> cases h
    | format => rcases away _ (World.step_format hs).1 with h | h | h <;> cases h
    | publish => rcases away _ (World.step_publish hs).1 with h | h | h <;> cases h
    | take => rcases away _ (World.step_take hs).1.1 with h | h | h <;> cases h
    | timeout => rcases away _ (World.step_timeout hs).1.1 with h | h | h <;> cases h
    | timedOut => rcases away _ (World.step_timedOut hs).1 with h | h | h <;> cases h
    | subscribeAck | delta | stray | shadowAccept | shadowReject | deliver | duplicate | lose =>
      cases hl

/-- An orderly stretch of steps without a test keeps the sentinel. -/
theorem resending_runIn (as : List Action) (hnc : Action.check ∉ as)
    (hrun : w.runIn pf (Orderly pf) as = some w') (h : Resending w) : Resending w' := by
  induction as generalizing w with
  | nil =>
    cases hrun
    exact h
  | cons a as ih =>
    simp only [World.runIn] at hrun
    split at hrun
    · obtain ⟨u, hu, hrun⟩ := Option.bind_eq_some.mp hrun
      exact ih (fun hm => hnc (List.mem_cons_of_mem a hm)) hrun
        (resending_step h ‹_› (fun he => hnc (he ▸ List.mem_cons_self a as)) hu)
    · cases hrun

end Resending

/-- The timeout path forces the resend on orderly schedules. Take a world that an orderly
schedule reaches from the task's start, whatever the shadow holds, and run the timeout path
of line 888 there. After any orderly steps with no test at line 841 (the end of the cycle,
deltas, the shadow applying reports, answers delivered once the token is clear), the test
finds a change and takes a new token, to publish the report again. -/
theorem resend_after_timeout (pf : Platform) (v : Nat) (o : SubscribeOutcome)
    (w w₁ w₂ w₃ : World) (as : List Action) (hr : Reaches pf (Orderly pf) (World.initial v o) w)
    (ht : w.step pf .timedOut = some w₁) (has : w₁.runIn pf (Orderly pf) as = some w₂)
    (hnc : Action.check ∉ as) (hc : w₂.step pf .check = some w₃) : w₃.pc = .newToken := by
  have hc₀ := safeState_reaches hr
  obtain ⟨-, rfl⟩ := World.step_timedOut ht
  -- line 888 stores the sentinel, and the loop goes on to line 893
  have h₂ := resending_runIn as hnc has ⟨rfl, .inl rfl, hc₀⟩
  obtain ⟨-, rfl⟩ := World.step_check hc
  rw [h₂.1]
  exact if_neg h₂.2.2.2

/-- The first report of the board times out. The shadow then applies it, and its answer
reaches the accepted callback only after line 893 cleared the token; the next test
publishes again. -/
theorem resend_after_timeout_board :
    let pre : List Action :=
      [.delta (deltaOf 1), .check, .newToken 21909, .format, .publish true, .timeout]
    let as : List Action := [.shadowAccept, .clearToken, .deliver 0, .delay]
    ∃ w w₁ w₂ w₃, (World.initial 0 .subscribed).runIn Platform.cortexM33
        (Orderly Platform.cortexM33) pre = some w ∧
      w.step Platform.cortexM33 .timedOut = some w₁ ∧
      w₁.runIn Platform.cortexM33 (Orderly Platform.cortexM33) as = some w₂ ∧
      Action.check ∉ as ∧ w₂.step Platform.cortexM33 .check = some w₃ ∧ w₃.pc = .newToken := by
  intro pre as
  have hrun : (World.initial 0 .subscribed).runIn Platform.cortexM33
      (Orderly Platform.cortexM33) pre = some _ := rfl
  have hnc : Action.check ∉ as := by decide
  refine ⟨_, _, _, _, hrun, rfl, rfl, hnc, rfl, ?_⟩
  exact resend_after_timeout Platform.cortexM33 0 .subscribed _ _ _ _ as
    (Reaches.of_runIn _ hrun .refl) rfl rfl hnc rfl

/-! ## The report buffer -/

/-- The intended size of the report buffer: in every world reached from the task's start,
the `snprintf` of lines 857-861 prints at most `shadowexampleSHADOW_REPORTED_JSON_LENGTH`
characters, and the shadow reads the buffer as the current state and the text of the
token. -/
def ReportsReadBack (pf : Platform) : Prop :=
  ∀ v o w w', Reaches pf anySchedule (World.initial v o) w → w.step pf .format = some w' →
    (reportText w.ctx.ulCurrentPowerOnState w.ctx.ulClientToken).length ≤
        shadowexampleShadowReportedJsonLength ∧
      readReport w'.pcUpdateDocument =
        some (w.ctx.ulCurrentPowerOnState.toNat, tokenText w.ctx.ulClientToken)

/-- A delta stores state 10. The report of the next cycle has 60 characters, one more
than the buffer holds, so `snprintf` cuts the closing brace and the shadow cannot read
the report. -/
theorem reportsReadBack_false :
    ¬ ReportsReadBack Platform.cortexM33 ∧ (reportText 10 21909).length = 60 ∧
      readReport (updateDocument 10 21909) = none := by
  refine ⟨fun h => ?_, by decide, by decide⟩
  have hrun : (World.initial 0 .subscribed).run Platform.cortexM33
      [.delta (deltaOf 10), .check, .newToken 21909] = some _ := rfl
  have := (h 0 .subscribed _ _ (Reaches.of_run _ (fun _ _ _ => trivial) hrun .refl) rfl).1
  revert this
  decide

/-- In every world reached from the task's start, on any schedule, the report the task
formats fits its buffer exactly when the current state has one digit, and the shadow then
reads it back as the state and the text of the token. -/
theorem report_fits_iff_digit (pf : Platform) (v : Nat) (o : SubscribeOutcome) (w w' : World)
    (hr : Reaches pf anySchedule (World.initial v o) w) (hf : w.step pf .format = some w') :
    ((reportText w.ctx.ulCurrentPowerOnState w.ctx.ulClientToken).length ≤
        shadowexampleShadowReportedJsonLength ↔ w.ctx.ulCurrentPowerOnState.toNat < 10) ∧
      (w.ctx.ulCurrentPowerOnState.toNat < 10 → readReport w'.pcUpdateDocument =
        some (w.ctx.ulCurrentPowerOnState.toNat, tokenText w.ctx.ulClientToken)) := by
  have ht := hr.token_lt
  obtain ⟨-, rfl⟩ := World.step_format hf
  rw [reportText_fits_iff]
  exact ⟨and_iff_left ht, fun hc => readReport_updateDocument _ _ hc ht⟩

/-- The first report of the board, state 1 and token 21909, fits and reads back. -/
theorem report_fits_iff_digit_run :
    let as : List Action := [.delta (deltaOf 1), .check, .newToken 21909]
    ∃ w w', (World.initial 0 .subscribed).run Platform.cortexM33 as = some w ∧
      w.step Platform.cortexM33 .format = some w' ∧
      ((reportText w.ctx.ulCurrentPowerOnState w.ctx.ulClientToken).length ≤
          shadowexampleShadowReportedJsonLength ↔ w.ctx.ulCurrentPowerOnState.toNat < 10) ∧
      (w.ctx.ulCurrentPowerOnState.toNat < 10 → readReport w'.pcUpdateDocument =
        some (w.ctx.ulCurrentPowerOnState.toNat, tokenText w.ctx.ulClientToken)) := by
  intro as
  have hrun : (World.initial 0 .subscribed).run Platform.cortexM33 as = some _ := rfl
  exact ⟨_, _, hrun, rfl, report_fits_iff_digit Platform.cortexM33 0 .subscribed _ _
    (Reaches.of_run _ (fun _ _ _ => trivial) hrun .refl) rfl⟩

end ShadowDevice
