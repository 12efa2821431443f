import ShadowDevice.Report

/-!
# `ShadowDevice.Callbacks`: the context and the incoming-publish callbacks

`ShadowDeviceCtx` keeps the three `uint32_t` fields of `ShadowDeviceCtx_t` that the task
loop and the callbacks share. A callback sees its payload through coreJSON:
`JSON_Validate`, then `JSON_Search` for a dotted key. `Publish` records exactly that, the
verdict of `JSON_Validate` and the value text `JSON_Search` returns for each key. The
callbacks call nothing else on the payload, so every payload they can receive is a
`Publish`.

The delta callback keeps its own function-static `ulCurrentVersion`, which the model
passes in and out beside the context. `deltaCallback_eq` restates the callback in terms
of the version it reads, `deltaVersion`: it writes `ulCurrentVersion` and, when the delta
carries `state.powerOn`, `ulCurrentPowerOnState`, exactly when that version is above
`ulCurrentVersion`.

The accepted and the rejected callbacks share one shape, `responseCallback`. Each reads
`clientToken` with `strtoul` (`receivedToken`), and only a token equal to the pending
`ulClientToken` lets it act and wake the task with `xTaskNotifyGive`. The accepted
callback then stores `state.reported.powerOn` as the last reported state. The rejected
callback only logs the `code` field. `responseCallback_of_ne` is the frame lemma: any
other publish leaves the context as it was and wakes nobody.

`prvSubscribeToShadowUpdateTopics` decides which of the three callbacks run at all. The
delta callback is registered only when the SUBACK arrives with `MQTTSuccess` in time.
When the wait for it times out or the SUBACK reports a failure, `xStatus` still holds the
`MQTTSuccess` of `MQTTAgent_Subscribe`, so the function goes on to register the accepted
and rejected callbacks and returns true, against its `@return` comment ("true if the
subscribe is successful"). `ShadowDevice.States` follows the consequence over whole runs
(`unacked_never_reports`).

The log lines are left out of the model. Nothing in the program reads them.
-/

set_option autoImplicit false

namespace ShadowDevice

/-- The fields of `ShadowDeviceCtx_t` (lines 152-188) that the task and its callbacks
read and write. The topic strings, their lengths and the task handle are set once by
`prvInitializeCtx` and line 806. -/
structure ShadowDeviceCtx where
  ulCurrentPowerOnState : UInt32
  ulReportedPowerOnState : UInt32
  ulClientToken : UInt32
  deriving DecidableEq, Repr

/-- `xShadowCtx = { 0 }` (line 796). `prvInitializeCtx` fills in only the topic strings,
so the loop starts with all three fields at 0. -/
def ShadowDeviceCtx.zero : ShadowDeviceCtx := ⟨0, 0, 0⟩

/-- `shadowexampleINVALID_POWERON_STATE` (line 147). -/
def shadowexampleInvalidPowerOnState : UInt32 := 2

/-- An incoming publish as a callback sees it through coreJSON: whether `JSON_Validate`
accepts the payload, and the value text `JSON_Search` finds for each dotted key. The
text of a string value is its contents without the quotes. -/
structure Publish where
  valid : Bool
  fields : List (String × String)
  deriving DecidableEq, Repr

/-- `JSON_Search( payload, length, key, ... )`: the value text for `key`, when it is
found. -/
def jsonSearch (p : Publish) (key : String) : Option String := p.fields.lookup key

/-! ## The delta callback -/

/-- `prvIncomingPublishUpdateDeltaCallback` (lines 476-583). The function-static
`ulCurrentVersion` comes in and goes out beside the context. -/
def prvIncomingPublishUpdateDeltaCallback (pf : Platform) (ulCurrentVersion : UInt32)
    (ctx : ShadowDeviceCtx) (p : Publish) : UInt32 × ShadowDeviceCtx :=
  if p.valid then
    match jsonSearch p "version" with
    | none => (ulCurrentVersion, ctx)
    | some version =>
      let ulVersion := strtoul32 pf version
      if ulVersion ≤ ulCurrentVersion then (ulCurrentVersion, ctx)
      else
        match jsonSearch p "state.powerOn" with
        | none => (ulVersion, ctx)
        | some powerOn => (ulVersion, { ctx with ulCurrentPowerOnState := strtoul32 pf powerOn })
  else (ulCurrentVersion, ctx)

/-- The version the delta callback compares (line 536): `strtoul` of `version`, when the
payload passes `JSON_Validate` and has the field. -/
def deltaVersion (pf : Platform) (p : Publish) : Option UInt32 :=
  if p.valid then (jsonSearch p "version").map (strtoul32 pf) else none

/-- The state a delta that passes the gate writes (lines 559-579): `strtoul` of
`state.powerOn` when the field is there, the old state otherwise. -/
def deltaPowerOn (pf : Platform) (p : Publish) (ulCurrentPowerOnState : UInt32) : UInt32 :=
  match jsonSearch p "state.powerOn" with
  | some powerOn => strtoul32 pf powerOn
  | none => ulCurrentPowerOnState

/-- The delta callback in terms of the version it reads: a delta whose version is above
`ulCurrentVersion` sets the version and the state; any other changes nothing. -/
theorem deltaCallback_eq (pf : Platform) (v : UInt32) (ctx : ShadowDeviceCtx) (p : Publish) :
    prvIncomingPublishUpdateDeltaCallback pf v ctx p =
      match deltaVersion pf p with
      | some u =>
        if v < u then (u, { ctx with
          ulCurrentPowerOnState := deltaPowerOn pf p ctx.ulCurrentPowerOnState })
        else (v, ctx)
      | none => (v, ctx) := by
  unfold prvIncomingPublishUpdateDeltaCallback deltaVersion deltaPowerOn
  cases p.valid <;> simp only [Bool.false_eq_true, if_false, if_true]
  cases jsonSearch p "version" <;> simp only [Option.map_none', Option.map_some']
  split
  · rw [if_neg (UInt32.not_lt.mpr ‹_›)]
  · rw [if_pos (UInt32.not_le.mp ‹_›)]
    split <;> simp_all

/-- What one delta can do: change nothing, or pass the gate with a version `u` above
`ulCurrentVersion`, which it stores with the state it reads. -/
theorem deltaCallback_cases (pf : Platform) (v : UInt32) (ctx : ShadowDeviceCtx) (p : Publish) :
    prvIncomingPublishUpdateDeltaCallback pf v ctx p = (v, ctx) ∨
      ∃ u, deltaVersion pf p = some u ∧ v < u ∧
        prvIncomingPublishUpdateDeltaCallback pf v ctx p =
          (u, { ctx with ulCurrentPowerOnState := deltaPowerOn pf p ctx.ulCurrentPowerOnState }) := by
  rw [deltaCallback_eq]
  split
  · rename_i u hu
    split
    · exact .inr ⟨u, hu, ‹_›, rfl⟩
    · exact .inl rfl
  · exact .inl rfl

/-- The delta callback never writes the last reported state or the client token. -/
theorem deltaCallback_frame (pf : Platform) (v : UInt32) (ctx : ShadowDeviceCtx) (p : Publish) :
    (prvIncomingPublishUpdateDeltaCallback pf v ctx p).2.ulReportedPowerOnState =
        ctx.ulReportedPowerOnState ∧
      (prvIncomingPublishUpdateDeltaCallback pf v ctx p).2.ulClientToken = ctx.ulClientToken := by
  rcases deltaCallback_cases pf v ctx p with h | ⟨u, -, -, h⟩ <;> rw [h] <;> exact ⟨rfl, rfl⟩

/-! ## The accepted and rejected callbacks -/

/-- The `clientToken` both response callbacks read (lines 628-654 and 723-749): `strtoul`
of the value, when the payload passes `JSON_Validate` and has the field. -/
def receivedToken (pf : Platform) (p : Publish) : Option UInt32 :=
  if p.valid then (jsonSearch p "clientToken").map (strtoul32 pf) else none

/-- The shape the two response callbacks share. A publish whose token equals the pending
`ulClientToken` gets `onMatch` and wakes the task (`xTaskNotifyGive`); any other is
ignored. The result pairs the context with whether the task was notified. -/
def responseCallback (pf : Platform) (onMatch : Publish → ShadowDeviceCtx → ShadowDeviceCtx)
    (ctx : ShadowDeviceCtx) (p : Publish) : ShadowDeviceCtx × Bool :=
  match receivedToken pf p with
  | some ulReceivedToken =>
    if ulReceivedToken = ctx.ulClientToken then (onMatch p ctx, true) else (ctx, false)
  | none => (ctx, false)

/-- `prvIncomingPublishUpdateAcceptedCallback` (lines 587-692). On a match it stores
`state.reported.powerOn` as the last reported state, when the field is there. -/
def prvIncomingPublishUpdateAcceptedCallback (pf : Platform) :
    ShadowDeviceCtx → Publish → ShadowDeviceCtx × Bool :=
  responseCallback pf fun p ctx =>
    match jsonSearch p "state.reported.powerOn" with
    | some powerOn => { ctx with ulReportedPowerOnState := strtoul32 pf powerOn }
    | none => ctx

/-- `prvIncomingPublishUpdateRejectedCallback` (lines 696-785). On a match it looks up
`code` for the log and changes nothing. -/
def prvIncomingPublishUpdateRejectedCallback (pf : Platform) :
    ShadowDeviceCtx → Publish → ShadowDeviceCtx × Bool :=
  responseCallback pf fun _ ctx => ctx

section Response

variable (pf : Platform) (onMatch : Publish → ShadowDeviceCtx → ShadowDeviceCtx)
  (ctx : ShadowDeviceCtx) (p : Publish)

theorem responseCallback_of_eq (h : receivedToken pf p = some ctx.ulClientToken) :
    responseCallback pf onMatch ctx p = (onMatch p ctx, true) := by
  simp [responseCallback, h]

/-- The frame lemma: a publish whose token is not the pending one changes nothing and
wakes nobody. -/
theorem responseCallback_of_ne (h : receivedToken pf p ≠ some ctx.ulClientToken) :
    responseCallback pf onMatch ctx p = (ctx, false) := by
  unfold responseCallback
  split
  · rw [if_neg (fun he => h (by simp_all))]
  · rfl

/-- A response callback wakes the task exactly when the publish carries the pending
token. -/
theorem responseCallback_notifies :
    (responseCallback pf onMatch ctx p).2 = decide (receivedToken pf p = some ctx.ulClientToken) := by
  by_cases h : receivedToken pf p = some ctx.ulClientToken
  · simp [responseCallback_of_eq pf onMatch ctx p h, h]
  · simp [responseCallback_of_ne pf onMatch ctx p h, h]

end Response

/-! ## Registration of the callbacks -/

/-- `MQTTSuccess`, the `MQTTStatus_t` value 0. -/
def mqttSuccess : UInt32 := 0

/-- What `prvSubscribeToShadowUpdateTopics` (lines 348-454) gets back from the system: the
value the wait at line 399 received, `none` when it timed out, and whether each of the
three `submgr_addSubscription` calls succeeded. `MQTTAgent_Subscribe` is retried until it
succeeds (lines 385-392), so its result is not an input. -/
structure SubscribeOutcome where
  ulResult : Option UInt32
  deltaAdded : Bool
  acceptedAdded : Bool
  rejectedAdded : Bool
  deriving DecidableEq, Repr

/-- The usual outcome: the SUBACK arrives with `MQTTSuccess` and every registration
succeeds. -/
def SubscribeOutcome.subscribed : SubscribeOutcome := ⟨some mqttSuccess, true, true, true⟩

/-- The incoming-publish callbacks left registered, and whether `prvSubscribeCommandCallback`
is still to run, which it is when the wait at line 399 timed out. -/
structure Registration where
  delta : Bool
  accepted : Bool
  rejected : Bool
  ackPending : Bool
  deriving DecidableEq, Repr

/-- `prvSubscribeToShadowUpdateTopics`: its result and the callbacks it registered. Each
`submgr_addSubscription` call runs only while `xStatus` is `MQTTSuccess`. The delta
registration runs only when the SUBACK arrived with `MQTTSuccess`; otherwise `xStatus`
keeps the value of the subscribe loop. -/
def prvSubscribeToShadowUpdateTopics (o : SubscribeOutcome) : Bool × Registration :=
  let acked := o.ulResult == some mqttSuccess
  let afterDelta := if acked then o.deltaAdded else true
  let afterAccepted := afterDelta && o.acceptedAdded
  let afterRejected := afterAccepted && o.rejectedAdded
  (afterRejected, ⟨acked && o.deltaAdded, afterAccepted, afterRejected, o.ulResult.isNone⟩)

/-- The accepted callback never writes the current state or the client token. -/
theorem acceptedCallback_frame (pf : Platform) (ctx : ShadowDeviceCtx) (p : Publish) :
    (prvIncomingPublishUpdateAcceptedCallback pf ctx p).1.ulCurrentPowerOnState =
        ctx.ulCurrentPowerOnState ∧
      (prvIncomingPublishUpdateAcceptedCallback pf ctx p).1.ulClientToken = ctx.ulClientToken := by
  by_cases h : receivedToken pf p = some ctx.ulClientToken
  · rw [prvIncomingPublishUpdateAcceptedCallback, responseCallback_of_eq pf _ ctx p h]
    split <;> exact ⟨rfl, rfl⟩
  · rw [prvIncomingPublishUpdateAcceptedCallback, responseCallback_of_ne pf _ ctx p h]
    exact ⟨rfl, rfl⟩

/-- The rejected callback never changes the context. -/
theorem rejectedCallback_ctx (pf : Platform) (ctx : ShadowDeviceCtx) (p : Publish) :
    (prvIncomingPublishUpdateRejectedCallback pf ctx p).1 = ctx := by
  by_cases h : receivedToken pf p = some ctx.ulClientToken
  · rw [prvIncomingPublishUpdateRejectedCallback, responseCallback_of_eq pf _ ctx p h]
  · rw [prvIncomingPublishUpdateRejectedCallback, responseCallback_of_ne pf _ ctx p h]

end ShadowDevice
