import ShadowDevice.Callbacks

/-!
# `ShadowDevice.World`: the task, its callbacks and the shadow service

`World` is the whole system the task lives in. It holds the location of the loop of
`vShadowDeviceTask`, the shared context, the delta callback's static version, the task's
notification value and the report buffer. It also holds the shadow service and the
messages in flight to the device. `World.step` takes one `Action`:

* a step of the loop (lines 841-897). The loop reads the current state twice, at the test
  of line 841 and at the `snprintf` of line 857, and a callback may run between the two;
* `prvSubscribeCommandCallback`, which overwrites the notification value. It runs once,
  and after the loop has started only if the wait at line 401 timed out: on a timeout
  `prvSubscribeToShadowUpdateTopics` still returns true (`ackPending`);
* a whole run of the delta callback on any payload, when
  `prvSubscribeToShadowUpdateTopics` registered it;
* a whole run of the accepted or the rejected callback, on a publish from another client
  (`stray`) or on a response in flight (`deliver`, or `duplicate`, which leaves a copy in
  flight);
* a step of the shadow service. It takes the oldest report it has not applied, accepts it
  when it can read it (`readReport`) or rejects it, and sends its answer, which the
  network may hold back, copy or lose (`lose`).

`xTaskNotifyGive` adds one to the notification value. `ulTaskNotifyTake( pdFALSE, ... )`
at line 879 takes one when the value is not 0 (`take`), and otherwise may time out
(`timeout`): the model keeps no clock, so a wait may time out whenever no notification
is pending.

Two assumptions fix the grain of the model. A callback run is one step: the loop never
runs between the token test of a response callback (line 660 or 755) and its
`xTaskNotifyGive` (line 689 or 782). On the board the callbacks run in the MQTT agent's
task, so the wait could time out and line 893 clear the token inside that window; the
results about the wait and about skipped reports hold at the grain of whole callback
runs. And the report the shadow receives is the buffer at the publish (line 867):
`MQTTAgent_Publish` queues a pointer to the static `pcUpdateDocument`, and the model takes
the agent to send it before the loop writes the buffer again, at the next cycle's
`snprintf`.

Three fields record history that the program does not keep: the number of reports
published, and, since the last publish, the notification value at the publish and the
list of callback runs (`Event`). They name what the statements about the wait at line 879
quantify over.

`Reaches pf env w₀ w` says that `w` is reached from `w₀` by steps that `env` admits.
`anySchedule` admits every step. `Reaches.induction` is the invariant principle.
-/

set_option autoImplicit false

namespace ShadowDevice

/-- Where the loop of `vShadowDeviceTask` stands (lines 839-898). -/
inductive Location
  /-- Line 841: compare the current and the last reported state. -/
  | check
  /-- Line 850: take a new client token. -/
  | newToken
  /-- Lines 853-861: clear and fill the report buffer. -/
  | format
  /-- Line 867: `MQTTAgent_Publish`. -/
  | publish
  /-- Line 879: `ulTaskNotifyTake`. -/
  | wait
  /-- Line 888: the timeout path. -/
  | timedOut
  /-- Line 893: clear the client token. -/
  | clearToken
  /-- Line 897: `vTaskDelay`. -/
  | delay
  deriving DecidableEq, Repr

/-- The two response topics, `/update/accepted` and `/update/rejected`. -/
inductive ResponseTopic
  | accepted
  | rejected
  deriving DecidableEq, Repr

/-- Who sent a publish on a response topic: the shadow service, answering the report with
the given number, or another client. -/
inductive Origin
  | answer (report : Nat)
  | stray
  deriving DecidableEq, Repr

/-- A publish in flight to the device on a response topic. -/
structure Response where
  topic : ResponseTopic
  payload : Publish
  origin : Origin
  deriving DecidableEq, Repr

/-- A report the shadow service has received and not yet applied: the published bytes
and the report's number. -/
structure Report where
  payload : List Char
  seq : Nat
  deriving DecidableEq, Repr

/-- What happened since the last publish: a run of a response callback, with the origin
of its publish and the token it read, or a run of `prvSubscribeCommandCallback`. -/
inductive Event
  | handled (origin : Origin) (token : Option UInt32)
  | subscribeAck
  deriving DecidableEq, Repr

/-- The task, its shared data, the shadow service and the messages in flight. -/
structure World where
  pc : Location
  ctx : ShadowDeviceCtx
  /-- The function-static version of the delta callback. -/
  ulCurrentVersion : UInt32
  /-- The notification value of the shadow task. -/
  ulNotifiedValue : UInt32
  pcUpdateDocument : List Char
  /-- `prvSubscribeCommandCallback` has not run yet. -/
  ackPending : Bool
  /-- The delta callback is registered. -/
  deltaRegistered : Bool
  /-- The `powerOn` value in the shadow's reported state. -/
  shadowReported : Nat
  /-- The reports the shadow service has received and not applied, oldest first. -/
  inbox : List Report
  inFlight : List Response
  /-- History: the number of reports published so far. -/
  reports : Nat
  /-- History: the notification value when the last report was published. -/
  countAtPublish : UInt32
  /-- History: the callback runs since the last report was published. -/
  sincePublish : List Event
  deriving DecidableEq, Repr

/-- One step of the system. -/
inductive Action
  | check
  | newToken (xTickCount : UInt32)
  | format
  | publish (queued : Bool)
  | take
  | timeout
  | timedOut
  | clearToken
  | delay
  | subscribeAck (returnCode : UInt32)
  | delta (p : Publish)
  | stray (topic : ResponseTopic) (p : Publish)
  | shadowAccept
  | shadowReject (code : String)
  | deliver (i : Nat)
  | duplicate (i : Nat)
  | lose (i : Nat)
  deriving DecidableEq, Repr

/-- The steps of the loop of `vShadowDeviceTask` itself. The others are runs of the
callbacks, steps of the shadow service and of the network. -/
def Action.isLoop : Action → Bool
  | .check | .newToken _ | .format | .publish _ | .take | .timeout | .timedOut | .clearToken
  | .delay => true
  | _ => false

/-- The shadow service's answer on `/update/accepted` to a report it applied: the token
text it echoes and the new reported state. -/
def acceptedAnswer (v : Nat) (token : List Char) : Publish :=
  ⟨true, [("clientToken", String.mk token), ("state.reported.powerOn", String.mk (Nat.toDigits 10 v))]⟩

/-- The shadow service's answer on `/update/rejected`: the token text, when it could read
one from the report, and the error code. -/
def rejectedAnswer (token : Option (List Char)) (code : String) : Publish :=
  ⟨true, (token.map fun t => ("clientToken", String.mk t)).toList ++ [("code", code)]⟩

namespace World

/-- The system when the loop starts (line 839): the context of lines 796-808, the delta
callback's version 0, the callbacks `prvSubscribeToShadowUpdateTopics` registered on the
outcome `o`, the cleared report buffer, and a shadow that holds `shadowReported` with
nothing in flight. The notification value is 0: the wait at line 399 clears it on exit
when it returns, and nothing else notifies the task before the loop. -/
def initial (shadowReported : Nat) (o : SubscribeOutcome) : World where
  pc := .check
  ctx := ShadowDeviceCtx.zero
  ulCurrentVersion := 0
  ulNotifiedValue := 0
  pcUpdateDocument := List.replicate (shadowexampleShadowReportedJsonLength + 1) '\x00'
  ackPending := (prvSubscribeToShadowUpdateTopics o).2.ackPending
  deltaRegistered := (prvSubscribeToShadowUpdateTopics o).2.delta
  shadowReported := shadowReported
  inbox := []
  inFlight := []
  reports := 0
  countAtPublish := 0
  sincePublish := []

/-- A whole run of the response callback of `topic` on `p`: the context it leaves, the
`xTaskNotifyGive` when it matched, and the history entry. -/
def respond (pf : Platform) (w : World) (topic : ResponseTopic) (p : Publish)
    (origin : Origin) : World :=
  let r := match topic with
    | .accepted => prvIncomingPublishUpdateAcceptedCallback pf w.ctx p
    | .rejected => prvIncomingPublishUpdateRejectedCallback pf w.ctx p
  { w with
    ctx := r.1
    ulNotifiedValue := if r.2 then w.ulNotifiedValue + 1 else w.ulNotifiedValue
    sincePublish := w.sincePublish ++ [.handled origin (receivedToken pf p)] }

section Respond

variable (pf : Platform) (w : World) (topic : ResponseTopic) (p : Publish) (o : Origin)

@[simp] theorem respond_pc : (w.respond pf topic p o).pc = w.pc := rfl
@[simp] theorem respond_countAtPublish :
    (w.respond pf topic p o).countAtPublish = w.countAtPublish := rfl
@[simp] theorem respond_pcUpdateDocument :
    (w.respond pf topic p o).pcUpdateDocument = w.pcUpdateDocument := rfl
@[simp] theorem respond_inbox : (w.respond pf topic p o).inbox = w.inbox := rfl
@[simp] theorem respond_inFlight : (w.respond pf topic p o).inFlight = w.inFlight := rfl
@[simp] theorem respond_shadowReported :
    (w.respond pf topic p o).shadowReported = w.shadowReported := rfl
@[simp] theorem respond_reports : (w.respond pf topic p o).reports = w.reports := rfl
@[simp] theorem respond_ackPending : (w.respond pf topic p o).ackPending = w.ackPending := rfl
@[simp] theorem respond_deltaRegistered :
    (w.respond pf topic p o).deltaRegistered = w.deltaRegistered := rfl
@[simp] theorem respond_sincePublish :
    (w.respond pf topic p o).sincePublish = w.sincePublish ++ [.handled o (receivedToken pf p)] :=
  rfl

/-- A response callback run keeps the client token and the current state. -/
theorem respond_ctx :
    (w.respond pf topic p o).ctx.ulClientToken = w.ctx.ulClientToken ∧
      (w.respond pf topic p o).ctx.ulCurrentPowerOnState = w.ctx.ulCurrentPowerOnState := by
  cases topic
  · exact ⟨(acceptedCallback_frame pf w.ctx p).2, (acceptedCallback_frame pf w.ctx p).1⟩
  · simp [respond, rejectedCallback_ctx]

/-- A response callback run gives the task a notification exactly when the publish
carries the pending token. -/
theorem respond_notified :
    (w.respond pf topic p o).ulNotifiedValue =
      if receivedToken pf p = some w.ctx.ulClientToken then w.ulNotifiedValue + 1
      else w.ulNotifiedValue := by
  cases topic <;>
    simp only [respond, prvIncomingPublishUpdateAcceptedCallback,
      prvIncomingPublishUpdateRejectedCallback, responseCallback_notifies, decide_eq_true_eq]

end Respond

/-- One step of the system, `none` when the action cannot be taken. -/
def step (pf : Platform) (w : World) : Action → Option World
  | .check =>
    if w.pc = .check then
      some { w with
        pc := if w.ctx.ulCurrentPowerOnState = w.ctx.ulReportedPowerOnState then .delay
          else .newToken }
    else none
  | .newToken xTickCount =>
    if w.pc = .newToken then
      some { w with pc := .format, ctx := { w.ctx with ulClientToken := xTickCount % 1000000 } }
    else none
  | .format =>
    if w.pc = .format then
      some { w with
        pc := .publish
        pcUpdateDocument := updateDocument w.ctx.ulCurrentPowerOnState w.ctx.ulClientToken }
    else none
  | .publish queued =>
    if w.pc = .publish then
      if queued then
        some { w with
          pc := .wait
          inbox := w.inbox ++ [⟨w.pcUpdateDocument, w.reports + 1⟩]
          reports := w.reports + 1
          countAtPublish := w.ulNotifiedValue
          sincePublish := [] }
      else some { w with pc := .clearToken }
    else none
  | .take =>
    if w.pc = .wait ∧ w.ulNotifiedValue ≠ 0 then
      some { w with pc := .clearToken, ulNotifiedValue := w.ulNotifiedValue - 1 }
    else none
  | .timeout =>
    if w.pc = .wait ∧ w.ulNotifiedValue = 0 then some { w with pc := .timedOut } else none
  | .timedOut =>
    if w.pc = .timedOut then
      some { w with
        pc := .clearToken
        ctx := { w.ctx with ulReportedPowerOnState := shadowexampleInvalidPowerOnState } }
    else none
  | .clearToken =>
    if w.pc = .clearToken then
      some { w with pc := .delay, ctx := { w.ctx with ulClientToken := 0 } }
    else none
  | .delay => if w.pc = .delay then some { w with pc := .check } else none
  | .subscribeAck returnCode =>
    if w.ackPending then
      some { w with
        ulNotifiedValue := returnCode
        ackPending := false
        sincePublish := w.sincePublish ++ [.subscribeAck] }
    else none
  | .delta p =>
    if w.deltaRegistered then
      let r := prvIncomingPublishUpdateDeltaCallback pf w.ulCurrentVersion w.ctx p
      some { w with ulCurrentVersion := r.1, ctx := r.2 }
    else none
  | .stray topic p => some (w.respond pf topic p .stray)
  | .shadowAccept =>
    match w.inbox with
    | r :: rest =>
      (readReport r.payload).map fun (v, token) =>
        { w with
          shadowReported := v
          inbox := rest
          inFlight := w.inFlight ++ [⟨.accepted, acceptedAnswer v token, .answer r.seq⟩] }
    | [] => none
  | .shadowReject code =>
    match w.inbox with
    | r :: rest =>
      some { w with
        inbox := rest
        inFlight := w.inFlight ++
          [⟨.rejected, rejectedAnswer ((readReport r.payload).map Prod.snd) code, .answer r.seq⟩] }
    | [] => none
  | .deliver i =>
    w.inFlight[i]?.map fun m =>
      respond pf { w with inFlight := w.inFlight.eraseIdx i } m.topic m.payload m.origin
  | .duplicate i => w.inFlight[i]?.map fun m => w.respond pf m.topic m.payload m.origin
  | .lose i => w.inFlight[i]?.map fun _ => { w with inFlight := w.inFlight.eraseIdx i }

section Steps

variable {pf : Platform} {w w' : World}

/-- A response callback run on a publish that does not carry the pending token only
records itself in the history. -/
theorem respond_of_ne (topic : ResponseTopic) (p : Publish) (o : Origin)
    (h : receivedToken pf p ≠ some w.ctx.ulClientToken) :
    w.respond pf topic p o =
      { w with sincePublish := w.sincePublish ++ [.handled o (receivedToken pf p)] } := by
  cases topic <;>
    simp only [respond, prvIncomingPublishUpdateAcceptedCallback,
      prvIncomingPublishUpdateRejectedCallback, responseCallback_of_ne pf _ w.ctx p h,
      Bool.false_eq_true, if_false]

/-- The accepted callback on an answer that echoes the pending token stores the answer's
`state.reported.powerOn` and wakes the task. -/
theorem respond_acceptedAnswer (v : Nat) (token : List Char) (o : Origin)
    (h : strtoul32 pf (String.mk token) = w.ctx.ulClientToken) :
    w.respond pf .accepted (acceptedAnswer v token) o =
      { w with
        ctx := { w.ctx with
          ulReportedPowerOnState := strtoul32 pf (String.mk (Nat.toDigits 10 v)) }
        ulNotifiedValue := w.ulNotifiedValue + 1
        sincePublish := w.sincePublish ++ [.handled o (receivedToken pf (acceptedAnswer v token))] } := by
  have hr : receivedToken pf (acceptedAnswer v token) = some w.ctx.ulClientToken := by
    rw [← h]
    simp [receivedToken, jsonSearch, acceptedAnswer, List.lookup]
  simp only [respond, prvIncomingPublishUpdateAcceptedCallback, responseCallback_of_eq pf _ w.ctx _ hr,
    if_true]
  rfl

/-- The rejected callback on a publish that carries the pending token only wakes the
task. -/
theorem respond_rejected_of_eq (p : Publish) (o : Origin)
    (h : receivedToken pf p = some w.ctx.ulClientToken) :
    w.respond pf .rejected p o =
      { w with
        ulNotifiedValue := w.ulNotifiedValue + 1
        sincePublish := w.sincePublish ++ [.handled o (receivedToken pf p)] } := by
  simp only [respond, prvIncomingPublishUpdateRejectedCallback, responseCallback_of_eq pf _ w.ctx _ h,
    if_true]

/-- A delta run writes the version and at most the current state, with the old state or
the `strtoul` reading of its `state.powerOn`. -/
theorem step_delta {p : Publish} (h : w.step pf (.delta p) = some w') :
    w.deltaRegistered = true ∧ ∃ u c,
      w' = { w with ulCurrentVersion := u, ctx := { w.ctx with ulCurrentPowerOnState := c } } ∧
      (c = w.ctx.ulCurrentPowerOnState ∨ ∃ s ∈ jsonSearch p "state.powerOn", c = strtoul32 pf s) := by
  simp only [step] at h
  split at h
  · cases h
    refine ⟨‹_›, ?_⟩
    rcases deltaCallback_cases pf w.ulCurrentVersion w.ctx p with hd | ⟨u, -, -, hd⟩ <;> rw [hd]
    · exact ⟨_, _, rfl, .inl rfl⟩
    · refine ⟨u, _, rfl, ?_⟩
      unfold deltaPowerOn
      split
      · exact .inr ⟨_, ‹_›, rfl⟩
      · exact .inl rfl
  · cases h

/-- The shadow service applies the oldest report when it can read it, and answers on
`/update/accepted`. -/
theorem step_shadowAccept (h : w.step pf .shadowAccept = some w') :
    ∃ r rest v token, w.inbox = r :: rest ∧ readReport r.payload = some (v, token) ∧
      w' = { w with
        shadowReported := v
        inbox := rest
        inFlight := w.inFlight ++ [⟨.accepted, acceptedAnswer v token, .answer r.seq⟩] } := by
  simp only [step] at h
  split at h
  · obtain ⟨⟨v, token⟩, hr, rfl⟩ := Option.map_eq_some'.mp h
    exact ⟨_, _, v, token, ‹_›, hr, rfl⟩
  · cases h

/-- The shadow service drops the oldest report and answers on `/update/rejected`. -/
theorem step_shadowReject {code : String} (h : w.step pf (.shadowReject code) = some w') :
    ∃ r rest, w.inbox = r :: rest ∧
      w' = { w with
        inbox := rest
        inFlight := w.inFlight ++
          [⟨.rejected, rejectedAnswer ((readReport r.payload).map Prod.snd) code, .answer r.seq⟩] } := by
  simp only [step] at h
  split at h
  · cases h
    exact ⟨_, _, ‹_›, rfl⟩
  · cases h

theorem step_deliver {i : Nat} (h : w.step pf (.deliver i) = some w') :
    ∃ m, w.inFlight[i]? = some m ∧
      w' = respond pf { w with inFlight := w.inFlight.eraseIdx i } m.topic m.payload m.origin :=
  let ⟨m, hm, he⟩ := Option.map_eq_some'.mp h
  ⟨m, hm, he.symm⟩

theorem step_duplicate {i : Nat} (h : w.step pf (.duplicate i) = some w') :
    ∃ m, w.inFlight[i]? = some m ∧ w' = w.respond pf m.topic m.payload m.origin :=
  let ⟨m, hm, he⟩ := Option.map_eq_some'.mp h
  ⟨m, hm, he.symm⟩

theorem step_lose {i : Nat} (h : w.step pf (.lose i) = some w') :
    (∃ m, w.inFlight[i]? = some m) ∧ w' = { w with inFlight := w.inFlight.eraseIdx i } :=
  let ⟨m, hm, he⟩ := Option.map_eq_some'.mp h
  ⟨⟨m, hm⟩, he.symm⟩

/-! Each move of the loop, with its guard: the location it leaves and the world it
builds. -/

/-- The test at line 841: the loop goes to the delay when the current state equals the
last reported one, and takes a new token otherwise. -/
theorem step_check (h : w.step pf .check = some w') :
    w.pc = .check ∧ w' = { w with
      pc := if w.ctx.ulCurrentPowerOnState = w.ctx.ulReportedPowerOnState then .delay
        else .newToken } := by
  simp only [step, Option.ite_none_right_eq_some, Option.some.injEq] at h
  exact ⟨h.1, h.2.symm⟩

/-- Line 850: the token is the tick count modulo `10 ^ 6`. -/
theorem step_newToken {x : UInt32} (h : w.step pf (.newToken x) = some w') :
    w.pc = .newToken ∧
      w' = { w with pc := .format, ctx := { w.ctx with ulClientToken := x % 1000000 } } := by
  simp only [step, Option.ite_none_right_eq_some, Option.some.injEq] at h
  exact ⟨h.1, h.2.symm⟩

theorem step_format (h : w.step pf .format = some w') :
    w.pc = .format ∧ w' = { w with
      pc := .publish
      pcUpdateDocument := updateDocument w.ctx.ulCurrentPowerOnState w.ctx.ulClientToken } := by
  simp only [step, Option.ite_none_right_eq_some, Option.some.injEq] at h
  exact ⟨h.1, h.2.symm⟩

/-- The publish either queues the report, and the loop waits, or fails, and the loop goes
on to clear the token. -/
theorem step_publish {queued : Bool} (h : w.step pf (.publish queued) = some w') :
    w.pc = .publish ∧
      (queued = true ∧ w' = { w with
          pc := .wait
          inbox := w.inbox ++ [⟨w.pcUpdateDocument, w.reports + 1⟩]
          reports := w.reports + 1
          countAtPublish := w.ulNotifiedValue
          sincePublish := [] } ∨
        queued = false ∧ w' = { w with pc := .clearToken }) := by
  simp only [step, Option.ite_none_right_eq_some] at h
  refine ⟨h.1, ?_⟩
  cases queued
  · exact .inr ⟨rfl, (Option.some.inj h.2).symm⟩
  · exact .inl ⟨rfl, (Option.some.inj h.2).symm⟩

theorem step_take (h : w.step pf .take = some w') :
    (w.pc = .wait ∧ w.ulNotifiedValue ≠ 0) ∧
      w' = { w with pc := .clearToken, ulNotifiedValue := w.ulNotifiedValue - 1 } := by
  simp only [step, Option.ite_none_right_eq_some, Option.some.injEq] at h
  exact ⟨h.1, h.2.symm⟩

theorem step_timeout (h : w.step pf .timeout = some w') :
    (w.pc = .wait ∧ w.ulNotifiedValue = 0) ∧ w' = { w with pc := .timedOut } := by
  simp only [step, Option.ite_none_right_eq_some, Option.some.injEq] at h
  exact ⟨h.1, h.2.symm⟩

/-- The timeout path stores the sentinel as the last reported state. -/
theorem step_timedOut (h : w.step pf .timedOut = some w') :
    w.pc = .timedOut ∧ w' = { w with
      pc := .clearToken
      ctx := { w.ctx with ulReportedPowerOnState := shadowexampleInvalidPowerOnState } } := by
  simp only [step, Option.ite_none_right_eq_some, Option.some.injEq] at h
  exact ⟨h.1, h.2.symm⟩

/-- Line 893 clears the token. -/
theorem step_clearToken (h : w.step pf .clearToken = some w') :
    w.pc = .clearToken ∧
      w' = { w with pc := .delay, ctx := { w.ctx with ulClientToken := 0 } } := by
  simp only [step, Option.ite_none_right_eq_some, Option.some.injEq] at h
  exact ⟨h.1, h.2.symm⟩

theorem step_delay (h : w.step pf .delay = some w') :
    w.pc = .delay ∧ w' = { w with pc := .check } := by
  simp only [step, Option.ite_none_right_eq_some, Option.some.injEq] at h
  exact ⟨h.1, h.2.symm⟩

/-- The SUBACK callback overwrites the notification value with the return code. -/
theorem step_subscribeAck {code : UInt32} (h : w.step pf (.subscribeAck code) = some w') :
    w.ackPending = true ∧ w' = { w with
      ulNotifiedValue := code
      ackPending := false
      sincePublish := w.sincePublish ++ [.subscribeAck] } := by
  simp only [step, Option.ite_none_right_eq_some, Option.some.injEq] at h
  exact ⟨h.1, h.2.symm⟩

/-- Only a delta writes the current state and the delta callback's version. -/
theorem current_step {a : Action} (h : w.step pf a = some w') :
    (w'.ctx.ulCurrentPowerOnState = w.ctx.ulCurrentPowerOnState ∧
        w'.ulCurrentVersion = w.ulCurrentVersion) ∨ ∃ p, a = .delta p := by
  cases a with
  | delta p => exact .inr ⟨p, rfl⟩
  | stray topic p =>
    cases h
    exact .inl ⟨(respond_ctx pf w topic p _).2, rfl⟩
  | deliver i =>
    obtain ⟨m, -, rfl⟩ := step_deliver h
    exact .inl ⟨(respond_ctx pf _ _ _ _).2, rfl⟩
  | duplicate i =>
    obtain ⟨m, -, rfl⟩ := step_duplicate h
    exact .inl ⟨(respond_ctx pf _ _ _ _).2, rfl⟩
  | lose i =>
    obtain ⟨-, rfl⟩ := step_lose h
    exact .inl ⟨rfl, rfl⟩
  | shadowAccept =>
    obtain ⟨_, _, _, _, -, -, rfl⟩ := step_shadowAccept h
    exact .inl ⟨rfl, rfl⟩
  | shadowReject =>
    obtain ⟨_, _, -, rfl⟩ := step_shadowReject h
    exact .inl ⟨rfl, rfl⟩
  | check | newToken | format | publish | take | timeout | timedOut | clearToken | delay
  | subscribeAck =>
    simp only [step] at h
    split at h <;> (try split at h) <;> cases h <;> exact .inl ⟨rfl, rfl⟩

/-- A step that is not the loop's keeps the loop's location, its report buffer, the
client token and the notification value at the last publish. -/
theorem step_frame {a : Action} (h : w.step pf a = some w') (ha : a.isLoop = false) :
    w'.pc = w.pc ∧ w'.pcUpdateDocument = w.pcUpdateDocument ∧
      w'.ctx.ulClientToken = w.ctx.ulClientToken ∧ w'.countAtPublish = w.countAtPublish := by
  cases a with
  | subscribeAck =>
    obtain ⟨-, rfl⟩ := step_subscribeAck h
    exact ⟨rfl, rfl, rfl, rfl⟩
  | delta p =>
    obtain ⟨-, u, c, rfl, -⟩ := step_delta h
    exact ⟨rfl, rfl, rfl, rfl⟩
  | stray topic p =>
    cases h
    exact ⟨rfl, rfl, (respond_ctx pf w topic p _).1, rfl⟩
  | deliver i =>
    obtain ⟨m, -, rfl⟩ := step_deliver h
    exact ⟨rfl, rfl, (respond_ctx pf _ _ _ _).1, rfl⟩
  | duplicate i =>
    obtain ⟨m, -, rfl⟩ := step_duplicate h
    exact ⟨rfl, rfl, (respond_ctx pf _ _ _ _).1, rfl⟩
  | lose i =>
    obtain ⟨-, rfl⟩ := step_lose h
    exact ⟨rfl, rfl, rfl, rfl⟩
  | shadowAccept =>
    obtain ⟨_, _, _, _, -, -, rfl⟩ := step_shadowAccept h
    exact ⟨rfl, rfl, rfl, rfl⟩
  | shadowReject =>
    obtain ⟨_, _, -, rfl⟩ := step_shadowReject h
    exact ⟨rfl, rfl, rfl, rfl⟩
  | check | newToken | format | publish | take | timeout | timedOut | clearToken | delay =>
    cases ha

/-- Only a new token and the clearing at line 893 write the client token. -/
theorem token_step {a : Action} (h : w.step pf a = some w') :
    w'.ctx.ulClientToken = w.ctx.ulClientToken ∨
      (∃ x, a = .newToken x ∧ w'.ctx.ulClientToken = x % 1000000) ∨
      (a = .clearToken ∧ w'.ctx.ulClientToken = 0) := by
  cases hl : a.isLoop
  · exact .inl (step_frame h hl).2.2.1
  · cases a with
    | newToken x =>
      obtain ⟨-, rfl⟩ := step_newToken h
      exact .inr (.inl ⟨x, rfl, rfl⟩)
    | clearToken =>
      obtain ⟨-, rfl⟩ := step_clearToken h
      exact .inr (.inr ⟨rfl, rfl⟩)
    | check => exact .inl (by rw [(step_check h).2])
    | format => exact .inl (by rw [(step_format h).2])
    | publish => exact .inl (by obtain ⟨-, ⟨-, rfl⟩ | ⟨-, rfl⟩⟩ := step_publish h <;> rfl)
    | take => exact .inl (by rw [(step_take h).2])
    | timeout => exact .inl (by rw [(step_timeout h).2])
    | timedOut => exact .inl (by rw [(step_timedOut h).2])
    | delay => exact .inl (by rw [(step_delay h).2])
    | subscribeAck | delta | stray | shadowAccept | shadowReject | deliver | duplicate | lose =>
      cases hl

/-- Only the response callbacks and the timeout path write the last reported state. -/
theorem reported_step {a : Action} (h : w.step pf a = some w') :
    w'.ctx.ulReportedPowerOnState = w.ctx.ulReportedPowerOnState ∨ a = .timedOut ∨
      (∃ i, a = .deliver i) ∨ (∃ i, a = .duplicate i) ∨ ∃ t p, a = .stray t p := by
  cases a with
  | timedOut => exact .inr (.inl rfl)
  | deliver i => exact .inr (.inr (.inl ⟨i, rfl⟩))
  | duplicate i => exact .inr (.inr (.inr (.inl ⟨i, rfl⟩)))
  | stray t p => exact .inr (.inr (.inr (.inr ⟨t, p, rfl⟩)))
  | delta p =>
    obtain ⟨-, u, c, rfl, -⟩ := step_delta h
    exact .inl rfl
  | lose i =>
    obtain ⟨-, rfl⟩ := step_lose h
    exact .inl rfl
  | shadowAccept =>
    obtain ⟨_, _, _, _, -, -, rfl⟩ := step_shadowAccept h
    exact .inl rfl
  | shadowReject =>
    obtain ⟨_, _, -, rfl⟩ := step_shadowReject h
    exact .inl rfl
  | check | newToken | format | publish | take | timeout | clearToken | delay | subscribeAck =>
    simp only [step] at h
    split at h <;> (try split at h) <;> cases h <;> exact .inl rfl

end Steps

/-- The system after the actions `as`, one after the other. -/
def run (pf : Platform) (w : World) : List Action → Option World
  | [] => some w
  | a :: as => (w.step pf a).bind fun w' => run pf w' as

/-- The run of `as` from `w` when `env` admits each of its steps, `none` otherwise. -/
def runIn (pf : Platform) (env : World → Action → Prop) [∀ w a, Decidable (env w a)]
    (w : World) : List Action → Option World
  | [] => some w
  | a :: as => if env w a then (w.step pf a).bind fun w' => runIn pf env w' as else none

/-- A run extended by one action: the run, then that step from where it ends. -/
theorem run_concat (pf : Platform) (w : World) (as : List Action) (a : Action) :
    w.run pf (as ++ [a]) = (w.run pf as).bind fun u => u.step pf a := by
  induction as generalizing w with
  | nil => simp [run]
  | cons b as ih =>
    show ((w.step pf b).bind fun w' => w'.run pf (as ++ [a])) = _
    simp only [run, Option.bind_assoc, ih]

end World

/-- `w` is reached from `w₀` by steps that `env` admits. -/
inductive Reaches (pf : Platform) (env : World → Action → Prop) (w₀ : World) : World → Prop
  | refl : Reaches pf env w₀ w₀
  | step {w w' : World} (a : Action) :
      Reaches pf env w₀ w → env w a → w.step pf a = some w' → Reaches pf env w₀ w'

/-- Every step: the scheduler, the network, the shadow service and the other clients do
anything the model allows. -/
def anySchedule : World → Action → Prop := fun _ _ => True

instance (w : World) (a : Action) : Decidable (anySchedule w a) := instDecidableTrue

section Reaches

variable {pf : Platform} {env : World → Action → Prop} {w₀ : World}

/-- The invariant principle: a property of `w₀` that every admitted step keeps holds in
every world reached from `w₀`. -/
theorem Reaches.induction {P : World → Prop} (h₀ : P w₀)
    (hstep : ∀ w a w', P w → env w a → w.step pf a = some w' → P w') {w : World}
    (h : Reaches pf env w₀ w) : P w := by
  induction h with
  | refl => exact h₀
  | step a _ ha hs ih => exact hstep _ a _ ih ha hs

/-- A run of actions that `env` all admits reaches its last world. -/
theorem Reaches.of_run {w w' : World} (as : List Action) (hadm : ∀ a ∈ as, ∀ v, env v a)
    (h : w.run pf as = some w') (hw : Reaches pf env w₀ w) : Reaches pf env w₀ w' := by
  induction as generalizing w with
  | nil =>
    cases h
    exact hw
  | cons a as ih =>
    simp only [World.run, Option.bind_eq_some] at h
    obtain ⟨v, hv, hrun⟩ := h
    exact ih (fun b hb => hadm b (List.mem_cons_of_mem _ hb)) hrun
      (.step a hw (hadm a (List.mem_cons_self _ _) _) hv)

theorem Reaches.trans {w w' : World} (h : Reaches pf env w₀ w) (h' : Reaches pf env w w') :
    Reaches pf env w₀ w' := by
  induction h' with
  | refl => exact h
  | step a _ ha hs ih => exact .step a ih ha hs

/-- The client token is below `10 ^ 6` in every world reached from the start: the task
sets it to the tick count modulo `1000000`, or to 0. -/
theorem Reaches.token_lt {v : Nat} {o : SubscribeOutcome} {w : World}
    (h : Reaches pf env (World.initial v o) w) : w.ctx.ulClientToken.toNat < 1000000 := by
  refine h.induction (P := fun w => w.ctx.ulClientToken.toNat < 1000000)
    (show (0 : UInt32).toNat < 1000000 by decide) ?_
  intro w a w' hw _ hs
  rcases World.token_step hs with ht | ⟨x, -, ht⟩ | ⟨-, ht⟩ <;> rw [ht]
  · exact hw
  · rw [UInt32.toNat_mod]
    exact Nat.mod_lt _ (by decide)
  · decide

/-- The client token is 0 whenever the loop stands at the test of line 841, at line 850
or at the delay: line 893 clears it at the end of every cycle that took one. So the task
takes a new token only when none is pending. -/
theorem Reaches.token_cleared {v : Nat} {o : SubscribeOutcome} {w : World}
    (h : Reaches pf env (World.initial v o) w)
    (hpc : w.pc = .check ∨ w.pc = .newToken ∨ w.pc = .delay) : w.ctx.ulClientToken = 0 := by
  refine h.induction (P := fun w => w.pc = .check ∨ w.pc = .newToken ∨ w.pc = .delay →
    w.ctx.ulClientToken = 0) (fun _ => rfl) ?_ hpc
  intro w a w' hw _ hs
  cases hl : a.isLoop
  · obtain ⟨hpc, -, hT, -⟩ := World.step_frame hs hl
    rw [hpc, hT]
    exact hw
  · -- the test and the delay keep the token, line 893 clears it, and the other moves
    -- lead away from the three locations
    cases a with
    | check =>
      obtain ⟨hpc, rfl⟩ := World.step_check hs
      exact fun _ => hw (.inl hpc)
    | delay =>
      obtain ⟨hpc, rfl⟩ := World.step_delay hs
      exact fun _ => hw (.inr (.inr hpc))
    | clearToken => exact fun _ => by rw [(World.step_clearToken hs).2]
    | newToken => simp [(World.step_newToken hs).2]
    | format => simp [(World.step_format hs).2]
    | publish => obtain ⟨-, ⟨-, rfl⟩ | ⟨-, rfl⟩⟩ := World.step_publish hs <;> simp
    | take => simp [(World.step_take hs).2]
    | timeout => simp [(World.step_timeout hs).2]
    | timedOut => simp [(World.step_timedOut hs).2]
    | subscribeAck | delta | stray | shadowAccept | shadowReject | deliver | duplicate | lose =>
      cases hl

/-- The first cycle on the board, answered and back at the test of line 841: the token
is clear again. -/
theorem token_cleared_board :
    let as : List Action :=
      [.delta ⟨true, [("version", "1"), ("state.powerOn", "1")]⟩, .check, .newToken 21909,
        .format, .publish true, .shadowAccept, .deliver 0, .take, .clearToken, .delay]
    ∃ w, (World.initial 0 .subscribed).run Platform.cortexM33 as = some w ∧
      w.pc = .check ∧ w.ctx.ulClientToken = 0 := by
  intro as
  have hrun : (World.initial 0 .subscribed).run Platform.cortexM33 as = some _ := rfl
  have hr : Reaches Platform.cortexM33 anySchedule (World.initial 0 .subscribed) _ :=
    Reaches.of_run _ (fun _ _ _ => trivial) hrun .refl
  exact ⟨_, hrun, rfl, Reaches.token_cleared hr (.inl rfl)⟩

/-- A run that `env` admits step by step reaches its last world. -/
theorem Reaches.of_runIn [∀ w a, Decidable (env w a)] {w w' : World} (as : List Action)
    (h : w.runIn pf env as = some w') (hw : Reaches pf env w₀ w) : Reaches pf env w₀ w' := by
  induction as generalizing w with
  | nil =>
    cases h
    exact hw
  | cons a as ih =>
    simp only [World.runIn] at h
    split at h
    · obtain ⟨v, hv, hrun⟩ := Option.bind_eq_some.mp h
      exact ih hrun (.step a hw ‹_› hv)
    · cases h

end Reaches

end ShadowDevice
