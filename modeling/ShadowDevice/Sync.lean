import ShadowDevice.World

/-!
# `ShadowDevice.Sync`: a skipped report and the shadow's state

The loop of `vShadowDeviceTask` publishes a report only when `ulCurrentPowerOnState`
differs from `ulReportedPowerOnState` (line 841). The skip is right when the shadow
already holds the current state. `SkipsOnlyReported` states this for every run from the
context the task builds, whatever the shadow held at the start.
`skipsOnlyReported_false` refutes it twice:

* The comment at lines 173-175 says `ulReportedPowerOnState` starts at an invalid value,
  so that the first cycle reports. The task starts it at 0 (`xShadowCtx = { 0 }`), so the
  first check skips while the shadow may hold 1.
* A duplicated answer to a report gives the task two notifications, and the wait at
  line 879 takes only one. The next cycle's wait returns before any answer, with the
  reported state of the cycle before. A later skip then leaves the shadow behind.

The design works on the schedules of `Orderly`. Tokens are nonzero and fresh. A publish
that carries the pending token reaches the task only while it waits with no
notification pending. No other client publishes on the response topics. A late SUBACK
reports success. Deltas store states that print as one digit and differ from the
sentinel. `Synced` is the invariant: the last reported state is the sentinel or the
shadow's state, and the cycle's report and the answers that carry its token follow the
cycle. `synced_step` keeps it over one step and `synced_reaches` over a run.
`skip_agrees` is the result from the task's own start with a shadow that holds 0, and
`skip_agrees_documented` from the documented start for every initial shadow state.

The results hold at the grain of whole callback runs (`ShadowDevice.World`): a callback
that the loop interrupts between its token test and its `xTaskNotifyGive` is outside the
model.

The invariant also gives progress. `quietCycle_converges` shows that from every such world
with nothing pending at the shadow and nothing in flight, one cycle of the loop that
nothing disturbs ends with the shadow and `ulReportedPowerOnState` at the current state.
-/

set_option autoImplicit false

namespace ShadowDevice

/-! ## The schedules -/

/-- A `powerOn` state that `%1u` prints as one digit and that differs from
`shadowexampleINVALID_POWERON_STATE`. -/
def SafeState (x : UInt32) : Prop := x.toNat < 10 ∧ x ≠ shadowexampleInvalidPowerOnState

instance (x : UInt32) : Decidable (SafeState x) := inferInstanceAs (Decidable (_ ∧ _))

/-- The token the callbacks read in the shadow's answer to a report: the `strtoul`
reading of the report's `clientToken` text, when the shadow can read the report. -/
def reportToken (pf : Platform) (r : Report) : Option UInt32 :=
  (readReport r.payload).map fun x => strtoul32 pf (String.mk x.2)

/-- No report in the shadow's inbox and no publish in flight to the device carries the
token `t`. -/
def Unclaimed (pf : Platform) (w : World) (t : UInt32) : Prop :=
  (∀ r ∈ w.inbox, reportToken pf r ≠ some t) ∧
    ∀ m ∈ w.inFlight, receivedToken pf m.payload ≠ some t

instance (pf : Platform) (w : World) (t : UInt32) : Decidable (Unclaimed pf w t) :=
  inferInstanceAs (Decidable (_ ∧ _))

/-- The schedules on which the task keeps the shadow in step. The tick count gives a
nonzero token that nothing in the system carries. A publish with the pending token
reaches a callback only while the task waits with no notification pending. Other clients
publish nothing on the response topics. A late SUBACK carries `MQTTSuccess`. A delta
stores only states that `SafeState` admits. -/
def Orderly (pf : Platform) (w : World) : Action → Prop
  | .newToken xTickCount => xTickCount % 1000000 ≠ 0 ∧ Unclaimed pf w (xTickCount % 1000000)
  | .delta p => ∀ s ∈ jsonSearch p "state.powerOn", SafeState (strtoul32 pf s)
  | .stray _ _ => False
  | .subscribeAck returnCode => returnCode = mqttSuccess
  | .deliver i | .duplicate i => ∀ m ∈ w.inFlight[i]?,
      receivedToken pf m.payload = some w.ctx.ulClientToken →
        w.pc = .wait ∧ w.ulNotifiedValue = 0
  | _ => True

instance (pf : Platform) (w : World) : ∀ a, Decidable (Orderly pf w a)
  | .newToken _ => inferInstanceAs (Decidable (_ ∧ _))
  | .delta _ => inferInstanceAs (Decidable (∀ _ ∈ _, _))
  | .stray _ _ => inferInstanceAs (Decidable False)
  | .subscribeAck _ => inferInstanceAs (Decidable (_ = _))
  | .deliver _ | .duplicate _ => inferInstanceAs (Decidable (∀ _ ∈ _, _))
  | .check | .format | .publish _ | .take | .timeout | .timedOut | .clearToken | .delay
  | .shadowAccept | .shadowReject _ | .lose _ => inferInstanceAs (Decidable True)

/-- Every step but a publish of another client on a response topic. The shadow's answers
may still be held back, copied or lost. -/
def NoStray : World → Action → Prop
  | _, .stray _ _ => False
  | _, _ => True

instance (w : World) : ∀ a, Decidable (NoStray w a)
  | .stray _ _ => inferInstanceAs (Decidable False)
  | .check | .newToken _ | .format | .publish _ | .take | .timeout | .timedOut | .clearToken
  | .delay | .subscribeAck _ | .delta _ | .shadowAccept | .shadowReject _ | .deliver _
  | .duplicate _ | .lose _ => inferInstanceAs (Decidable True)

/-- The world the comment at lines 173-175 describes: the task's start with
`ulReportedPowerOnState` at `shadowexampleINVALID_POWERON_STATE`. -/
def World.documentedInitial (shadowReported : Nat) (o : SubscribeOutcome) : World :=
  { World.initial shadowReported o with
    ctx := { ShadowDeviceCtx.zero with ulReportedPowerOnState := shadowexampleInvalidPowerOnState } }

/-! ## The invariant -/

/-- The last reported state is the sentinel, or the shadow holds it and has no report of
the task left to apply. -/
def Agreed (w : World) : Prop :=
  w.ctx.ulReportedPowerOnState = shadowexampleInvalidPowerOnState ∨
    (w.ctx.ulReportedPowerOnState.toNat = w.shadowReported ∧ w.inbox = [])

/-- The cycle's report waits in the shadow's inbox behind the reports `old` of earlier
cycles, which carry other tokens, and no notification is pending. -/
def Queued (pf : Platform) (w : World) : Prop :=
  ∃ old x seq, w.inbox = old ++ [⟨updateDocument x w.ctx.ulClientToken, seq⟩] ∧ x.toNat < 10 ∧
    (∀ r ∈ old, reportToken pf r ≠ some w.ctx.ulClientToken) ∧ w.ulNotifiedValue = 0 ∧
    (w.ctx.ulReportedPowerOnState = shadowexampleInvalidPowerOnState ∨
      (w.ctx.ulReportedPowerOnState.toNat = w.shadowReported ∧ old = []))

/-- What holds at each location of the loop, apart from the publishes in flight. -/
def Phase (pf : Platform) (w : World) : Prop :=
  match w.pc with
  | .check | .newToken | .delay => w.ctx.ulClientToken = 0 ∧ w.ulNotifiedValue = 0 ∧ Agreed w
  | .format => w.ulNotifiedValue = 0 ∧ Agreed w ∧ w.ctx.ulClientToken ≠ 0 ∧
      w.ctx.ulClientToken.toNat < 1000000 ∧ ∀ r ∈ w.inbox, reportToken pf r ≠ some w.ctx.ulClientToken
  | .publish => w.ulNotifiedValue = 0 ∧ Agreed w ∧ w.ctx.ulClientToken ≠ 0 ∧
      w.ctx.ulClientToken.toNat < 1000000 ∧ (∀ r ∈ w.inbox, reportToken pf r ≠ some w.ctx.ulClientToken) ∧
      ∃ x : UInt32, x.toNat < 10 ∧ w.pcUpdateDocument = updateDocument x w.ctx.ulClientToken
  | .wait => w.ctx.ulClientToken.toNat < 1000000 ∧
      (w.ulNotifiedValue = 0 ∨ (w.ulNotifiedValue = 1 ∧ Agreed w)) ∧ (w.inbox = [] ∨ Queued pf w)
  | .timedOut => w.ulNotifiedValue = 0
  | .clearToken => w.ulNotifiedValue = 0 ∧ Agreed w

/-- What a publish in flight to the device may carry. Never token 0. While the cycle's
token is fresh, not that token. During the wait, that token only on an answer to the
cycle's report, after the shadow applied it: the accepted answer with the shadow's state,
or a rejected answer when the reported state agrees. -/
def Carried (pf : Platform) (w : World) (m : Response) : Prop :=
  receivedToken pf m.payload ≠ some 0 ∧
    match w.pc with
    | .format | .publish => receivedToken pf m.payload ≠ some w.ctx.ulClientToken
    | .wait => receivedToken pf m.payload = some w.ctx.ulClientToken → w.inbox = [] ∧
        ((m.topic = .accepted ∧ w.shadowReported < 10 ∧
            m.payload = acceptedAnswer w.shadowReported (tokenText w.ctx.ulClientToken)) ∨
          (m.topic = .rejected ∧ Agreed w))
    | _ => True

/-- The synchronisation invariant: no report carries token 0, every publish in flight
is `Carried`, and the phase of the loop holds. -/
def Synced (pf : Platform) (w : World) : Prop :=
  (∀ r ∈ w.inbox, reportToken pf r ≠ some 0) ∧ (∀ m ∈ w.inFlight, Carried pf w m) ∧ Phase pf w

/-! ## Tokens of the shadow's answers -/

section Answers

variable (pf : Platform)

theorem receivedToken_acceptedAnswer (v : Nat) (token : List Char) :
    receivedToken pf (acceptedAnswer v token) = some (strtoul32 pf (String.mk token)) := by
  simp [receivedToken, jsonSearch, acceptedAnswer, List.lookup]

theorem receivedToken_rejectedAnswer (token : Option (List Char)) (code : String) :
    receivedToken pf (rejectedAnswer token code) = token.map fun t => strtoul32 pf (String.mk t) := by
  cases token <;> simp [receivedToken, jsonSearch, rejectedAnswer, List.lookup]

/-- The accepted answer to a report carries the report's token. -/
theorem acceptedAnswer_token (r : Report) (v : Nat) (token : List Char)
    (hr : readReport r.payload = some (v, token)) :
    receivedToken pf (acceptedAnswer v token) = reportToken pf r := by
  rw [receivedToken_acceptedAnswer, reportToken, hr]
  rfl

/-- The rejected answer to a report carries the report's token. -/
theorem rejectedAnswer_token (r : Report) (code : String) :
    receivedToken pf (rejectedAnswer ((readReport r.payload).map Prod.snd) code) =
      reportToken pf r := by
  rw [receivedToken_rejectedAnswer, reportToken, Option.map_map]
  rfl

/-- A report the task printed with a single-digit state carries its token. -/
theorem reportToken_updateDocument (x t : UInt32) (seq : Nat) (hx : x.toNat < 10)
    (ht : t.toNat < 1000000) : reportToken pf ⟨updateDocument x t, seq⟩ = some t := by
  simp only [reportToken, readReport_updateDocument x t hx ht, Option.map_some',
    strtoul32_tokenText]

end Answers

/-! ## One step -/

section Step

variable {pf : Platform} {w w' : World}

theorem Agreed.invalid (h : Agreed w) {r : Report} {rest : List Report} (hin : w.inbox = r :: rest) :
    w.ctx.ulReportedPowerOnState = shadowexampleInvalidPowerOnState := by
  rcases h with h | ⟨-, h⟩
  · exact h
  · exact absurd (hin.symm.trans h) (List.cons_ne_nil _ _)

/-- During the wait, a publish in flight carries the cycle's token only once the shadow
has applied the report. -/
theorem Carried.not_pending {m : Response} (h : Carried pf w m) (hpc : w.pc = .wait)
    (hin : w.inbox ≠ []) : receivedToken pf m.payload ≠ some w.ctx.ulClientToken := by
  intro hm
  have := h.2
  simp only [hpc] at this
  exact hin (this hm).1

/-- Dropping publishes in flight keeps the invariant. -/
theorem Synced.shrink (h : Synced pf w) {l : List Response} (hl : ∀ m ∈ l, m ∈ w.inFlight) :
    Synced pf { w with inFlight := l } :=
  ⟨h.1, fun m hm => h.2.1 m (hl m hm), h.2.2⟩

/-- A move between the idle locations of the loop keeps the invariant. -/
theorem Synced.idle_move (h : Synced pf w) (hw : w.pc = .check ∨ w.pc = .newToken ∨ w.pc = .delay)
    {l : Location} (hl : l = .check ∨ l = .newToken ∨ l = .delay ∨ l = .clearToken) :
    Synced pf { w with pc := l } := by
  obtain ⟨hin, hfl, hph⟩ := h
  have hph' : w.ctx.ulClientToken = 0 ∧ w.ulNotifiedValue = 0 ∧ Agreed w := by
    rcases hw with hw | hw | hw <;> simpa only [Phase, hw] using hph
  refine ⟨hin, fun m hm => ⟨(hfl m hm).1, ?_⟩, ?_⟩ <;>
    rcases hl with rfl | rfl | rfl | rfl <;> simp only [Phase]
  all_goals first | trivial | exact hph' | exact hph'.2

theorem synced_check (h : Synced pf w) (hs : w.step pf .check = some w') : Synced pf w' := by
  obtain ⟨hpc, rfl⟩ := World.step_check hs
  exact h.idle_move (.inl hpc) (by split <;> simp)

theorem synced_delay (h : Synced pf w) (hs : w.step pf .delay = some w') : Synced pf w' := by
  obtain ⟨hpc, rfl⟩ := World.step_delay hs
  exact h.idle_move (.inr (.inr hpc)) (.inl rfl)

/-- The tick count gives a fresh nonzero token. -/
theorem synced_newToken {x : UInt32} (h : Synced pf w) (ha : Orderly pf w (.newToken x))
    (hs : w.step pf (.newToken x) = some w') : Synced pf w' := by
  obtain ⟨hpc, rfl⟩ := World.step_newToken hs
  obtain ⟨hin, hfl, hph⟩ := h
  obtain ⟨hx, hinx, hflx⟩ := ha
  simp only [Phase, hpc] at hph
  have hlt : (x % 1000000).toNat < 1000000 := by
    rw [UInt32.toNat_mod]
    exact Nat.mod_lt _ (by decide)
  exact ⟨hin, fun m hm => ⟨(hfl m hm).1, hflx m hm⟩, hph.2.1, hph.2.2, hx, hlt, hinx⟩

/-- `snprintf` prints the report with the current state, one digit. -/
theorem synced_format (hc : SafeState w.ctx.ulCurrentPowerOnState) (h : Synced pf w)
    (hs : w.step pf .format = some w') : Synced pf w' := by
  obtain ⟨hpc, rfl⟩ := World.step_format hs
  obtain ⟨hin, hfl, hph⟩ := h
  have hcar : ∀ m ∈ w.inFlight, Carried pf w m := hfl
  simp only [Carried, Phase, hpc] at hph hcar
  exact ⟨hin, hcar, hph.1, hph.2.1, hph.2.2.1, hph.2.2.2.1, hph.2.2.2.2, _, hc.1, rfl⟩

/-- The publish puts the cycle's report behind the reports still in the shadow's inbox. -/
theorem synced_publish {queued : Bool} (h : Synced pf w) (hs : w.step pf (.publish queued) = some w') :
    Synced pf w' := by
  obtain ⟨hpc, hs⟩ := World.step_publish hs
  obtain ⟨hin, hfl, hph⟩ := h
  have hcar : ∀ m ∈ w.inFlight, Carried pf w m := hfl
  simp only [Carried, Phase, hpc] at hph hcar
  obtain ⟨hN, hag, hT, hlt, hold, x, hx, hbuf⟩ := hph
  rcases hs with ⟨-, rfl⟩ | ⟨-, rfl⟩
  · have hr : reportToken pf ⟨w.pcUpdateDocument, w.reports + 1⟩ = some w.ctx.ulClientToken := by
      rw [hbuf]
      exact reportToken_updateDocument pf x _ _ hx hlt
    refine ⟨?_, fun m hm => ⟨(hcar m hm).1, fun hmt => absurd hmt (hcar m hm).2⟩,
      hlt, .inl hN, .inr ⟨w.inbox, x, w.reports + 1, by rw [hbuf], hx, hold, hN, ?_⟩⟩
    · intro r hr'
      rcases List.mem_append.mp hr' with hr' | hr'
      · exact hin r hr'
      · rw [List.mem_singleton.mp hr', hr]
        exact fun he => hT (Option.some_injective _ he)
    · rcases hag with hag | ⟨hS, hnil⟩
      · exact .inl hag
      · exact .inr ⟨hS, hnil⟩
  · exact ⟨hin, fun m hm => ⟨(hcar m hm).1, trivial⟩, hN, hag⟩

/-- The wait returns only after a notification, which comes once the reported state
agrees. -/
theorem synced_take (h : Synced pf w) (hs : w.step pf .take = some w') : Synced pf w' := by
  obtain ⟨hw, rfl⟩ := World.step_take hs
  obtain ⟨hin, hfl, hph⟩ := h
  simp only [Phase, hw.1] at hph
  obtain ⟨hN, hag⟩ := hph.2.1.resolve_left hw.2
  refine ⟨hin, fun m hm => ⟨(hfl m hm).1, trivial⟩, ?_, hag⟩
  show w.ulNotifiedValue - 1 = 0
  rw [hN]
  rfl

theorem synced_timeout (h : Synced pf w) (hs : w.step pf .timeout = some w') : Synced pf w' := by
  obtain ⟨hw, rfl⟩ := World.step_timeout hs
  exact ⟨h.1, fun m hm => ⟨(h.2.1 m hm).1, trivial⟩, hw.2⟩

/-- The timeout path stores the sentinel. -/
theorem synced_timedOut (h : Synced pf w) (hs : w.step pf .timedOut = some w') : Synced pf w' := by
  obtain ⟨hpc, rfl⟩ := World.step_timedOut hs
  obtain ⟨hin, hfl, hph⟩ := h
  simp only [Phase, hpc] at hph
  exact ⟨hin, fun m hm => ⟨(hfl m hm).1, trivial⟩, hph, .inl rfl⟩

theorem synced_clearToken (h : Synced pf w) (hs : w.step pf .clearToken = some w') :
    Synced pf w' := by
  obtain ⟨hpc, rfl⟩ := World.step_clearToken hs
  obtain ⟨hin, hfl, hph⟩ := h
  simp only [Phase, hpc] at hph
  exact ⟨hin, fun m hm => ⟨(hfl m hm).1, trivial⟩, rfl, hph⟩

/-- A delta writes only the current state, which the invariant does not mention. -/
theorem synced_delta {p : Publish} (h : Synced pf w) (hs : w.step pf (.delta p) = some w') :
    Synced pf w' := by
  obtain ⟨-, u, c, rfl, -⟩ := World.step_delta hs
  exact h

/-- A late SUBACK with `MQTTSuccess` clears the notification value. -/
theorem synced_subscribeAck {code : UInt32} (h : Synced pf w) (ha : Orderly pf w (.subscribeAck code))
    (hs : w.step pf (.subscribeAck code) = some w') : Synced pf w' := by
  obtain ⟨-, rfl⟩ := World.step_subscribeAck hs
  obtain ⟨hin, hfl, hph⟩ := h
  refine ⟨hin, hfl, ?_⟩
  have hc : code = 0 := ha
  subst hc
  cases hpc : w.pc <;> simp only [Phase, hpc, Queued, true_and, true_or] at hph ⊢
  case check | newToken | delay => exact ⟨hph.1, hph.2.2⟩
  case format | publish | clearToken => exact hph.2
  case wait =>
    exact ⟨hph.1, hph.2.2.imp_right fun ⟨old, x, seq, h1, h2, h3, _, h5⟩ =>
      ⟨old, x, seq, h1, h2, h3, h5⟩⟩

/-- The shadow applies the oldest report of the inbox. If it is the cycle's own report, it
is the last one; otherwise the reported state is the sentinel and the cycle's report
stays queued behind the rest. -/
theorem Queued.pop (hq : Queued pf w) {r : Report} {rest : List Report} (hin : w.inbox = r :: rest) :
    (rest = [] ∧ ∃ x : UInt32, x.toNat < 10 ∧ r.payload = updateDocument x w.ctx.ulClientToken ∧
        w.ulNotifiedValue = 0 ∧
        (w.ctx.ulReportedPowerOnState = shadowexampleInvalidPowerOnState ∨
          w.ctx.ulReportedPowerOnState.toNat = w.shadowReported)) ∨
      (rest ≠ [] ∧ w.ctx.ulReportedPowerOnState = shadowexampleInvalidPowerOnState ∧
        reportToken pf r ≠ some w.ctx.ulClientToken ∧
        ∀ S' l, Queued pf { w with shadowReported := S', inbox := rest, inFlight := l }) := by
  obtain ⟨old, x, seq, hold, hx, htok, hN, hR⟩ := hq
  rw [hin] at hold
  cases old with
  | nil =>
    obtain ⟨rfl, rfl⟩ := List.cons_eq_cons.mp hold
    exact .inl ⟨rfl, x, hx, rfl, hN, hR.imp_right And.left⟩
  | cons o old' =>
    obtain ⟨rfl, rfl⟩ := List.cons_eq_cons.mp hold
    have hinv := hR.resolve_right fun h => List.cons_ne_nil _ _ h.2
    exact .inr ⟨List.append_ne_nil_of_right_ne_nil _ (List.cons_ne_nil _ _), hinv,
      htok r (List.mem_cons_self _ _), fun _ _ =>
      ⟨old', x, seq, rfl, hx, fun r' hr' => htok r' (List.mem_cons_of_mem _ hr'), hN, .inl hinv⟩⟩

/-- The shadow applies or drops a report that is not the cycle's own: the reported state
is then the sentinel, and the answer carries another token. -/
theorem synced_pop_stale (h : Synced pf w) {r : Report} {rest : List Report}
    (hin : w.inbox = r :: rest) {a : Response} (ha : receivedToken pf a.payload = reportToken pf r)
    (S' : Nat) (hstale : w.pc = .wait →
      w.ctx.ulReportedPowerOnState = shadowexampleInvalidPowerOnState ∧
        reportToken pf r ≠ some w.ctx.ulClientToken ∧
        Queued pf { w with shadowReported := S', inbox := rest, inFlight := w.inFlight ++ [a] }) :
    Synced pf { w with shadowReported := S', inbox := rest, inFlight := w.inFlight ++ [a] } := by
  obtain ⟨hin0, hfl, hph⟩ := h
  have hr : r ∈ w.inbox := hin ▸ List.mem_cons_self _ _
  have hrest : ∀ r' ∈ rest, r' ∈ w.inbox := fun r' h' => hin ▸ List.mem_cons_of_mem _ h'
  have hne : w.inbox ≠ [] := hin ▸ List.cons_ne_nil _ _
  have hinv : Agreed w → w.ctx.ulReportedPowerOnState = shadowexampleInvalidPowerOnState :=
    fun hag => hag.invalid hin
  refine ⟨fun r' h' => hin0 r' (hrest r' h'), fun m hm => ?_, ?_⟩
  · rcases List.mem_append.mp hm with hm | hm
    · have h2 := (hfl m hm).2
      refine ⟨(hfl m hm).1, ?_⟩
      cases hpc : w.pc <;> simp only [hpc] at h2 ⊢
      case format | publish => exact h2
      case wait => exact fun hmt => absurd hmt ((hfl m hm).not_pending hpc hne)
    · -- the answer carries the token of the report, which is not the cycle's
      rw [List.mem_singleton.mp hm]
      refine ⟨ha ▸ hin0 r hr, ?_⟩
      cases hpc : w.pc <;> simp only [Phase, hpc] at hph ⊢
      case format => exact ha ▸ hph.2.2.2.2 r hr
      case publish => exact ha ▸ hph.2.2.2.2.1 r hr
      case wait => exact fun hmt => absurd (ha ▸ hmt) (hstale hpc).2.1
  · -- the reported state is the sentinel wherever `Agreed` is asked for
    cases hpc : w.pc <;> simp only [Phase, hpc] at hph ⊢
    case check | newToken | delay => exact ⟨hph.1, hph.2.1, .inl (hinv hph.2.2)⟩
    case format =>
      exact ⟨hph.1, .inl (hinv hph.2.1), hph.2.2.1, hph.2.2.2.1,
        fun r' h' => hph.2.2.2.2 r' (hrest r' h')⟩
    case publish =>
      exact ⟨hph.1, .inl (hinv hph.2.1), hph.2.2.1, hph.2.2.2.1,
        fun r' h' => hph.2.2.2.2.1 r' (hrest r' h'), hph.2.2.2.2.2⟩
    case wait =>
      exact ⟨hph.1, .inl (let ⟨_, _, _, _, _, _, hN, _⟩ := (hstale hpc).2.2; hN),
        .inr (hstale hpc).2.2⟩
    case timedOut => exact hph
    case clearToken => exact ⟨hph.1, .inl (hinv hph.2)⟩

/-- The shadow applies or drops the cycle's own report, the last of its inbox, and
answers with `a`. -/
theorem synced_pop_last (h : Synced pf w) (hpc : w.pc = .wait) {r : Report}
    (hin : w.inbox = [r]) (hlt : w.ctx.ulClientToken.toNat < 1000000) (hN : w.ulNotifiedValue = 0)
    {a : Response} (S' : Nat) (ha : receivedToken pf a.payload = reportToken pf r)
    (hcar : receivedToken pf a.payload = some w.ctx.ulClientToken →
      (a.topic = .accepted ∧ S' < 10 ∧
          a.payload = acceptedAnswer S' (tokenText w.ctx.ulClientToken)) ∨
        (a.topic = .rejected ∧
          Agreed { w with shadowReported := S', inbox := [], inFlight := w.inFlight ++ [a] })) :
    Synced pf { w with shadowReported := S', inbox := [], inFlight := w.inFlight ++ [a] } := by
  obtain ⟨hin0, hfl, -⟩ := h
  have hne : w.inbox ≠ [] := hin ▸ List.cons_ne_nil _ _
  refine ⟨fun _ h' => absurd h' (List.not_mem_nil _), fun m hm => ?_, ?_⟩
  · rcases List.mem_append.mp hm with hm | hm
    · refine ⟨(hfl m hm).1, ?_⟩
      simp only [hpc]
      exact fun hmt => absurd hmt ((hfl m hm).not_pending hpc hne)
    · rw [List.mem_singleton.mp hm]
      refine ⟨ha ▸ hin0 r (by rw [hin]; exact List.mem_singleton_self _), ?_⟩
      simp only [hpc]
      exact fun hmt => ⟨trivial, hcar hmt⟩
  · simp only [Phase, hpc]
    exact ⟨hlt, .inl hN, .inl trivial⟩

/-- The shadow takes the oldest report `r` off its inbox and answers with `a`, which carries
the report's token, and then holds `S'`. When `r` is the cycle's own report, the last one
of the inbox during the wait, `hown` says what the answer carries. -/
theorem synced_pop (h : Synced pf w) {r : Report} {rest : List Report} (hin : w.inbox = r :: rest)
    {a : Response} (ha : receivedToken pf a.payload = reportToken pf r) (S' : Nat)
    (hown : w.pc = .wait → rest = [] → w.ctx.ulClientToken.toNat < 1000000 →
      ∀ x : UInt32, x.toNat < 10 → r.payload = updateDocument x w.ctx.ulClientToken →
      (w.ctx.ulReportedPowerOnState = shadowexampleInvalidPowerOnState ∨
        w.ctx.ulReportedPowerOnState.toNat = w.shadowReported) →
      (a.topic = .accepted ∧ S' < 10 ∧
          a.payload = acceptedAnswer S' (tokenText w.ctx.ulClientToken)) ∨
        (a.topic = .rejected ∧
          Agreed { w with shadowReported := S', inbox := [], inFlight := w.inFlight ++ [a] })) :
    Synced pf { w with shadowReported := S', inbox := rest, inFlight := w.inFlight ++ [a] } := by
  have hq : w.pc = .wait → w.ctx.ulClientToken.toNat < 1000000 ∧ Queued pf w := fun hpc => by
    have hph := h.2.2
    simp only [Phase, hpc] at hph
    exact ⟨hph.1, hph.2.2.resolve_left (hin ▸ List.cons_ne_nil _ _)⟩
  by_cases hlast : w.pc = .wait ∧ rest = []
  · obtain ⟨hpc, rfl⟩ := hlast
    obtain ⟨hlt, hq⟩ := hq hpc
    rcases hq.pop hin with ⟨-, x, hx, hpay, hN, hR⟩ | ⟨hrest, -⟩
    · exact synced_pop_last h hpc hin hlt hN S' ha fun _ => hown hpc rfl hlt x hx hpay hR
    · exact absurd rfl hrest
  · refine synced_pop_stale h hin ha S' fun hpc => ?_
    rcases (hq hpc).2.pop hin with ⟨hrest, -⟩ | ⟨-, hR, htok, hq'⟩
    · exact absurd ⟨hpc, hrest⟩ hlast
    · exact ⟨hR, htok, hq' _ _⟩

/-- The shadow service applies the oldest report and answers on `/update/accepted`. -/
theorem synced_shadowAccept (h : Synced pf w) (hs : w.step pf .shadowAccept = some w') :
    Synced pf w' := by
  obtain ⟨r, rest, v, token, hin, hr, rfl⟩ := World.step_shadowAccept hs
  refine synced_pop h hin (acceptedAnswer_token pf r v token hr) v
    fun _ _ hlt x hx hpay _ => .inl ⟨rfl, ?_⟩
  -- the cycle's own report reads back as the state and the token it was printed with
  rw [hpay, readReport_updateDocument x _ hx hlt] at hr
  obtain ⟨rfl, rfl⟩ := Prod.mk.inj (Option.some_injective _ hr)
  exact ⟨hx, rfl⟩

/-- The shadow service drops the oldest report and answers on `/update/rejected`. -/
theorem synced_shadowReject {code : String} (h : Synced pf w)
    (hs : w.step pf (.shadowReject code) = some w') : Synced pf w' := by
  obtain ⟨r, rest, hin, rfl⟩ := World.step_shadowReject hs
  exact synced_pop h hin (rejectedAnswer_token pf r code) w.shadowReported
    fun _ _ _ _ _ _ hR => .inr ⟨rfl, hR.imp_right fun hS => ⟨hS, rfl⟩⟩

/-- A response callback runs on a publish in flight, and the publishes left in flight are
among those before. On the cycle's answer, which comes while the task waits with nothing
pending, the accepted callback stores the shadow's state. -/
theorem synced_respond (h : Synced pf w) {m : Response} (hm : m ∈ w.inFlight)
    (hord : receivedToken pf m.payload = some w.ctx.ulClientToken →
      w.pc = .wait ∧ w.ulNotifiedValue = 0)
    {l : List Response} (hl : ∀ m' ∈ l, m' ∈ w.inFlight) :
    Synced pf (World.respond pf { w with inFlight := l } m.topic m.payload m.origin) := by
  by_cases hmt : receivedToken pf m.payload = some w.ctx.ulClientToken
  · obtain ⟨hpc, hN⟩ := hord hmt
    obtain ⟨hin0, hfl, hph⟩ := h
    have hcar := (hfl m hm).2
    simp only [hpc] at hcar
    simp only [Phase, hpc] at hph
    obtain ⟨hnil, ⟨htop, hS, hpay⟩ | ⟨htop, hag⟩⟩ := hcar hmt
    · rw [htop, hpay, World.respond_acceptedAnswer _ _ _ (strtoul32_tokenText pf _)]
      have hR : (strtoul32 pf (String.mk (Nat.toDigits 10 w.shadowReported))).toNat =
          w.shadowReported := strtoul32_toDigits pf _ (by omega)
      refine ⟨hin0, fun m' hm' => ⟨(hfl m' (hl m' hm')).1, ?_⟩, ?_⟩
      · have h2 := (hfl m' (hl m' hm')).2
        simp only [hpc] at h2 ⊢
        exact fun hmt' => ⟨(h2 hmt').1, (h2 hmt').2.imp_right fun ⟨ht, _⟩ => ⟨ht, .inr ⟨hR, hnil⟩⟩⟩
      · simp only [Phase, hpc]
        rw [hN]
        exact ⟨hph.1, .inr ⟨rfl, .inr ⟨hR, hnil⟩⟩, .inl hnil⟩
    · rw [htop, @World.respond_rejected_of_eq pf { w with inFlight := l } _ _ hmt]
      refine ⟨hin0, fun m' hm' => hfl m' (hl m' hm'), ?_⟩
      simp only [Phase, hpc]
      rw [hN]
      exact ⟨hph.1, .inr ⟨rfl, hag⟩, .inl hnil⟩
  · rw [@World.respond_of_ne pf { w with inFlight := l } _ _ _ hmt]
    exact h.shrink hl

theorem synced_deliver {i : Nat} (h : Synced pf w) (ha : Orderly pf w (.deliver i))
    (hs : w.step pf (.deliver i) = some w') : Synced pf w' := by
  obtain ⟨m, hm, rfl⟩ := World.step_deliver hs
  exact synced_respond h (List.getElem?_mem hm) (ha m hm) fun _ => List.mem_of_mem_eraseIdx

theorem synced_duplicate {i : Nat} (h : Synced pf w) (ha : Orderly pf w (.duplicate i))
    (hs : w.step pf (.duplicate i) = some w') : Synced pf w' := by
  obtain ⟨m, hm, rfl⟩ := World.step_duplicate hs
  exact synced_respond h (l := w.inFlight) (List.getElem?_mem hm) (ha m hm) fun _ h => h

theorem synced_lose {i : Nat} (h : Synced pf w) (hs : w.step pf (.lose i) = some w') :
    Synced pf w' := by
  obtain ⟨-, rfl⟩ := World.step_lose hs
  exact h.shrink fun _ => List.mem_of_mem_eraseIdx

/-- Only a delta writes the current state, and on orderly schedules it writes a state that
`SafeState` admits. -/
theorem safeState_step {a : Action} (hc : SafeState w.ctx.ulCurrentPowerOnState)
    (ha : Orderly pf w a) (hs : w.step pf a = some w') : SafeState w'.ctx.ulCurrentPowerOnState := by
  rcases World.current_step hs with ⟨hc', -⟩ | ⟨p, rfl⟩
  · rwa [hc']
  · obtain ⟨-, u, c, rfl, hc' | ⟨s, hs', rfl⟩⟩ := World.step_delta hs
    · rwa [hc']
    · exact ha s hs'

/-- One orderly step keeps the invariant. -/
theorem synced_step {a : Action} (hc : SafeState w.ctx.ulCurrentPowerOnState) (h : Synced pf w)
    (ha : Orderly pf w a) (hs : w.step pf a = some w') : Synced pf w' := by
  cases a with
  | check => exact synced_check h hs
  | newToken => exact synced_newToken h ha hs
  | format => exact synced_format hc h hs
  | publish => exact synced_publish h hs
  | take => exact synced_take h hs
  | timeout => exact synced_timeout h hs
  | timedOut => exact synced_timedOut h hs
  | clearToken => exact synced_clearToken h hs
  | delay => exact synced_delay h hs
  | subscribeAck => exact synced_subscribeAck h ha hs
  | delta => exact synced_delta h hs
  | stray => exact ha.elim
  | shadowAccept => exact synced_shadowAccept h hs
  | shadowReject => exact synced_shadowReject h hs
  | deliver => exact synced_deliver h ha hs
  | duplicate => exact synced_duplicate h ha hs
  | lose => exact synced_lose h hs

end Step

/-! ## Whole runs -/

/-- Every world an orderly schedule reaches from a synced world with a safe current state
is synced and has a safe current state. -/
theorem synced_reaches {pf : Platform} {w₀ w : World} (hc₀ : SafeState w₀.ctx.ulCurrentPowerOnState)
    (h₀ : Synced pf w₀) (hr : Reaches pf (Orderly pf) w₀ w) :
    SafeState w.ctx.ulCurrentPowerOnState ∧ Synced pf w :=
  hr.induction (P := fun w => SafeState w.ctx.ulCurrentPowerOnState ∧ Synced pf w) ⟨hc₀, h₀⟩
    fun _ _ _ ⟨hc, h⟩ ha hs => ⟨safeState_step hc ha hs, synced_step hc h ha hs⟩

/-- On orderly schedules from the task's start the current state is always one that
`SafeState` admits. -/
theorem safeState_reaches {pf : Platform} {v : Nat} {o : SubscribeOutcome} {w : World}
    (hr : Reaches pf (Orderly pf) (World.initial v o) w) : SafeState w.ctx.ulCurrentPowerOnState :=
  hr.induction (P := fun w => SafeState w.ctx.ulCurrentPowerOnState) (show SafeState 0 by decide)
    fun _ _ _ hc ha hs => safeState_step hc ha hs

/-- Both starts keep the invariant: the task's own with a shadow at 0, and the documented
one with any shadow. -/
theorem synced_start (pf : Platform) (v : Nat) (o : SubscribeOutcome) :
    Synced pf (World.initial 0 o) ∧ Synced pf (World.documentedInitial v o) :=
  ⟨⟨fun _ h => absurd h (List.not_mem_nil _), fun _ h => absurd h (List.not_mem_nil _),
      rfl, rfl, .inr ⟨rfl, rfl⟩⟩,
    ⟨fun _ h => absurd h (List.not_mem_nil _), fun _ h => absurd h (List.not_mem_nil _),
      rfl, rfl, .inl rfl⟩⟩

/-- A synced world whose check takes the no-change branch has a shadow that holds the
current state. -/
theorem Synced.skip {pf : Platform} {w w' : World} (hc : SafeState w.ctx.ulCurrentPowerOnState)
    (h : Synced pf w) (hs : w.step pf .check = some w') (hskip : w'.pc = .delay) :
    w.shadowReported = w.ctx.ulCurrentPowerOnState.toNat := by
  obtain ⟨hpc, rfl⟩ := World.step_check hs
  have hph := h.2.2
  simp only [Phase, hpc] at hph
  split at hskip
  · rename_i heq
    rcases hph.2.2 with hR | ⟨hR, -⟩
    · exact absurd (heq.trans hR) hc.2
    · rw [heq, hR]
  · cases hskip

/-- The intended property of a skipped report: from the context the task builds and a
shadow that holds `v`, a check that takes the no-change branch finds the shadow holding
the current state. -/
def SkipsOnlyReported (pf : Platform) (v : Nat) : Prop :=
  ∀ o w w', Reaches pf NoStray (World.initial v o) w → w.step pf .check = some w' →
    w'.pc = .delay → w.shadowReported = w.ctx.ulCurrentPowerOnState.toNat

/-- The property fails from the start on every platform when the shadow holds 1: the first
check compares 0 with 0. It fails on the board even with a shadow that holds 0: the
answer to the first report is delivered twice, the second cycle's wait returns on the
leftover notification, and the shadow then applies the second report (state 0) while the
third check finds state 1 reported. -/
theorem skipsOnlyReported_false :
    (∀ pf, ¬ SkipsOnlyReported pf 1) ∧ ¬ SkipsOnlyReported Platform.cortexM33 0 := by
  refine ⟨fun pf h => absurd (h .subscribed _ _ .refl rfl rfl) (by decide), fun h => ?_⟩
  have hrun : (World.initial 0 .subscribed).runIn Platform.cortexM33 NoStray
      [.delta ⟨true, [("version", "1"), ("state.powerOn", "1")]⟩, .check, .newToken 1111,
        .format, .publish true, .shadowAccept, .duplicate 0, .deliver 0, .take, .clearToken,
        .delay, .delta ⟨true, [("version", "2"), ("state.powerOn", "0")]⟩, .check,
        .newToken 2222, .format, .publish true, .take, .shadowAccept, .clearToken, .delay,
        .delta ⟨true, [("version", "3"), ("state.powerOn", "1")]⟩] = some _ := rfl
  have := h .subscribed _ _ (Reaches.of_runIn _ hrun .refl) rfl rfl
  revert this
  decide

/-- From the task's own start, with a shadow that holds 0 as the context does, every
check on an orderly schedule that takes the no-change branch finds the shadow holding the
current state. -/
theorem skip_agrees (pf : Platform) (o : SubscribeOutcome) (w w' : World)
    (hr : Reaches pf (Orderly pf) (World.initial 0 o) w) (hs : w.step pf .check = some w')
    (hskip : w'.pc = .delay) : w.shadowReported = w.ctx.ulCurrentPowerOnState.toNat := by
  obtain ⟨hc, h⟩ := synced_reaches (show SafeState 0 by decide) (synced_start pf 0 o).1 hr
  exact h.skip hc hs hskip

/-- The first cycle on the board: a delta sets state 1, the report is accepted, and the
next check skips with the shadow at 1. -/
theorem skip_agrees_run :
    let as : List Action :=
      [.delta ⟨true, [("version", "1"), ("state.powerOn", "1")]⟩, .check, .newToken 21909,
        .format, .publish true, .shadowAccept, .deliver 0, .take, .clearToken, .delay]
    ∃ w w', (World.initial 0 .subscribed).runIn Platform.cortexM33 (Orderly Platform.cortexM33)
        as = some w ∧
      w.step Platform.cortexM33 .check = some w' ∧ w'.pc = .delay ∧
      w.shadowReported = w.ctx.ulCurrentPowerOnState.toNat := by
  intro as
  have hrun : (World.initial 0 .subscribed).runIn Platform.cortexM33 (Orderly Platform.cortexM33)
      as = some _ := rfl
  exact ⟨_, _, hrun, rfl, rfl,
    skip_agrees Platform.cortexM33 .subscribed _ _ (Reaches.of_runIn _ hrun .refl) rfl rfl⟩

/-- From the start the comment at lines 173-175 describes, every check on an orderly
schedule that takes the no-change branch finds the shadow holding the current state,
whatever the shadow held at the start. -/
theorem skip_agrees_documented (pf : Platform) (v : Nat) (o : SubscribeOutcome) (w w' : World)
    (hr : Reaches pf (Orderly pf) (World.documentedInitial v o) w)
    (hs : w.step pf .check = some w') (hskip : w'.pc = .delay) :
    w.shadowReported = w.ctx.ulCurrentPowerOnState.toNat := by
  obtain ⟨hc, h⟩ := synced_reaches (show SafeState 0 by decide) (synced_start pf v o).2 hr
  exact h.skip hc hs hskip

/-- The documented start with a shadow at 1: the first report sends state 0, the shadow
accepts it, and the next check skips with the shadow at 0. -/
theorem skip_agrees_documented_run :
    let as : List Action :=
      [.check, .newToken 21909, .format, .publish true, .shadowAccept, .deliver 0, .take,
        .clearToken, .delay]
    ∃ w w', (World.documentedInitial 1 .subscribed).runIn Platform.cortexM33
        (Orderly Platform.cortexM33) as = some w ∧
      w.step Platform.cortexM33 .check = some w' ∧ w'.pc = .delay ∧
      w.shadowReported = w.ctx.ulCurrentPowerOnState.toNat := by
  intro as
  have hrun : (World.documentedInitial 1 .subscribed).runIn Platform.cortexM33
      (Orderly Platform.cortexM33) as = some _ := rfl
  exact ⟨_, _, hrun, rfl, rfl, skip_agrees_documented Platform.cortexM33 1 .subscribed _ _
    (Reaches.of_runIn _ hrun .refl) rfl rfl⟩

/-! ## One undisturbed cycle -/

/-- One cycle of the loop with nothing else running: the test of line 841 and, when it
finds a change, a report with the tick count `x` that the shadow applies at once, its
answer delivered, the end of the wait, the clearing of the token and the delay. -/
def quietCycle (w : World) (x : UInt32) : List Action :=
  if w.ctx.ulCurrentPowerOnState = w.ctx.ulReportedPowerOnState then [.check, .delay]
  else [.check, .newToken x, .format, .publish true, .shadowAccept, .deliver 0, .take,
    .clearToken, .delay]

/-- One undisturbed cycle brings the shadow and the task's record to the current state.
Take a world that an orderly schedule reaches from either start, with the loop at the test
of line 841, no report left in the shadow's inbox and nothing in flight. The cycle then
runs to its end, back at the test, and there the shadow and `ulReportedPowerOnState` both
hold the current state, which the cycle leaves as it was: the next test takes the
no-change branch. -/
theorem quietCycle_converges (pf : Platform) (v : Nat) (o : SubscribeOutcome) (w₀ w : World)
    (x : UInt32) (h₀ : w₀ = World.initial 0 o ∨ w₀ = World.documentedInitial v o)
    (hr : Reaches pf (Orderly pf) w₀ w) (hpc : w.pc = .check)
    (hq : w.inbox = [] ∧ w.inFlight = []) :
    ∃ w', w.run pf (quietCycle w x) = some w' ∧ w'.pc = .check ∧
      w'.ctx.ulCurrentPowerOnState = w.ctx.ulCurrentPowerOnState ∧
      w'.ctx.ulReportedPowerOnState = w.ctx.ulCurrentPowerOnState ∧
      w'.shadowReported = w.ctx.ulCurrentPowerOnState.toNat ∧ w'.inbox = [] ∧ w'.inFlight = [] := by
  have hstart : Synced pf w₀ := by
    rcases h₀ with rfl | rfl
    · exact (synced_start pf v o).1
    · exact (synced_start pf v o).2
  obtain ⟨hc, -, -, hph⟩ := synced_reaches (show SafeState w₀.ctx.ulCurrentPowerOnState by
    rcases h₀ with rfl | rfl <;> exact show SafeState 0 by decide) hstart hr
  simp only [Phase, hpc] at hph
  obtain ⟨-, hN, hag⟩ := hph
  by_cases hskip : w.ctx.ulCurrentPowerOnState = w.ctx.ulReportedPowerOnState
  · -- no change: the record is the shadow's state, which is then the current one
    have hS : w.shadowReported = w.ctx.ulCurrentPowerOnState.toNat := by
      rcases hag with hR | ⟨hR, -⟩
      · exact absurd (hskip.trans hR) hc.2
      · rw [hskip, hR]
    simp only [quietCycle, if_pos hskip, World.run, World.step, hpc, if_true,
      Option.bind_eq_bind, Option.some_bind]
    exact ⟨_, rfl, rfl, rfl, hskip.symm, hS, hq.1, hq.2⟩
  · -- a change: the report fits, the shadow applies it, and its answer carries the token
    have hlt : (x % 1000000).toNat < 10 ^ 6 := by
      rw [UInt32.toNat_mod]
      exact Nat.mod_lt _ (by decide)
    have hone : (0 + 1 : UInt32) ≠ 0 := by decide
    simp only [quietCycle, hskip, if_false, World.run, World.step, hpc, hq.1, hq.2, if_true,
      List.nil_append, readReport_updateDocument _ _ hc.1 hlt, Option.bind_eq_bind,
      Option.some_bind, Option.map_some', List.getElem?_cons_zero, List.eraseIdx_cons_zero,
      World.respond_acceptedAnswer _ _ _ (strtoul32_tokenText pf _), hN, hone, and_self]
    exact ⟨_, rfl, rfl, rfl, strtoul32_toDigits_self pf _, rfl, rfl, rfl⟩

/-- The board after a delta sets state 1: one undisturbed cycle brings the shadow and the
record to 1. -/
theorem quietCycle_converges_board :
    let as : List Action := [.delta ⟨true, [("version", "1"), ("state.powerOn", "1")]⟩]
    ∃ w, (World.initial 0 .subscribed).runIn Platform.cortexM33 (Orderly Platform.cortexM33)
        as = some w ∧
      ∃ w', w.run Platform.cortexM33 (quietCycle w 21909) = some w' ∧ w'.pc = .check ∧
        w'.ctx.ulCurrentPowerOnState = w.ctx.ulCurrentPowerOnState ∧
        w'.ctx.ulReportedPowerOnState = w.ctx.ulCurrentPowerOnState ∧
        w'.shadowReported = w.ctx.ulCurrentPowerOnState.toNat ∧ w'.inbox = [] ∧
        w'.inFlight = [] := by
  intro as
  have hrun : (World.initial 0 .subscribed).runIn Platform.cortexM33 (Orderly Platform.cortexM33)
      as = some _ := rfl
  exact ⟨_, hrun, quietCycle_converges Platform.cortexM33 0 .subscribed _ _ 21909 (.inl rfl)
    (Reaches.of_runIn _ hrun .refl) rfl ⟨rfl, rfl⟩⟩

end ShadowDevice
