import ShadowDevice.Sync

/-!
# `ShadowDevice.Integrity`: where the reported states come from

The shadow service takes its reported `powerOn` only from the reports the task publishes,
and the task takes its record of it, `ulReportedPowerOnState`, only from the service's
answers and from the timeout path. This module follows both values back to the loop, over
every run from the task's start.

`Printed pf w₀ as x` says that the loop read the current state `x` at one of the
`snprintf` steps of the run `as` (line 857), so that the report of that cycle was printed
with `x`. `Sourced` is the invariant. The shadow holds its initial value or a printed
one-digit state. Every report the service has not applied is a buffer printed with a
printed state, and so is the buffer whenever the loop is about to publish it. Every answer
in flight on `/update/accepted` carries a printed one-digit state. The service reads a
report only when the printed document fits the buffer (`readReport_updateDocument_eq`), so
a report that `snprintf` cut short never reaches the shadow's state.

`shadow_printed` holds on every schedule: answers held back, copied or lost, and publishes
of other clients on the response topics, change nothing in it. `reported_printed` follows
the task's record on the schedules without publishes of other clients: it is 0, the
sentinel, or a printed one-digit state. Such a publish can store any value there
(`takeFollowsAnswer_false` shows one waking the task).
-/

set_option autoImplicit false

namespace ShadowDevice

/-- The loop read the current state `x` at one of the `snprintf` steps of the run `as`
from `w₀` (line 857): the report of that cycle was printed with `x`. -/
def Printed (pf : Platform) (w₀ : World) (as : List Action) (x : UInt32) : Prop :=
  ∃ k < as.length, as[k]? = some .format ∧
    (w₀.run pf (as.take k)).map (fun u => u.ctx.ulCurrentPowerOnState) = some x

instance (pf : Platform) (w₀ : World) (as : List Action) (x : UInt32) :
    Decidable (Printed pf w₀ as x) :=
  inferInstanceAs (Decidable (∃ k < as.length, _))

section Printed

variable {pf : Platform} {w₀ : World} {as : List Action}

theorem Printed.concat {x : UInt32} (h : Printed pf w₀ as x) (a : Action) :
    Printed pf w₀ (as ++ [a]) x := by
  obtain ⟨k, hk, ha, hx⟩ := h
  refine ⟨k, by simp only [List.length_append, List.length_singleton]; omega, ?_, ?_⟩
  · rw [List.getElem?_append_left hk, ha]
  · rw [List.take_append_of_le_length hk.le, hx]

/-- The state the loop reads at a `snprintf` step is printed. -/
theorem printed_format {w : World} (h : w₀.run pf as = some w) :
    Printed pf w₀ (as ++ [.format]) w.ctx.ulCurrentPowerOnState :=
  ⟨as.length, by simp, List.getElem?_concat_length _ _, by rw [List.take_left' rfl, h]; rfl⟩

end Printed

/-! ## The shadow's state -/

/-- Everything on the way to the shadow's state comes from the task's reports. -/
structure Sourced (pf : Platform) (w₀ : World) (as : List Action) (w : World) : Prop where
  /-- The shadow holds its initial value or a printed one-digit state. -/
  shadow : w.shadowReported = w₀.shadowReported ∨
    ∃ x, Printed pf w₀ as x ∧ x.toNat < 10 ∧ w.shadowReported = x.toNat
  /-- Every report the service has not applied was printed with a printed state. -/
  inbox : ∀ r ∈ w.inbox, ∃ x t, Printed pf w₀ as x ∧ r.payload = updateDocument x t
  /-- About to publish, the buffer is a report printed with a printed state. -/
  buffer : w.pc = .publish →
    ∃ x t, Printed pf w₀ as x ∧ w.pcUpdateDocument = updateDocument x t
  /-- Every answer in flight on `/update/accepted` carries a printed one-digit state. -/
  answers : ∀ m ∈ w.inFlight, m.topic = .accepted →
    ∃ x token, Printed pf w₀ as x ∧ x.toNat < 10 ∧ m.payload = acceptedAnswer x.toNat token

section Sourced

variable {pf : Platform} {w₀ : World} {as : List Action} {w w' : World}

theorem Sourced.concat (h : Sourced pf w₀ as w) (a : Action) : Sourced pf w₀ (as ++ [a]) w where
  shadow := h.shadow.imp_right fun ⟨x, hx, hlt, he⟩ => ⟨x, hx.concat a, hlt, he⟩
  inbox r hr := let ⟨x, t, hx, he⟩ := h.inbox r hr; ⟨x, t, hx.concat a, he⟩
  buffer hpc := let ⟨x, t, hx, he⟩ := h.buffer hpc; ⟨x, t, hx.concat a, he⟩
  answers m hm ht :=
    let ⟨x, token, hx, hlt, he⟩ := h.answers m hm ht; ⟨x, token, hx.concat a, hlt, he⟩

/-- A step that keeps the shadow and its inbox, keeps or drops answers in flight, and
stands at the publish only if it stood there with the same buffer, keeps the invariant. -/
theorem Sourced.of_frame (h : Sourced pf w₀ as w) (hS : w'.shadowReported = w.shadowReported)
    (hI : w'.inbox = w.inbox) (hF : ∀ m ∈ w'.inFlight, m ∈ w.inFlight)
    (hB : w'.pc = .publish → w.pc = .publish ∧ w'.pcUpdateDocument = w.pcUpdateDocument) :
    Sourced pf w₀ as w' where
  shadow := hS ▸ h.shadow
  inbox := hI ▸ h.inbox
  buffer hpc := (hB hpc).2 ▸ h.buffer (hB hpc).1
  answers m hm := h.answers m (hF m hm)

/-- The shadow applies the oldest report: it can read it only as the one-digit state it
was printed with, and it answers with that state. -/
theorem Sourced.shadowAccept (h : Sourced pf w₀ as w) (hs : w.step pf .shadowAccept = some w') :
    Sourced pf w₀ as w' := by
  obtain ⟨r, rest, v, token, hin, hr, rfl⟩ := World.step_shadowAccept hs
  obtain ⟨x, t, hx, hpay⟩ := h.inbox r (hin ▸ List.mem_cons_self _ _)
  rw [hpay, readReport_updateDocument_eq] at hr
  split at hr
  next hfit =>
    obtain ⟨rfl, rfl⟩ := Prod.mk.inj (Option.some_injective _ hr)
    refine ⟨.inr ⟨x, hx, hfit.1, rfl⟩, fun r' hr' => h.inbox r' (hin ▸ List.mem_cons_of_mem _ hr'),
      h.buffer, fun m hm htop => ?_⟩
    rcases List.mem_append.mp hm with hm | hm
    · exact h.answers m hm htop
    · rw [List.mem_singleton.mp hm]
      exact ⟨x, _, hx, hfit.1, rfl⟩
  next => cases hr

theorem Sourced.step {a : Action} (h : Sourced pf w₀ as w)
    (hfmt : a = .format → Printed pf w₀ as w.ctx.ulCurrentPowerOnState)
    (hs : w.step pf a = some w') : Sourced pf w₀ as w' := by
  cases a with
  | format =>
    obtain ⟨-, rfl⟩ := World.step_format hs
    exact ⟨h.shadow, h.inbox, fun _ => ⟨_, _, hfmt rfl, rfl⟩, h.answers⟩
  | publish queued =>
    obtain ⟨hpc, ⟨-, rfl⟩ | ⟨-, rfl⟩⟩ := World.step_publish hs
    · -- the report joins the inbox
      obtain ⟨x, t, hx, hbuf⟩ := h.buffer hpc
      refine ⟨h.shadow, fun r hr => ?_, nofun, h.answers⟩
      rcases List.mem_append.mp hr with hr | hr
      · exact h.inbox r hr
      · rw [List.mem_singleton.mp hr]
        exact ⟨x, t, hx, hbuf⟩
    · exact ⟨h.shadow, h.inbox, nofun, h.answers⟩
  | shadowAccept => exact h.shadowAccept hs
  | shadowReject =>
    obtain ⟨r, rest, hin, rfl⟩ := World.step_shadowReject hs
    refine ⟨h.shadow, fun r' hr' => h.inbox r' (hin ▸ List.mem_cons_of_mem _ hr'), h.buffer,
      fun m hm htop => ?_⟩
    rcases List.mem_append.mp hm with hm | hm
    · exact h.answers m hm htop
    · rw [List.mem_singleton.mp hm] at htop
      cases htop
  -- the network and the callbacks keep the rest
  | deliver i =>
    obtain ⟨m, -, rfl⟩ := World.step_deliver hs
    exact h.of_frame rfl rfl (fun _ hm => List.mem_of_mem_eraseIdx hm) fun hp => ⟨hp, rfl⟩
  | lose i =>
    obtain ⟨-, rfl⟩ := World.step_lose hs
    exact h.of_frame rfl rfl (fun _ hm => List.mem_of_mem_eraseIdx hm) fun hp => ⟨hp, rfl⟩
  | duplicate i =>
    obtain ⟨m, -, rfl⟩ := World.step_duplicate hs
    exact h.of_frame rfl rfl (fun _ => id) fun hp => ⟨hp, rfl⟩
  | stray topic p =>
    cases hs
    exact h.of_frame rfl rfl (fun _ => id) fun hp => ⟨hp, rfl⟩
  | delta p =>
    obtain ⟨-, u, c, rfl, -⟩ := World.step_delta hs
    exact h.of_frame rfl rfl (fun _ => id) fun hp => ⟨hp, rfl⟩
  | subscribeAck code =>
    obtain ⟨-, rfl⟩ := World.step_subscribeAck hs
    exact h.of_frame rfl rfl (fun _ => id) fun hp => ⟨hp, rfl⟩
  -- the other moves of the loop never reach the publish
  | check =>
    obtain ⟨-, rfl⟩ := World.step_check hs
    exact h.of_frame rfl rfl (fun _ => id) fun hp => by split at hp <;> cases hp
  | newToken x =>
    obtain ⟨-, rfl⟩ := World.step_newToken hs
    exact h.of_frame rfl rfl (fun _ => id) nofun
  | take =>
    obtain ⟨-, rfl⟩ := World.step_take hs
    exact h.of_frame rfl rfl (fun _ => id) nofun
  | timeout =>
    obtain ⟨-, rfl⟩ := World.step_timeout hs
    exact h.of_frame rfl rfl (fun _ => id) nofun
  | timedOut =>
    obtain ⟨-, rfl⟩ := World.step_timedOut hs
    exact h.of_frame rfl rfl (fun _ => id) nofun
  | clearToken =>
    obtain ⟨-, rfl⟩ := World.step_clearToken hs
    exact h.of_frame rfl rfl (fun _ => id) nofun
  | delay =>
    obtain ⟨-, rfl⟩ := World.step_delay hs
    exact h.of_frame rfl rfl (fun _ => id) nofun

end Sourced

/-- From a world with no report pending, nothing in flight and the loop away from the
publish, the invariant holds along every run. -/
theorem sourced_run (pf : Platform) (w₀ : World)
    (h₀ : w₀.inbox = [] ∧ w₀.inFlight = [] ∧ w₀.pc ≠ .publish) (as : List Action) :
    ∀ w, w₀.run pf as = some w → Sourced pf w₀ as w := by
  induction as using List.reverseRecOn with
  | nil =>
    intro w h
    cases h
    exact ⟨.inl rfl, by simp [h₀.1], fun hp => absurd hp h₀.2.2, by simp [h₀.2.1]⟩
  | append_singleton as a ih =>
    intro w h
    rw [World.run_concat] at h
    obtain ⟨u, hu, hs⟩ := Option.bind_eq_some.mp h
    refine ((ih u hu).concat a).step (fun ha => ?_) hs
    subst ha
    exact printed_format hu

/-- The shadow's reported state, on every schedule from the task's start: lost, copied or
reordered answers, publishes of other clients, deltas with any state. It is the value the
shadow held at the start, or a one-digit state that the loop printed into one of its
reports. A report that `snprintf` cut short, for a state of two digits or more, never
reaches it. -/
theorem shadow_printed (pf : Platform) (v : Nat) (o : SubscribeOutcome) (as : List Action)
    (w : World) (h : (World.initial v o).run pf as = some w) :
    w.shadowReported = v ∨
      ∃ x, Printed pf (World.initial v o) as x ∧ x.toNat < 10 ∧ w.shadowReported = x.toNat :=
  (sourced_run pf _ ⟨rfl, rfl, fun hp => by cases hp⟩ as w h).shadow

/-- A delta sets state 12. The report of the cycle is cut short, so the shadow rejects it
with no token and the wait times out; a later delta sets state 1, whose report the shadow
applies. -/
theorem shadow_printed_board :
    let as : List Action :=
      [.delta ⟨true, [("version", "1"), ("state.powerOn", "12")]⟩, .check, .newToken 21909,
        .format, .publish true, .shadowReject "400", .deliver 0, .timeout, .timedOut, .clearToken,
        .delay, .delta ⟨true, [("version", "2"), ("state.powerOn", "1")]⟩, .check,
        .newToken 4242, .format, .publish true, .shadowAccept]
    ∃ w, (World.initial 0 .subscribed).run Platform.cortexM33 as = some w ∧
      (w.shadowReported = 0 ∨ ∃ x, Printed Platform.cortexM33 (World.initial 0 .subscribed) as x ∧
        x.toNat < 10 ∧ w.shadowReported = x.toNat) := by
  intro as
  have hrun : (World.initial 0 .subscribed).run Platform.cortexM33 as = some _ := rfl
  exact ⟨_, hrun, shadow_printed Platform.cortexM33 0 .subscribed _ _ hrun⟩

/-! ## The task's record of the shadow -/

/-- The last reported state is its value at the start, the sentinel, or a printed
one-digit state. -/
def ReportedSourced (pf : Platform) (w₀ : World) (as : List Action) (w : World) : Prop :=
  w.ctx.ulReportedPowerOnState = w₀.ctx.ulReportedPowerOnState ∨
    w.ctx.ulReportedPowerOnState = shadowexampleInvalidPowerOnState ∨
    ∃ x, Printed pf w₀ as x ∧ x.toNat < 10 ∧ w.ctx.ulReportedPowerOnState = x

/-- A response callback keeps the last reported state, or the accepted callback stores the
`strtoul` reading of the publish's `state.reported.powerOn`. -/
theorem respond_reported (pf : Platform) (w : World) (topic : ResponseTopic) (p : Publish)
    (o : Origin) :
    (w.respond pf topic p o).ctx.ulReportedPowerOnState = w.ctx.ulReportedPowerOnState ∨
      topic = .accepted ∧ ∃ s ∈ jsonSearch p "state.reported.powerOn",
        (w.respond pf topic p o).ctx.ulReportedPowerOnState = strtoul32 pf s := by
  by_cases hm : receivedToken pf p = some w.ctx.ulClientToken
  · cases topic with
    | accepted =>
      simp only [World.respond, prvIncomingPublishUpdateAcceptedCallback,
        responseCallback_of_eq pf _ w.ctx p hm]
      split
      next s hs => exact .inr ⟨trivial, s, hs, rfl⟩
      next => exact .inl rfl
    | rejected => exact .inl (congrArg _ (rejectedCallback_ctx pf w.ctx p))
  · exact .inl (by rw [World.respond_of_ne topic p o hm])

section Reported

variable {pf : Platform} {w₀ : World} {as : List Action} {w w' : World}

theorem ReportedSourced.concat (h : ReportedSourced pf w₀ as w) (a : Action) :
    ReportedSourced pf w₀ (as ++ [a]) w :=
  h.imp_right (Or.imp_right fun ⟨x, hx, hlt, he⟩ => ⟨x, hx.concat a, hlt, he⟩)

/-- A response callback run on an answer of the shadow keeps the invariant: an accepted
answer carries a printed one-digit state, which `strtoul` reads back. -/
theorem ReportedSourced.respond (h : ReportedSourced pf w₀ as w) (hS : Sourced pf w₀ as w)
    {m : Response} (hm : m ∈ w.inFlight) (u : World) (hu : u.ctx = w.ctx) :
    ReportedSourced pf w₀ as (u.respond pf m.topic m.payload m.origin) := by
  rcases respond_reported pf u m.topic m.payload m.origin with he | ⟨htop, s, hs, he⟩
  · rw [ReportedSourced, he, hu]
    exact h
  · obtain ⟨x, token, hx, hlt, hpay⟩ := hS.answers m hm htop
    rw [hpay] at hs
    simp only [acceptedAnswer, jsonSearch, List.lookup, beq_iff_eq] at hs
    cases hs
    exact .inr (.inr ⟨x, hx, hlt, he.trans (strtoul32_toDigits_self pf x)⟩)

theorem ReportedSourced.step {a : Action} (h : ReportedSourced pf w₀ as w)
    (hS : Sourced pf w₀ as w) (hns : ∀ t p, a ≠ .stray t p) (hs : w.step pf a = some w') :
    ReportedSourced pf w₀ as w' := by
  rcases World.reported_step hs with he | rfl | ⟨i, rfl⟩ | ⟨i, rfl⟩ | ⟨t, p, rfl⟩
  · rw [ReportedSourced, he]
    exact h
  · obtain ⟨-, rfl⟩ := World.step_timedOut hs
    exact .inr (.inl rfl)
  · obtain ⟨m, hm, rfl⟩ := World.step_deliver hs
    exact h.respond hS (List.getElem?_mem hm) _ rfl
  · obtain ⟨m, hm, rfl⟩ := World.step_duplicate hs
    exact h.respond hS (List.getElem?_mem hm) _ rfl
  · exact absurd rfl (hns t p)

end Reported

/-- The task's record of the shadow, on every schedule from the task's start without
publishes of other clients on the response topics: answers may be held back, copied,
reordered or lost, and deltas may set any state. `ulReportedPowerOnState` is 0, as the task
starts it, the sentinel the timeout path writes, or a one-digit state that the loop
printed into one of its reports. -/
theorem reported_printed (pf : Platform) (v : Nat) (o : SubscribeOutcome) (as : List Action)
    (w : World) (h : (World.initial v o).run pf as = some w)
    (hns : ∀ t p, Action.stray t p ∉ as) :
    w.ctx.ulReportedPowerOnState = 0 ∨
      w.ctx.ulReportedPowerOnState = shadowexampleInvalidPowerOnState ∨
      ∃ x, Printed pf (World.initial v o) as x ∧ x.toNat < 10 ∧ w.ctx.ulReportedPowerOnState = x := by
  induction as using List.reverseRecOn generalizing w with
  | nil =>
    cases h
    exact .inl rfl
  | append_singleton as a ih =>
    rw [World.run_concat] at h
    obtain ⟨u, hu, hs⟩ := Option.bind_eq_some.mp h
    have hprev := ih u hu fun t p hm => hns t p (List.mem_append_left _ hm)
    have hS := sourced_run pf _ ⟨rfl, rfl, fun hp => by cases hp⟩ as u hu
    exact ((show ReportedSourced pf (World.initial v o) as u from hprev).concat a).step (hS.concat a)
      (fun t p ha => hns t p (ha ▸ List.mem_append_right _ (List.mem_singleton_self _))) hs

/-- The first cycle on the board, answered twice: the record is the state the report
carried. -/
theorem reported_printed_board :
    let as : List Action :=
      [.delta ⟨true, [("version", "1"), ("state.powerOn", "1")]⟩, .check, .newToken 21909,
        .format, .publish true, .shadowAccept, .duplicate 0, .take, .deliver 0]
    ∃ w, (World.initial 0 .subscribed).run Platform.cortexM33 as = some w ∧
      (w.ctx.ulReportedPowerOnState = 0 ∨
        w.ctx.ulReportedPowerOnState = shadowexampleInvalidPowerOnState ∨
        ∃ x, Printed Platform.cortexM33 (World.initial 0 .subscribed) as x ∧
          x.toNat < 10 ∧ w.ctx.ulReportedPowerOnState = x) := by
  intro as
  have hrun : (World.initial 0 .subscribed).run Platform.cortexM33 as = some _ := rfl
  exact ⟨_, hrun, reported_printed Platform.cortexM33 0 .subscribed _ _ hrun (by simp [as])⟩

end ShadowDevice
