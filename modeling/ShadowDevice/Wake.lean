import ShadowDevice.World

/-!
# `ShadowDevice.Wake`: what releases the wait at line 879

After a publish the task waits in `ulTaskNotifyTake( pdFALSE, ... )` for a response
callback to give it a notification. The callbacks give one for any publish whose
`clientToken` reads as the pending `ulClientToken`, and they check nothing else. So
another client's publish on
`/update/accepted` that carries the same token wakes the task as well as the shadow's
answer would. `TakeFollowsAnswer` states that only the shadow's answer to the cycle's own
report can release the wait. `takeFollowsAnswer_false` refutes it with such a publish.

What the code does ensure is `WaitCount`. During the wait, the notification value is its
value at the publish plus one for each callback run since the publish whose token matched.
This holds unless `prvSubscribeCommandCallback` overwrote the value in between.
`Reaches.matched_of_take` and `take_after_matched_response` draw the consequence. Suppose
the value was 0 at the
publish and the subscribe callback did not run since. Then a wait that returns a nonzero
value follows a callback run, since the publish, on a publish that carried the token of
the report the cycle published (`BufferToken`).

The two conditions are not always met. A give that arrives after a wait returned or timed
out, but before line 893 clears the token, stays in the notification value. So does one
for a publish with token 0 while no report is pending. The next cycle's wait then returns
at once. The task never clears the value before the wait, as it clears the notification
state before the subscribe at line 382.
-/

set_option autoImplicit false

namespace ShadowDevice

/-- The number of callback runs in `es` whose publish carried `token`. -/
def matchedCount (token : UInt32) (es : List Event) : Nat :=
  es.countP fun e => match e with
    | .handled _ t => t == some token
    | .subscribeAck => false

/-- The property that only the shadow's answer to the cycle's report releases the wait: in
every run, when the wait at line 879 returns a nonzero value, a response callback has
run on the shadow's answer to the report of this cycle since it was published. -/
def TakeFollowsAnswer (pf : Platform) : Prop :=
  ∀ v o w w', Reaches pf anySchedule (World.initial v o) w → w.step pf .take = some w' →
    ∃ token, Event.handled (.answer w.reports) token ∈ w.sincePublish

/-- The report of the first cycle, with token 21909, is released by another client's
publish on `/update/accepted` that carries the token `"021909"`, before the shadow
service has even seen the report. -/
theorem takeFollowsAnswer_false : ¬ TakeFollowsAnswer Platform.cortexM33 := by
  intro h
  have hrun : (World.initial 0 .subscribed).run Platform.cortexM33
      [.delta ⟨true, [("version", "1"), ("state.powerOn", "1")]⟩, .check, .newToken 21909,
        .format, .publish true,
        .stray .accepted ⟨true, [("clientToken", "021909"), ("state.reported.powerOn", "0")]⟩] =
      some _ := rfl
  obtain ⟨token, hmem⟩ := h 0 .subscribed _ _ (Reaches.of_run _ (fun _ _ _ => trivial) hrun .refl) rfl
  change Event.handled (.answer 1) token ∈ [Event.handled .stray (some 21909)] at hmem
  simp at hmem

/-- The wait's notification value, counted from the publish. -/
def WaitCount (w : World) : Prop :=
  w.pc = .wait → Event.subscribeAck ∉ w.sincePublish →
    w.ulNotifiedValue.toNat =
      (w.countAtPublish.toNat + matchedCount w.ctx.ulClientToken w.sincePublish) % 2 ^ 32

/-- From the publish to the end of the cycle the buffer holds the report printed with the
pending token. -/
def BufferToken (w : World) : Prop :=
  w.pc = .publish ∨ w.pc = .wait ∨ w.pc = .timedOut ∨ w.pc = .clearToken →
    ∃ x, w.pcUpdateDocument = updateDocument x w.ctx.ulClientToken

section Invariants

variable (pf : Platform)

theorem matchedCount_concat (token : UInt32) (es : List Event) (o : Origin) (t : Option UInt32) :
    matchedCount token (es ++ [.handled o t]) =
      matchedCount token es + if t = some token then 1 else 0 := by
  simp only [matchedCount, List.countP_append, List.countP_singleton, beq_iff_eq]

theorem waitCount_respond (w : World) (topic : ResponseTopic) (p : Publish) (o : Origin)
    (hw : WaitCount w) : WaitCount (w.respond pf topic p o) := by
  intro hpc hack
  simp only [World.respond_pc, World.respond_sincePublish, List.mem_append, not_or] at hpc hack
  rw [World.respond_notified, World.respond_countAtPublish, World.respond_sincePublish,
    (World.respond_ctx pf w topic p o).1, matchedCount_concat]
  split
  · rw [u32_toNat_add_one, hw hpc hack.1, Nat.mod_add_mod, Nat.add_assoc]
  · rw [hw hpc hack.1, Nat.add_zero]

theorem waitCount_step (w : World) (a : Action) (w' : World) (hw : WaitCount w)
    (h : w.step pf a = some w') : WaitCount w' := by
  cases a with
  | publish queued =>
    obtain ⟨-, ⟨-, rfl⟩ | ⟨-, rfl⟩⟩ := World.step_publish h
    · intro _ _
      simp [matchedCount, Nat.mod_eq_of_lt (UInt32.toNat_lt_size _)]
    · intro hpc
      cases hpc
  | subscribeAck code =>
    obtain ⟨-, rfl⟩ := World.step_subscribeAck h
    intro _ hack
    exact absurd (List.mem_append_right _ (List.mem_singleton_self _)) hack
  | delta p =>
    obtain ⟨-, u, c, rfl, -⟩ := World.step_delta h
    exact hw
  | stray topic p =>
    cases h
    exact waitCount_respond pf w topic p _ hw
  | deliver i =>
    obtain ⟨m, -, rfl⟩ := World.step_deliver h
    exact waitCount_respond pf _ _ _ _ hw
  | duplicate i =>
    obtain ⟨m, -, rfl⟩ := World.step_duplicate h
    exact waitCount_respond pf _ _ _ _ hw
  | lose i =>
    obtain ⟨-, rfl⟩ := World.step_lose h
    exact hw
  | shadowAccept =>
    obtain ⟨_, _, _, _, -, -, rfl⟩ := World.step_shadowAccept h
    exact hw
  | shadowReject =>
    obtain ⟨_, _, -, rfl⟩ := World.step_shadowReject h
    exact hw
  -- the other moves of the loop lead away from the wait
  | check =>
    obtain ⟨-, rfl⟩ := World.step_check h
    intro hpc
    split at hpc <;> cases hpc
  | newToken => rw [(World.step_newToken h).2]; nofun
  | format => rw [(World.step_format h).2]; nofun
  | take => rw [(World.step_take h).2]; nofun
  | timeout => rw [(World.step_timeout h).2]; nofun
  | timedOut => rw [(World.step_timedOut h).2]; nofun
  | clearToken => rw [(World.step_clearToken h).2]; nofun
  | delay => rw [(World.step_delay h).2]; nofun

theorem bufferToken_step (w : World) (a : Action) (w' : World) (hw : BufferToken w)
    (h : w.step pf a = some w') : BufferToken w' := by
  cases hl : a.isLoop
  · obtain ⟨hpc, hbuf, hT, -⟩ := World.step_frame h hl
    rw [BufferToken, hpc, hbuf, hT]
    exact hw
  · cases a with
    | format =>
      obtain ⟨-, rfl⟩ := World.step_format h
      exact fun _ => ⟨_, rfl⟩
    -- the buffer and the token stay, and the loop was already past the format
    | publish =>
      obtain ⟨hpc, ⟨-, rfl⟩ | ⟨-, rfl⟩⟩ := World.step_publish h <;> exact fun _ => hw (.inl hpc)
    | take =>
      obtain ⟨⟨hpc, -⟩, rfl⟩ := World.step_take h
      exact fun _ => hw (.inr (.inl hpc))
    | timeout =>
      obtain ⟨⟨hpc, -⟩, rfl⟩ := World.step_timeout h
      exact fun _ => hw (.inr (.inl hpc))
    | timedOut =>
      obtain ⟨hpc, rfl⟩ := World.step_timedOut h
      exact fun _ => hw (.inr (.inr (.inl hpc)))
    -- these lead to a location before the format
    | check =>
      obtain ⟨-, rfl⟩ := World.step_check h
      intro hpc
      split at hpc <;> simp at hpc
    | newToken => simp [BufferToken, (World.step_newToken h).2]
    | clearToken => simp [BufferToken, (World.step_clearToken h).2]
    | delay => simp [BufferToken, (World.step_delay h).2]
    | subscribeAck | delta | stray | shadowAccept | shadowReject | deliver | duplicate | lose =>
      cases hl

end Invariants

/-- A wait that returns a nonzero value, with the notification value 0 at the publish and
no SUBACK since, follows a callback run since the publish on a publish that carried the
pending token. -/
theorem Reaches.matched_of_take {pf : Platform} {env : World → Action → Prop} {v : Nat}
    {o : SubscribeOutcome} {w w' : World} (hr : Reaches pf env (World.initial v o) w)
    (htake : w.step pf .take = some w') (hzero : w.countAtPublish = 0)
    (hack : Event.subscribeAck ∉ w.sincePublish) :
    ∃ o, Event.handled o (some w.ctx.ulClientToken) ∈ w.sincePublish := by
  have hpc := (World.step_take htake).1
  have hcount := hr.induction (P := WaitCount) (fun h => by cases h)
    (fun w a w' hw _ hs => waitCount_step pf w a w' hw hs) hpc.1 hack
  rw [hzero, UInt32.toNat_zero, Nat.zero_add] at hcount
  have hpos : 0 < matchedCount w.ctx.ulClientToken w.sincePublish :=
    Nat.pos_of_ne_zero fun h0 => hpc.2 (u32_eq_iff.mpr (by rw [hcount, h0]; rfl))
  obtain ⟨e, he, hmatch⟩ := List.countP_pos_iff.mp hpos
  cases e with
  | handled o t => exact ⟨o, (beq_iff_eq.mp hmatch) ▸ he⟩
  | subscribeAck => cases hmatch

/-- The wait released, as the code ensures it. Take a world reached by any schedule,
where the wait at line 879 returns a nonzero value. Suppose the notification value was 0
when the cycle's report was published, and `prvSubscribeCommandCallback` has not run
since. Then the report the cycle published carries the pending token, and a response
callback ran since the publish on a publish whose `clientToken` reads as that token.
Beside it, the accepted callback changes `ulReportedPowerOnState` only on a publish whose
`clientToken` reads as the pending token. -/
theorem take_after_matched_response (pf : Platform) (v : Nat) (o : SubscribeOutcome) (w w' : World)
    (hr : Reaches pf anySchedule (World.initial v o) w) (htake : w.step pf .take = some w')
    (hzero : w.countAtPublish = 0) (hack : Event.subscribeAck ∉ w.sincePublish) :
    (∃ x, w.pcUpdateDocument = updateDocument x w.ctx.ulClientToken) ∧
      (∃ o, Event.handled o (some w.ctx.ulClientToken) ∈ w.sincePublish) ∧
      ∀ ctx p, (prvIncomingPublishUpdateAcceptedCallback pf ctx p).1.ulReportedPowerOnState ≠
          ctx.ulReportedPowerOnState → receivedToken pf p = some ctx.ulClientToken := by
  have hbuf := hr.induction (P := BufferToken) (fun h => by simp [World.initial] at h)
    (fun w a w' hw _ hs => bufferToken_step pf w a w' hw hs)
  refine ⟨hbuf (.inr (.inl (World.step_take htake).1.1)), hr.matched_of_take htake hzero hack,
    fun ctx p hne => ?_⟩
  by_contra hno
  rw [prvIncomingPublishUpdateAcceptedCallback, responseCallback_of_ne pf _ ctx p hno] at hne
  exact hne rfl

/-- The first cycle on the board with the shadow's answer delivered: the notification
value was 0 at the publish, no subscribe callback ran, and the wait returns. -/
theorem take_after_matched_response_run :
    let as : List Action :=
      [.delta ⟨true, [("version", "1"), ("state.powerOn", "1")]⟩, .check, .newToken 21909,
        .format, .publish true, .shadowAccept, .deliver 0]
    ∃ w w', (World.initial 0 .subscribed).run Platform.cortexM33 as = some w ∧
      w.step Platform.cortexM33 .take = some w' ∧ w.countAtPublish = 0 ∧
      Event.subscribeAck ∉ w.sincePublish ∧
      (∃ x, w.pcUpdateDocument = updateDocument x w.ctx.ulClientToken) ∧
      (∃ o, Event.handled o (some w.ctx.ulClientToken) ∈ w.sincePublish) ∧
      ∀ ctx p, (prvIncomingPublishUpdateAcceptedCallback Platform.cortexM33 ctx p).1.ulReportedPowerOnState ≠
          ctx.ulReportedPowerOnState → receivedToken Platform.cortexM33 p = some ctx.ulClientToken := by
  intro as
  have hrun : (World.initial 0 .subscribed).run Platform.cortexM33 as = some _ := rfl
  exact ⟨_, _, hrun, rfl, by decide, by decide,
    take_after_matched_response Platform.cortexM33 0 .subscribed _ _
      (Reaches.of_run _ (fun _ _ _ => trivial) hrun .refl) rfl (by decide) (by decide)⟩

end ShadowDevice
