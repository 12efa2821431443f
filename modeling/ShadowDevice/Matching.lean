import ShadowDevice.Wake
import ShadowDevice.Sync

/-!
# `ShadowDevice.Matching`: token matching with fresh tokens

The response callbacks match a publish to the pending report by its `clientToken` alone
(lines 660 and 755). `takeFollowsAnswer_false` shows that this does not tie the wait at
line 879 to the shadow's answer to the cycle's report. This module shows what it does tie
it to on the schedules of `FreshTokens`: the tick count gives a token that no report or
answer in the system carries, and no other client publishes on the response topics. The
shadow's answers may still be held back, copied, reordered or lost, and answers to earlier
reports may arrive during a later wait.

Every report and every answer carries the number of the report it belongs to, and
`Forwards` says once where the messages of a step of the callbacks, the shadow service or
the network come from. `Owned` is the invariant. From the new token to the publish nothing
in the system carries the token. During the wait, only the cycle's report and the answers
to it carry it, and only those answers have run a callback with it since the publish.
`owned_step` keeps it over one step.

`take_follows_own_answer` is the result. Suppose the wait returns a nonzero value, the
notification value was 0 at the publish and `prvSubscribeCommandCallback` has not run
since. Then a response callback has run since the publish on the shadow's answer to the
cycle's own report, and every callback run since the publish that read the pending token
ran on such an answer. As every result about the wait, it holds at the grain of whole
callback runs (`ShadowDevice.World`).
-/

set_option autoImplicit false

namespace ShadowDevice

/-- The schedules with fresh tokens: the tick count at line 850 gives a token that no
report in the shadow's inbox and no answer in flight carries, and other clients publish
nothing on the response topics. Every other step is allowed. -/
def FreshTokens (pf : Platform) (w : World) : Action → Prop
  | .newToken xTickCount => Unclaimed pf w (xTickCount % 1000000)
  | .stray _ _ => False
  | _ => True

instance (pf : Platform) (w : World) : ∀ a, Decidable (FreshTokens pf w a)
  | .newToken _ => inferInstanceAs (Decidable (Unclaimed _ _ _))
  | .stray _ _ => inferInstanceAs (Decidable False)
  | .check | .format | .publish _ | .take | .timeout | .timedOut | .clearToken | .delay
  | .subscribeAck _ | .delta _ | .shadowAccept | .shadowReject _ | .deliver _ | .duplicate _
  | .lose _ => inferInstanceAs (Decidable True)

/-! ## Where the messages of a step come from -/

/-- The messages of `w'` come from those of `w`. The report count is the same. Every report
left in the inbox was there. Every publish in flight was in flight, or is the shadow's
answer to a report of the inbox, with that report's token and number. Every entry of the
history since the publish was there, is a SUBACK, or is a callback run on a publish that
was in flight. -/
structure Forwards (pf : Platform) (w w' : World) : Prop where
  reports : w'.reports = w.reports
  inbox : ∀ r ∈ w'.inbox, r ∈ w.inbox
  inFlight : ∀ m ∈ w'.inFlight, m ∈ w.inFlight ∨
    ∃ r ∈ w.inbox, receivedToken pf m.payload = reportToken pf r ∧ m.origin = .answer r.seq
  history : ∀ e ∈ w'.sincePublish, e ∈ w.sincePublish ∨ e = .subscribeAck ∨
    ∃ m ∈ w.inFlight, e = .handled m.origin (receivedToken pf m.payload)

section Forwards

variable {pf : Platform} {w w' : World}

/-- A callback run on a publish in flight, with the publishes in flight narrowed to `l`,
only adds itself to the history. -/
theorem Forwards.of_respond {l : List Response} (hl : ∀ m ∈ l, m ∈ w.inFlight)
    (topic : ResponseTopic) {m : Response} (hm : m ∈ w.inFlight) :
    Forwards pf w ({ w with inFlight := l }.respond pf topic m.payload m.origin) := by
  refine ⟨rfl, fun _ h => h, fun m' h => .inl (hl m' h), fun e he => ?_⟩
  rcases List.mem_append.mp he with he | he
  · exact .inl he
  · exact .inr (.inr ⟨m, hm, List.mem_singleton.mp he⟩)

/-- A SUBACK, a delta, another client's publish apart, and the steps of the shadow service
and of the network only move messages along. -/
theorem forwards_step {a : Action} (h : w.step pf a = some w') (ha : a.isLoop = false)
    (hs : ∀ t p, a ≠ .stray t p) : Forwards pf w w' := by
  cases a with
  | subscribeAck =>
    obtain ⟨-, rfl⟩ := World.step_subscribeAck h
    refine ⟨rfl, fun _ h => h, fun _ h => .inl h, fun e he => ?_⟩
    rcases List.mem_append.mp he with he | he
    · exact .inl he
    · exact .inr (.inl (List.mem_singleton.mp he))
  | delta p =>
    obtain ⟨-, u, c, rfl, -⟩ := World.step_delta h
    exact ⟨rfl, fun _ h => h, fun _ h => .inl h, fun _ h => .inl h⟩
  | stray t p => exact absurd rfl (hs t p)
  | shadowAccept =>
    obtain ⟨r, rest, v, token, hin, hr, rfl⟩ := World.step_shadowAccept h
    refine ⟨rfl, fun _ h => hin ▸ List.mem_cons_of_mem r h, fun m hm => ?_, fun _ h => .inl h⟩
    rcases List.mem_append.mp hm with hm | hm
    · exact .inl hm
    · rw [List.mem_singleton.mp hm]
      exact .inr ⟨r, hin ▸ List.mem_cons_self r rest, acceptedAnswer_token pf r v token hr, rfl⟩
  | shadowReject code =>
    obtain ⟨r, rest, hin, rfl⟩ := World.step_shadowReject h
    refine ⟨rfl, fun _ h => hin ▸ List.mem_cons_of_mem r h, fun m hm => ?_, fun _ h => .inl h⟩
    rcases List.mem_append.mp hm with hm | hm
    · exact .inl hm
    · rw [List.mem_singleton.mp hm]
      exact .inr ⟨r, hin ▸ List.mem_cons_self r rest, rejectedAnswer_token pf r code, rfl⟩
  | deliver i =>
    obtain ⟨m, hm, rfl⟩ := World.step_deliver h
    exact .of_respond (fun _ => List.mem_of_mem_eraseIdx) _ (List.getElem?_mem hm)
  | duplicate i =>
    obtain ⟨m, hm, rfl⟩ := World.step_duplicate h
    exact .of_respond (l := w.inFlight) (fun _ h => h) _ (List.getElem?_mem hm)
  | lose i =>
    obtain ⟨-, rfl⟩ := World.step_lose h
    exact ⟨rfl, fun _ h => h, fun _ h => .inl (List.mem_of_mem_eraseIdx h), fun _ h => .inl h⟩
  | check | newToken | format | publish | take | timeout | timedOut | clearToken | delay =>
    cases ha

/-- A token that nothing carries stays unclaimed. -/
theorem Forwards.unclaimed (hf : Forwards pf w w') {t : UInt32} (h : Unclaimed pf w t) :
    Unclaimed pf w' t := by
  refine ⟨fun r hr => h.1 r (hf.inbox r hr), fun m hm => ?_⟩
  rcases hf.inFlight m hm with hm | ⟨r, hr, ht, -⟩
  · exact h.2 m hm
  · exact ht ▸ h.1 r hr

end Forwards

/-! ## The invariant -/

/-- Only the report numbered `n`, the answers to it, and callback runs on those answers
since the publish carry the token `t`. -/
def OwnedBy (pf : Platform) (w : World) (t : UInt32) (n : Nat) : Prop :=
  (∀ r ∈ w.inbox, reportToken pf r = some t → r.seq = n) ∧
    (∀ m ∈ w.inFlight, receivedToken pf m.payload = some t → m.origin = .answer n) ∧
    ∀ o, Event.handled o (some t) ∈ w.sincePublish → o = .answer n

/-- The token matching invariant. From the new token to the publish nothing in the system
carries the client token; during the wait the cycle's report owns it. -/
structure Owned (pf : Platform) (w : World) : Prop where
  fresh : w.pc = .format ∨ w.pc = .publish → Unclaimed pf w w.ctx.ulClientToken
  wait : w.pc = .wait → OwnedBy pf w w.ctx.ulClientToken w.reports

section Owned

variable {pf : Platform} {w w' : World}

theorem Forwards.ownedBy (hf : Forwards pf w w') {t : UInt32} {n : Nat} (h : OwnedBy pf w t n) :
    OwnedBy pf w' t n := by
  refine ⟨fun r hr => h.1 r (hf.inbox r hr), fun m hm ht => ?_, fun o ho => ?_⟩
  · rcases hf.inFlight m hm with hm | ⟨r, hr, hrt, ho⟩
    · exact h.2.1 m hm ht
    · rw [ho, h.1 r hr (hrt ▸ ht)]
  · rcases hf.history _ ho with ho | he | ⟨m, hm, he⟩
    · exact h.2.2 o ho
    · cases he
    · obtain ⟨rfl, ht⟩ := Event.handled.inj he
      exact h.2.1 m hm ht.symm

/-- Away from the new token, the publish and the wait, the invariant says nothing. -/
theorem Owned.of_pc (h₁ : w.pc ≠ .format) (h₂ : w.pc ≠ .publish) (h₃ : w.pc ≠ .wait) :
    Owned pf w :=
  ⟨fun h => (h.elim h₁ h₂).elim, fun h => (h₃ h).elim⟩

theorem owned_initial (v : Nat) (o : SubscribeOutcome) : Owned pf (World.initial v o) :=
  Owned.of_pc nofun nofun nofun

/-- The publish gives the report the next number, and the token was unclaimed. -/
theorem ownedBy_publish (h : Unclaimed pf w w.ctx.ulClientToken) :
    OwnedBy pf { w with
        pc := .wait
        inbox := w.inbox ++ [⟨w.pcUpdateDocument, w.reports + 1⟩]
        reports := w.reports + 1
        countAtPublish := w.ulNotifiedValue
        sincePublish := [] } w.ctx.ulClientToken (w.reports + 1) := by
  refine ⟨fun r hr ht => ?_, fun m hm ht => absurd ht (h.2 m hm), nofun⟩
  rcases List.mem_append.mp hr with hr | hr
  · exact absurd ht (h.1 r hr)
  · rw [List.mem_singleton.mp hr]

theorem owned_step (pf : Platform) (w : World) (a : Action) (w' : World) (hw : Owned pf w)
    (henv : FreshTokens pf w a) (h : w.step pf a = some w') : Owned pf w' := by
  cases hl : a.isLoop
  · -- the callbacks, the shadow service and the network keep the location and the token
    obtain ⟨hpc, -, hT, -⟩ := World.step_frame h hl
    have hf := forwards_step h hl (by rintro t p rfl; exact henv)
    refine ⟨fun hp => ?_, fun hp => ?_⟩ <;> rw [hpc] at hp <;> rw [hT]
    · exact hf.unclaimed (hw.fresh hp)
    · exact hf.reports ▸ hf.ownedBy (hw.wait hp)
  · cases a with
    | newToken x =>
      obtain ⟨-, rfl⟩ := World.step_newToken h
      exact ⟨fun _ => henv, nofun⟩
    | format =>
      obtain ⟨hpc, rfl⟩ := World.step_format h
      exact ⟨fun _ => hw.fresh (.inl hpc), nofun⟩
    | publish queued =>
      obtain ⟨hpc, ⟨-, rfl⟩ | ⟨-, rfl⟩⟩ := World.step_publish h
      · exact ⟨fun h => by simp at h, fun _ => ownedBy_publish (hw.fresh (.inr hpc))⟩
      · exact Owned.of_pc nofun nofun nofun
    | check =>
      obtain ⟨-, rfl⟩ := World.step_check h
      split <;> exact Owned.of_pc nofun nofun nofun
    | take => rw [(World.step_take h).2]; exact Owned.of_pc nofun nofun nofun
    | timeout => rw [(World.step_timeout h).2]; exact Owned.of_pc nofun nofun nofun
    | timedOut => rw [(World.step_timedOut h).2]; exact Owned.of_pc nofun nofun nofun
    | clearToken => rw [(World.step_clearToken h).2]; exact Owned.of_pc nofun nofun nofun
    | delay => rw [(World.step_delay h).2]; exact Owned.of_pc nofun nofun nofun
    | subscribeAck | delta | stray | shadowAccept | shadowReject | deliver | duplicate | lose =>
      cases hl

end Owned

/-- Token matching with fresh tokens. Take a world reached on a schedule of `FreshTokens`,
where the wait at line 879 returns a nonzero value. Suppose the notification value was 0
when the cycle's report was published, and `prvSubscribeCommandCallback` has not run
since. Then since the publish a response callback ran on the shadow's answer to the
cycle's own report, and every callback run since the publish that read the pending token
ran on an answer to that report. -/
theorem take_follows_own_answer (pf : Platform) (v : Nat) (o : SubscribeOutcome) (w w' : World)
    (hr : Reaches pf (FreshTokens pf) (World.initial v o) w) (htake : w.step pf .take = some w')
    (hzero : w.countAtPublish = 0) (hack : Event.subscribeAck ∉ w.sincePublish) :
    Event.handled (.answer w.reports) (some w.ctx.ulClientToken) ∈ w.sincePublish ∧
      ∀ o, Event.handled o (some w.ctx.ulClientToken) ∈ w.sincePublish → o = .answer w.reports := by
  have hown := (hr.induction (P := Owned pf) (owned_initial v o) (owned_step pf)).wait
    (World.step_take htake).1.1
  obtain ⟨o', hmem⟩ := hr.matched_of_take htake hzero hack
  exact ⟨hown.2.2 o' hmem ▸ hmem, hown.2.2⟩

/-- Two cycles on the board. The first report, with token 21909, times out. The second,
with token 4242, is published while the first is still at the shadow. The shadow accepts
both, and the late answer to the first is delivered first: it reads token 21909 and does
not wake the task. The answer to the second then releases the wait. -/
theorem take_follows_own_answer_board :
    let as : List Action :=
      [.delta ⟨true, [("version", "1"), ("state.powerOn", "1")]⟩, .check, .newToken 21909,
        .format, .publish true, .timeout, .timedOut, .clearToken, .delay, .check,
        .newToken 4242, .format, .publish true, .shadowAccept, .shadowAccept, .deliver 0,
        .deliver 0]
    ∃ w w', (World.initial 0 .subscribed).runIn Platform.cortexM33
        (FreshTokens Platform.cortexM33) as = some w ∧
      w.step Platform.cortexM33 .take = some w' ∧ w.countAtPublish = 0 ∧
      Event.subscribeAck ∉ w.sincePublish ∧
      Event.handled (.answer w.reports) (some w.ctx.ulClientToken) ∈ w.sincePublish ∧
      ∀ o, Event.handled o (some w.ctx.ulClientToken) ∈ w.sincePublish → o = .answer w.reports := by
  intro as
  have hrun : (World.initial 0 .subscribed).runIn Platform.cortexM33
      (FreshTokens Platform.cortexM33) as = some _ := rfl
  exact ⟨_, _, hrun, rfl, by decide, by decide,
    take_follows_own_answer Platform.cortexM33 0 .subscribed _ _ (Reaches.of_runIn _ hrun .refl)
      rfl (by decide) (by decide)⟩

end ShadowDevice
