import ShadowDevice.Callbacks

/-!
# `ShadowDevice.DeltaGate`: the version gate over any sequence of deltas

The delta callback keeps the last version it accepted in its function-static
`ulCurrentVersion` and drops every delta whose version is not above it (line 539).
`deltaRun` runs the callback over a list of payloads, in order, with repeats and with any
payload at all. This module proves what the gate does over such a run.

`deltaRun_writes_only_newer` holds for every payload. The context changes only at a
delta whose version, as `( uint32_t ) strtoul` reads it, is above the read version of
every earlier delta that passed the gate. The gate thus orders versions by their
`uint32_t` reading, not by the numbers the JSON texts denote: `-1` reads as
`4294967295`, `1e3` as `1`, and on a 64-bit `unsigned long` `4294967297` reads as `1`.
`deltaRun_minusOne` runs a delta with version 3, then one with version -1, and the second
overwrites the state of the first.

When every version present is a decimal numeral below `2 ^ 32`, the reading is exact, and
`deltaRun_records` describes the whole run. A payload moves `ulCurrentVersion` exactly
when it sets a record (`SetsRecord`). After the run, `ulCurrentVersion` is the largest
version seen (`maxVersion`). The state is the `state.powerOn` of the last
record-setting payload that carries one (`lastRecordPowerOn`), or the initial state when
there is none. A record-setting payload without `state.powerOn` still moves the version,
so a later payload with the same version and a state is dropped.
-/

set_option autoImplicit false

namespace ShadowDevice

/-- The delta callback run over the payloads `ps` in order, from the function-static
version and the context in `start`. -/
def deltaRun (pf : Platform) (start : UInt32 × ShadowDeviceCtx) (ps : List Publish) :
    UInt32 × ShadowDeviceCtx :=
  ps.foldl (fun st p => prvIncomingPublishUpdateDeltaCallback pf st.1 st.2 p) start

section Run

variable (pf : Platform)

theorem deltaRun_cons (start : UInt32 × ShadowDeviceCtx) (p : Publish) (ps : List Publish) :
    deltaRun pf start (p :: ps) =
      deltaRun pf (prvIncomingPublishUpdateDeltaCallback pf start.1 start.2 p) ps := rfl

theorem deltaRun_append (start : UInt32 × ShadowDeviceCtx) (ps qs : List Publish) :
    deltaRun pf start (ps ++ qs) = deltaRun pf (deltaRun pf start ps) qs := by
  simp [deltaRun, List.foldl_append]

theorem deltaRun_concat (start : UInt32 × ShadowDeviceCtx) (ps : List Publish) (p : Publish) :
    deltaRun pf start (ps ++ [p]) =
      prvIncomingPublishUpdateDeltaCallback pf (deltaRun pf start ps).1 (deltaRun pf start ps).2 p := by
  simp [deltaRun, List.foldl_append]

/-- `ulCurrentVersion` never decreases along a run. -/
theorem deltaRun_version_le (start : UInt32 × ShadowDeviceCtx) (ps : List Publish) :
    start.1 ≤ (deltaRun pf start ps).1 := by
  induction ps generalizing start with
  | nil => exact UInt32.le_refl _
  | cons p ps ih =>
    refine UInt32.le_trans (?_ : start.1 ≤ (prvIncomingPublishUpdateDeltaCallback pf start.1
      start.2 p).1) (ih _)
    rcases deltaCallback_cases pf start.1 start.2 p with h | ⟨u, -, hu, h⟩ <;> rw [h]
    · exact UInt32.le_refl _
    · exact u32_le_iff.mpr (Nat.le_of_lt (u32_lt_iff.mp hu))

/-- A run of the delta callback reads the context only through the current state: starts
with the same version and current state end with the same version and current state. -/
theorem deltaRun_congr (v : UInt32) (ctx ctx' : ShadowDeviceCtx) (ps : List Publish)
    (h : ctx.ulCurrentPowerOnState = ctx'.ulCurrentPowerOnState) :
    (deltaRun pf (v, ctx) ps).1 = (deltaRun pf (v, ctx') ps).1 ∧
      (deltaRun pf (v, ctx) ps).2.ulCurrentPowerOnState =
        (deltaRun pf (v, ctx') ps).2.ulCurrentPowerOnState := by
  induction ps generalizing v ctx ctx' with
  | nil => exact ⟨rfl, h⟩
  | cons p ps ih =>
    have hstep : (prvIncomingPublishUpdateDeltaCallback pf v ctx p).1 =
          (prvIncomingPublishUpdateDeltaCallback pf v ctx' p).1 ∧
        (prvIncomingPublishUpdateDeltaCallback pf v ctx p).2.ulCurrentPowerOnState =
          (prvIncomingPublishUpdateDeltaCallback pf v ctx' p).2.ulCurrentPowerOnState := by
      rw [deltaCallback_eq, deltaCallback_eq]
      split
      · split
        · exact ⟨rfl, by simp only [h]⟩
        · exact ⟨rfl, h⟩
      · exact ⟨rfl, h⟩
    have e : prvIncomingPublishUpdateDeltaCallback pf v ctx p =
        ((prvIncomingPublishUpdateDeltaCallback pf v ctx' p).1,
          (prvIncomingPublishUpdateDeltaCallback pf v ctx p).2) := Prod.ext hstep.1 rfl
    rw [deltaRun_cons, deltaRun_cons, e]
    exact ih _ _ _ hstep.2

/-- The gate over any sequence of payloads. The context changes only at a delta `p`
whose read version `w` is above `ulCurrentVersion`, and above the read version of every
earlier delta that moved `ulCurrentVersion`. -/
theorem deltaRun_writes_only_newer (start : UInt32 × ShadowDeviceCtx) (pre : List Publish)
    (p : Publish) (hw : (deltaRun pf start (pre ++ [p])).2 ≠ (deltaRun pf start pre).2) :
    ∃ w, deltaVersion pf p = some w ∧ (deltaRun pf start pre).1 < w ∧
      ∀ pre₁ q pre₂, pre = pre₁ ++ q :: pre₂ →
        (deltaRun pf start pre₁).1 < (deltaRun pf start (pre₁ ++ [q])).1 →
        ∃ u, deltaVersion pf q = some u ∧ u < w := by
  rw [deltaRun_concat] at hw
  rcases deltaCallback_cases pf _ _ p with h | ⟨w, hw', hlt, -⟩
  · exact absurd (by rw [h]) hw
  refine ⟨w, hw', hlt, fun pre₁ q pre₂ hpre hq => ?_⟩
  rw [deltaRun_concat] at hq
  rcases deltaCallback_cases pf _ _ q with h | ⟨u, hu, -, h⟩
  · rw [h] at hq
    exact absurd hq (UInt32.lt_irrefl _)
  refine ⟨u, hu, ?_⟩
  -- `q` stored `u`, and the version only grows until `p` arrives.
  have hmono := deltaRun_version_le pf (deltaRun pf start (pre₁ ++ [q])) pre₂
  rw [← deltaRun_append, List.append_assoc, List.singleton_append, ← hpre, deltaRun_concat,
    h] at hmono
  exact u32_lt_iff.mpr (Nat.lt_of_le_of_lt (u32_le_iff.mp hmono) (u32_lt_iff.mp hlt))

/-- The gate at the run of `deltaRun_minusOne`: the second delta changes the state, and
its read version is above that of the first. -/
theorem deltaRun_writes_only_newer_minusOne :
    let p₃ : Publish := ⟨true, [("version", "3"), ("state.powerOn", "1")]⟩
    let pm : Publish := ⟨true, [("version", "-1"), ("state.powerOn", "0")]⟩
    (deltaRun Platform.cortexM33 (0, ShadowDeviceCtx.zero) ([p₃] ++ [pm])).2 ≠
        (deltaRun Platform.cortexM33 (0, ShadowDeviceCtx.zero) [p₃]).2 ∧
      ∃ w, deltaVersion Platform.cortexM33 pm = some w ∧
        (deltaRun Platform.cortexM33 (0, ShadowDeviceCtx.zero) [p₃]).1 < w ∧
        ∀ pre₁ q pre₂, [p₃] = pre₁ ++ q :: pre₂ →
          (deltaRun Platform.cortexM33 (0, ShadowDeviceCtx.zero) pre₁).1 <
            (deltaRun Platform.cortexM33 (0, ShadowDeviceCtx.zero) (pre₁ ++ [q])).1 →
          ∃ u, deltaVersion Platform.cortexM33 q = some u ∧ u < w := by
  intro p₃ pm
  have hw : (deltaRun Platform.cortexM33 (0, ShadowDeviceCtx.zero) ([p₃] ++ [pm])).2 ≠
      (deltaRun Platform.cortexM33 (0, ShadowDeviceCtx.zero) [p₃]).2 := by decide
  exact ⟨hw, deltaRun_writes_only_newer Platform.cortexM33 _ _ _ hw⟩

/-- A delta with version 3, then one with version -1, on the board. The second passes the
gate, since `strtoul` reads `-1` as `4294967295`, and overwrites the state the first
wrote, although -1 is below 3. -/
theorem deltaRun_minusOne :
    (deltaRun Platform.cortexM33 (0, ShadowDeviceCtx.zero)
        [⟨true, [("version", "3"), ("state.powerOn", "1")]⟩]) = (3, ⟨1, 0, 0⟩) ∧
      (deltaRun Platform.cortexM33 (0, ShadowDeviceCtx.zero)
        [⟨true, [("version", "3"), ("state.powerOn", "1")]⟩,
         ⟨true, [("version", "-1"), ("state.powerOn", "0")]⟩]) = (4294967295, ⟨0, 0, 0⟩) ∧
      ¬ ((-1 : Int) > 3) := by
  decide

end Run

/-! ## Decimal versions -/

/-- The value of a text that is a decimal numeral: a nonempty run of digits. -/
def decimalValue? (s : String) : Option Nat :=
  if s.toList ≠ [] ∧ s.toList.all Char.isDigit then some (digitsValue s.toList) else none

/-- The version of a payload that passes `JSON_Validate` and has a `version` field, as
the number its decimal numeral denotes. -/
def versionOf? (p : Publish) : Option Nat :=
  if p.valid then (jsonSearch p "version").bind decimalValue? else none

/-- Every `version` field present in the payloads is a decimal numeral below `2 ^ 32`. -/
def DecimalVersions (ps : List Publish) : Prop :=
  ∀ p ∈ ps, p.valid = true → ∀ s ∈ jsonSearch p "version", ∃ n ∈ decimalValue? s, n < 2 ^ 32

instance (ps : List Publish) : Decidable (DecimalVersions ps) := by
  unfold DecimalVersions
  infer_instance

/-- The maximum of 0 and every version in `ps`. -/
def maxVersion (ps : List Publish) : Nat :=
  (ps.filterMap versionOf?).foldl max 0

/-- `p` sets a new record after the payloads `pre`: it passes `JSON_Validate`, has a
`version` field, and its version is above 0 and above every version in `pre`. -/
def SetsRecord (pre : List Publish) (p : Publish) : Prop :=
  ∃ v ∈ versionOf? p, 0 < v ∧ ∀ q ∈ pre, ∀ u ∈ versionOf? q, u < v

instance (pre : List Publish) (p : Publish) : Decidable (SetsRecord pre p) := by
  unfold SetsRecord
  infer_instance

/-- The `state.powerOn` text of the last payload of `ps` that sets a record, counting the
payloads `pre` and those of `ps` before it, and that carries the field. -/
def lastRecordPowerOn (pre : List Publish) : List Publish → Option String
  | [] => none
  | p :: ps =>
    lastRecordPowerOn (pre ++ [p]) ps <|>
      if SetsRecord pre p then jsonSearch p "state.powerOn" else none

theorem foldl_max_lt_iff (l : List Nat) (a v : Nat) :
    l.foldl max a < v ↔ a < v ∧ ∀ x ∈ l, x < v := by
  induction l generalizing a with
  | nil => simp
  | cons x l ih => simp [ih, and_assoc]

theorem maxVersion_concat (ps : List Publish) (p : Publish) :
    maxVersion (ps ++ [p]) = ((versionOf? p).map (max (maxVersion ps))).getD (maxVersion ps) := by
  unfold maxVersion
  cases h : versionOf? p <;> simp [List.filterMap_append, List.foldl_append, List.filterMap_cons, h]

/-- A record is a version above the maximum so far. -/
theorem setsRecord_iff (pre : List Publish) (p : Publish) :
    SetsRecord pre p ↔ ∃ v, versionOf? p = some v ∧ maxVersion pre < v := by
  simp only [SetsRecord, maxVersion, foldl_max_lt_iff, List.mem_filterMap, Option.mem_def]
  constructor
  · rintro ⟨v, hv, h0, hlt⟩
    exact ⟨v, hv, h0, fun x ⟨q, hq, hx⟩ => hlt q hq x hx⟩
  · rintro ⟨v, hv, h0, hlt⟩
    exact ⟨v, hv, h0, fun q hq x hx => hlt x ⟨q, hq, hx⟩⟩

section Decimal

variable (pf : Platform)

/-- On a decimal numeral below `2 ^ 32` the gate reads the number the numeral denotes. -/
theorem deltaVersion_of_decimal (p : Publish) (hp : DecimalVersions [p]) :
    (deltaVersion pf p).map UInt32.toNat = versionOf? p ∧ ∀ n ∈ versionOf? p, n < 2 ^ 32 := by
  unfold deltaVersion versionOf?
  cases hv : p.valid
  · simp
  cases hs : jsonSearch p "version" with
  | none => simp
  | some s =>
    obtain ⟨n, hn, hlt⟩ := hp p (List.mem_singleton_self p) hv s hs
    simp only [decimalValue?, ne_eq, List.all_eq_true] at hn
    split at hn
    · rename_i hdig
      cases hn
      have hw : 2 ^ 32 ≤ 2 ^ pf.ulongBits := Nat.pow_le_pow_right (by omega) pf.atLeast32
      simp only [if_true, Option.map_some', Option.some_bind, decimalValue?, ne_eq,
        List.all_eq_true, if_pos hdig, Option.some.injEq, Option.mem_def, forall_eq']
      rw [strtoul32_toNat, strtoul_digits pf _ hdig.1 hdig.2 (by omega), Nat.mod_eq_of_lt hlt]
      exact ⟨rfl, hlt⟩
    · cases hn

/-- One delta under the decimal hypothesis, from the version `maxVersion pre`: the
version becomes `maxVersion (pre ++ [p])`, and the state changes exactly when `p` sets a
record. -/
theorem deltaCallback_record (v : UInt32) (ctx : ShadowDeviceCtx) (pre : List Publish)
    (p : Publish) (hp : DecimalVersions [p]) (hv : v.toNat = maxVersion pre) :
    (prvIncomingPublishUpdateDeltaCallback pf v ctx p).1.toNat = maxVersion (pre ++ [p]) ∧
      (prvIncomingPublishUpdateDeltaCallback pf v ctx p).2 =
        if SetsRecord pre p then
          { ctx with ulCurrentPowerOnState := deltaPowerOn pf p ctx.ulCurrentPowerOnState }
        else ctx := by
  obtain ⟨hmap, -⟩ := deltaVersion_of_decimal pf p hp
  have hrec := setsRecord_iff pre p
  rw [deltaCallback_eq, maxVersion_concat]
  cases hd : deltaVersion pf p with
  | none =>
    rw [hd, Option.map_none'] at hmap
    have hno : ¬ SetsRecord pre p := by simp [hrec, ← hmap]
    simp [← hmap, hv, if_neg hno]
  | some u =>
    rw [hd, Option.map_some'] at hmap
    simp only [← hmap, Option.map_some', Option.getD_some]
    by_cases hgt : v < u
    · have hyes : SetsRecord pre p :=
        hrec.mpr ⟨u.toNat, hmap.symm, hv ▸ u32_lt_iff.mp hgt⟩
      rw [if_pos hgt, if_pos hyes]
      exact ⟨(Nat.max_eq_right (hv ▸ Nat.le_of_lt (u32_lt_iff.mp hgt))).symm, rfl⟩
    · have hno : ¬ SetsRecord pre p := by
        rw [hrec, ← hmap]
        rintro ⟨w, hw, hlt⟩
        cases hw
        exact hgt (u32_lt_iff.mpr (hv ▸ hlt))
      rw [if_neg hgt, if_neg hno]
      have hle : u.toNat ≤ maxVersion pre := hv ▸ Nat.le_of_not_lt (u32_lt_iff.not.mp hgt)
      exact ⟨hv.trans (Nat.max_eq_left hle).symm, rfl⟩

/-- The run from `ulCurrentVersion = 0` under the decimal hypothesis: the version is
`maxVersion` of the payloads so far, and the state is the last record's
`state.powerOn`. -/
theorem deltaRun_maxVersion (start : UInt32 × ShadowDeviceCtx) (pre ps : List Publish)
    (hps : DecimalVersions ps) (hv : start.1.toNat = maxVersion pre) :
    (deltaRun pf start ps).1.toNat = maxVersion (pre ++ ps) ∧
      (deltaRun pf start ps).2.ulCurrentPowerOnState =
        ((lastRecordPowerOn pre ps).map (strtoul32 pf)).getD start.2.ulCurrentPowerOnState := by
  induction ps generalizing pre start with
  | nil => simp [deltaRun, hv, lastRecordPowerOn]
  | cons p ps ih =>
    obtain ⟨hv', hctx⟩ := deltaCallback_record pf start.1 start.2 pre p
      (fun q hq => hps q (List.mem_singleton.mp hq ▸ List.mem_cons_self _ _)) hv
    obtain ⟨ih₁, ih₂⟩ := ih _ (pre ++ [p]) (fun q hq => hps q (List.mem_cons_of_mem _ hq)) hv'
    refine ⟨by simpa using ih₁, ?_⟩
    simp only [deltaRun, List.foldl_cons] at ih₂ ⊢
    rw [ih₂, hctx, lastRecordPowerOn]
    cases lastRecordPowerOn (pre ++ [p]) ps with
    | some s => rfl
    | none =>
      by_cases hrec : SetsRecord pre p
      · simp only [if_pos hrec, deltaPowerOn]
        cases jsonSearch p "state.powerOn" <;> rfl
      · simp [if_neg hrec]

end Decimal

/-- The delta callback over a sequence of payloads from `ulCurrentVersion = 0`, when every
`version` present is a decimal numeral below `2 ^ 32`. A payload moves
`ulCurrentVersion` exactly when it sets a record, whether or not it carries
`state.powerOn`. After the run, `ulCurrentVersion` is the maximum of 0 and every version.
The state is the `state.powerOn` of the last record-setting payload that carries one,
read by `strtoul`, or the initial state. -/
theorem deltaRun_records (pf : Platform) (ctx : ShadowDeviceCtx) (ps : List Publish)
    (hps : DecimalVersions ps) :
    (∀ pre p post, ps = pre ++ p :: post →
      ((deltaRun pf (0, ctx) pre).1 < (deltaRun pf (0, ctx) (pre ++ [p])).1 ↔ SetsRecord pre p)) ∧
    (deltaRun pf (0, ctx) ps).1.toNat = maxVersion ps ∧
    (deltaRun pf (0, ctx) ps).2.ulCurrentPowerOnState =
      ((lastRecordPowerOn [] ps).map (strtoul32 pf)).getD ctx.ulCurrentPowerOnState := by
  have hrun := deltaRun_maxVersion pf (0, ctx) [] ps hps rfl
  refine ⟨fun pre p post hsplit => ?_, by simpa using hrun.1, hrun.2⟩
  have hpre : DecimalVersions pre := fun q hq => hps q (by simp [hsplit, hq])
  have hp : DecimalVersions [p] := fun q hq => hps q (by simp [hsplit, List.mem_singleton.mp hq])
  have hv := (deltaRun_maxVersion pf (0, ctx) [] pre hpre rfl).1
  rw [List.nil_append] at hv
  rw [deltaRun_concat, u32_lt_iff, (deltaCallback_record pf _ _ pre p hp hv).1,
    maxVersion_concat, hv, setsRecord_iff]
  cases versionOf? p <;> simp

/-- Versions 5, 3, 7, 7 and 9, each with its own `state.powerOn`: the gate applies 5, 7 and
9 in order, drops the stale 3 and the repeated 7, and the state ends at the version-9
delta's 5. -/
theorem deltaRun_records_board :
    let ps : List Publish := [("5", "1"), ("3", "2"), ("7", "3"), ("7", "4"), ("9", "5")].map
      fun (v, s) => ⟨true, [("version", v), ("state.powerOn", s)]⟩
    DecimalVersions ps ∧ maxVersion ps = 9 ∧ lastRecordPowerOn [] ps = some "5" ∧
      (∀ pre p post, ps = pre ++ p :: post →
        ((deltaRun Platform.cortexM33 (0, ShadowDeviceCtx.zero) pre).1 <
            (deltaRun Platform.cortexM33 (0, ShadowDeviceCtx.zero) (pre ++ [p])).1 ↔
          SetsRecord pre p)) ∧
      (deltaRun Platform.cortexM33 (0, ShadowDeviceCtx.zero) ps).1.toNat = maxVersion ps ∧
      (deltaRun Platform.cortexM33 (0, ShadowDeviceCtx.zero) ps).2.ulCurrentPowerOnState =
        ((lastRecordPowerOn [] ps).map (strtoul32 Platform.cortexM33)).getD 0 :=
  ⟨by decide, by decide, by decide,
    deltaRun_records Platform.cortexM33 ShadowDeviceCtx.zero _ (by decide)⟩

end ShadowDevice
