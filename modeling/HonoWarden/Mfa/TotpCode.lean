import Mathlib.Data.PNat.Basic
import HonoWarden.Mfa.Base32
import HonoWarden.Web.JsonText

/-!
# Codes of TOTP

Model of `hotp` and `verifyTotpCode` (`src/domain/totp.ts`). HMAC-SHA-1 is a parameter: a key is
imported, which may fail, and what it signs then is any list of bytes. Seconds are whole, as all
callers pass them.

`verifyTotpCode` stops at the first step of the window that has the code. Where that step was
accepted before, it answers `replayed` and does not look at the steps behind it.

Results:
* `verifySteps_eq_ok`, `exists_verifySteps_eq_ok`: when the loop succeeds;
* **`verifyTotpCode_exact_iff`**: when exactly the fresh steps of the window are accepted.
-/

namespace HonoWarden

open Web

/-! ## The code -/

/-- Four bytes, the highest first: `setUint32`. -/
def uint32Bytes (n : Nat) : List Byte :=
  [Fin.ofNat _ (n / 16777216), Fin.ofNat _ (n / 65536), Fin.ofNat _ (n / 256), Fin.ofNat _ n]

/-- `counterToBytes`. -/
def counterToBytes (counter : Nat) : List Byte :=
  uint32Bytes (counter / 4294967296) ++ uint32Bytes counter

/-- `byteAt`. -/
def byteAt (bytes : List Byte) (index : Int) : Nat :=
  if 0 ≤ index then (bytes[index.toNat]?.map Fin.val).getD 0 else 0

/-- `importKey` and then `sign` of HMAC-SHA-1; `none` is a key that is refused. -/
abbrev HmacSha1 := List Byte → Option (List Byte → List Byte)

/-- The code of a signature: dynamic truncation. -/
def truncateSignature (signature : List Byte) (digits : Nat) : JsString :=
  let offset := byteAt signature (signature.length - 1) &&& 0x0f
  let binary :=
    ((byteAt signature offset &&& 0x7f) <<< 24) |||
      ((byteAt signature (offset + 1) &&& 0xff) <<< 16) |||
      ((byteAt signature (offset + 2) &&& 0xff) <<< 8) ||| (byteAt signature (offset + 3) &&& 0xff)
  let otp := decimal (binary % 10 ^ digits)
  List.replicate (digits - otp.length) 48 ++ otp

/-- `hotp`; `none` is an exception. -/
def hotp (upper : UpperCase) (hmacSha1 : HmacSha1) (secretBase32 : JsString) (counter : Int)
    (digits : Nat) : Option JsString :=
  match base32DecodeToBytes upper secretBase32 with
  | none => some []
  | some secret =>
    if ¬ IsSafeInteger counter ∨ counter < 0 then some []
    else
      (hmacSha1 secret).map fun sign =>
        truncateSignature (sign (counterToBytes counter.toNat)) digits

/-- The argument of `verifyTotpCode`. -/
structure TotpCodeInput where
  secretBase32 : JsString
  code : JsString
  nowUnixSeconds : Int
  lastAcceptedStep : Option Int := none
  periodSeconds : Option ℕ+ := none
  window : Option Nat := none

/-- `TotpVerificationResult`. -/
inductive TotpVerificationResult where
  | ok (timeStep : Int)
  | invalid
  | replayed
  deriving DecidableEq, Repr

/-- `constantTimeEqual` of this file. -/
def Totp.constantTimeEqual (left right : JsString) : Bool :=
  if left.length ≠ right.length then false
  else
    (List.range left.length).foldl
      (fun difference index => difference ||| ((left.getD index 0).val ^^^ (right.getD index 0).val))
      0 = 0

/-- `currentStep`. -/
def TotpCodeInput.currentStep (input : TotpCodeInput) : Int :=
  input.nowUnixSeconds / (input.periodSeconds.getD 30 : ℕ+)

/-- The steps of the loop of `verifyTotpCode`, in order. -/
def TotpCodeInput.steps (input : TotpCodeInput) : List Int :=
  let firstStep := max 0 (input.currentStep - input.window.getD 1)
  let lastStep := input.currentStep + input.window.getD 1
  (List.range (lastStep + 1 - firstStep).toNat).map fun index : Nat =>
    firstStep + index

/-- The loop of `verifyTotpCode`; `none` is an exception. -/
def verifySteps (expected : Int → Option JsString) (code : JsString)
    (lastAcceptedStep : Option Int) : List Int → Option TotpVerificationResult
  | [] => some .invalid
  | step :: rest =>
    (expected step).bind fun expectedCode =>
      if Totp.constantTimeEqual expectedCode code = false then
        verifySteps expected code lastAcceptedStep rest
      else if lastAcceptedStep.any (fun last => step ≤ last) = true then some .replayed
      else some (.ok step)

/-- `/^\d{6}$/`. -/
def IsSixDigits (code : JsString) : Prop := code.length = 6 ∧ code.all (fun c => IsDigit c) = true

instance (code : JsString) : Decidable (IsSixDigits code) := inferInstanceAs (Decidable (_ ∧ _))

/-- `verifyTotpCode`; `none` is an exception. -/
def verifyTotpCode (upper : UpperCase) (hmacSha1 : HmacSha1) (input : TotpCodeInput) :
    Option TotpVerificationResult :=
  let code := trim input.code
  if ¬ IsSixDigits code then some .invalid
  else
    verifySteps (fun step => hotp upper hmacSha1 input.secretBase32 step 6) code
      input.lastAcceptedStep input.steps

/-! ## Comparison -/

theorem Totp.constantTimeEqual_iff {left right : JsString} :
    Totp.constantTimeEqual left right = true ↔ left = right := by
  unfold Totp.constantTimeEqual
  split_ifs with hlength
  · exact iff_of_false not_false fun h => hlength (congrArg List.length h)
  · rw [decide_eq_true_eq, foldl_or_eq_zero_iff]
    simp only [xor_eq_zero_iff, List.mem_range]
    rw [not_not] at hlength
    constructor
    · rintro ⟨-, hunits⟩
      refine List.ext_getElem hlength fun index hleft hright => ?_
      have hunit := hunits index hleft
      rw [List.getD_eq_getElem _ _ hleft, List.getD_eq_getElem _ _ hright] at hunit
      exact Fin.ext hunit
    · rintro rfl
      exact ⟨trivial, fun _ _ => rfl⟩

/-! ## The window -/

/-- A step of the window around the current step. -/
def TotpCodeInput.InWindow (input : TotpCodeInput) (step : Int) : Prop :=
  input.currentStep - input.window.getD 1 ≤ step ∧ step ≤ input.currentStep + input.window.getD 1

/-- A step later than the last accepted one. -/
def TotpCodeInput.Fresh (input : TotpCodeInput) (step : Int) : Prop :=
  ∀ last ∈ input.lastAcceptedStep, last < step

/-- The code of a step is the one presented. -/
def TotpCodeInput.HasCode (upper : UpperCase) (hmacSha1 : HmacSha1) (input : TotpCodeInput)
    (step : Int) : Prop :=
  hotp upper hmacSha1 input.secretBase32 step 6 = some (trim input.code)

/-- Success is reported where a fresh step of the window has the code, and for such a step. -/
def TotpCodeInput.AcceptsFreshWindow (upper : UpperCase) (hmacSha1 : HmacSha1)
    (input : TotpCodeInput) : Prop :=
  ((∃ step, verifyTotpCode upper hmacSha1 input = some (.ok step)) ↔
    ∃ step, input.InWindow step ∧ input.Fresh step ∧ input.HasCode upper hmacSha1 step) ∧
  ∀ step, verifyTotpCode upper hmacSha1 input = some (.ok step) →
    input.InWindow step ∧ input.Fresh step ∧ input.HasCode upper hmacSha1 step

theorem mem_steps {input : TotpCodeInput} {step : Int} :
    step ∈ input.steps ↔ 0 ≤ step ∧ input.InWindow step := by
  unfold TotpCodeInput.steps TotpCodeInput.InWindow
  simp only [List.mem_map, List.mem_range]
  constructor
  · rintro ⟨index, hindex, rfl⟩
    omega
  · intro h
    exact ⟨(step - max 0 (input.currentStep - input.window.getD 1)).toNat, by omega, by omega⟩

theorem steps_sorted (input : TotpCodeInput) : input.steps.Pairwise (· < ·) := by
  unfold TotpCodeInput.steps
  refine List.pairwise_map.mpr (List.pairwise_lt_range.imp ?_)
  intro a b hab
  omega

/-- A step that is not negative has a code that is not empty or none at all; and if one step has
one, all have. -/
theorem TotpCodeInput.HasCode.nonneg {upper : UpperCase} {hmacSha1 : HmacSha1}
    {input : TotpCodeInput} {step : Int} (h : input.HasCode upper hmacSha1 step)
    (hcode : trim input.code ≠ []) : 0 ≤ step := by
  by_contra hneg
  unfold TotpCodeInput.HasCode hotp at h
  split at h
  · exact hcode (Option.some.inj h).symm
  · rw [if_pos (.inr (by omega))] at h
    exact hcode (Option.some.inj h).symm

/-- If a step has the code, no step throws. -/
theorem TotpCodeInput.HasCode.hotp_isSome {upper : UpperCase} {hmacSha1 : HmacSha1}
    {input : TotpCodeInput} {step : Int} (h : input.HasCode upper hmacSha1 step)
    (hcode : trim input.code ≠ []) (other : Int) :
    (hotp upper hmacSha1 input.secretBase32 other 6).isSome = true := by
  unfold TotpCodeInput.HasCode hotp at h
  unfold hotp
  cases hsecret : base32DecodeToBytes upper input.secretBase32 with
  | none => rfl
  | some secret =>
    rw [hsecret] at h
    simp only at h ⊢
    split_ifs at h with hrange
    · exact absurd (Option.some.inj h).symm hcode
    · obtain ⟨sign, hsign, -⟩ := Option.map_eq_some_iff.mp h
      split_ifs
      · rfl
      · rw [hsign]
        rfl

/-! ## The loop -/

section Loop

variable {expected : Int → Option JsString} {code : JsString} {lastAcceptedStep : Option Int}

/-- The loop goes on past a step with another code. -/
theorem verifySteps_skip {step : Int} {rest : List Int} {other : JsString}
    (hexpected : expected step = some other) (hother : other ≠ code) :
    verifySteps expected code lastAcceptedStep (step :: rest) =
      verifySteps expected code lastAcceptedStep rest := by
  have hunequal : Totp.constantTimeEqual other code = false := by
    rw [Bool.eq_false_iff]
    exact fun h => hother (Totp.constantTimeEqual_iff.mp h)
  rw [verifySteps, hexpected, Option.bind_some, if_pos hunequal]

/-- The loop stops at a step with the code. -/
theorem verifySteps_stop {step : Int} {rest : List Int} (hexpected : expected step = some code) :
    verifySteps expected code lastAcceptedStep (step :: rest) =
      if lastAcceptedStep.any (fun last => step ≤ last) = true then some .replayed
      else some (.ok step) := by
  have hequal : ¬ Totp.constantTimeEqual code code = false := by
    rw [Totp.constantTimeEqual_iff.mpr rfl]
    exact Bool.noConfusion
  rw [verifySteps, hexpected, Option.bind_some, if_neg hequal]

theorem any_le_eq_false_iff {step : Int} :
    ¬ lastAcceptedStep.any (fun last => step ≤ last) = true ↔
      ∀ last ∈ lastAcceptedStep, last < step := by
  cases lastAcceptedStep with
  | none => simp
  | some last => simp

/-- When the loop succeeds: the step is fresh and has the code, and no step before it has it. -/
theorem verifySteps_eq_ok {steps : List Int} {step : Int}
    (h : verifySteps expected code lastAcceptedStep steps = some (.ok step)) :
    ∃ before after, steps = before ++ step :: after ∧ expected step = some code ∧
      (∀ last ∈ lastAcceptedStep, last < step) ∧ ∀ b ∈ before, expected b ≠ some code := by
  induction steps with
  | nil => cases h
  | cons first rest ih =>
    cases hexpected : expected first with
    | none =>
      rw [verifySteps, hexpected] at h
      cases h
    | some other =>
      by_cases hother : other = code
      · subst hother
        rw [verifySteps_stop hexpected] at h
        split_ifs at h with hold
        · cases h
        · cases h
          exact ⟨[], rest, rfl, hexpected, any_le_eq_false_iff.mp hold, List.forall_mem_nil _⟩
      · rw [verifySteps_skip hexpected hother] at h
        obtain ⟨before, after, rfl, hstep, hfresh, hbefore⟩ := ih h
        refine ⟨first :: before, after, rfl, hstep, hfresh, List.forall_mem_cons.mpr ⟨?_, hbefore⟩⟩
        rw [hexpected]
        exact fun heq => hother (Option.some.inj heq)

/-- Where no step throws, one has the code and all that have it are fresh, the loop succeeds. -/
theorem exists_verifySteps_eq_ok {steps : List Int}
    (hsome : ∀ step, (expected step).isSome = true)
    (hfresh : ∀ step ∈ steps, expected step = some code → ∀ last ∈ lastAcceptedStep, last < step)
    (hexists : ∃ step ∈ steps, expected step = some code) :
    ∃ step, verifySteps expected code lastAcceptedStep steps = some (.ok step) := by
  induction steps with
  | nil =>
    obtain ⟨_, hmem, -⟩ := hexists
    cases hmem
  | cons first rest ih =>
    obtain ⟨hfirst, hrest⟩ := List.forall_mem_cons.mp hfresh
    obtain ⟨other, hexpected⟩ := Option.isSome_iff_exists.mp (hsome first)
    by_cases hother : other = code
    · subst hother
      refine ⟨first, ?_⟩
      rw [verifySteps_stop hexpected, if_neg (any_le_eq_false_iff.mpr (hfirst hexpected))]
    · rw [verifySteps_skip hexpected hother]
      refine ih hrest ?_
      obtain ⟨step, hmem, hstep⟩ := hexists
      rcases List.mem_cons.mp hmem with rfl | hmem
      · exact absurd (Option.some.inj (hexpected.symm.trans hstep)) hother
      · exact ⟨step, hmem, hstep⟩

end Loop

/-! ## Acceptance -/

/-- **The fresh window is accepted exactly where no step accepted before shares its code** with a
fresh one: the loop does not look behind a step that was accepted before. -/
theorem verifyTotpCode_exact_iff (upper : UpperCase) (hmacSha1 : HmacSha1) (input : TotpCodeInput)
    (hcode : IsSixDigits (trim input.code)) :
    input.AcceptsFreshWindow upper hmacSha1 ↔
      ¬ ∃ old fresh, (input.InWindow old ∧ ¬ input.Fresh old ∧ input.HasCode upper hmacSha1 old) ∧
        input.InWindow fresh ∧ input.Fresh fresh ∧ input.HasCode upper hmacSha1 fresh := by
  have hne : trim input.code ≠ [] := by
    intro hnil
    have hlength := hcode.1
    rw [hnil] at hlength
    cases hlength
  have hverify : verifyTotpCode upper hmacSha1 input = verifySteps
      (fun step => hotp upper hmacSha1 input.secretBase32 step 6) (trim input.code)
        input.lastAcceptedStep input.steps := if_neg (not_not.mpr hcode)
  constructor
  · rintro ⟨hiff, -⟩ ⟨old, fresh, ⟨hwindow, hold, holdCode⟩, hfresh⟩
    obtain ⟨step, hstep⟩ := hiff.mpr ⟨fresh, hfresh⟩
    rw [hverify] at hstep
    obtain ⟨before, after, hsteps, -, hlater, hbefore⟩ := verifySteps_eq_ok hstep
    have hlt : old < step := by
      unfold TotpCodeInput.Fresh at hold
      push Not at hold
      obtain ⟨last, hlast, hle⟩ := hold
      exact Int.lt_of_le_of_lt hle (hlater last hlast)
    have hmem : old ∈ before ++ step :: after :=
      hsteps ▸ mem_steps.mpr ⟨holdCode.nonneg hne, hwindow⟩
    have hsorted := steps_sorted input
    rw [hsteps, List.pairwise_append] at hsorted
    rcases List.mem_append.mp hmem with hmem | hmem
    · exact hbefore old hmem holdCode
    · rcases List.mem_cons.mp hmem with rfl | hmem
      · exact lt_irrefl _ hlt
      · exact lt_asymm hlt ((List.pairwise_cons.mp hsorted.2.1).1 old hmem)
  · intro hnone
    have hsound : ∀ step, verifyTotpCode upper hmacSha1 input = some (.ok step) →
        input.InWindow step ∧ input.Fresh step ∧ input.HasCode upper hmacSha1 step := by
      intro step hstep
      rw [hverify] at hstep
      obtain ⟨before, after, hsteps, hhas, hlater, -⟩ := verifySteps_eq_ok hstep
      have hmem : step ∈ input.steps :=
        hsteps ▸ List.mem_append_right before List.mem_cons_self
      exact ⟨(mem_steps.mp hmem).2, hlater, hhas⟩
    refine ⟨⟨fun h => h.imp hsound, ?_⟩, hsound⟩
    rintro ⟨fresh, hwindow, hfresh, hhas⟩
    rw [hverify]
    refine exists_verifySteps_eq_ok (hhas.hotp_isSome hne) ?_
      ⟨fresh, mem_steps.mpr ⟨hhas.nonneg hne, hwindow⟩, hhas⟩
    intro step hmem hstep
    by_contra hold
    exact hnone ⟨step, fresh, ⟨(mem_steps.mp hmem).2, hold, hstep⟩, hwindow, hfresh, hhas⟩

/-- HMAC-SHA-1 under the key `12345678901234567890` at the counters 910737 and 910738. -/
def tableHmac : HmacSha1 := fun _ => some fun counter =>
  if counter = counterToBytes 910737 then
    [241, 218, 189, 144, 251, 1, 37, 147, 124, 28, 62, 126, 65, 252, 250, 77, 228, 181, 31, 34]
  else if counter = counterToBytes 910738 then
    [175, 71, 124, 58, 151, 18, 82, 176, 0, 237, 103, 139, 35, 224, 113, 65, 61, 70, 217, 12]
  else []

/-- The code that the steps 910737 and 910738 share, presented in the second of them. -/
def sharedCodeInput : TotpCodeInput where
  secretBase32 := js "GEZDGNBVGY3TQOJQGEZDGNBVGY3TQOJQ"
  code := js "911617"
  nowUnixSeconds := 27322140

/-- Before any step was accepted, the shared code is accepted as it should be. -/
theorem verifyTotpCode_exact_first :
    sharedCodeInput.AcceptsFreshWindow asciiUpperCase tableHmac := by
  refine (verifyTotpCode_exact_iff asciiUpperCase tableHmac sharedCodeInput (by decide)).mpr ?_
  rintro ⟨old, fresh, ⟨-, hold, -⟩, -⟩
  refine hold fun last hlast => ?_
  cases hlast

/-- After the first of the two steps was accepted, the second one's code is refused. -/
theorem verifyTotpCode_not_exact :
    ¬ { sharedCodeInput with lastAcceptedStep := some 910737 }.AcceptsFreshWindow
      asciiUpperCase tableHmac := by
  have hverify : verifyTotpCode asciiUpperCase tableHmac
      { sharedCodeInput with lastAcceptedStep := some 910737 } = some .replayed := by
    decide +kernel
  have hcode : hotp asciiUpperCase tableHmac sharedCodeInput.secretBase32 910738 6 =
      some (trim sharedCodeInput.code) := by
    decide +kernel
  rintro ⟨hiff, -⟩
  have hwindow : { sharedCodeInput with lastAcceptedStep := some 910737 }.InWindow 910738 :=
    ⟨by decide, by decide⟩
  have hfresh : { sharedCodeInput with lastAcceptedStep := some 910737 }.Fresh 910738 := by
    rintro last ⟨⟩
    decide
  obtain ⟨step, hstep⟩ := hiff.mpr ⟨910738, hwindow, hfresh, hcode⟩
  rw [hverify] at hstep
  cases hstep

end HonoWarden
