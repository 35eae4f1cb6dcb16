import HonoWarden.Mfa.SecretRotation
import HonoWarden.Relational.Paired

/-!
# A rewrap loses no secret, if nothing comes between

The database of a rewrap run is compared with the one that the requests alone have left. Row for
row they are the same, except that an envelope may stand for another (`Stands`): the run has
replaced one by the other, and both hold the same secret. A request that names no replaced envelope
does the same to both (`TotpCall.run_paired`).

The UPDATE of the script compares the active envelope only. A change started after the reading
leaves the active envelope as it is, and the UPDATE then puts back the pending envelope it has
read, or none.

Results:
* `stands_iff_original`: a request names a stored envelope in both databases or in neither;
* `executeMutation_paired`: an UPDATE that meets the pending envelope it has read;
* **`rotation_keeps_factors`**: in a run of undisturbed steps, every factor holds the secrets that
  the requests alone would have left;
* `rotation_loses_pending`: a change that is started before the UPDATE is lost.
-/

namespace HonoWarden

open Relational

/-! ## Envelopes that stand for others -/

/-- `envelope'` is `envelope`, or what the run has put in its place. The run does not know the
envelopes that an account stores after its row has been rewritten. -/
def Stands (rewrites : List Rewrite) (known : List String) (userId envelope envelope' : String) :
    Prop :=
  ⟨userId, envelope, envelope'⟩ ∈ rewrites ∨
    envelope' = envelope ∧ ((∃ r ∈ rewrites, r.userId = userId) → envelope ∉ known)

/-- No two envelopes of an account are replaced by one, and none by two. -/
structure RewritesSound (rewrites : List Rewrite) (known : List String) : Prop where
  previous_known : ∀ r ∈ rewrites, r.previous ∈ known
  next_known : ∀ r ∈ rewrites, r.next ∈ known
  previous_inj : ∀ r ∈ rewrites, ∀ r' ∈ rewrites, r.userId = r'.userId →
    r.previous = r'.previous → r = r'
  next_inj : ∀ r ∈ rewrites, ∀ r' ∈ rewrites, r.userId = r'.userId → r.next = r'.next → r = r'
  differ : ∀ r ∈ rewrites, r.next ≠ r.previous

section Stands

variable {rewrites : List Rewrite} {known : List String} {userId envelope e e' : String}

theorem original_of_mem (hsound : RewritesSound rewrites known)
    (h : ⟨userId, e, envelope⟩ ∈ rewrites) : original rewrites userId envelope = e := by
  unfold original
  cases hfind : rewrites.find? fun r => r.userId = userId ∧ r.next = envelope with
  | none =>
    have hmiss := List.find?_eq_none.mp hfind _ h
    simp at hmiss
  | some r =>
    have hr := List.mem_of_find?_eq_some hfind
    obtain ⟨huser, hnext⟩ : r.userId = userId ∧ r.next = envelope := by
      simpa using List.find?_some hfind
    rw [hsound.next_inj r hr _ h huser hnext]
    rfl

theorem original_of_not_mem (h : ∀ r ∈ rewrites, r.userId = userId → r.next ≠ envelope) :
    original rewrites userId envelope = envelope := by
  unfold original
  rw [List.find?_eq_none.mpr fun r hr => by simpa using h r hr]
  rfl

/-- **A request names a stored envelope in both databases or in neither**, when it names none that
has been replaced. -/
theorem stands_iff_original (hsound : RewritesSound rewrites known)
    (hnames : ∀ r ∈ rewrites, r.userId = userId → r.previous ≠ envelope)
    (h : Stands rewrites known userId e e') :
    e = original rewrites userId envelope ↔ e' = envelope := by
  by_cases hnext : ∃ r ∈ rewrites, r.userId = userId ∧ r.next = envelope
  · obtain ⟨r, hr, rfl, rfl⟩ := hnext
    rw [original_of_mem hsound hr]
    rcases h with hmem | ⟨rfl, hunknown⟩
    · constructor
      · rintro rfl
        exact congrArg Rewrite.next (hsound.previous_inj _ hmem r hr rfl rfl)
      · rintro rfl
        exact congrArg Rewrite.previous (hsound.next_inj _ hmem r hr rfl rfl)
    · have hfresh := hunknown ⟨r, hr, rfl⟩
      constructor
      · rintro rfl
        exact absurd (hsound.previous_known r hr) hfresh
      · rintro rfl
        exact absurd (hsound.next_known r hr) hfresh
  · have hmiss : ∀ r ∈ rewrites, r.userId = userId → r.next ≠ envelope :=
      fun r hr huser hr' => hnext ⟨r, hr, huser, hr'⟩
    rw [original_of_not_mem hmiss]
    rcases h with hmem | ⟨rfl, -⟩
    · constructor
      · rintro rfl
        exact absurd rfl (hnames _ hmem rfl)
      · rintro rfl
        exact absurd rfl (hmiss _ hmem rfl)
    · exact Iff.rfl

/-- An envelope the run does not know stands for itself. -/
theorem Stands.fresh (h : envelope ∉ known) : Stands rewrites known userId envelope envelope :=
  .inr ⟨rfl, fun _ => h⟩

/-- What the run does to other accounts changes nothing. -/
theorem Stands.other {more : List Rewrite} (h : Stands rewrites known userId e e')
    (hother : ∀ r ∈ more, r.userId ≠ userId) : Stands (more ++ rewrites) known userId e e' := by
  rcases h with hmem | ⟨rfl, hunknown⟩
  · exact .inl (List.mem_append_right _ hmem)
  · refine .inr ⟨rfl, ?_⟩
    rintro ⟨r, hr, huser⟩
    rcases List.mem_append.mp hr with hmore | hold
    · exact absurd huser (hother r hmore)
    · exact hunknown ⟨r, hold, huser⟩

end Stands

/-! ## Factors that correspond -/

/-- `t'` is the row `t`, with its envelopes or with what stands for them. -/
structure FactorPair (rewrites : List Rewrite) (known : List String) (t t' : UserTotp) : Prop where
  userId : t'.userId = t.userId
  enabled : t'.enabled = t.enabled
  verifiedAt : t'.verifiedAt = t.verifiedAt
  lastAcceptedStep : t'.lastAcceptedStep = t.lastAcceptedStep
  credentialGeneration : t'.credentialGeneration = t.credentialGeneration
  pendingCreatedAt : t'.pendingCreatedAt = t.pendingCreatedAt
  active : Stands rewrites known t.userId t.encryptedSecret t'.encryptedSecret
  pending : Option.Rel (Stands rewrites known t.userId) t.pendingEncryptedSecret
    t'.pendingEncryptedSecret
  /-- A row keeps both envelopes, or none of those the run has read. -/
  together : t'.encryptedSecret = t.encryptedSecret →
    t'.pendingEncryptedSecret = t.pendingEncryptedSecret

/-- `db` is `alone`, but for factors that correspond. -/
def Paired (rewrites : List Rewrite) (known : List String) (alone db : Db) : Prop :=
  List.Forall₂ (FactorPair rewrites known) alone.userTotp.rows db.userTotp.rows ∧
    db = { alone with userTotp := db.userTotp }

section Pairs

variable {rewrites : List Rewrite} {known : List String} {alone db : Db}

theorem userTotp_corresponds :
    Db.userTotpIn.Corresponds (Paired rewrites known) (FactorPair rewrites known) where
  rows h := h.1
  put h hT := ⟨hT, by rw [h.2]⟩
  key {a a' b b'} h h' := by
    change a.userId = b.userId ↔ a'.userId = b'.userId
    rw [h.userId, h'.userId]
  alternate _ _ := Iff.rfl

/-- Every other table is the same in both. -/
theorem corresponds_of_beside {α κ : Type} [Keyed α κ] {t : TableIn Db α}
    (hget : ∀ db U, t.get { db with userTotp := U } = t.get db)
    (hput : ∀ db U T, t.put { db with userTotp := U } T = { t.put db T with userTotp := U })
    (hkeep : ∀ db T, (t.put db T).userTotp = db.userTotp) :
    t.Corresponds (Paired rewrites known) (fun a a' => a = a') where
  rows {s s'} h := by
    have hsame : t.get s' = t.get s := (congrArg t.get h.2).trans (hget _ _)
    rw [hsame]
    exact List.forall₂_same.mpr fun _ _ => rfl
  put {s s' T T'} h hT := by
    rw [List.forall₂_eq_eq_eq] at hT
    refine ⟨?_, ?_⟩
    · rw [hkeep, hkeep]
      exact h.1
    · rw [Table.ext hT, hkeep]
      exact (congrArg (t.put · T') h.2).trans (hput _ _ _)
  key h h' := by rw [h, h']
  alternate h h' := by rw [h, h']

theorem devices_corresponds :
    Db.devicesIn.Corresponds (Paired rewrites known) (fun d d' => d = d') :=
  corresponds_of_beside (fun _ _ => rfl) (fun _ _ _ => rfl) fun _ _ => rfl

theorem users_corresponds :
    Db.usersIn.Corresponds (Paired rewrites known) (fun u u' => u = u') :=
  corresponds_of_beside (fun _ _ => rfl) (fun _ _ _ => rfl) fun _ _ => rfl

theorem auditEvents_corresponds :
    Db.auditEventsIn.Corresponds (Paired rewrites known) (fun e e' => e = e') :=
  corresponds_of_beside (fun _ _ => rfl) (fun _ _ _ => rfl) fun _ _ => rfl

theorem Paired.activeSession (h : Paired rewrites known alone db) {actor : MfaSessionActor}
    {userId : String} : actor.ActiveSession alone userId ↔ actor.ActiveSession db userId := by
  rw [h.2]
  rfl

/-- What reads no envelope holds of a factor in both or in neither. -/
theorem Paired.exists_factor (h : Paired rewrites known alone db) {P : UserTotp → Prop}
    (hP : ∀ t t', FactorPair rewrites known t t' → (P t ↔ P t')) :
    (∃ t ∈ alone.userTotp.rows, P t) ↔ ∃ t ∈ db.userTotp.rows, P t :=
  exists_iff_of_forall₂ h.1 hP

theorem FactorPair.enrolled {t t' : UserTotp} (h : FactorPair rewrites known t t') :
    t.Enrolled ↔ t'.Enrolled := by
  unfold UserTotp.Enrolled
  rw [h.enabled, h.verifiedAt, h.credentialGeneration]

theorem Paired.lastEnrolledOwner (h : Paired rewrites known alone db) {t t' : UserTotp}
    (ht : FactorPair rewrites known t t') :
    LastEnrolledOwnerCanRemoveTotp alone t ↔ LastEnrolledOwnerCanRemoveTotp db t' := by
  have hfactor : ∀ m : OrganizationUser,
      (∃ factor ∈ alone.userTotp.rows, m.userId = some factor.userId ∧ factor.Enrolled) ↔
        ∃ factor ∈ db.userTotp.rows, m.userId = some factor.userId ∧ factor.Enrolled :=
    fun m => h.exists_factor fun f f' hf => by rw [hf.userId, hf.enrolled]
  unfold LastEnrolledOwnerCanRemoveTotp
  simp only [hfactor]
  rw [ht.userId, h.2]

/-! ## Triggers and statements -/

theorem invalidateSessionMfaOnTotpChange_paired {images images' : List (UserTotp × UserTotp)}
    (h : Paired rewrites known alone db)
    (himages : TableIn.ImagesRelated (FactorPair rewrites known) images images') :
    Paired rewrites known (invalidateSessionMfaOnTotpChange images alone).1
        (invalidateSessionMfaOnTotpChange images' db).1 ∧
      (invalidateSessionMfaOnTotpChange images alone).2 =
        (invalidateSessionMfaOnTotpChange images' db).2 := by
  refine devices_corresponds.nestedUpdate_alike h (fun d d' hd => ?_) fun d d' hd _ => by rw [hd]
  subst hd
  refine exists_iff_of_forall₂ himages fun image image' hi => ?_
  rw [hi.2.enabled, hi.2.credentialGeneration, hi.1.credentialGeneration, hi.2.userId]

theorem invalidateSessionMfaOnTotpDelete_paired {rows rows' : List UserTotp}
    (h : Paired rewrites known alone db)
    (hrows : List.Forall₂ (FactorPair rewrites known) rows rows') :
    Paired rewrites known (invalidateSessionMfaOnTotpDelete rows alone).1
        (invalidateSessionMfaOnTotpDelete rows' db).1 ∧
      (invalidateSessionMfaOnTotpDelete rows alone).2 =
        (invalidateSessionMfaOnTotpDelete rows' db).2 := by
  refine devices_corresponds.nestedUpdate_alike h (fun d d' hd => ?_) fun d d' hd _ => by rw [hd]
  subst hd
  exact exists_iff_of_forall₂ hrows fun t t' ht => by rw [ht.userId]

theorem sessionProofStatement_alike (actor : MfaSessionActor) (generation : String)
    (verifiedAt : Timestamp) :
    Statement.Alike (Paired rewrites known) (sessionProofStatement actor generation verifiedAt)
      (sessionProofStatement actor generation verifiedAt) := by
  refine devices_corresponds.update_alike (fun {s s' n d d'} hs hd => ?_) fun _ hd _ => by rw [hd]
  subst hd
  refine and_congr_right fun _ => and_congr_right fun _ => and_congr_right fun _ => ?_
  exact hs.exists_factor fun t t' ht => by
    rw [ht.userId, ht.enabled, ht.verifiedAt, ht.credentialGeneration]

theorem consumeStepStatement_alike (input : TotpStepUpInput) :
    Statement.Alike (Paired rewrites known) (consumeStepStatement input)
      (consumeStepStatement input) := by
  refine userTotp_corresponds.update_alike (fun {s s' n t t'} hs ht => ?_) fun _ ht _ => ?_
  · unfold TotpStepUpInput.Factor
    rw [ht.userId, ht.enabled, ht.verifiedAt, ht.credentialGeneration, ht.lastAcceptedStep,
      hs.activeSession]
  · exact { ht with lastAcceptedStep := rfl }

theorem storePendingSecret_alike (input : TotpChangeStartInput)
    (hfresh : input.encryptedSecret ∉ known) :
    Statement.Alike (Paired rewrites known) (storePendingSecret input)
      (storePendingSecret input) := by
  refine userTotp_corresponds.update_alike (fun {s s' n t t'} hs ht => ?_) fun _ ht _ => ?_
  · rw [ht.userId, ht.enabled, ht.credentialGeneration, hs.activeSession]
  · exact
      { ht with
        pendingCreatedAt := rfl
        pending := .some (.fresh hfresh)
        together := fun _ => rfl }

end Pairs

/-! ## Requests -/

section Requests

variable {rewrites : List Rewrite} {known : List String} {alone db : Db}

theorem createPendingTotpSetupForSession_paired (h : Paired rewrites known alone db)
    (input : TotpSetupStartInput) (hfresh : input.encryptedSecret ∉ known) :
    Paired rewrites known (createPendingTotpSetupForSession input alone).1
      (createPendingTotpSetupForSession input db).1 := by
  suffices halike : Statement.Alike (Paired rewrites known) (upsertPendingSetup input)
      (upsertPendingSetup input) from (execute_alike halike h).1
  refine userTotp_corresponds.upsertTriggering_alike
    (fun hs himages => invalidateSessionMfaOnTotpChange_paired hs himages)
    (fun {s s' n} hs => ?_) (fun {old old' row row'} hold _ => ?_) fun ht => by rw [ht.userId]
  · by_cases hactive : input.toMfaSessionActor.ActiveSession s input.userId
    · rw [if_pos hactive, if_pos (hs.activeSession.mp hactive)]
      exact .some
        { userId := rfl, enabled := rfl, verifiedAt := rfl, lastAcceptedStep := rfl
          credentialGeneration := rfl, pendingCreatedAt := rfl
          active := .fresh hfresh
          pending := .none
          together := fun _ => rfl }
    · rw [if_neg hactive, if_neg fun hactive' => hactive (hs.activeSession.mpr hactive')]
      exact .none
  · rw [hold.enabled]
    split_ifs
    · exact .some
        { userId := hold.userId, enabled := hold.enabled, verifiedAt := rfl
          lastAcceptedStep := rfl, credentialGeneration := rfl, pendingCreatedAt := rfl
          active := .fresh hfresh
          pending := .none
          together := fun _ => rfl }
    · exact .none

theorem startPendingTotpChangeForSession_paired (h : Paired rewrites known alone db)
    (input : TotpChangeStartInput) (hfresh : input.encryptedSecret ∉ known) :
    Paired rewrites known (startPendingTotpChangeForSession input alone).1
      (startPendingTotpChangeForSession input db).1 := by
  unfold startPendingTotpChangeForSession
  split
  · exact (commit_alike (.cons (consumeStepStatement_alike _)
      (.cons (storePendingSecret_alike input hfresh)
        (.cons (sessionProofStatement_alike _ _ _) .nil))) h).1
  · exact h

theorem enableTotpSetupForSession_paired (hsound : RewritesSound rewrites known)
    (h : Paired rewrites known alone db) (input : TotpEnrollmentInput) (generation : String)
    (hnames : ∀ r ∈ rewrites, r.userId = input.userId →
      r.previous ≠ input.expectedEncryptedSecret) :
    Paired rewrites known
      (enableTotpSetupForSession
        { input with
          expectedEncryptedSecret :=
            original rewrites input.userId input.expectedEncryptedSecret }
        generation alone).1
      (enableTotpSetupForSession input generation db).1 := by
  unfold enableTotpSetupForSession
  dsimp only
  split
  · refine (commit_alike (.cons ?_ (.cons (sessionProofStatement_alike _ _ _) .nil)) h).1
    refine userTotp_corresponds.updateTriggering_alike
      (fun hs himages => invalidateSessionMfaOnTotpChange_paired hs himages)
      (fun {s s' n t t'} hs ht => ?_) (fun _ ht _ => ?_) fun _ _ => rfl
    · unfold TotpEnrollmentInput.Factor
      dsimp only
      rw [ht.userId, ht.enabled, ht.lastAcceptedStep, hs.activeSession]
      refine and_congr_right fun huser => and_congr_right fun _ => and_congr_left fun _ => ?_
      exact stands_iff_original hsound hnames (huser ▸ ht.active)
    · exact
        { ht with
          enabled := rfl, verifiedAt := rfl, lastAcceptedStep := rfl
          credentialGeneration := rfl }
  · exact h

theorem promotePendingTotpChangeForSession_paired (hsound : RewritesSound rewrites known)
    (h : Paired rewrites known alone db) (input : TotpPromotionInput) (generation : String)
    (hnames : ∀ r ∈ rewrites, r.userId = input.userId →
      r.previous ≠ input.expectedPendingEncryptedSecret) :
    Paired rewrites known
      (promotePendingTotpChangeForSession
        { input with
          expectedPendingEncryptedSecret :=
            original rewrites input.userId input.expectedPendingEncryptedSecret }
        generation alone).1
      (promotePendingTotpChangeForSession input generation db).1 := by
  unfold promotePendingTotpChangeForSession
  dsimp only
  split
  · refine (commit_alike (.cons ?_ (.cons (sessionProofStatement_alike _ _ _) .nil)) h).1
    refine userTotp_corresponds.updateTriggering_alike
      (fun hs himages => invalidateSessionMfaOnTotpChange_paired hs himages)
      (fun {s s' n t t'} hs ht => ?_) (fun {s s' n t t'} _ ht hhit => ?_) fun _ _ => rfl
    · unfold TotpPromotionInput.Factor
      dsimp only
      rw [ht.userId, ht.enabled, ht.verifiedAt, ht.credentialGeneration, hs.activeSession]
      refine and_congr_right fun huser => and_congr_right fun _ => and_congr_right fun _ =>
        and_congr_right fun _ => and_congr_left fun _ => ?_
      have hpending := ht.pending
      generalize t.pendingEncryptedSecret = p at hpending ⊢
      generalize t'.pendingEncryptedSecret = p' at hpending ⊢
      cases hpending with
      | none => simp
      | some hstands =>
        rw [Option.some_inj, Option.some_inj]
        exact stands_iff_original hsound hnames (huser ▸ hstands)
    · have hpending := ht.pending
      obtain ⟨-, -, -, -, hstored, -⟩ := hhit
      rw [hstored] at hpending
      generalize hp' : t'.pendingEncryptedSecret = p' at hpending
      cases hpending with
      | some hstands =>
        refine
          { ht with
            verifiedAt := rfl, lastAcceptedStep := rfl, credentialGeneration := rfl
            pendingCreatedAt := rfl
            active := ?_
            pending := .none
            together := fun _ => rfl }
        dsimp only [TotpPromotionInput.promote]
        rw [hstored, hp']
        exact hstands
  · exact h

theorem disableTotpSetupForSession_paired (h : Paired rewrites known alone db)
    (input : TotpDisableInput) :
    Paired rewrites known (disableTotpSetupForSession input alone).1
      (disableTotpSetupForSession input db).1 := by
  refine (commit_alike (.cons ?_ (.cons ?_ (.cons ?_ .nil))) h).1
  · refine userTotp_corresponds.deleteTriggering_alike
      (fun hs hrows => invalidateSessionMfaOnTotpDelete_paired hs hrows)
      (fun {s s' n t t'} hs ht => ?_) fun ht => by rw [ht.userId]
    unfold TotpDisableInput.Factor
    rw [ht.userId, ht.enabled, ht.credentialGeneration, hs.activeSession, hs.lastEnrolledOwner ht]
  · exact users_corresponds.update_alike (fun _ hu => by rw [hu]) fun _ hu _ => by rw [hu]
  · exact auditEvents_corresponds.insertSelect_alike (fun _ => List.forall₂_refl _) fun _ => rfl

/-- **A request does the same to both databases**, when it stores a fresh envelope and names none
that has been replaced. -/
theorem TotpCall.run_paired (hsound : RewritesSound rewrites known)
    (h : Paired rewrites known alone db) {call : TotpCall} (hfresh : ∀ e ∈ call.draws, e ∉ known)
    (hnames : ∀ envelope ∈ call.expected?, ∀ r ∈ rewrites, r.userId = call.userId →
      r.previous ≠ envelope) :
    Paired rewrites known ((call.naming (original rewrites call.userId)).run alone)
      (call.run db) := by
  cases call with
  | setup input =>
    exact createPendingTotpSetupForSession_paired h input (hfresh _ List.mem_cons_self)
  | changeStart input =>
    exact startPendingTotpChangeForSession_paired h input (hfresh _ List.mem_cons_self)
  | enable input generation =>
    exact enableTotpSetupForSession_paired hsound h input generation (hnames _ rfl)
  | promote input generation =>
    exact promotePendingTotpChangeForSession_paired hsound h input generation (hnames _ rfl)
  | disable input => exact disableTotpSetupForSession_paired h input

end Requests


/-! ## Writes of the run -/

/-- What the plan of one row promises. -/
structure PlanSound (S : TotpSecrets) (known : List String) (plan : MutationPlan) : Prop where
  previous : plan.previousEncryptedSecret ∈ known
  next : plan.nextEncryptedSecret ∈ known
  active : S.Rewrapped plan.previousEncryptedSecret plan.nextEncryptedSecret
  differs : plan.nextEncryptedSecret ≠ plan.previousEncryptedSecret
  pending : Option.Rel
    (fun previous next => previous ∈ known ∧ next ∈ known ∧ S.Rewrapped previous next ∧
      next ≠ previous ∧ next ≠ plan.nextEncryptedSecret)
    plan.pendingEncryptedSecret plan.nextPendingEncryptedSecret

theorem PlanSound.nextPending {S : TotpSecrets} {known : List String} {plan : MutationPlan}
    {next : String} (h : PlanSound S known plan)
    (hnext : plan.nextPendingEncryptedSecret = some next) :
    next ∈ known ∧ next ≠ plan.nextEncryptedSecret := by
  have hpending := h.pending
  rw [hnext] at hpending
  generalize plan.pendingEncryptedSecret = p at hpending
  cases hpending with
  | some hread => exact ⟨hread.2.1, hread.2.2.2.2⟩

section Writes

variable {S : TotpSecrets} {rewrites : List Rewrite} {known : List String} {alone db : Db}
  {plan : MutationPlan}

theorem mem_rewrites {r : Rewrite} : r ∈ plan.rewrites ↔
    r = ⟨plan.userId, plan.previousEncryptedSecret, plan.nextEncryptedSecret⟩ ∨
      ∃ previous next, plan.pendingEncryptedSecret = some previous ∧
        plan.nextPendingEncryptedSecret = some next ∧ r = ⟨plan.userId, previous, next⟩ := by
  unfold MutationPlan.rewrites
  cases plan.pendingEncryptedSecret <;> cases plan.nextPendingEncryptedSecret <;>
    simp [List.mem_cons]

theorem userId_of_mem_rewrites {r : Rewrite} (h : r ∈ plan.rewrites) : r.userId = plan.userId := by
  rcases mem_rewrites.mp h with rfl | ⟨_, _, -, -, rfl⟩ <;> rfl

theorem executeMutation_eq (plan : MutationPlan) (generatedAt : Timestamp) (db : Db) :
    ∃ U, (executeMutation plan generatedAt db).1 = { db with userTotp := U } ∧
      U.rows = updateWhere plan.Hits (plan.apply generatedAt) db.userTotp.rows := by
  obtain ⟨U, r, hrun, hU, -⟩ := TableIn.updateReturning_total (s := db) Db.userTotpIn
    (fun _ _ => plan.Hits) (fun _ => plan.apply generatedAt) 0 (fun _ => [])
    fun _ => ⟨rfl, fun _ h => h⟩
  refine ⟨U, ?_, hU⟩
  unfold executeMutation execute mutationSql
  rw [TableIn.update, hrun]

/-- **An UPDATE that meets the pending envelope it has read** replaces both envelopes. -/
theorem executeMutation_paired (h : Paired rewrites known alone db)
    (hplan : PlanSound S known plan) (hfirst : ∀ r ∈ rewrites, r.userId ≠ plan.userId)
    (hundisturbed : ∀ t ∈ db.userTotp.rows, plan.Hits t →
      t.pendingEncryptedSecret = plan.pendingEncryptedSecret) (generatedAt : Timestamp) :
    Paired
      (if ∃ t ∈ db.userTotp.rows, plan.Hits t then plan.rewrites ++ rewrites else rewrites)
      known alone (executeMutation plan generatedAt db).1 := by
  obtain ⟨U, hU, hrows⟩ := executeMutation_eq plan generatedAt db
  rw [hU]
  refine ⟨?_, by rw [h.2]⟩
  dsimp only
  rw [hrows]
  by_cases hhit : ∃ t ∈ db.userTotp.rows, plan.Hits t
  · rw [if_pos hhit]
    obtain ⟨t₀, ht₀, hit₀⟩ := hhit
    refine List.forall₂_map_right_iff.mpr ((forall₂_with_mem h.1).imp ?_)
    rintro t t' ⟨ht, -, ht'⟩
    by_cases hit : plan.Hits t'
    · rw [if_pos hit]
      have huser : t.userId = plan.userId := ht.userId.symm.trans hit.1
      -- the run has not been at this account, so nothing stands for another envelope yet
      have hsame : ∀ {e e'}, Stands rewrites known t.userId e e' → e' = e := by
        rintro e e' (hmem | ⟨rfl, -⟩)
        · exact absurd huser (hfirst _ hmem)
        · rfl
      have hactive : t.encryptedSecret = plan.previousEncryptedSecret :=
        (hsame ht.active).symm.trans hit.2
      refine
        { ht with
          active := .inl (List.mem_append_left _ (mem_rewrites.mpr (.inl ?_)))
          pending := ?_
          together := fun heq => absurd (heq.trans hactive) hplan.differs }
      · rw [huser, hactive]
        rfl
      · have hpending := ht.pending
        have hread := hundisturbed t' ht' hit
        have hnext := hplan.pending
        change Option.Rel _ t.pendingEncryptedSecret plan.nextPendingEncryptedSecret
        generalize hp : t.pendingEncryptedSecret = p at hpending ⊢
        generalize t'.pendingEncryptedSecret = p' at hpending hread
        subst hread
        generalize hq : plan.pendingEncryptedSecret = q at hpending hnext
        generalize hq' : plan.nextPendingEncryptedSecret = q' at hnext ⊢
        cases hnext with
        | none =>
          cases hpending
          exact .none
        | @some previous next _ =>
          cases hpending with
          | @some e _ hstands =>
            obtain rfl := hsame hstands
            refine .some (.inl (List.mem_append_left _ (mem_rewrites.mpr (.inr ?_))))
            exact ⟨previous, next, hq, hq', by rw [huser]⟩
    · rw [if_neg hit]
      have hother : t.userId ≠ plan.userId := by
        intro huser
        have heq := db.userTotp.eq_of_key ht' ht₀ ((ht.userId.trans huser).trans hit₀.1.symm)
        exact hit (heq ▸ hit₀)
      have hmore : ∀ r ∈ plan.rewrites, r.userId ≠ t.userId := fun r hr huser =>
        hother (huser.symm.trans (userId_of_mem_rewrites hr))
      refine { ht with active := ht.active.other hmore, pending := ?_ }
      have hpending := ht.pending
      generalize t.pendingEncryptedSecret = p at hpending ⊢
      generalize t'.pendingEncryptedSecret = p' at hpending ⊢
      cases hpending with
      | none => exact .none
      | some hstands => exact .some (hstands.other hmore)
  · rw [if_neg hhit, updateWhere_eq_self fun t ht hit => hhit ⟨t, ht, hit⟩]
    exact h.1

/-- The envelopes that an UPDATE replaces are replaced once. -/
theorem RewritesSound.written (hsound : RewritesSound rewrites known)
    (hplan : PlanSound S known plan) (hfirst : ∀ r ∈ rewrites, r.userId ≠ plan.userId)
    (hapart : plan.pendingEncryptedSecret ≠ some plan.previousEncryptedSecret) :
    RewritesSound (plan.rewrites ++ rewrites) known := by
  have hpending : ∀ previous next, plan.pendingEncryptedSecret = some previous →
      plan.nextPendingEncryptedSecret = some next → previous ∈ known ∧ next ∈ known ∧
        S.Rewrapped previous next ∧ next ≠ previous ∧ next ≠ plan.nextEncryptedSecret := by
    intro previous next hprevious hnext
    have hread := hplan.pending
    rw [hprevious, hnext] at hread
    cases hread with
    | some h => exact h
  have hinj : ∀ r ∈ plan.rewrites, ∀ r' ∈ plan.rewrites,
      r.previous = r'.previous ∨ r.next = r'.next → r = r' := by
    intro r hr r' hr' heq
    rcases mem_rewrites.mp hr with rfl | ⟨p, n, hp, hn, rfl⟩ <;>
      rcases mem_rewrites.mp hr' with rfl | ⟨p', n', hp', hn', rfl⟩
    · rfl
    · rcases heq with heq | heq
      · exact absurd (hp'.trans (congrArg some heq.symm)) hapart
      · exact absurd heq.symm (hpending p' n' hp' hn').2.2.2.2
    · rcases heq with heq | heq
      · exact absurd (hp.trans (congrArg some heq)) hapart
      · exact absurd heq (hpending p n hp hn).2.2.2.2
    · obtain rfl := Option.some.inj (hp.symm.trans hp')
      obtain rfl := Option.some.inj (hn.symm.trans hn')
      rfl
  have hsplit : ∀ r ∈ plan.rewrites ++ rewrites, ∀ r' ∈ plan.rewrites ++ rewrites,
      r.userId = r'.userId → (r ∈ plan.rewrites ∧ r' ∈ plan.rewrites) ∨
        (r ∈ rewrites ∧ r' ∈ rewrites) := by
    intro r hr r' hr' huser
    rcases List.mem_append.mp hr with hr | hr <;> rcases List.mem_append.mp hr' with hr' | hr'
    · exact .inl ⟨hr, hr'⟩
    · exact absurd (huser.symm.trans (userId_of_mem_rewrites hr)) (hfirst r' hr')
    · exact absurd (huser.trans (userId_of_mem_rewrites hr')) (hfirst r hr)
    · exact .inr ⟨hr, hr'⟩
  refine
    { previous_known := fun r hr => ?_
      next_known := fun r hr => ?_
      previous_inj := fun r hr r' hr' huser heq => ?_
      next_inj := fun r hr r' hr' huser heq => ?_
      differ := fun r hr => ?_ }
  · rcases List.mem_append.mp hr with hr | hr
    · rcases mem_rewrites.mp hr with rfl | ⟨p, n, hp, hn, rfl⟩
      · exact hplan.previous
      · exact (hpending p n hp hn).1
    · exact hsound.previous_known r hr
  · rcases List.mem_append.mp hr with hr | hr
    · rcases mem_rewrites.mp hr with rfl | ⟨p, n, hp, hn, rfl⟩
      · exact hplan.next
      · exact (hpending p n hp hn).2.1
    · exact hsound.next_known r hr
  · rcases hsplit r hr r' hr' huser with ⟨hr, hr'⟩ | ⟨hr, hr'⟩
    · exact hinj r hr r' hr' (.inl heq)
    · exact hsound.previous_inj r hr r' hr' huser heq
  · rcases hsplit r hr r' hr' huser with ⟨hr, hr'⟩ | ⟨hr, hr'⟩
    · exact hinj r hr r' hr' (.inr heq)
    · exact hsound.next_inj r hr r' hr' huser heq
  · rcases List.mem_append.mp hr with hr | hr
    · rcases mem_rewrites.mp hr with rfl | ⟨p, n, hp, hn, rfl⟩
      · exact hplan.differs
      · exact (hpending p n hp hn).2.2.2.1
    · exact hsound.differ r hr

theorem rewrapped_of_mem_rewrites (hplan : PlanSound S known plan) :
    ∀ r ∈ plan.rewrites, S.Rewrapped r.previous r.next := by
  intro r hr
  rcases mem_rewrites.mp hr with rfl | ⟨p, n, hp, hn, rfl⟩
  · exact hplan.active
  · have hread := hplan.pending
    rw [hp, hn] at hread
    cases hread with
    | some h => exact h.2.2.1

end Writes

/-! ## The plan -/

section Plans

/-- What the elements of a result come from. -/
theorem exists_of_mem_mapM {α β : Type} {f : α → Option β} {b : β} :
    ∀ {xs : List α} {ys : List β}, xs.mapM f = some ys → b ∈ ys → ∃ a ∈ xs, f a = some b
  | [], _, h, hb => by
    obtain rfl := Option.some.inj h
    cases hb
  | a :: xs, _, h, hb => by
    simp only [List.mapM_cons, bind, Option.bind_eq_some_iff] at h
    obtain ⟨first, hfirst, rest, hrest, hcons⟩ := h
    cases hcons
    rcases List.mem_cons.mp hb with rfl | hb
    · exact ⟨a, List.mem_cons_self, hfirst⟩
    · obtain ⟨a', ha', hf⟩ := exists_of_mem_mapM hrest hb
      exact ⟨a', List.mem_cons_of_mem _ ha', hf⟩

/-- A column that the mapping keeps. -/
theorem map_of_mapM {α β γ : Type} {f : α → Option β} {column : α → γ} {column' : β → γ}
    (hf : ∀ a b, f a = some b → column' b = column a) :
    ∀ {xs : List α} {ys : List β}, xs.mapM f = some ys → ys.map column' = xs.map column
  | [], _, h => by
    obtain rfl := Option.some.inj h
    rfl
  | a :: xs, _, h => by
    simp only [List.mapM_cons, bind, Option.bind_eq_some_iff] at h
    obtain ⟨first, hfirst, rest, hrest, hcons⟩ := h
    cases hcons
    rw [List.map_cons, List.map_cons, hf a first hfirst, map_of_mapM hf hrest]

variable {S : TotpSecrets} {db : Db} {drawn : List (String × String)}

theorem rewrapEnvelope_eq {previous next result : String}
    (h : rewrapEnvelope S previous next = some result) :
    result = next ∧ S.Rewrapped previous next := by
  simp only [rewrapEnvelope, bind, Option.bind_eq_some_iff] at h
  obtain ⟨plaintext, hold, _, -, _, hnew, hresult⟩ := h
  exact ⟨(Option.some.inj hresult).symm, plaintext, hold, (Option.guard_eq_some' _).mp hnew⟩

/-- What a plan has read and drawn. -/
structure PlannedFrom (S : TotpSecrets) (t : UserTotp) (pair : String × String)
    (plan : MutationPlan) : Prop where
  userId : plan.userId = t.userId
  previous : plan.previousEncryptedSecret = t.encryptedSecret
  next : plan.nextEncryptedSecret = pair.1
  active : S.Rewrapped t.encryptedSecret pair.1
  pending : Option.Rel (fun previous next => t.pendingEncryptedSecret = some previous ∧
    next = pair.2 ∧ S.Rewrapped previous next) plan.pendingEncryptedSecret
    plan.nextPendingEncryptedSecret

theorem normalizeRow_eq {t : UserTotp} {row : TotpRow} (h : normalizeRow t = some row) :
    row = ⟨t.userId, t.encryptedSecret, t.pendingEncryptedSecret.filter (· ≠ "")⟩ := by
  unfold normalizeRow at h
  split_ifs at h
  exact (Option.some.inj h).symm

theorem planRow_plannedFrom {t : UserTotp} {row : TotpRow} {pair : String × String}
    {plan : MutationPlan} (hrow : normalizeRow t = some row)
    (h : planRow S row pair = some plan) : PlannedFrom S t pair plan := by
  obtain rfl := normalizeRow_eq hrow
  simp only [planRow, bind, Option.bind_eq_some_iff] at h
  obtain ⟨next, hnext, nextPending, hpending, hplan⟩ := h
  cases hplan
  obtain ⟨rfl, hactive⟩ := rewrapEnvelope_eq hnext
  refine ⟨rfl, rfl, rfl, hactive, ?_⟩
  dsimp only at hpending ⊢
  unfold rewrapPending at hpending
  generalize hfilter : t.pendingEncryptedSecret.filter (· ≠ "") = p at hpending ⊢
  cases p with
  | none =>
    obtain rfl := Option.some.inj hpending
    exact .none
  | some previous =>
    obtain ⟨next', hnext', rfl⟩ := Option.map_eq_some_iff.mp hpending
    obtain ⟨rfl, hrewrapped⟩ := rewrapEnvelope_eq hnext'
    exact .some ⟨(Option.filter_eq_some_iff.mp hfilter).1, rfl, hrewrapped⟩

/-- **A plan comes from a row and from the envelopes drawn for it.** -/
theorem exists_of_mem_planMutations {plan : MutationPlan} (h : plan ∈ planMutations S db drawn) :
    ∃ t ∈ db.userTotp.rows, ∃ pair ∈ drawn, PlannedFrom S t pair plan := by
  unfold planMutations at h
  cases hplans : ((selectTotpRows db).mapM normalizeRow).bind (buildRotationPlan S · drawn) with
  | none =>
    rw [hplans] at h
    cases h
  | some plans =>
    rw [hplans] at h
    obtain ⟨rows, hrows, hbuild⟩ := Option.bind_eq_some_iff.mp hplans
    obtain ⟨⟨row, pair⟩, hpair, hplan⟩ := exists_of_mem_mapM hbuild h
    obtain ⟨t, ht, hrow⟩ := exists_of_mem_mapM hrows (List.of_mem_zip hpair).1
    exact ⟨t, List.mem_mergeSort.mp ht, pair, (List.of_mem_zip hpair).2,
      planRow_plannedFrom hrow hplan⟩

/-- Every account is planned once. -/
theorem planMutations_nodup (hlength : drawn.length = db.userTotp.rows.length) :
    ((planMutations S db drawn).map MutationPlan.userId).Nodup := by
  unfold planMutations
  cases hplans : ((selectTotpRows db).mapM normalizeRow).bind (buildRotationPlan S · drawn) with
  | none => exact List.nodup_nil
  | some plans =>
    obtain ⟨rows, hrows, hbuild⟩ := Option.bind_eq_some_iff.mp hplans
    have hrowIds : rows.map TotpRow.userId = (selectTotpRows db).map UserTotp.userId :=
      map_of_mapM (fun t row hrow => by rw [normalizeRow_eq hrow]) hrows
    have hplanIds : plans.map MutationPlan.userId =
        (rows.zip drawn).map fun pair => pair.1.userId := by
      refine map_of_mapM (fun pair plan hplan => ?_) hbuild
      simp only [planRow, bind, Option.bind_eq_some_iff] at hplan
      obtain ⟨_, -, _, -, hplan⟩ := hplan
      cases hplan
      rfl
    have hcount : rows.length = drawn.length := by
      have hlengths := congrArg List.length hrowIds
      rw [List.length_map, List.length_map, selectTotpRows, List.length_mergeSort] at hlengths
      rw [hlengths, hlength]
    have hfst : (rows.zip drawn).map (fun pair => pair.1.userId) = rows.map TotpRow.userId := by
      conv_rhs => rw [← List.map_fst_zip (Nat.le_of_eq hcount), List.map_map]
      rfl
    rw [Option.getD_some, hplanIds, hfst, hrowIds]
    have hperm := (List.mergeSort_perm db.userTotp.rows fun t t' => t.userId ≤ t'.userId).map
      UserTotp.userId
    refine hperm.nodup_iff.mpr ?_
    exact List.pairwise_map.mpr (db.userTotp.keyed.imp fun hne heq => hne (.inl heq))

end Plans


/-! ## Stored envelopes -/

/-- The envelopes of a factor are among these, and they are two. -/
def UserTotp.StoredIn (active pending : List String) (t : UserTotp) : Prop :=
  t.encryptedSecret ∈ active ∧ (∀ envelope ∈ t.pendingEncryptedSecret, envelope ∈ pending) ∧
    t.pendingEncryptedSecret ≠ some t.encryptedSecret

/-- A factor with no pending envelope. -/
theorem UserTotp.StoredIn.alone {active pending : List String} {t : UserTotp}
    (hactive : t.encryptedSecret ∈ active) (hnone : t.pendingEncryptedSecret = none) :
    t.StoredIn active pending := by
  refine ⟨hactive, fun envelope he => ?_, fun heq => ?_⟩
  · rw [hnone] at he
    cases he
  · rw [hnone] at heq
    cases heq

/-- The same, of every factor. -/
def Db.FactorsIn (active pending : List String) (db : Db) : Prop :=
  ∀ t ∈ db.userTotp.rows, t.StoredIn active pending

section Stored

variable {active pending : List String} {db : Db}

/-- A step that keeps the property. -/
abbrev KeepsFactorsIn (active pending : List String) (s s' : Db) : Prop :=
  s.FactorsIn active pending → s'.FactorsIn active pending

theorem triggered_userTotp {hit : Device → Prop} [DecidablePred hit] {set : Device → Device}
    (s : Db) : (Db.devicesIn.nestedUpdate hit set s).1.userTotp = s.userTotp :=
  TableIn.nestedUpdate_within (R := fun s s' : Db => s'.userTotp = s.userTotp) (fun _ _ => rfl)
    (fun _ => rfl) s

/-- An UPDATE of the factors. -/
theorem updateTriggering_factorsIn {hit : Db → Nat → UserTotp → Prop}
    [∀ s n, DecidablePred (hit s n)] {set : Db → UserTotp → UserTotp}
    {returning : UserTotp → List (List Value)} {trigger : List (UserTotp × UserTotp) → Db → Db × Nat}
    (htrigger : ∀ images s, (trigger images s).1.userTotp = s.userTotp)
    (hset : ∀ s n t, hit s n t → t.StoredIn active pending →
      (set s t).StoredIn active pending) :
    (Db.userTotpIn.updateTriggering hit set returning trigger).Within
      (KeepsFactorsIn active pending) := by
  intro s s' n r hrun hs t' ht'
  obtain ⟨T, hT, rfl, -⟩ := TableIn.updateTriggering_ok hrun
  rw [htrigger] at ht'
  change t' ∈ T.rows at ht'
  rw [hT] at ht'
  rcases mem_updateWhere_cases ht' with ⟨ht, -⟩ | ⟨t, ht, hhit, rfl⟩
  · exact hs t' ht
  · exact hset s n t hhit (hs t ht)

theorem update_factorsIn {hit : Db → Nat → UserTotp → Prop} [∀ s n, DecidablePred (hit s n)]
    {set : Db → UserTotp → UserTotp}
    (hset : ∀ s n t, hit s n t → t.StoredIn active pending →
      (set s t).StoredIn active pending) :
    (Db.userTotpIn.update hit set).Within (KeepsFactorsIn active pending) := by
  intro s s' n r hrun hs t' ht'
  obtain ⟨T, hT, rfl, -⟩ := TableIn.update_ok hrun
  change t' ∈ T.rows at ht'
  rw [hT] at ht'
  rcases mem_updateWhere_cases ht' with ⟨ht, -⟩ | ⟨t, ht, hhit, rfl⟩
  · exact hs t' ht
  · exact hset s n t hhit (hs t ht)

theorem sessionProofStatement_factorsIn (actor : MfaSessionActor) (generation : String)
    (verifiedAt : Timestamp) :
    (sessionProofStatement actor generation verifiedAt).Within (KeepsFactorsIn active pending) :=
  TableIn.update_within fun _ _ hs => hs

/-- **What the requests store**: of a request that draws, the fresh envelope; of the others, what
was stored before. -/
theorem TotpCall.run_factorsIn {issued : List String} (call : TotpCall)
    (hfresh : ∀ e ∈ call.draws, e ∉ issued) (h : db.FactorsIn issued issued) :
    (call.run db).FactorsIn (call.draws ++ issued) (call.draws ++ issued) := by
  have hwiden : ∀ {a b : List String} {t : UserTotp}, t.StoredIn a b →
      (∀ e ∈ a, e ∈ call.draws ++ issued) → (∀ e ∈ b, e ∈ call.draws ++ issued) →
      t.StoredIn (call.draws ++ issued) (call.draws ++ issued) :=
    fun ht ha hb => ⟨ha _ ht.1, fun e he => hb e (ht.2.1 e he), ht.2.2⟩
  have hissued : ∀ e ∈ issued, e ∈ call.draws ++ issued :=
    fun e he => List.mem_append_right _ he
  cases call with
  | setup input =>
    have hnew : input.encryptedSecret ∉ issued := hfresh _ List.mem_cons_self
    have hkeep : (createPendingTotpSetupForSession input db).1.FactorsIn
        (input.encryptedSecret :: issued) issued := by
      rcases createPendingTotpSetupForSession_effect input db with
        ⟨hdb, -⟩ | ⟨-, U, D, hdb, hrows⟩
      · rw [hdb]
        exact fun t ht => ⟨List.mem_cons_of_mem _ (h t ht).1, (h t ht).2⟩
      · rw [hdb]
        intro t' ht'
        change t' ∈ U.rows at ht'
        rcases hrows with ⟨-, -, hU⟩ | ⟨-, -, hU⟩ <;> rw [hU] at ht'
        · rcases List.mem_append.mp ht' with ht | ht
          · exact ⟨List.mem_cons_of_mem _ (h t' ht).1, (h t' ht).2⟩
          · obtain rfl := List.mem_singleton.mp ht
            exact .alone List.mem_cons_self rfl
        · rcases mem_updateWhere_cases ht' with ⟨ht, -⟩ | ⟨t, -, -, rfl⟩
          · exact ⟨List.mem_cons_of_mem _ (h t' ht).1, (h t' ht).2⟩
          · exact .alone List.mem_cons_self rfl
    exact fun t ht => hwiden (hkeep t ht) (fun e he => he) hissued
  | changeStart input =>
    have hnew : input.encryptedSecret ∉ issued := hfresh _ List.mem_cons_self
    have hkeep : (startPendingTotpChangeForSession input db).1.FactorsIn issued
        (input.encryptedSecret :: issued) := by
      have hdb : db.FactorsIn issued (input.encryptedSecret :: issued) := fun t ht =>
        ⟨(h t ht).1, fun e he => List.mem_cons_of_mem _ ((h t ht).2.1 e he), (h t ht).2.2⟩
      unfold startPendingTotpChangeForSession
      split
      · refine commit_within (R := KeepsFactorsIn issued (input.encryptedSecret :: issued))
          (fun _ hs => hs) (fun h₁ h₂ hs => h₂ (h₁ hs)) (fun st hst => ?_) hdb
        simp only [List.mem_cons, List.not_mem_nil, or_false] at hst
        rcases hst with rfl | rfl | rfl
        · exact update_factorsIn fun _ _ _ _ ht => ht
        · refine update_factorsIn fun _ _ t _ ht => ⟨ht.1, ?_, ?_⟩
          · rintro e he
            cases he
            exact List.mem_cons_self
          · intro heq
            exact hnew (Option.some.inj heq ▸ ht.1)
        · exact sessionProofStatement_factorsIn _ _ _
      · exact hdb
    exact fun t ht => hwiden (hkeep t ht) hissued fun e he => he
  | enable input generation =>
    change (enableTotpSetupForSession input generation db).1.FactorsIn issued issued
    unfold enableTotpSetupForSession
    split
    · refine commit_within (R := KeepsFactorsIn issued issued) (fun _ hs => hs)
        (fun h₁ h₂ hs => h₂ (h₁ hs)) (fun st hst => ?_) h
      simp only [List.mem_cons, List.not_mem_nil, or_false] at hst
      rcases hst with rfl | rfl
      · exact updateTriggering_factorsIn (fun _ s => triggered_userTotp s) fun _ _ _ _ ht => ht
      · exact sessionProofStatement_factorsIn _ _ _
    · exact h
  | promote input generation =>
    change (promotePendingTotpChangeForSession input generation db).1.FactorsIn issued issued
    unfold promotePendingTotpChangeForSession
    split
    · refine commit_within (R := KeepsFactorsIn issued issued) (fun _ hs => hs)
        (fun h₁ h₂ hs => h₂ (h₁ hs)) (fun st hst => ?_) h
      simp only [List.mem_cons, List.not_mem_nil, or_false] at hst
      rcases hst with rfl | rfl
      · refine updateTriggering_factorsIn (fun _ s => triggered_userTotp s)
          fun _ _ t hhit ht => .alone ?_ rfl
        dsimp only [TotpPromotionInput.promote]
        rw [hhit.2.2.2.2.1]
        exact ht.2.1 _ hhit.2.2.2.2.1
      · exact sessionProofStatement_factorsIn _ _ _
    · exact h
  | disable input =>
    refine commit_within (R := KeepsFactorsIn issued issued) (fun _ hs => hs)
      (fun h₁ h₂ hs => h₂ (h₁ hs)) (fun st hst => ?_) h
    simp only [List.mem_cons, List.not_mem_nil, or_false] at hst
    rcases hst with rfl | rfl | rfl
    · intro s s' n r hrun hs t ht
      obtain ⟨T, hT, rfl, -⟩ := TableIn.deleteTriggering_ok hrun
      rw [invalidateSessionMfaOnTotpDelete, triggered_userTotp] at ht
      change t ∈ T.rows at ht
      rw [hT] at ht
      exact hs t (mem_deleteWhere.mp ht).1
    · exact TableIn.update_within fun _ _ hs => hs
    · exact TableIn.insertSelect_within fun _ _ hs => hs

end Stored


/-! ## Runs -/

/-- Everything a run of undisturbed steps keeps. -/
structure RotationKept (S : TotpSecrets) (c : Config RotationState String) : Prop where
  paired : Paired c.state.rewrites c.state.known c.state.alone c.state.db
  sound : RewritesSound c.state.rewrites c.state.known
  rewrapped : ∀ r ∈ c.state.rewrites, S.Rewrapped r.previous r.next
  issued : ∀ envelope ∈ c.state.known, envelope ∈ c.issued
  stored : c.state.alone.FactorsIn c.issued c.issued
  storedDb : c.state.db.FactorsIn c.issued c.issued
  plans : ∀ plans ∈ c.state.plan, (plans.map MutationPlan.userId).Nodup ∧
    ∀ plan ∈ plans, PlanSound S c.state.known plan ∧
      ∀ r ∈ c.state.rewrites, r.userId ≠ plan.userId
  unread : c.state.plan = none → c.state.rewrites = []

section Kept

variable {S : TotpSecrets} {c c' : Config RotationState String}

theorem UserTotp.StoredIn.mono {active pending active' pending' : List String} {t : UserTotp}
    (h : t.StoredIn active pending) (ha : ∀ e ∈ active, e ∈ active')
    (hp : ∀ e ∈ pending, e ∈ pending') : t.StoredIn active' pending' :=
  ⟨ha _ h.1, fun e he => hp e (h.2.1 e he), h.2.2⟩

/-- What the run reads and draws is sound. -/
theorem planSound_of_mem {db : Db} {issued : List String} {drawn : List (String × String)}
    {plan : MutationPlan} (hstored : db.FactorsIn issued issued)
    (hfresh : ∀ e ∈ drawnTexts drawn, e ∉ issued) (hnodup : (drawnTexts drawn).Nodup)
    (h : plan ∈ planMutations S db drawn) :
    PlanSound S (db.userTotp.rows.flatMap UserTotp.envelopes ++ drawnTexts drawn) plan := by
  obtain ⟨t, ht, pair, hpair, hfrom⟩ := exists_of_mem_planMutations h
  have hread : ∀ e ∈ t.envelopes, e ∈ db.userTotp.rows.flatMap UserTotp.envelopes ++
      drawnTexts drawn := fun e he =>
    List.mem_append_left _ (List.mem_flatMap.mpr ⟨t, ht, he⟩)
  have hdrawn : ∀ e ∈ [pair.1, pair.2], e ∈ drawnTexts drawn := fun e he =>
    List.mem_flatMap.mpr ⟨pair, hpair, he⟩
  have hdiffers : ∀ e ∈ t.envelopes, ∀ e' ∈ [pair.1, pair.2], e' ≠ e := by
    rintro e he e' he' rfl
    refine hfresh _ (hdrawn _ he') ?_
    rcases List.mem_cons.mp he with rfl | he
    · exact (hstored t ht).1
    · exact (hstored t ht).2.1 _ (Option.mem_toList.mp he)
  have htwo : pair.2 ≠ pair.1 := by
    have hpairNodup := (List.nodup_flatMap.mp hnodup).1 pair hpair
    simpa [eq_comm] using hpairNodup
  have hactive : t.encryptedSecret ∈ t.envelopes := List.mem_cons_self
  refine
    { previous := hfrom.previous ▸ hread _ hactive
      next := hfrom.next ▸ List.mem_append_right _ (hdrawn _ (by simp))
      active := by rw [hfrom.previous, hfrom.next]; exact hfrom.active
      differs := by rw [hfrom.previous, hfrom.next]; exact hdiffers _ hactive _ (by simp)
      pending := ?_ }
  have hpending := hfrom.pending
  rw [hfrom.next]
  generalize plan.pendingEncryptedSecret = p at hpending ⊢
  generalize plan.nextPendingEncryptedSecret = p' at hpending ⊢
  cases hpending with
  | none => exact .none
  | some h =>
    obtain ⟨hstoredPending, rfl, hrewrapped⟩ := h
    have hmem := List.mem_cons_of_mem t.encryptedSecret (Option.mem_toList.mpr hstoredPending)
    exact .some ⟨hread _ hmem, List.mem_append_right _ (hdrawn _ (by simp)), hrewrapped,
      hdiffers _ hmem _ (by simp), htwo⟩

/-- Before the first write it does not matter what the run knows. -/
theorem Paired.unread {known known' : List String} {alone db : Db}
    (h : Paired [] known alone db) : Paired [] known' alone db := by
  have hstands : ∀ {u e e'}, Stands [] known u e e' → Stands [] known' u e e' := by
    rintro u e e' (hmem | ⟨rfl, -⟩)
    · cases hmem
    · refine .inr ⟨rfl, ?_⟩
      rintro ⟨r, hr, -⟩
      cases hr
  refine ⟨h.1.imp fun t t' ht => { ht with active := hstands ht.active, pending := ?_ }, h.2⟩
  have hpending := ht.pending
  generalize t.pendingEncryptedSecret = p at hpending ⊢
  generalize t'.pendingEncryptedSecret = p' at hpending ⊢
  cases hpending with
  | none => exact .none
  | some h => exact .some (hstands h)

theorem Db.FactorsIn.mono {db : Db} {issued issued' : List String} (h : db.FactorsIn issued issued)
    (hsub : ∀ e ∈ issued, e ∈ issued') : db.FactorsIn issued' issued' :=
  fun t ht => (h t ht).mono hsub hsub

theorem TotpCall.naming_draws (call : TotpCall) (name : String → String) :
    (call.naming name).draws = call.draws := by
  cases call <;> rfl

theorem RotationKept.request (h : RotationKept S c) {call : TotpCall}
    (hfresh : ∀ e ∈ call.draws, e ∉ c.issued)
    (hnames : RotationStep.Undisturbed c.state (.request call)) :
    RotationKept S ⟨RotationStep.exec S (.request call) c.state, call.draws ++ c.issued⟩ := by
  have hgrow : ∀ e ∈ c.issued, e ∈ call.draws ++ c.issued := fun e he =>
    List.mem_append_right _ he
  refine
    { paired := TotpCall.run_paired h.sound h.paired
        (fun e he hknown => hfresh e he (h.issued e hknown)) hnames
      sound := h.sound
      rewrapped := h.rewrapped
      issued := fun e he => hgrow e (h.issued e he)
      stored := ?_
      storedDb := TotpCall.run_factorsIn call hfresh h.storedDb
      plans := h.plans
      unread := h.unread }
  have hdraws := TotpCall.naming_draws call (original c.state.rewrites call.userId)
  have hstored := TotpCall.run_factorsIn (call.naming (original c.state.rewrites call.userId))
    (hdraws.symm ▸ hfresh) h.stored
  rw [hdraws] at hstored
  exact hstored

theorem RotationKept.read (h : RotationKept S c) {drawn : List (String × String)}
    (hfresh : ∀ e ∈ drawnTexts drawn, e ∉ c.issued) :
    RotationKept S ⟨RotationStep.exec S (.read drawn) c.state, drawnTexts drawn ++ c.issued⟩ := by
  have hgrow : ∀ e ∈ c.issued, e ∈ drawnTexts drawn ++ c.issued := fun e he =>
    List.mem_append_right _ he
  dsimp only [RotationStep.exec]
  split_ifs with hread
  · obtain ⟨hunread, hlength, hnodup⟩ := hread
    have hnone := h.unread hunread
    have hpaired := h.paired
    rw [hnone] at hpaired
    refine
      { paired := ?_
        sound := ?_
        rewrapped := h.rewrapped
        issued := fun e he => ?_
        stored := h.stored.mono hgrow
        storedDb := h.storedDb.mono hgrow
        plans := ?_
        unread := fun hplan => by cases hplan }
    · dsimp only
      rw [hnone]
      exact hpaired.unread
    · dsimp only
      rw [hnone]
      constructor <;> intro r hr <;> cases hr
    · rcases List.mem_append.mp he with hstored | hdrawn
      · obtain ⟨t, ht, he⟩ := List.mem_flatMap.mp hstored
        refine hgrow e ?_
        rcases List.mem_cons.mp he with rfl | he
        · exact (h.storedDb t ht).1
        · exact (h.storedDb t ht).2.1 e (Option.mem_toList.mp he)
      · exact List.mem_append_left _ hdrawn
    · rintro plans hplans
      cases hplans
      refine ⟨planMutations_nodup hlength, fun plan hplan => ⟨?_, ?_⟩⟩
      · exact planSound_of_mem h.storedDb hfresh hnodup hplan
      · dsimp only
        rw [hnone]
        intro r hr
        cases hr
  · exact
      { h with
        issued := fun e he => hgrow e (h.issued e he)
        stored := h.stored.mono hgrow
        storedDb := h.storedDb.mono hgrow }

theorem RotationKept.write (h : RotationKept S c) {generatedAt : Timestamp}
    (hundisturbed : RotationStep.Undisturbed c.state (.write generatedAt)) :
    RotationKept S ⟨RotationStep.exec S (.write generatedAt) c.state, c.issued⟩ := by
  dsimp only [RotationStep.exec]
  split
  · next plan rest hplan =>
    obtain ⟨hnodup, hplans⟩ := h.plans _ hplan
    obtain ⟨hsound, hfirst⟩ := hplans plan List.mem_cons_self
    have hread := hundisturbed _ hplan plan rfl
    have hpaired := executeMutation_paired h.paired hsound hfirst hread generatedAt
    have hstoredDb : (executeMutation plan generatedAt c.state.db).1.FactorsIn c.issued c.issued := by
      obtain ⟨U, hU, hrows⟩ := executeMutation_eq plan generatedAt c.state.db
      rw [hU]
      intro t' ht'
      change t' ∈ U.rows at ht'
      rw [hrows] at ht'
      rcases mem_updateWhere_cases ht' with ⟨ht, -⟩ | ⟨t, ht, -, rfl⟩
      · exact h.storedDb t' ht
      · refine ⟨h.issued _ hsound.next, fun e he => ?_, fun heq => ?_⟩
        · exact h.issued e (hsound.nextPending he).1
        · exact (hsound.nextPending heq).2 rfl
    have hrest : ∀ rewrites : List Rewrite, (∀ r ∈ rewrites, r ∈ plan.rewrites ∨ r ∈ c.state.rewrites) →
        ∀ plans ∈ some rest, (plans.map MutationPlan.userId).Nodup ∧ ∀ p ∈ plans,
          PlanSound S c.state.known p ∧ ∀ r ∈ rewrites, r.userId ≠ p.userId := by
      rintro rewrites hrewrites plans hplans'
      cases hplans'
      rw [List.map_cons, List.nodup_cons] at hnodup
      refine ⟨hnodup.2, fun p hp => ⟨(hplans p (List.mem_cons_of_mem _ hp)).1, fun r hr => ?_⟩⟩
      rcases hrewrites r hr with hnew | hold
      · intro huser
        refine hnodup.1 (List.mem_map.mpr ⟨p, hp, ?_⟩)
        exact huser.symm.trans (userId_of_mem_rewrites hnew)
      · exact (hplans p (List.mem_cons_of_mem _ hp)).2 r hold
    by_cases hhit : ∃ t ∈ c.state.db.userTotp.rows, plan.Hits t
    · rw [if_pos hhit] at hpaired ⊢
      obtain ⟨t, ht, hit⟩ := hhit
      have hapart : plan.pendingEncryptedSecret ≠ some plan.previousEncryptedSecret := by
        rw [← hread t ht hit, ← hit.2]
        exact (h.storedDb t ht).2.2
      exact
        { paired := hpaired
          sound := h.sound.written hsound hfirst hapart
          rewrapped := fun r hr => (List.mem_append.mp hr).elim
            (rewrapped_of_mem_rewrites hsound r) (h.rewrapped r)
          issued := h.issued
          stored := h.stored
          storedDb := hstoredDb
          plans := hrest _ fun r hr => List.mem_append.mp hr
          unread := fun hnone => by cases hnone }
    · rw [if_neg hhit] at hpaired ⊢
      exact
        { paired := hpaired
          sound := h.sound
          rewrapped := h.rewrapped
          issued := h.issued
          stored := h.stored
          storedDb := hstoredDb
          plans := hrest _ fun r hr => .inr hr
          unread := fun hnone => by cases hnone }
  · exact h

theorem RotationKept.surroundings (h : RotationKept S c) (other : Db → Db) :
    RotationKept S ⟨RotationStep.exec S (.surroundings other) c.state, c.issued⟩ := by
  refine
    { paired := ⟨h.paired.1, ?_⟩
      sound := h.sound
      rewrapped := h.rewrapped
      issued := h.issued
      stored := h.stored
      storedDb := h.storedDb
      plans := h.plans
      unread := h.unread }
  have hbeside : ({ c.state.db with userTotp := ∅ } : Db) =
      { c.state.alone with userTotp := ∅ } := by
    rw [h.paired.2]
  dsimp only [RotationStep.exec, besideFactors]
  rw [hbeside]

/-- **A step of the run or of a request keeps the two databases corresponding.** -/
theorem RotationKept.step {step : RotationStep} (h : RotationKept S c)
    (hnext : ((rotationSystem S).restrict RotationStep.Undisturbed).Next c step c') :
    RotationKept S c' := by
  obtain ⟨⟨hexec, hundisturbed⟩, hfresh, hissued⟩ := hnext
  have hc' : c' = ⟨step.exec S c.state, step.draws ++ c.issued⟩ := by
    cases c'
    cases hexec
    cases hissued
    rfl
  rw [hc']
  cases step with
  | request call => exact h.request hfresh hundisturbed
  | read drawn => exact h.read hfresh
  | write generatedAt => exact h.write hundisturbed
  | surroundings other => exact h.surroundings other

end Kept


/-- The run has not been at the row. -/
def FactorUntouched (t t' : UserTotp) : Prop :=
  t'.encryptedSecret = t.encryptedSecret ∧ t'.pendingEncryptedSecret = t.pendingEncryptedSecret

/-- The run has encrypted both envelopes again. A pending envelope it does not know has been stored
since. -/
structure FactorRewritten (S : TotpSecrets) (known : List String) (t t' : UserTotp) : Prop where
  active : S.Rewrapped t.encryptedSecret t'.encryptedSecret
  pending : Option.Rel
    (fun envelope envelope' => S.Rewrapped envelope envelope' ∨
      envelope' = envelope ∧ envelope ∉ known)
    t.pendingEncryptedSecret t'.pendingEncryptedSecret

section Pair

variable {S : TotpSecrets} {rewrites : List Rewrite} {known : List String} {t t' : UserTotp}

theorem Stands.reveal {userId e e' : String}
    (hrewrapped : ∀ r ∈ rewrites, S.Rewrapped r.previous r.next)
    (h : Stands rewrites known userId e e') : S.reveal e' = S.reveal e := by
  rcases h with hmem | ⟨rfl, -⟩
  · exact (hrewrapped _ hmem).reveal
  · rfl

theorem FactorPair.revealed (hrewrapped : ∀ r ∈ rewrites, S.Rewrapped r.previous r.next)
    (h : FactorPair rewrites known t t') : t'.revealed S = t.revealed S := by
  have hpending : t'.pendingEncryptedSecret.map S.reveal =
      t.pendingEncryptedSecret.map S.reveal := by
    have hstands := h.pending
    generalize t.pendingEncryptedSecret = p at hstands ⊢
    generalize t'.pendingEncryptedSecret = p' at hstands ⊢
    cases hstands with
    | none => rfl
    | some h => rw [Option.map_some, Option.map_some, h.reveal hrewrapped]
  unfold UserTotp.revealed
  rw [h.userId, h.active.reveal hrewrapped, hpending]

theorem FactorPair.untouched_or_rewritten
    (hrewrapped : ∀ r ∈ rewrites, S.Rewrapped r.previous r.next)
    (h : FactorPair rewrites known t t') : FactorUntouched t t' ∨ FactorRewritten S known t t' := by
  rcases h.active with hmem | ⟨hsame, -⟩
  · right
    refine ⟨hrewrapped _ hmem, ?_⟩
    have hstands := h.pending
    generalize t.pendingEncryptedSecret = p at hstands ⊢
    generalize t'.pendingEncryptedSecret = p' at hstands ⊢
    cases hstands with
    | none => exact .none
    | some hpending =>
      rcases hpending with hrewrite | ⟨hsame, hunknown⟩
      · exact .some (.inl (hrewrapped _ hrewrite))
      · exact .some (.inr ⟨hsame, hunknown ⟨_, hmem, rfl⟩⟩)
  · exact .inl ⟨hsame, h.together hsame⟩

end Pair

/-- **A rewrap loses nothing, if nothing comes between.** In every run of undisturbed steps, every
factor holds the secrets that the requests alone would have left, its row is untouched or has both
envelopes encrypted again, and nothing else is different. -/
theorem rotation_keeps_factors {S : TotpSecrets} {db : Db} {issued : List String}
    {steps : List RotationStep} {c : Config RotationState String}
    (hstored : db.FactorsIn issued issued)
    (hrun : Run ((rotationSystem S).restrict RotationStep.Undisturbed)
      { state := .start db, issued := issued } steps c) :
    c.state.db.userTotp.rows.map (UserTotp.revealed S) =
        c.state.alone.userTotp.rows.map (UserTotp.revealed S) ∧
      List.Forall₂
        (fun t t' => FactorUntouched t t' ∨ FactorRewritten S c.state.known t t')
        c.state.alone.userTotp.rows c.state.db.userTotp.rows ∧
      c.state.db = { c.state.alone with userTotp := c.state.db.userTotp } := by
  have hstart : RotationKept S { state := .start db, issued := issued } :=
    { paired := by
        refine ⟨List.forall₂_same.mpr fun t _ => ?_, rfl⟩
        refine ⟨rfl, rfl, rfl, rfl, rfl, rfl, .fresh List.not_mem_nil, ?_, fun _ => rfl⟩
        cases t.pendingEncryptedSecret with
        | none => exact .none
        | some e => exact .some (.fresh List.not_mem_nil)
      sound := by constructor <;> intro r hr <;> cases hr
      rewrapped := fun r hr => by cases hr
      issued := fun e he => by cases he
      stored := hstored
      storedDb := hstored
      plans := fun plans hplans => by cases hplans
      unread := fun _ => rfl }
  have hkept := hrun.invariant hstart fun hnext h => h.step hnext
  have hpairs := hkept.paired.1
  refine ⟨?_, ?_, hkept.paired.2⟩
  · have hrevealed := hpairs.imp fun t t' h => (h.revealed hkept.rewrapped).symm
    have hmapped := List.forall₂_map_left_iff.mpr (List.forall₂_map_right_iff.mpr hrevealed)
    rw [List.forall₂_eq_eq_eq] at hmapped
    exact hmapped.symm
  · exact hpairs.imp fun t t' h => h.untouched_or_rewritten hkept.rewrapped


/-! ### A change while the run is under way -/

section Example

/-- The two secrets of an account, `A` in force and `P` pending, under both wrapping secrets. -/
def oneSecrets : TotpSecrets where
  oldSecret := "old"
  newSecret := "new"
  decrypt wrappingSecret envelope :=
    if wrappingSecret = "old" ∧ envelope = "o.A" then some "A"
    else if wrappingSecret = "old" ∧ envelope = "o.P" then some "P"
    else if wrappingSecret = "new" ∧ envelope = "n.A" then some "A"
    else if wrappingSecret = "new" ∧ envelope = "n.P" then some "P"
    else none
  authentic envelope := by
    by_cases hA : envelope = "o.A"
    · right
      subst hA
      decide
    · by_cases hP : envelope = "o.P"
      · right
        subst hP
        decide
      · left
        simp [hA, hP]

/-- An account that has enrolled, with a session. -/
def enrolledAccount : Db where
  users := oneAccount
  devices := .singleton
    { id := "d", userId := "u", identifier := "phone", sessionId := some "t1" }
  userTotp := .singleton
    { userId := "u", encryptedSecret := "o.A", enabled := true, verifiedAt := some 1
      credentialGeneration := some "g1" }

theorem enrolledAccount_stored : enrolledAccount.FactorsIn ["o.A"] ["o.A"] := by
  intro t ht
  obtain rfl := List.mem_singleton.mp ht
  exact .alone List.mem_cons_self rfl

/-- The account starts to change its secret. -/
def startChange : RotationStep :=
  .request (.changeStart
    { userId := "u", deviceIdentifier := "phone", sessionId := "t1", credentialGeneration := "g1"
      acceptedStep := 5, encryptedSecret := "o.P", now := 2 })

/-- It completes the change, with the envelope the run has put in place. -/
def promoteChange : RotationStep :=
  .request (.promote
    { userId := "u", deviceIdentifier := "phone", sessionId := "t1"
      expectedCredentialGeneration := "g1", expectedPendingEncryptedSecret := "n.P"
      acceptedStep := 6, verifiedAt := 5 } "g2")

def keptRotation : Config RotationState String :=
  (replay (RotationStep.exec oneSecrets) RotationStep.draws
    { state := .start enrolledAccount, issued := ["o.A"] }
    [startChange, .read [("n.A", "n.P")], .write 4, promoteChange]).get (by decide +kernel)

/-- A change before the reading is carried over, and then completed. -/
theorem rotation_keeps_factors_change :
    keptRotation.state.db.userTotp.rows.map (UserTotp.revealed oneSecrets) =
        keptRotation.state.alone.userTotp.rows.map (UserTotp.revealed oneSecrets) ∧
      keptRotation.state.db.userTotp.rows.map UserTotp.encryptedSecret = ["n.P"] ∧
      keptRotation.state.alone.userTotp.rows.map UserTotp.encryptedSecret = ["o.P"] :=
  ⟨(rotation_keeps_factors enrolledAccount_stored
    (replay_restrict (Option.some_get _).symm (by decide +kernel))).1,
    by decide +kernel, by decide +kernel⟩

def lostRotation : Config RotationState String :=
  (replay (RotationStep.exec oneSecrets) RotationStep.draws
    { state := .start enrolledAccount, issued := ["o.A"] }
    [.read [("n.A", "n.P")], startChange, .write 4]).get (by decide +kernel)

/-- **A change between the reading and the UPDATE is lost.** -/
theorem rotation_loses_pending :
    ¬ ∀ (S : TotpSecrets) (db : Db) (issued : List String) (steps : List RotationStep)
      (c : Config RotationState String), db.FactorsIn issued issued →
      Run (rotationSystem S) { state := .start db, issued := issued } steps c →
      c.state.db.userTotp.rows.map (UserTotp.revealed S) =
        c.state.alone.userTotp.rows.map (UserTotp.revealed S) := by
  intro h
  have hsame := h oneSecrets enrolledAccount ["o.A"] _ lostRotation enrolledAccount_stored
    (replay_run (Option.some_get _).symm)
  have hlost : lostRotation.state.db.userTotp.rows.map (UserTotp.revealed oneSecrets) =
      [("u", some "A", none)] := by decide +kernel
  have hpending : lostRotation.state.alone.userTotp.rows.map (UserTotp.revealed oneSecrets) =
      [("u", some "A", some (some "P"))] := by decide +kernel
  rw [hlost, hpending] at hsame
  exact absurd hsame (by decide)

end Example


end HonoWarden
