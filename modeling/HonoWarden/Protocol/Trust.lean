import Mathlib

/-!
# Trust by invitation

A grantor invites a recipient at an address and has a token sent there. Who holds the token and, by
then, an account at that address accepts; the grantor confirms with a key wrapped for that account.
Before the acceptance the grantor may send another token in place of the first, at any time it may
change the terms, once confirmed also the key; either side may withdraw, and a user that departs
takes its contacts along.

* `Contact`: a grantor and where its invitation stands; a stage carries what it needs, so a contact
  that is confirmed without a key, or accepted by nobody, cannot be written down;
* `Step`: what one event does, under its guard;
* `Steps`: a history of events that starts with no contact and invites under no id twice.

Results:
* **`Steps.distinct`**: a grantor has one contact at most for an address it invites, and one for a
  grantee, and is never its own grantee;
* **`Steps.origin`**: every contact is where the last events about it have put it;
* **`Steps.acceptance`**, **`Steps.confirmation`**: an acceptance presents, in time and at the address
  invited, the verifier of the last token sent; a key is given to who accepted;
* **`Steps.accepted_once`**: an invitation is accepted once at most, whatever follows.
-/

namespace Trust

variable {Id User Email Verifier Time Key : Type}

/-! ## Contacts -/

/-- Where an invitation stands. -/
inductive Stage (User Email Verifier Time Key : Type) where
  | invited (email : Email) (verifier : Verifier) (expires : Time)
  | accepted (grantee : User)
  | confirmed (grantee : User) (key : Key)
  deriving DecidableEq

namespace Stage

/-- The address of an invitation that was not accepted yet. -/
def email : Stage User Email Verifier Time Key → Option Email
  | invited email _ _ => some email
  | _ => none

def grantee : Stage User Email Verifier Time Key → Option User
  | invited _ _ _ => none
  | accepted grantee => some grantee
  | confirmed grantee _ => some grantee

/-- A new key takes the place of an old one; where there is none, it is not kept. -/
def rekey (key : Option Key) : Stage User Email Verifier Time Key →
    Stage User Email Verifier Time Key
  | confirmed grantee old => confirmed grantee (key.getD old)
  | stage => stage

variable (stage : Stage User Email Verifier Time Key) (key : Option Key)

@[simp] theorem email_rekey : (stage.rekey key).email = stage.email := by
  cases stage <;> rfl

@[simp] theorem grantee_rekey : (stage.rekey key).grantee = stage.grantee := by
  cases stage <;> rfl

end Stage

/-- A contact of a grantor. -/
structure Contact (User Email Verifier Time Key : Type) where
  grantor : User
  stage : Stage User Email Verifier Time Key
  deriving DecidableEq

/-- The contacts, by their ids. -/
abbrev Contacts (Id User Email Verifier Time Key : Type) :=
  Id → Option (Contact User Email Verifier Time Key)

/-- The user is a side of the contact. -/
def Contact.Involves (contact : Contact User Email Verifier Time Key) (user : User) : Prop :=
  contact.grantor = user ∨ contact.stage.grantee = some user

instance [DecidableEq User] (contact : Contact User Email Verifier Time Key) :
    DecidablePred contact.Involves := fun _ => inferInstanceAs (Decidable (_ ∨ _))

/-! ## Events -/

/-- What happens to contacts. -/
inductive Event (Id User Email Verifier Time Key : Type) where
  | invited (id : Id) (grantor : User) (email : Email) (verifier : Verifier) (expires : Time)
  | reinvited (id : Id) (grantor : User) (verifier : Verifier) (expires : Time)
  | accepted (id : Id) (grantee : User) (email : Email) (verifier : Verifier) (now : Time)
  | confirmed (id : Id) (grantor : User) (key : Key)
  | updated (id : Id) (grantor : User) (key : Option Key)
  | withdrawn (id : Id) (actor : User)
  | departed (user : User)
  deriving DecidableEq

/-- The id of a new invitation. -/
def Event.invites : Event Id User Email Verifier Time Key → Option Id
  | invited id _ _ _ _ => some id
  | _ => none

/-- The contact an event moves to another stage or gives another token. -/
def Event.moves : Event Id User Email Verifier Time Key → Option Id
  | invited id _ _ _ _ => some id
  | reinvited id _ _ _ => some id
  | accepted id _ _ _ _ => some id
  | confirmed id _ _ => some id
  | withdrawn id _ => some id
  | _ => none

/-- The key an event gives a contact. -/
def Event.keys [DecidableEq Id] (id : Id) : Event Id User Email Verifier Time Key → Option Key
  | confirmed i _ key => if i = id then some key else none
  | updated i _ key => if i = id then key else none
  | _ => none

variable [DecidableEq Id] [DecidableEq User] [LT Time]

/-- What an event does to the contacts. -/
inductive Step (T : Contacts Id User Email Verifier Time Key) :
    Event Id User Email Verifier Time Key → Contacts Id User Email Verifier Time Key → Prop where
  | invite {id grantor email verifier expires} (absent : T id = none)
      (unasked : ∀ i c, T i = some c → c.grantor = grantor → c.stage.email ≠ some email) :
      Step T (.invited id grantor email verifier expires)
        (Function.update T id (some ⟨grantor, .invited email verifier expires⟩))
  | reinvite {id grantor email old deadline verifier expires}
      (stands : T id = some ⟨grantor, .invited email old deadline⟩) :
      Step T (.reinvited id grantor verifier expires)
        (Function.update T id (some ⟨grantor, .invited email verifier expires⟩))
  | accept {id grantor grantee email verifier expires now}
      (stands : T id = some ⟨grantor, .invited email verifier expires⟩) (timely : now < expires)
      (another : grantor ≠ grantee)
      (unknown : ∀ i c, i ≠ id → T i = some c → c.grantor = grantor →
        c.stage.grantee ≠ some grantee) :
      Step T (.accepted id grantee email verifier now)
        (Function.update T id (some ⟨grantor, .accepted grantee⟩))
  | confirm {id grantor grantee key} (stands : T id = some ⟨grantor, .accepted grantee⟩) :
      Step T (.confirmed id grantor key)
        (Function.update T id (some ⟨grantor, .confirmed grantee key⟩))
  | update {id grantor stage key} (stands : T id = some ⟨grantor, stage⟩) :
      Step T (.updated id grantor key)
        (Function.update T id (some ⟨grantor, stage.rekey key⟩))
  | withdraw {id contact actor} (stands : T id = some contact) (side : contact.Involves actor) :
      Step T (.withdrawn id actor) (Function.update T id none)
  | depart {user} :
      Step T (.departed user) (fun id => (T id).filter fun c => ¬ c.Involves user)

/-- What an event makes of the contact it moves. -/
inductive Moved (T : Contacts Id User Email Verifier Time Key) (id : Id) :
    Event Id User Email Verifier Time Key → Option (Contact User Email Verifier Time Key) →
    Prop where
  | invite {grantor email verifier expires} (absent : T id = none) :
      Moved T id (.invited id grantor email verifier expires)
        (some ⟨grantor, .invited email verifier expires⟩)
  | reinvite {grantor email old deadline verifier expires}
      (stands : T id = some ⟨grantor, .invited email old deadline⟩) :
      Moved T id (.reinvited id grantor verifier expires)
        (some ⟨grantor, .invited email verifier expires⟩)
  | accept {grantor grantee email verifier expires now}
      (stands : T id = some ⟨grantor, .invited email verifier expires⟩) :
      Moved T id (.accepted id grantee email verifier now) (some ⟨grantor, .accepted grantee⟩)
  | confirm {grantor grantee key} (stands : T id = some ⟨grantor, .accepted grantee⟩) :
      Moved T id (.confirmed id grantor key) (some ⟨grantor, .confirmed grantee key⟩)
  | withdraw {actor} : Moved T id (.withdrawn id actor) none

/-- A history: every event takes its step, and no id is invited under twice. -/
inductive Steps : List (Event Id User Email Verifier Time Key) →
    Contacts Id User Email Verifier Time Key → Prop where
  | nil : Steps [] fun _ => none
  | snoc {log T e T'} (before : Steps log T) (step : Step T e T')
      (fresh : ∀ id, e.invites = some id → ∀ e' ∈ log, e'.invites ≠ some id) :
      Steps (log ++ [e]) T'

/-! ## Histories -/

/-- The last event that moved a contact. -/
def lastMove (id : Id) (log : List (Event Id User Email Verifier Time Key)) :
    Option (Event Id User Email Verifier Time Key) :=
  (log.filter fun e => e.moves = some id).getLast?

/-- The last key given to a contact. -/
def lastKey (id : Id) (log : List (Event Id User Email Verifier Time Key)) : Option Key :=
  (log.filterMap (Event.keys id)).getLast?

/-- The event has a token sent for a contact, good for its verifier until it expires. -/
def Event.Sends (id : Id) (grantor : User) (verifier : Verifier) (expires : Time)
    (e : Event Id User Email Verifier Time Key) : Prop :=
  (∃ email, e = .invited id grantor email verifier expires) ∨
    e = .reinvited id grantor verifier expires

/-- Where the events about a contact have put it. -/
inductive Origin (log : List (Event Id User Email Verifier Time Key)) (id : Id) :
    Contact User Email Verifier Time Key → Prop where
  | invited {grantor email verifier expires e} (sends : e.Sends id grantor verifier expires)
      (last : lastMove id log = some e) : Origin log id ⟨grantor, .invited email verifier expires⟩
  | accepted {grantor grantee email verifier now}
      (last : lastMove id log = some (.accepted id grantee email verifier now)) :
      Origin log id ⟨grantor, .accepted grantee⟩
  | confirmed {grantor grantee first key} (last : lastMove id log = some (.confirmed id grantor first))
      (keyed : lastKey id log = some key) : Origin log id ⟨grantor, .confirmed grantee key⟩

section Histories

variable {log : List (Event Id User Email Verifier Time Key)}
  {T T' : Contacts Id User Email Verifier Time Key} {e : Event Id User Email Verifier Time Key}
  {id : Id} {contact : Contact User Email Verifier Time Key}

omit [DecidableEq User] [LT Time] in
theorem lastMove_snoc (log : List (Event Id User Email Verifier Time Key))
    (e : Event Id User Email Verifier Time Key) (id : Id) :
    lastMove id (log ++ [e]) = if e.moves = some id then some e else lastMove id log := by
  unfold lastMove
  rw [List.filter_append]
  split
  · rename_i h
    simp [h]
  · rename_i h
    simp [h]

omit [DecidableEq User] [LT Time] in
theorem lastKey_snoc (log : List (Event Id User Email Verifier Time Key))
    (e : Event Id User Email Verifier Time Key) (id : Id) :
    lastKey id (log ++ [e]) = (e.keys id).or (lastKey id log) := by
  unfold lastKey
  rw [List.filterMap_append]
  cases h : e.keys id <;> simp [h]

omit [DecidableEq User] [LT Time] in
/-- An event that does not move a contact leaves it where it was, but for its key. -/
theorem Origin.rekey (h : Origin log id contact) (hmoves : e.moves ≠ some id) :
    Origin (log ++ [e]) id ⟨contact.grantor, contact.stage.rekey (e.keys id)⟩ := by
  have hlast : lastMove id (log ++ [e]) = lastMove id log := by
    rw [lastMove_snoc, if_neg hmoves]
  cases h with
  | invited sends last => exact .invited sends (hlast.trans last)
  | accepted last => exact .accepted (hlast.trans last)
  | confirmed last keyed =>
    refine .confirmed (hlast.trans last) ?_
    rw [lastKey_snoc, keyed]
    cases e.keys id <;> rfl

/-- A contact that an event does not move is what it was, but for its key. -/
theorem Step.kept (h : Step T e T') (hmoves : e.moves ≠ some id) (hc : T' id = some contact) :
    ∃ stage, T id = some ⟨contact.grantor, stage⟩ ∧ contact.stage = stage.rekey (e.keys id) := by
  have hrekey (stage : Stage User Email Verifier Time Key) : stage.rekey none = stage := by
    cases stage <;> rfl
  have hother {i : Id} {c : Option (Contact User Email Verifier Time Key)} (hne : i ≠ id)
      (hkeys : e.keys id = none) (hc : Function.update T i c id = some contact) :
      ∃ stage, T id = some ⟨contact.grantor, stage⟩ ∧ contact.stage = stage.rekey (e.keys id) := by
    rw [Function.update_of_ne hne.symm] at hc
    exact ⟨contact.stage, hc, by rw [hkeys, hrekey]⟩
  cases h with
  | invite absent unasked => exact hother (fun he => hmoves (congrArg some he)) rfl hc
  | reinvite stands => exact hother (fun he => hmoves (congrArg some he)) rfl hc
  | accept stands timely another unknown =>
    exact hother (fun he => hmoves (congrArg some he)) rfl hc
  | confirm stands =>
    have hne := fun he => hmoves (congrArg some he)
    exact hother hne (if_neg hne) hc
  | @update i grantor stage key stands =>
    by_cases hi : i = id
    · subst hi
      rw [Function.update_self] at hc
      obtain rfl := Option.some.inj hc
      exact ⟨stage, stands, by rw [Event.keys, if_pos rfl]⟩
    · exact hother hi (if_neg hi) hc
  | withdraw stands side => exact hother (fun he => hmoves (congrArg some he)) rfl hc
  | depart => exact ⟨contact.stage, (Option.filter_eq_some_iff.mp hc).1, (hrekey _).symm⟩

/-- A contact that an event moves is what the event makes of it. -/
theorem Step.moved (h : Step T e T') (hmoves : e.moves = some id) : Moved T id e (T' id) := by
  cases h with
  | invite absent unasked =>
    obtain rfl := Option.some.inj hmoves
    rw [Function.update_self]
    exact .invite absent
  | reinvite stands =>
    obtain rfl := Option.some.inj hmoves
    rw [Function.update_self]
    exact .reinvite stands
  | accept stands timely another unknown =>
    obtain rfl := Option.some.inj hmoves
    rw [Function.update_self]
    exact .accept stands
  | confirm stands =>
    obtain rfl := Option.some.inj hmoves
    rw [Function.update_self]
    exact .confirm stands
  | update stands => cases hmoves
  | withdraw stands side =>
    obtain rfl := Option.some.inj hmoves
    rw [Function.update_self]
    exact .withdraw
  | depart => cases hmoves

/-- **Every contact is where the events about it have put it.** -/
theorem Steps.origin (h : Steps log T) (hc : T id = some contact) : Origin log id contact := by
  induction h generalizing contact with
  | nil => cases hc
  | @snoc log T e T' before step fresh ih =>
    by_cases hmoves : e.moves = some id
    · have hlast : lastMove id (log ++ [e]) = some e := by rw [lastMove_snoc, if_pos hmoves]
      have hmoved := step.moved hmoves
      rw [hc] at hmoved
      cases hmoved with
      | invite absent => exact .invited (Or.inl ⟨_, rfl⟩) hlast
      | reinvite stands => exact .invited (Or.inr rfl) hlast
      | accept stands => exact .accepted hlast
      | confirm stands =>
        refine .confirmed hlast ?_
        rw [lastKey_snoc, Event.keys, if_pos rfl, Option.some_or]
    · obtain ⟨stage, hstands, hstage⟩ := step.kept hmoves hc
      have horigin := (ih hstands).rekey hmoves
      rwa [← hstage] at horigin

/-- The part of a history before an event is a history, and the event took its step there. -/
theorem Steps.split {after : List (Event Id User Email Verifier Time Key)}
    (h : Steps (log ++ e :: after) T) : ∃ T₁ T₂, Steps log T₁ ∧ Step T₁ e T₂ := by
  generalize hall : log ++ e :: after = all at h
  induction h generalizing after with
  | nil => simp at hall
  | @snoc before T₁ e' T₂ hbefore step fresh ih =>
    rcases List.eq_nil_or_concat after with rfl | ⟨init, last, rfl⟩
    · obtain ⟨rfl, he⟩ := List.append_inj' hall rfl
      obtain rfl := (List.cons.inj he).1
      exact ⟨T₁, T₂, hbefore, step⟩
    · rw [List.concat_eq_append, ← List.cons_append, ← List.append_assoc] at hall
      exact @ih init (List.append_inj' hall rfl).1

end Histories

/-! ## What histories keep -/

section Kept

variable {log : List (Event Id User Email Verifier Time Key)}
  {T T' : Contacts Id User Email Verifier Time Key} {e : Event Id User Email Verifier Time Key}
  {id : Id} {contact : Contact User Email Verifier Time Key}

/-- A grantor has one contact at most for an address it invites, and one for a grantee, and is never
its own grantee. -/
structure Distinct (T : Contacts Id User Email Verifier Time Key) : Prop where
  email : ∀ i j c d, T i = some c → T j = some d → c.grantor = d.grantor →
    c.stage.email ≠ none → c.stage.email = d.stage.email → i = j
  grantee : ∀ i j c d, T i = some c → T j = some d → c.grantor = d.grantor →
    c.stage.grantee ≠ none → c.stage.grantee = d.stage.grantee → i = j
  another : ∀ i c, T i = some c → c.stage.grantee ≠ some c.grantor

omit [DecidableEq User] [LT Time] in
/-- A new contact that shares neither address nor grantee with another of its grantor. -/
theorem Distinct.update (h : Distinct T)
    (hemail : ∀ i c, i ≠ id → T i = some c → c.grantor = contact.grantor →
      contact.stage.email ≠ none → c.stage.email ≠ contact.stage.email)
    (hgrantee : ∀ i c, i ≠ id → T i = some c → c.grantor = contact.grantor →
      contact.stage.grantee ≠ none → c.stage.grantee ≠ contact.stage.grantee)
    (hanother : contact.stage.grantee ≠ some contact.grantor) :
    Distinct (Function.update T id (some contact)) := by
  have hcases {i : Id} {c : Contact User Email Verifier Time Key}
      (hc : Function.update T id (some contact) i = some c) :
      (i = id ∧ c = contact) ∨ (i ≠ id ∧ T i = some c) := by
    by_cases hi : i = id
    · subst hi
      rw [Function.update_self] at hc
      exact Or.inl ⟨rfl, (Option.some.inj hc).symm⟩
    · rw [Function.update_of_ne hi] at hc
      exact Or.inr ⟨hi, hc⟩
  refine ⟨?_, ?_, ?_⟩
  · intro i j c d hc hd hgrantor hsome hsame
    rcases hcases hc with ⟨rfl, rfl⟩ | ⟨hi, hci⟩ <;> rcases hcases hd with ⟨rfl, rfl⟩ | ⟨hj, hdj⟩
    · rfl
    · exact absurd hsame.symm (hemail j d hj hdj hgrantor.symm hsome)
    · exact absurd hsame (hemail i c hi hci hgrantor (hsame ▸ hsome))
    · exact h.email i j c d hci hdj hgrantor hsome hsame
  · intro i j c d hc hd hgrantor hsome hsame
    rcases hcases hc with ⟨rfl, rfl⟩ | ⟨hi, hci⟩ <;> rcases hcases hd with ⟨rfl, rfl⟩ | ⟨hj, hdj⟩
    · rfl
    · exact absurd hsame.symm (hgrantee j d hj hdj hgrantor.symm hsome)
    · exact absurd hsame (hgrantee i c hi hci hgrantor (hsame ▸ hsome))
    · exact h.grantee i j c d hci hdj hgrantor hsome hsame
  · intro i c hc
    rcases hcases hc with ⟨rfl, rfl⟩ | ⟨-, hci⟩
    · exact hanother
    · exact h.another i c hci

omit [DecidableEq User] [LT Time] in
/-- A contact that keeps its grantor, its address and its grantee. -/
theorem Distinct.restage (h : Distinct T) {old : Contact User Email Verifier Time Key}
    (hold : T id = some old) (hgrantor : contact.grantor = old.grantor)
    (hemail : contact.stage.email = none ∨ contact.stage.email = old.stage.email)
    (hgrantee : contact.stage.grantee = none ∨ contact.stage.grantee = old.stage.grantee) :
    Distinct (Function.update T id (some contact)) := by
  refine h.update (fun i c hi hc hg hsome hsame => ?_) (fun i c hi hc hg hsome hsame => ?_) ?_
  · have he := hemail.resolve_left hsome
    exact hi (h.email i id c old hc hold (hg.trans hgrantor) (hsame ▸ hsome) (hsame.trans he))
  · have he := hgrantee.resolve_left hsome
    exact hi (h.grantee i id c old hc hold (hg.trans hgrantor) (hsame ▸ hsome) (hsame.trans he))
  · rcases hgrantee with hnone | hsame
    · rw [hnone]
      exact Option.some_ne_none _ ∘ Eq.symm
    · rw [hsame, hgrantor]
      exact h.another id old hold

omit [DecidableEq Id] [DecidableEq User] [LT Time] in
/-- Contacts that went. -/
theorem Distinct.mono (h : Distinct T) (hsub : ∀ i c, T' i = some c → T i = some c) :
    Distinct T' where
  email i j c d hc hd := h.email i j c d (hsub i c hc) (hsub j d hd)
  grantee i j c d hc hd := h.grantee i j c d (hsub i c hc) (hsub j d hd)
  another i c hc := h.another i c (hsub i c hc)

/-- Every event keeps the contacts of a grantor apart. -/
theorem Step.distinct (h : Step T e T') (hT : Distinct T) : Distinct T' := by
  cases h with
  | invite absent unasked =>
    exact hT.update (fun i c _ hc hg _ => unasked i c hc hg)
      (fun _ _ _ _ _ hsome => absurd rfl hsome) (Option.some_ne_none _ ∘ Eq.symm)
  | reinvite stands => exact hT.restage stands rfl (Or.inr rfl) (Or.inl rfl)
  | accept stands timely another unknown =>
    exact hT.update (fun _ _ _ _ _ hsome => absurd rfl hsome)
      (fun i c hi hc hg _ => unknown i c hi hc hg) fun he => another (Option.some.inj he).symm
  | confirm stands => exact hT.restage stands rfl (Or.inl rfl) (Or.inr rfl)
  | update stands =>
    exact hT.restage stands rfl (Or.inr (Stage.email_rekey _ _))
      (Or.inr (Stage.grantee_rekey _ _))
  | @withdraw id contact actor stands side =>
    refine hT.mono fun i c hc => ?_
    by_cases hi : i = id
    · subst hi
      rw [Function.update_self] at hc
      cases hc
    · rwa [Function.update_of_ne hi] at hc
  | depart => exact hT.mono fun i c hc => (Option.filter_eq_some_iff.mp hc).1

/-- **The contacts of a grantor stay apart.** -/
theorem Steps.distinct (h : Steps log T) : Distinct T := by
  induction h with
  | nil =>
    refine ⟨?_, ?_, ?_⟩
    · rintro i j c d ⟨⟩
    · rintro i j c d ⟨⟩
    · rintro i c ⟨⟩
  | snoc before step fresh ih => exact step.distinct ih

/-- Every contact was invited by its grantor, and at the address it is invited at. -/
theorem Steps.invited (h : Steps log T) (hc : T id = some contact) :
    ∃ email verifier expires, .invited id contact.grantor email verifier expires ∈ log ∧
      ∀ address ∈ contact.stage.email, address = email := by
  induction h generalizing contact with
  | nil => cases hc
  | @snoc log T e T' before step fresh ih =>
    have hearlier {old : Contact User Email Verifier Time Key} (hold : T id = some old)
        (hgrantor : contact.grantor = old.grantor)
        (hemail : ∀ address ∈ contact.stage.email, address ∈ old.stage.email) :
        ∃ email verifier expires, .invited id contact.grantor email verifier expires ∈ log ++ [e] ∧
          ∀ address ∈ contact.stage.email, address = email := by
      obtain ⟨email, verifier, expires, hmem, haddress⟩ := ih hold
      refine ⟨email, verifier, expires, List.mem_append_left _ (hgrantor ▸ hmem), ?_⟩
      exact fun address h => haddress address (hemail address h)
    by_cases hmoves : e.moves = some id
    · have hmoved := step.moved hmoves
      rw [hc] at hmoved
      cases hmoved with
      | invite absent =>
        exact ⟨_, _, _, List.mem_append_right _ List.mem_cons_self, fun _ h =>
          (Option.some.inj h).symm⟩
      | reinvite stands => exact hearlier stands rfl fun _ h => h
      | accept stands =>
        refine hearlier stands rfl ?_
        rintro address ⟨⟩
      | confirm stands =>
        refine hearlier stands rfl ?_
        rintro address ⟨⟩
    · obtain ⟨stage, hstands, hstage⟩ := step.kept hmoves hc
      refine hearlier hstands rfl fun address h => ?_
      rwa [hstage, Stage.email_rekey] at h

/-- A grantee has accepted. -/
theorem Steps.accepted (h : Steps log T) (hc : T id = some contact) :
    ∀ grantee ∈ contact.stage.grantee,
      ∃ email verifier now, .accepted id grantee email verifier now ∈ log := by
  induction h generalizing contact with
  | nil => cases hc
  | @snoc log T e T' before step fresh ih =>
    intro grantee hgrantee
    have hearlier {old : Contact User Email Verifier Time Key} (hold : T id = some old)
        (hsame : old.stage.grantee = some grantee) :
        ∃ email verifier now, .accepted id grantee email verifier now ∈ log ++ [e] := by
      obtain ⟨email, verifier, now, hmem⟩ := ih hold grantee hsame
      exact ⟨email, verifier, now, List.mem_append_left _ hmem⟩
    by_cases hmoves : e.moves = some id
    · have hmoved := step.moved hmoves
      rw [hc] at hmoved
      cases hmoved with
      | invite absent => cases hgrantee
      | reinvite stands => cases hgrantee
      | accept stands =>
        obtain rfl := Option.some.inj hgrantee
        exact ⟨_, _, _, List.mem_append_right _ List.mem_cons_self⟩
      | confirm stands => exact hearlier stands hgrantee
    · obtain ⟨stage, hstands, hstage⟩ := step.kept hmoves hc
      refine hearlier hstands ?_
      rwa [hstage, Stage.grantee_rekey] at hgrantee

/-- The id of the invitation an event accepts. -/
def Event.accepts : Event Id User Email Verifier Time Key → Option Id
  | accepted id _ _ _ _ => some id
  | _ => none

omit [DecidableEq Id] [DecidableEq User] [LT Time] in
theorem Event.eq_of_accepts (h : e.accepts = some id) :
    ∃ grantee email verifier now, e = .accepted id grantee email verifier now := by
  cases e with
  | accepted i grantee email verifier now =>
    obtain rfl := Option.some.inj h
    exact ⟨grantee, email, verifier, now, rfl⟩
  | _ => cases h

/-- A contact that was accepted is not at an address again. -/
theorem Steps.accepted_left (h : Steps log T) (haccepted : ∃ e ∈ log, e.accepts = some id) :
    (∃ e ∈ log, e.invites = some id) ∧ ∀ c, T id = some c → c.stage.email = none := by
  induction h with
  | nil =>
    obtain ⟨e, he, -⟩ := haccepted
    cases he
  | @snoc log T e T' before step fresh ih =>
    obtain ⟨e', he', haccepts⟩ := haccepted
    rcases List.mem_append.mp he' with hlog | hlast
    · obtain ⟨⟨e₀, he₀, hinvites⟩, hleft⟩ := ih ⟨e', hlog, haccepts⟩
      refine ⟨⟨e₀, List.mem_append_left _ he₀, hinvites⟩, fun c hc => ?_⟩
      by_cases hmoves : e.moves = some id
      · have hmoved := step.moved hmoves
        rw [hc] at hmoved
        cases hmoved with
        | invite absent => exact absurd hinvites (fresh id rfl e₀ he₀)
        | reinvite stands => cases hleft _ stands
        | accept stands => rfl
        | confirm stands => rfl
      · obtain ⟨stage, hstands, hstage⟩ := step.kept hmoves hc
        rw [hstage, Stage.email_rekey]
        exact hleft _ hstands
    · obtain rfl := List.mem_singleton.mp hlast
      obtain ⟨grantee, email, verifier, now, rfl⟩ := Event.eq_of_accepts haccepts
      cases step with
      | accept stands timely another unknown =>
        obtain ⟨address, first, deadline, hmem, -⟩ := before.invited stands
        refine ⟨⟨_, List.mem_append_left _ hmem, rfl⟩, fun c hc => ?_⟩
        rw [Function.update_self] at hc
        obtain rfl := Option.some.inj hc
        rfl

/-- **An invitation is accepted once at most.** -/
theorem Steps.accepted_once (h : Steps log T) : (log.filterMap Event.accepts).Nodup := by
  induction h with
  | nil => exact List.nodup_nil
  | @snoc log T e T' before step fresh ih =>
    rw [List.filterMap_append]
    refine List.Nodup.append ih ?_ ?_
    · cases haccepts : e.accepts <;> simp [haccepts]
    · intro id hlog hlast
      obtain ⟨e', he', haccepts'⟩ := List.mem_filterMap.mp hlog
      obtain ⟨e'', he'', haccepts⟩ := List.mem_filterMap.mp hlast
      obtain rfl := List.mem_singleton.mp he''
      obtain ⟨grantee, email, verifier, now, rfl⟩ := Event.eq_of_accepts haccepts
      cases step with
      | accept stands timely another unknown =>
        cases (before.accepted_left ⟨e', he', haccepts'⟩).2 _ stands

/-- **An acceptance presents, in time and at the address invited, the verifier of the last token
sent.** -/
theorem Steps.acceptance {after : List (Event Id User Email Verifier Time Key)} {grantee : User}
    {email : Email} {verifier : Verifier} {now : Time}
    (h : Steps (log ++ .accepted id grantee email verifier now :: after) T) :
    ∃ grantor expires e, lastMove id log = some e ∧ e.Sends id grantor verifier expires ∧
      (∃ first deadline, .invited id grantor email first deadline ∈ log) ∧ now < expires ∧
      grantor ≠ grantee := by
  obtain ⟨T₁, T₂, hbefore, hstep⟩ := h.split
  cases hstep with
  | @accept _ grantor _ _ _ expires _ stands timely another unknown =>
    cases hbefore.origin stands with
    | @invited _ _ _ _ e sends last =>
      obtain ⟨address, first, deadline, hmem, haddress⟩ := hbefore.invited stands
      obtain rfl := haddress email rfl
      exact ⟨grantor, expires, e, last, sends, ⟨first, deadline, hmem⟩, timely, another⟩

/-- **A key is given by the grantor of an accepted contact.** -/
theorem Steps.confirmation {after : List (Event Id User Email Verifier Time Key)} {grantor : User}
    {key : Key} (h : Steps (log ++ .confirmed id grantor key :: after) T) :
    ∃ grantee email verifier now, lastMove id log = some (.accepted id grantee email verifier now) ∧
      ∃ address first deadline, .invited id grantor address first deadline ∈ log := by
  obtain ⟨T₁, T₂, hbefore, hstep⟩ := h.split
  cases hstep with
  | confirm stands =>
    obtain ⟨address, first, deadline, hmem, -⟩ := hbefore.invited stands
    cases hbefore.origin stands with
    | accepted last => exact ⟨_, _, _, _, last, address, first, deadline, hmem⟩

end Kept

end Trust
