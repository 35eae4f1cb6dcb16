import HonoWarden.Audit.Cursor
import HonoWarden.Relational.Keyset
import HonoWarden.Web.JsonInteger

/-!
# Paging through the organization audit

Model of `readOrganizationAuditPage` (`src/repositories/organization-audit-repository.ts`) and of
`queryOrganizationAuditHistory` (`src/organization-audit.ts`). A row of `audit_events` stands here
with the value of the expression its index is built on, and whether the actor may read the history
is a parameter.

Results:
* `queryOrganizationAuditHistory_eq`: a page is cut from the listing, behind its cursor;
* **`organizationAudit_paged`**: following the cursors yields the listing, each cursor restores its
  query for whom it was issued, and for nobody else.
-/

namespace HonoWarden

open Relational Web

/-! ## The code -/

/-- A row of `audit_events`, with the organization its context names. -/
structure StoredAuditEvent where
  id : JsString
  schemaVersion : Int
  name : JsString
  outcome : JsString
  occurredAt : JsString
  actorUserId : Option JsString
  targetType : Option JsString
  targetId : Option JsString
  scope : Option JsString
  deriving DecidableEq

/-- The columns a page reads. -/
def StoredAuditEvent.projection (row : StoredAuditEvent) : OrganizationAuditStoredProjection where
  id := row.id
  schemaVersion := row.schemaVersion
  name := row.name
  outcome := row.outcome
  occurredAt := row.occurredAt
  actorUserId := row.actorUserId
  targetType := row.targetType.getD []
  targetId := row.targetId

/-- The `WHERE` of a page, but the condition of its cursor. -/
def StoredAuditEvent.Matches (row : StoredAuditEvent) (organizationId : JsString)
    (query : OrganizationAuditQuery) : Prop :=
  row.scope = some organizationId ∧ row.schemaVersion = 1 ∧ row.outcome = js "success" ∧
    (∃ name ∈ organizationAuditEventNames, row.name = name.text ∧
      row.targetType = some (organizationAuditEventTargets name).text) ∧
    query.fromDate ≤ row.occurredAt ∧ row.occurredAt < query.toDate ∧
    (∀ name ∈ query.eventName, row.name = name.text) ∧
    (∀ id ∈ query.filterActorUserId, row.actorUserId = some id)

instance StoredAuditEvent.decidableMatches (row : StoredAuditEvent) (organizationId : JsString)
    (query : OrganizationAuditQuery) : Decidable (row.Matches organizationId query) := inferInstanceAs (Decidable (_ ∧ _))

/-- `AND (event.occurred_at < ? OR (event.occurred_at = ? AND event.id < ?))`, where there is a
cursor. -/
def beforeCursor (cursor : Option OrganizationAuditPosition) (row : StoredAuditEvent) : Bool :=
  cursor.all fun position => row.occurredAt < position.occurredAt ∨
    row.occurredAt = position.occurredAt ∧ row.id < position.id

/-- `OrganizationAuditReadResult`. -/
inductive OrganizationAuditReadResult where
  | notFound
  | success (records : List OrganizationAuditRecord) (hasMore : Bool)

section Repository

variable (dateParse : DateParse) (authorized : Bool) (rows : List StoredAuditEvent)

/-- `readOrganizationAuditPage`; `none` is its exception. -/
def readOrganizationAuditPage (organizationId : JsString) (query : OrganizationAuditQuery) :
    Option OrganizationAuditReadResult :=
  if ¬ (1 ≤ query.limit ∧ query.limit ≤ 1000) then none
  else if authorized = false then some .notFound
  else
    let found := ((rows.filter fun row => row.Matches organizationId query ∧
      beforeCursor query.cursor row = true).mergeSort fun a b =>
        b.occurredAt < a.occurredAt ∨ b.occurredAt = a.occurredAt ∧ b.id ≤ a.id).take
          (query.limit.toNat + 1)
    ((found.take query.limit.toNat).mapM fun row =>
      projectOrganizationAuditRecord dateParse row.projection).map fun records =>
        .success records (query.limit.toNat < found.length)

variable (ν : Type) [JsonNumber ν] (mac : Mac)

/-- `queryOrganizationAuditHistory`: the records and the `continuationToken` of its body; `none` is
an exception or an organization that is not found. -/
def queryOrganizationAuditHistory (input : AuditQueryInput) (query : OrganizationAuditQuery) :
    Option (Page OrganizationAuditRecord JsString) :=
  if 100 < query.limit then none
  else
    (readOrganizationAuditPage dateParse authorized rows input.organizationId query).bind
      fun result =>
        match result with
        | .notFound => none
        | .success records hasMore =>
          match records.getLast? with
          | none => some { items := records, next := none }
          | some last =>
            if hasMore = false then some { items := records, next := none }
            else
              (issueOrganizationAuditCursor ν mac dateParse query input.organizationId
                input.actorUserId { occurredAt := last.occurredAt, id := last.id }
                input.cursorSecret).map fun token => { items := records, next := some token }

/-- `GET /api/organizations/:id/audit-events`; `none` is an error reply. -/
def getOrganizationAuditEvents (queries : AuditQueries) (input : AuditQueryInput) :
    Option (Page OrganizationAuditRecord JsString) :=
  (parseOrganizationAuditQuery ν mac dateParse queries input).bind
    (queryOrganizationAuditHistory dateParse authorized rows ν mac input)

end Repository

/-! ## The listing -/

section Listing

variable {dateParse : DateParse} {rows : List StoredAuditEvent} {organizationId : JsString}
  {query : OrganizationAuditQuery}

/-- A position in a listing: later ones come first. -/
def OrganizationAuditPosition.key (position : OrganizationAuditPosition) :
    (JsString ×ₗ JsString)ᵒᵈ :=
  OrderDual.toDual (toLex (position.occurredAt, position.id))

/-- Where an event stands in a listing. -/
def StoredAuditEvent.key (row : StoredAuditEvent) : (JsString ×ₗ JsString)ᵒᵈ :=
  OrderDual.toDual (toLex (row.occurredAt, row.id))

theorem auditKey_lt {occurredAt occurredAt' id id' : JsString} :
    OrderDual.toDual (toLex (occurredAt, id)) < OrderDual.toDual (toLex (occurredAt', id')) ↔
      occurredAt' < occurredAt ∨ occurredAt' = occurredAt ∧ id' < id :=
  OrderDual.toDual_lt_toDual.trans Prod.Lex.toLex_lt_toLex

theorem auditKey_le {occurredAt occurredAt' id id' : JsString} :
    OrderDual.toDual (toLex (occurredAt, id)) ≤ OrderDual.toDual (toLex (occurredAt', id')) ↔
      occurredAt' < occurredAt ∨ occurredAt' = occurredAt ∧ id' ≤ id := by
  rw [OrderDual.toDual_le_toDual, Prod.Lex.toLex_le_toLex]

/-- The matching events of an organization, the latest first. -/
def auditListing (rows : List StoredAuditEvent) (organizationId : JsString)
    (query : OrganizationAuditQuery) : List StoredAuditEvent :=
  sortBy StoredAuditEvent.key (rows.filter fun row => row.Matches organizationId query)

theorem auditKeys_nodup (hids : (rows.map StoredAuditEvent.id).Nodup)
    (p : StoredAuditEvent → Bool) : ((rows.filter p).map StoredAuditEvent.key).Nodup := by
  refine List.pairwise_map.mpr ?_
  refine ((List.pairwise_map.mp hids).filter p).imp fun hne heq => hne ?_
  exact (Prod.ext_iff.mp (toLex.injective (OrderDual.toDual_inj.mp heq))).2

theorem beforeCursor_eq (cursor : Option OrganizationAuditPosition) (row : StoredAuditEvent) :
    beforeCursor cursor row =
      (cursor.map OrganizationAuditPosition.key).all fun key => key < row.key := by
  cases cursor with
  | none => rfl
  | some position => exact decide_eq_decide.mpr auditKey_lt.symm

/-- The rows of a page are the first of the listing behind its cursor. -/
theorem auditRows_eq (hids : (rows.map StoredAuditEvent.id).Nodup) :
    ((rows.filter fun row => row.Matches organizationId query ∧
      beforeCursor query.cursor row = true).mergeSort fun a b =>
        b.occurredAt < a.occurredAt ∨ b.occurredAt = a.occurredAt ∧ b.id ≤ a.id) =
      behind StoredAuditEvent.key (query.cursor.map OrganizationAuditPosition.key)
        (auditListing rows organizationId query) := by
  have hsort (found : List StoredAuditEvent) : (found.mergeSort fun a b =>
      b.occurredAt < a.occurredAt ∨ b.occurredAt = a.occurredAt ∧ b.id ≤ a.id) =
        sortBy StoredAuditEvent.key found := by
    unfold sortBy
    congr 1
    funext a b
    exact decide_eq_decide.mpr auditKey_le.symm
  unfold behind auditListing
  rw [hsort, ← sortBy_filter (auditKeys_nodup hids _), List.filter_filter]
  congr 2
  funext row
  rw [Bool.decide_and, Bool.decide_eq_true, beforeCursor_eq, Bool.and_comm]

/-- The record of a row, or the exception of its projection. -/
def readAuditRow (dateParse : DateParse) (row : StoredAuditEvent) :
    Except Unit OrganizationAuditRecord :=
  match projectOrganizationAuditRecord dateParse row.projection with
  | none => .error ()
  | some record => .ok record

theorem readAuditRow_eq_ok_iff {row : StoredAuditEvent} {record : OrganizationAuditRecord} :
    readAuditRow dateParse row = .ok record ↔
      projectOrganizationAuditRecord dateParse row.projection = some record := by
  unfold readAuditRow
  cases projectOrganizationAuditRecord dateParse row.projection with
  | none => simp
  | some found => simp

/-- A matching event with a timestamp and an id of their forms is read. -/
theorem exists_readAuditRow {row : StoredAuditEvent} (h : row.Matches organizationId query)
    (hoccurred : IsCanonicalTimestamp dateParse row.occurredAt)
    (hid : IsOrganizationAuditId row.id) : ∃ record, readAuditRow dateParse row = .ok record := by
  obtain ⟨-, hversion, houtcome, ⟨name, -, hname, htarget⟩, -⟩ := h
  have hread : readEventName row.projection.name = some name :=
    readEventName_eq_some_iff.mpr hname.symm
  have htype : row.projection.targetType = (organizationAuditEventTargets name).text := by
    unfold StoredAuditEvent.projection
    rw [htarget, Option.getD_some]
  have hproject : projectOrganizationAuditRecord dateParse row.projection ≠ none := by
    unfold projectOrganizationAuditRecord
    rw [hread, Option.bind_some, if_neg]
    · exact Option.some_ne_none _
    · simp only [not_or, not_not]
      exact ⟨hid, hoccurred, hversion, houtcome, htype⟩
  obtain ⟨record, hrecord⟩ := Option.ne_none_iff_exists'.mp hproject
  exact ⟨record, readAuditRow_eq_ok_iff.mpr hrecord⟩

theorem position_of_readAuditRow {row : StoredAuditEvent} {record : OrganizationAuditRecord}
    (h : readAuditRow dateParse row = .ok record) :
    record.id = row.id ∧ record.occurredAt = row.occurredAt := by
  obtain ⟨name, -, h⟩ := Option.bind_eq_some_iff.mp (readAuditRow_eq_ok_iff.mp h)
  split_ifs at h
  obtain rfl := Option.some.inj h
  exact ⟨rfl, rfl⟩

theorem mapM_eq_some_of_forall₂ {found : List StoredAuditEvent}
    {records : List OrganizationAuditRecord}
    (h : List.Forall₂ (fun row record => readAuditRow dateParse row = .ok record) found records) :
    found.mapM (fun row => projectOrganizationAuditRecord dateParse row.projection) =
      some records := by
  induction h with
  | nil => rfl
  | cons hrow _ ih => rw [List.mapM_cons, readAuditRow_eq_ok_iff.mp hrow, ih]; rfl

/-! ## Pages -/

/-- The cursor of a record. -/
def auditToken (ν : Type) [JsonNumber ν] (mac : Mac) (query : OrganizationAuditQuery)
    (input : AuditQueryInput) (record : OrganizationAuditRecord) : JsString :=
  cursorToken ν mac input.cursorSecret (cursorPayload query input.organizationId input.actorUserId
    { occurredAt := record.occurredAt, id := record.id })

variable {ν : Type} [JsonNumber ν] {mac : Mac} {input : AuditQueryInput}

/-- **A page is cut from the listing**, behind its cursor. -/
theorem queryOrganizationAuditHistory_eq (hids : (rows.map StoredAuditEvent.id).Nodup)
    (hlimit : 1 ≤ query.limit ∧ query.limit ≤ 100) (cursor : Option OrganizationAuditPosition)
    (hread : ∀ row ∈ auditListing rows input.organizationId query, ∃ record,
      readAuditRow dateParse row = .ok record ∧
        issueOrganizationAuditCursor ν mac dateParse query input.organizationId input.actorUserId
          { occurredAt := record.occurredAt, id := record.id } input.cursorSecret =
            some (auditToken ν mac query input record)) :
    queryOrganizationAuditHistory dateParse true rows ν mac input { query with cursor := cursor } =
      servePage (readAuditRow dateParse) (auditToken ν mac query input) query.limit.toNat
        (behind StoredAuditEvent.key (cursor.map OrganizationAuditPosition.key)
          (auditListing rows input.organizationId query)) := by
  have hrows := @auditRows_eq rows input.organizationId { query with cursor := cursor } hids
  have hlisting : auditListing rows input.organizationId { query with cursor := cursor } =
      auditListing rows input.organizationId query := rfl
  rw [hlisting] at hrows
  have hrest : ∀ row ∈ behind StoredAuditEvent.key (cursor.map OrganizationAuditPosition.key)
      (auditListing rows input.organizationId query),
      row ∈ auditListing rows input.organizationId query :=
    fun row hrow => List.mem_of_mem_filter hrow
  generalize behind StoredAuditEvent.key (cursor.map OrganizationAuditPosition.key)
    (auditListing rows input.organizationId query) = rest at hrows hrest ⊢
  obtain ⟨found, hfound⟩ : ∃ found, List.Forall₂
      (fun row record => readAuditRow dateParse row = .ok record ∧
        issueOrganizationAuditCursor ν mac dateParse query input.organizationId input.actorUserId
          { occurredAt := record.occurredAt, id := record.id } input.cursorSecret =
            some (auditToken ν mac query input record))
      (rest.take (query.limit.toNat + 1)) found :=
    exists_forall₂ fun row hrow => hread row (hrest row (List.mem_of_mem_take hrow))
  have hread₂ := hfound.imp fun _ _ h => h.1
  have hissue := ((List.forall₂_and_left _ _).mp (hfound.flip.imp fun _ _ h => And.comm.mp h)).1
  rw [servePage_eq_some_iff.mpr ⟨found, hread₂, rfl⟩]
  have hshown := mapM_eq_some_of_forall₂ (List.forall₂_take query.limit.toNat hread₂)
  unfold queryOrganizationAuditHistory readOrganizationAuditPage
  dsimp only
  rw [if_neg (by omega), if_neg (by omega), if_neg (by decide), hrows, hshown, Option.map_some,
    Option.bind_some, hfound.length_eq]
  unfold pageOf
  dsimp only
  cases hlast : (found.take query.limit.toNat).getLast? with
  | none => simp
  | some last =>
    dsimp only
    rw [Option.map_some]
    by_cases hmore : query.limit.toNat < found.length
    · have hmem := List.mem_of_mem_take (List.mem_of_getLast? hlast)
      have htoken := hissue last hmem
      unfold issueOrganizationAuditCursor at htoken ⊢
      rw [if_neg (by simpa using hmore), if_pos hmore]
      exact congrArg (Option.map fun token : JsString => (⟨_, some token⟩ : Page _ _)) htoken
    · rw [if_pos (decide_eq_false hmore), if_neg hmore]

/-! ## Following the cursors -/

/-- A client that follows cursors: it asks with each in time, and repeats the filters or leaves
them out. -/
structure FollowsCursors (ask : JsString → AuditQueries × Int) (query : OrganizationAuditQuery)
    (n₀ : Int) : Prop where
  time : ∀ token, token ≠ [] → IsFourDigitTime (ask token).2
  later : ∀ token, token ≠ [] → n₀ ≤ (ask token).2
  expiry : ∀ token, token ≠ [] → (ask token).2 / 1000 < query.expiresAt
  allowed : ∀ token, token ≠ [] → (ask token).1.Allowed .query
  cursor : ∀ token, token ≠ [] →
    readAuditQuery (ask token).1 (js "continuationToken") = some token
  repeats : ∀ token, token ≠ [] → (ask token).1.Repeats query

/-- The request an actor makes at a time. -/
def auditRequest (organizationId actorUserId secret : JsString) (n : Int) : AuditQueryInput where
  operation := .query
  organizationId := organizationId
  actorUserId := actorUserId
  now := toISOString n
  cursorSecret := secret

variable {actorUserId secret : JsString} {queries : AuditQueries} {n₀ : Int}

/-- A query that was read without a cursor is fresh, and its request named ids. -/
theorem fresh_of_parse {n : Int} (hn : IsFourDigitTime n)
    (hfirst : readAuditQuery queries (js "continuationToken") = none)
    (h : parseOrganizationAuditQuery ν mac dateParse queries
      (auditRequest organizationId actorUserId secret n) = some query) :
    query.Fresh dateParse n ∧ IsOrganizationAuditId organizationId ∧
      IsOrganizationAuditId actorUserId := by
  unfold parseOrganizationAuditQuery auditRequest at h
  dsimp only at h
  rw [dateParse.parse_toISOString hn.isTime, Option.bind_some, hfirst] at h
  split_ifs at h with hrefused
  simp only [not_or, not_not] at hrefused
  exact ⟨fresh_of_build rfl rfl h, hrefused.1, hrefused.2.1⟩

theorem cursorToken_ne_nil {payload : AuditCursorPayload} :
    cursorToken ν mac secret payload ≠ [] := by
  unfold cursorToken
  exact List.append_ne_nil_of_right_ne_nil _ (List.cons_ne_nil _ _)

/-- **Following the cursors gathers the listing**, each event once and in order. -/
theorem followed_organizationAudit (hshort : ShortIntegers ν) (hsecret : IsCursorSecret secret)
    (hids : (rows.map StoredAuditEvent.id).Nodup)
    (hrows : ∀ row ∈ rows, row.Matches organizationId query →
      IsCanonicalTimestamp dateParse row.occurredAt ∧ IsOrganizationAuditId row.id)
    (hn₀ : IsFourDigitTime n₀)
    (hfirst : readAuditQuery queries (js "continuationToken") = none)
    (hparsed : parseOrganizationAuditQuery ν mac dateParse queries
      (auditRequest organizationId actorUserId secret n₀) = some query)
    {ask : JsString → AuditQueries × Int} (hask : FollowsCursors ask query n₀) :
    ∃ records, List.Forall₂ (fun row record => readAuditRow dateParse row = .ok record)
        (auditListing rows organizationId query) records ∧
      Followed (fun token =>
        getOrganizationAuditEvents dateParse true rows ν mac ((token.map ask).getD (queries, n₀)).1
          (auditRequest organizationId actorUserId secret ((token.map ask).getD (queries, n₀)).2))
        none records := by
  obtain ⟨hfresh, horganization, hactor⟩ := fresh_of_parse hn₀ hfirst hparsed
  have hmatch : ∀ row ∈ auditListing rows organizationId query,
      row ∈ rows ∧ row.Matches organizationId query := by
    intro row hrow
    have hmem := List.mem_filter.mp ((sortBy_perm _ _).mem_iff.mp hrow)
    exact ⟨hmem.1, of_decide_eq_true hmem.2⟩
  have hissue : ∀ row ∈ auditListing rows organizationId query, ∀ record,
      readAuditRow dateParse row = .ok record →
        issueOrganizationAuditCursor ν mac dateParse query organizationId actorUserId
          { occurredAt := record.occurredAt, id := record.id } secret = some (auditToken ν mac query
            (auditRequest organizationId actorUserId secret n₀) record) := by
    intro row hrow record hread
    obtain ⟨hmem, hmatches⟩ := hmatch row hrow
    obtain ⟨hid, hoccurred⟩ := position_of_readAuditRow hread
    obtain ⟨-, -, -, -, hfrom, hto, -⟩ := hmatches
    obtain ⟨hcanonical, hidForm⟩ := hrows row hmem (hmatch row hrow).2
    refine issueOrganizationAuditCursor_fresh hshort hsecret horganization hactor hn₀ hfresh ?_ ?_
      ?_ ?_
    · exact hoccurred ▸ hcanonical
    · exact hid ▸ hidForm
    · rw [hoccurred]
      exact hfrom
    · exact hoccurred ▸ hto
  have hread : ∀ row ∈ auditListing rows organizationId query, ∃ record,
      readAuditRow dateParse row = .ok record := by
    intro row hrow
    obtain ⟨hmem, hmatches⟩ := hmatch row hrow
    exact exists_readAuditRow hmatches (hrows row hmem hmatches).1 (hrows row hmem hmatches).2
  obtain ⟨records, hrecords⟩ := exists_forall₂ hread
  refine ⟨records, hrecords, ?_⟩
  have hpage (n : Int) (cursor : Option OrganizationAuditPosition) :=
    @queryOrganizationAuditHistory_eq dateParse _ _ ν _ mac
      (auditRequest organizationId actorUserId secret n) hids hfresh.limit cursor
      fun row hrow => by
        obtain ⟨record, hrecord⟩ := hread row hrow
        exact ⟨record, hrecord, hissue row hrow record hrecord⟩
  have hsorted : (auditListing rows organizationId query).Pairwise fun a b => a.key < b.key :=
    pairwise_lt_sortBy (auditKeys_nodup hids _)
  have hlimit : 0 < query.limit.toNat := by
    have := hfresh.limit
    omega
  refine (@followed_iff _ _ _ _ _ _
    (auditToken ν mac query (auditRequest organizationId actorUserId secret n₀)) _ _ _ _ _ hsorted
    hlimit ?_ ?_ _).mpr (mapM_eq_ok_iff_forall₂.mpr hrecords)
  · have hquery : { query with cursor := none } = query := by rw [← hfresh.cursor]
    have hfirstPage := hpage n₀ none
    rw [hquery, Option.map_none, behind_none] at hfirstPage
    rw [Option.map_none, Option.getD_none, getOrganizationAuditEvents, hparsed, Option.bind_some]
    exact hfirstPage
  · intro row hrow record hrecord
    have hne : auditToken ν mac query (auditRequest organizationId actorUserId secret n₀) record ≠
        [] := cursorToken_ne_nil
    have hrestored := parseOrganizationAuditQuery_restores hn₀ rfl hparsed
      (hissue row hrow record hrecord) (hask.time _ hne) (hask.later _ hne) (hask.expiry _ hne)
      (hask.allowed _ hne) (hask.cursor _ hne) (hask.repeats _ hne)
    have hnext := hpage (ask (auditToken ν mac query
      (auditRequest organizationId actorUserId secret n₀) record)).2
      (some { occurredAt := record.occurredAt, id := record.id })
    obtain ⟨hid, hoccurred⟩ := position_of_readAuditRow hrecord
    have hkey : OrganizationAuditPosition.key
        { occurredAt := record.occurredAt, id := record.id } = row.key := by
      rw [hid, hoccurred]
      rfl
    rw [Option.map_some, hkey] at hnext
    rw [Option.map_some, Option.getD_some, getOrganizationAuditEvents]
    refine (congrArg (fun parsed => Option.bind parsed _) hrestored).trans ?_
    rw [Option.bind_some]
    exact hnext

/-- The listing has the matching events, the latest first. -/
theorem auditListing_spec (hids : (rows.map StoredAuditEvent.id).Nodup) :
    (auditListing rows organizationId query).Perm
        (rows.filter fun row => row.Matches organizationId query) ∧
      (auditListing rows organizationId query).Pairwise fun a b =>
        b.occurredAt < a.occurredAt ∨ b.occurredAt = a.occurredAt ∧ b.id < a.id :=
  ⟨sortBy_perm _ _, (pairwise_lt_sortBy (auditKeys_nodup hids _)).imp auditKey_lt.mp⟩

end Listing

/-- **The history is paged exactly, and cursors are bound.** Where matching events have ids of the
form the server writes, a client that follows the cursors of a first request gathers the records of
the matching events, the latest first and each once. A cursor restores the query it was issued for
until it expires, for requests with the same filters or none; a request of another actor, for another
organization or with another filter is refused. Where no tag is forged, every cursor that is accepted
was issued to the actor, for the organization and the filters of the request. -/
theorem organizationAudit_paged {ν : Type} [JsonNumber ν] (hshort : ShortIntegers ν) (mac : Mac)
    (dateParse : DateParse) (organizationId actorUserId secret : JsString) :
    (∀ (rows : List StoredAuditEvent) (queries : AuditQueries) (n₀ : Int)
      (query : OrganizationAuditQuery) (ask : JsString → AuditQueries × Int),
      IsCursorSecret secret → (rows.map StoredAuditEvent.id).Nodup →
      (∀ row ∈ rows, row.Matches organizationId query →
        IsCanonicalTimestamp dateParse row.occurredAt ∧ IsOrganizationAuditId row.id) →
      IsFourDigitTime n₀ → readAuditQuery queries (js "continuationToken") = none →
      parseOrganizationAuditQuery ν mac dateParse queries
        (auditRequest organizationId actorUserId secret n₀) = some query →
      FollowsCursors ask query n₀ →
      ∃ listing records,
        listing.Perm (rows.filter fun row => row.Matches organizationId query) ∧
        listing.Pairwise (fun a b =>
          b.occurredAt < a.occurredAt ∨ b.occurredAt = a.occurredAt ∧ b.id < a.id) ∧
        List.Forall₂ (fun row record =>
          projectOrganizationAuditRecord dateParse row.projection = some record) listing records ∧
        Followed (fun token => getOrganizationAuditEvents dateParse true rows ν mac
          ((token.map ask).getD (queries, n₀)).1 (auditRequest organizationId actorUserId secret
            ((token.map ask).getD (queries, n₀)).2)) none records) ∧
    (∀ (query : OrganizationAuditQuery) (position : OrganizationAuditPosition) (token : JsString),
      issueOrganizationAuditCursor ν mac dateParse query organizationId actorUserId position secret =
        some token →
      ∀ (queries : AuditQueries) (n : Int), IsFourDigitTime n → queries.Allowed .query →
        readAuditQuery queries (js "continuationToken") = some token →
        (∀ (queries₀ : AuditQueries) (input₀ : AuditQueryInput) (n₀ : Int), IsFourDigitTime n₀ →
          input₀.now = toISOString n₀ →
          parseOrganizationAuditQuery ν mac dateParse queries₀ input₀ = some query →
          n₀ ≤ n → n / 1000 < query.expiresAt → queries.Repeats query →
          parseOrganizationAuditQuery ν mac dateParse queries
            (auditRequest organizationId actorUserId secret n) =
              some { query with cursor := some position }) ∧
        ∀ (organizationId' actorUserId' : JsString),
          ¬ (organizationId' = organizationId ∧ actorUserId' = actorUserId ∧
            queries.Repeats query) →
          parseOrganizationAuditQuery ν mac dateParse queries
            (auditRequest organizationId' actorUserId' secret n) = none) ∧
    ∀ (queries : AuditQueries) (n : Int) (token : JsString) (restored : OrganizationAuditQuery),
      IsFourDigitTime n → UnforgedCursor ν mac dateParse secret token →
      readAuditQuery queries (js "continuationToken") = some token →
      parseOrganizationAuditQuery ν mac dateParse queries
        (auditRequest organizationId actorUserId secret n) = some restored →
      ∃ query position, issueOrganizationAuditCursor ν mac dateParse query organizationId actorUserId
          position secret = some token ∧ queries.Repeats query ∧
        restored = { query with cursor := some position } := by
  refine ⟨?_, ?_, ?_⟩
  · intro rows queries n₀ query ask hsecret hids hrows hn₀ hfirst hparsed hask
    obtain ⟨records, hrecords, hfollowed⟩ :=
      followed_organizationAudit hshort hsecret hids hrows hn₀ hfirst hparsed hask
    obtain ⟨hperm, hsorted⟩ := @auditListing_spec rows organizationId query hids
    exact ⟨_, records, hperm, hsorted, hrecords.imp fun _ _ h => readAuditRow_eq_ok_iff.mp h,
      hfollowed⟩
  · intro query position token hissue queries n hn hallowed htoken
    constructor
    · intro queries₀ input₀ n₀ hn₀ hnow hparsed hlater hexpiry hrepeats
      exact parseOrganizationAuditQuery_restores hn₀ hnow hparsed hissue hn hlater hexpiry hallowed
        htoken hrepeats
    · intro organizationId' actorUserId' hother
      refine Option.eq_none_iff_forall_ne_some.mpr fun restored hrestored => hother ?_
      exact ((parseOrganizationAuditQuery_issued_iff hissue hallowed htoken hn).mp hrestored).1
  · intro queries n token restored hn hunforged htoken hrestored
    exact exists_issued_of_parse hn hunforged htoken hrestored

/-- A host with integers writes short integers. -/
theorem shortIntegers_int : ShortIntegers Int := by
  intro z hz
  have hbound : z.natAbs < 10 ^ 16 := by
    unfold IsSafeInteger Web.maxSafeInteger at hz
    omega
  exact length_printInteger_le (by decide) hbound

/-- An invitation in an organization, at a time. -/
def inviteEvent (id : JsString) (n : Int) : StoredAuditEvent where
  id := id
  schemaVersion := 1
  name := OrganizationAuditEventName.memberInvite.text
  outcome := js "success"
  occurredAt := toISOString n
  actorUserId := none
  targetType := some OrganizationAuditTargetType.organizationUser.text
  targetId := none
  scope := some (js "o")

def auditSecret : JsString := List.replicate 32 97

theorem inviteEvent_matches {query : OrganizationAuditQuery} {id : JsString} {n a b : Int}
    (hn : IsFourDigitTime n) (ha : IsFourDigitTime a) (hb : IsFourDigitTime b)
    (hfrom : query.fromDate = toISOString a) (hto : query.toDate = toISOString b)
    (hname : query.eventName = none) (hactor : query.filterActorUserId = none)
    (han : a ≤ n) (hnb : n < b) : (inviteEvent id n).Matches (js "o") query := by
  refine ⟨rfl, rfl, rfl, ⟨.memberInvite, mem_organizationAuditEventNames _, rfl, rfl⟩, ?_, ?_, ?_,
    ?_⟩
  · rw [hfrom]
    exact (toISOString_le_iff ha hn).mpr han
  · rw [hto]
    exact (toISOString_lt_iff hn hb).mpr hnb
  · rw [hname]
    exact fun name hmem => absurd hmem (Option.not_mem_none name)
  · rw [hactor]
    exact fun id hmem => absurd hmem (Option.not_mem_none id)

/-- The query of a request without parameters. -/
def defaultAuditQuery (n : Int) : OrganizationAuditQuery :=
  { fromDate := toISOString (n - 7 * 86400000), toDate := toISOString n, eventName := none
    filterActorUserId := none, limit := 50, cursor := none
    issuedAt := n / 1000, expiresAt := n / 1000 + 900 }

theorem organizationAudit_paged_invite :
    ∃ listing records,
      listing.Perm ([inviteEvent (js "e") 1700000000000].filter fun row =>
        row.Matches (js "o") (defaultAuditQuery 1700000100000)) ∧
      listing.Pairwise (fun a b =>
        b.occurredAt < a.occurredAt ∨ b.occurredAt = a.occurredAt ∧ b.id < a.id) ∧
      List.Forall₂ (fun row record =>
        projectOrganizationAuditRecord isoParse row.projection = some record) listing records ∧
      Followed (fun token => getOrganizationAuditEvents isoParse true
        [inviteEvent (js "e") 1700000000000] Int prefixMac
        ((token.map fun token =>
          ([(js "continuationToken", [token])], (1700000200000 : Int))).getD ([], 1700000100000)).1
        (auditRequest (js "o") (js "u") auditSecret
          ((token.map fun token =>
            ([(js "continuationToken", [token])], (1700000200000 : Int))).getD
              (([] : AuditQueries), 1700000100000)).2)) none records := by
  have hn : IsFourDigitTime 1700000000000 := by decide
  refine (organizationAudit_paged shortIntegers_int prefixMac isoParse (js "o") (js "u")
    auditSecret).1 [inviteEvent (js "e") 1700000000000] [] 1700000100000
    (defaultAuditQuery 1700000100000)
    (fun token => ([(js "continuationToken", [token])], 1700000200000)) (by decide)
    (List.nodup_singleton _) ?_ (by decide) rfl
    (parseOrganizationAuditQuery_default (by decide) (by decide) (by decide) (by decide)) ?_
  · intro row hrow _
    rw [List.mem_singleton.mp hrow]
    exact ⟨isCanonicalTimestamp_iff.mpr ⟨_, hn, rfl⟩, by decide⟩
  · have htime : IsFourDigitTime 1700000200000 := by decide
    have hlater : (1700000100000 : Int) ≤ 1700000200000 := by decide
    have hexpiry : (1700000200000 : Int) / 1000 < (defaultAuditQuery 1700000100000).expiresAt := by
      decide
    have hkey : js "continuationToken" ∈ AuditOperation.query.allowedKeys := by decide
    refine ⟨fun _ _ => htime, fun _ _ => hlater, fun _ _ => hexpiry, ?_, ?_, ?_⟩
    · intro token htoken entry hentry
      obtain rfl := List.mem_singleton.mp hentry
      refine ⟨hkey, rfl, ?_⟩
      intro value hvalue
      obtain rfl := Option.some.inj hvalue
      exact htoken
    · exact fun token _ => rfl
    · intro token _
      have hread (key : JsString) (hkey : (key == js "continuationToken") = false) :
          readAuditQuery [(js "continuationToken", [token])] key = none := by
        simp only [readAuditQuery, List.lookup, hkey, Option.bind_none]
      have hfrom := hread (js "from") (by decide)
      have hto := hread (js "to") (by decide)
      have hevent := hread (js "eventName") (by decide)
      have hactor := hread (js "actorUserId") (by decide)
      have hlimit := hread (js "limit") (by decide)
      constructor <;> simp [*]

/-- **An id of another form stops the listing.** An event with the id `.` matches, and its page is
an error, so a client that follows the cursors gathers nothing. -/
theorem organizationAudit_not_paged :
    let rows := [inviteEvent (js ".") 1700000000000]
    parseOrganizationAuditQuery Int prefixMac isoParse []
        (auditRequest (js "o") (js "u") auditSecret 1700000100000) =
          some (defaultAuditQuery 1700000100000) ∧
      (rows.map StoredAuditEvent.id).Nodup ∧
      (∀ row ∈ rows, IsCanonicalTimestamp isoParse row.occurredAt ∧
        row.Matches (js "o") (defaultAuditQuery 1700000100000)) ∧
      ∀ (ask : JsString → AuditQueries × Int) (records : List OrganizationAuditRecord),
        ¬ Followed (fun token => getOrganizationAuditEvents isoParse true rows Int prefixMac
          ((token.map ask).getD ([], 1700000100000)).1 (auditRequest (js "o") (js "u") auditSecret
            ((token.map ask).getD ([], 1700000100000)).2)) none records := by
  have hn : IsFourDigitTime 1700000000000 := by decide
  have hparsed : parseOrganizationAuditQuery Int prefixMac isoParse []
      (auditRequest (js "o") (js "u") auditSecret 1700000100000) =
        some (defaultAuditQuery 1700000100000) :=
    parseOrganizationAuditQuery_default (by decide) (by decide) (by decide) (by decide)
  have hmatches : (inviteEvent (js ".") 1700000000000).Matches (js "o")
      (defaultAuditQuery 1700000100000) :=
    inviteEvent_matches hn (a := 1700000100000 - 7 * 86400000) (b := 1700000100000) (by decide)
      (by decide) rfl rfl rfl rfl (by decide) (by decide)
  refine ⟨hparsed, List.nodup_singleton _, ?_, ?_⟩
  · intro row hrow
    rw [List.mem_singleton.mp hrow]
    exact ⟨isCanonicalTimestamp_iff.mpr ⟨_, hn, rfl⟩, hmatches⟩
  intro ask records hfollowed
  have hproject : projectOrganizationAuditRecord isoParse
      (inviteEvent (js ".") 1700000000000).projection = none := by
    have hid : ¬ IsOrganizationAuditId (js ".") := by decide
    refine Option.bind_eq_none_iff.mpr fun name _ => if_pos (Or.inl hid)
  have hpage : getOrganizationAuditEvents isoParse true [inviteEvent (js ".") 1700000000000] Int
      prefixMac [] (auditRequest (js "o") (js "u") auditSecret 1700000100000) = none := by
    have hfilter : ([inviteEvent (js ".") 1700000000000].filter fun row =>
        row.Matches (js "o") (defaultAuditQuery 1700000100000) ∧
          beforeCursor (defaultAuditQuery 1700000100000).cursor row = true) =
            [inviteEvent (js ".") 1700000000000] :=
      List.filter_eq_self.mpr fun row hrow => by
        rw [List.mem_singleton.mp hrow]
        exact decide_eq_true ⟨hmatches, rfl⟩
    rw [getOrganizationAuditEvents, hparsed, Option.bind_some]
    unfold queryOrganizationAuditHistory readOrganizationAuditPage auditRequest
    dsimp only
    rw [if_neg (by decide), if_neg (by decide), if_neg (by decide), hfilter,
      List.mergeSort_singleton]
    simp [defaultAuditQuery, hproject]
  cases hfollowed with
  | last hserved hnext =>
    rw [Option.map_none, Option.getD_none, hpage] at hserved
    cases hserved
  | more hserved hnext hrest =>
    rw [Option.map_none, Option.getD_none, hpage] at hserved
    cases hserved

end HonoWarden
