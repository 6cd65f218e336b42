import WealthFinder.Pipeline.DatabaseClient
import WealthFinder.Pipeline.EntitySkill
import WealthFinder.Pipeline.RuleScore
import WealthFinder.Pipeline.StoredValues

/-!
# The rows of entity_events

`EntityEventRepository.persist_entities` and `fetch_entity_event`.  The EntityEvents that
a caller passes are objects, which the transaction's block changes as it goes.
-/

set_option autoImplicit false

namespace WealthFinder.Pipeline.Persistent

open Database

structure EntityEvent where
  sourceId : Uuid
  sourceUrl : String
  sourceName : String
  publishedAt : Option Timestamp
  analysisOutcome : VersionedMetadata AnalysisOutcome
  stock : Stock
  entityEventId : Option Uuid
  createdAt : Option Timestamp
  deriving DecidableEq

def EntityEvent.isPersistentEvent (entity : EntityEvent) : Bool :=
  entity.entityEventId.isSome && entity.createdAt.isSome

def EntityEvent.assigned (entity : EntityEvent) (newId : Uuid) (now : Timestamp) : EntityEvent :=
  { entity with entityEventId := some newId, createdAt := some now }

/-- What the caller expects to have a row at most once. -/
def EntityEvent.article (entity : EntityEvent) : String × String :=
  (entity.sourceUrl, entity.stock.stockCode)

/-! ## The table -/

structure EntityEventRow where
  entityEventId : Uuid
  exchange : String
  sourceUrl : String
  sourceName : String
  publishedAt : Option Timestamp
  stockCode : String
  eventTypePrimary : Text
  sentimentLabel : Text
  sentimentScore : ℚ
  headline : Text
  entitySummary : Text
  additionalOutcome : Json
  metadata : Json
  createdAt : Timestamp
  updatedAt : Timestamp

/-- What `UNIQUE (source_url, stock_code)` compares. -/
def EntityEventRow.article (row : EntityEventRow) : String × String :=
  (row.sourceUrl, row.stockCode)

structure EntityEventTable where
  rows : List EntityEventRow
  primaryKey : (rows.map EntityEventRow.entityEventId).Nodup
  unique : (rows.map EntityEventRow.article).Nodup

namespace EntityEventTable

def empty : EntityEventTable := ⟨[], List.nodup_nil, List.nodup_nil⟩

def ids (table : EntityEventTable) : List Uuid := table.rows.map EntityEventRow.entityEventId

def articles (table : EntityEventTable) : List (String × String) :=
  table.rows.map EntityEventRow.article

def insert (table : EntityEventTable) (row : EntityEventRow) (newId : row.entityEventId ∉ table.ids)
    (newArticle : row.article ∉ table.articles) : EntityEventTable where
  rows := row :: table.rows
  primaryKey := List.nodup_cons.mpr ⟨newId, table.primaryKey⟩
  unique := List.nodup_cons.mpr ⟨newArticle, table.unique⟩

section Insert
variable (table : EntityEventTable) (row : EntityEventRow) (newId : row.entityEventId ∉ table.ids)
  (newArticle : row.article ∉ table.articles)

@[simp] theorem ids_insert :
    (table.insert row newId newArticle).ids = row.entityEventId :: table.ids :=
  rfl

@[simp] theorem articles_insert :
    (table.insert row newId newArticle).articles = row.article :: table.articles :=
  rfl

end Insert

end EntityEventTable

/-! ## `_INSERT_ENTITY_EVENT_SQL` -/

abbrev Arguments := List (SqlValue Uuid)

/-- The row of `VALUES ($1, ..., $15)`, column by column. -/
def rowOf : Arguments → Option EntityEventRow
  | [entityEventId, exchange, sourceUrl, sourceName, publishedAt, stockCode, eventTypePrimary,
      sentimentLabel, sentimentScore, headline, entitySummary, additionalOutcome, metadata,
      createdAt, updatedAt] => do
      some {
        entityEventId := ← entityEventId.toUuid
        exchange := ← exchange.toString
        sourceUrl := ← sourceUrl.toString
        sourceName := ← sourceName.toString
        publishedAt := ← publishedAt.toNullableTimestamp
        stockCode := ← stockCode.toString
        eventTypePrimary := ← eventTypePrimary.toText
        sentimentLabel := ← sentimentLabel.toText
        sentimentScore := ← sentimentScore.toFloat
        headline := ← headline.toText
        entitySummary := ← entitySummary.toText
        additionalOutcome := ← additionalOutcome.toJsonb
        metadata := ← metadata.toJsonb
        createdAt := ← createdAt.toTimestamp
        updatedAt := ← updatedAt.toTimestamp }
  | _ => none

def dataError : DriverError where
  kind := .otherPostgres
  constraintName := none
  text := "DataError('invalid input for query argument')"

def entityEventIdTaken : DriverError where
  kind := .uniqueViolation
  constraintName := some "entity_events_pkey"
  text := "UniqueViolationError('duplicate key value violates unique constraint')"

/-- The statement, with the id that `RETURNING` gives. -/
def insertEntityEvent (arguments : Arguments) (table : EntityEventTable) :
    Except DriverError (EntityEventTable × Option Uuid) :=
  match rowOf arguments with
  | none => .error dataError
  | some row =>
      if newArticle : row.article ∉ table.articles then
        if newId : row.entityEventId ∉ table.ids then
          .ok (table.insert row newId newArticle, some row.entityEventId)
        else .error entityEventIdTaken
      else .ok (table, none)

/-! ## `persist_entities` -/

/-- What `uuid4` and the clock give one entity. -/
structure Stamp where
  newId : Uuid
  now : Timestamp
  deriving DecidableEq

/-- `None`, or the member's value. -/
def eventTypeJson : Option EventTypeEnum → Json
  | none => .null
  | some eventType => .string eventType.value

def additionalOutput (entity : EntityEvent) : Json :=
  let llm := entity.analysisOutcome.output
  .object
    [("company_name_zh", .string entity.stock.companyNameZh),
      ("company_name_en", .string entity.stock.companyNameEn),
      ("event_type_secondary", eventTypeJson llm.eventTypeSecondary),
      ("headline", .string llm.headline),
      ("entity_summary", .string llm.entitySummary)]

def additionalOutcome (entity : EntityEvent) : Json :=
  .object
    [("version", .ofString entity.analysisOutcome.version),
      ("output", additionalOutput entity)]

/-- `values`, in the order of its keys. -/
def insertValues (entity : EntityEvent) (stamp : Stamp) : List (String × SqlValue Uuid) :=
  let llm := entity.analysisOutcome.output
  [("entity_event_id", .uuid stamp.newId),
    ("exchange", .ofString entity.stock.exchange),
    ("source_url", .ofString entity.sourceUrl),
    ("source_name", .ofString entity.sourceName),
    ("published_at", .ofTimestamp entity.publishedAt),
    ("stock_code", .ofString entity.stock.stockCode),
    ("event_type_primary", .text llm.eventTypePrimary.value),
    ("sentiment_label", .text llm.sentimentLabel.value),
    ("sentiment_score", .float llm.sentimentScore),
    ("headline", .text llm.headline),
    ("entity_summary", .text llm.entitySummary),
    ("additional_outcome", .jsonb (additionalOutcome entity)),
    ("metadata", .jsonb (.object [("cleaned_id", .string (uuidText entity.sourceId))])),
    ("created_at", .timestamptz stamp.now),
    ("updated_at", .timestamptz stamp.now)]

/-- The objects that references name, and the list `persisted`. -/
structure Caller where
  objects : Nat → EntityEvent
  persisted : List Nat

/-- The object is given its id and time, and kept for the result. -/
def Caller.stored (caller : Caller) (entity : Nat) (stamp : Stamp) : Caller where
  objects := Function.update caller.objects entity
    ((caller.objects entity).assigned stamp.newId stamp.now)
  persisted := caller.persisted ++ [entity]

/-- The body of `async with transaction()`, from this turn of its loop on. -/
def insertEach (stamps : Nat → Stamp) : Nat → List Nat → Caller → Block Arguments Uuid Caller
  | _, [], caller => .ended caller none
  | turn, entity :: entities, caller =>
      .execute ((insertValues (caller.objects entity) (stamps turn)).map Prod.snd) fun reply =>
        match reply with
        | .error raised => .ended caller (some raised)
        | .ok none => insertEach stamps (turn + 1) entities caller
        | .ok (some _) =>
            insertEach stamps (turn + 1) entities (caller.stored entity (stamps turn))

abbrev Repository := World Arguments EntityEventTable Caller

def persistEntities (maxRetry : Int) (faults : Faults) (stamps : Nat → Stamp)
    (entities : List Nat) (world : Repository) : Except Raised (List Nat) × Repository :=
  let caller := { world.caller with persisted := [] }
  let env := { faults with exec := insertEntityEvent }
  match transaction maxRetry env (insertEach stamps 0 entities caller)
      { world with caller := caller } with
  | (.ok (), after) => (.ok after.caller.persisted, after)
  | (.error raised, after) => (.error raised, after)

/-! ## `fetch_entity_event` -/

/-- The `EventTypeEnum | None` field of `AnalysisOutcome`. -/
def readEventType : Json → Except DecodeError (Option EventTypeEnum)
  | .null => .ok none
  | .string text => (EventTypeEnum.ofValue text).map some
  | .number _ | .object _ => .error .valueError

def rowToEntityEvent (row : EntityEventRow) : Except DecodeError EntityEvent := do
  let output ← row.additionalOutcome.get "output"
  let sourceId ← orValueError (uuidOfText (← row.metadata.getText "cleaned_id"))
  let version ← row.additionalOutcome.getString "version"
  let eventTypePrimary ← EventTypeEnum.ofValue row.eventTypePrimary
  let eventTypeSecondary ← readEventType (← output.get "event_type_secondary")
  let sentimentLabel ← SentimentEnum.ofValue row.sentimentLabel
  let companyNameZh ← output.getText "company_name_zh"
  let companyNameEn ← output.getText "company_name_en"
  .ok {
    sourceId := sourceId
    sourceUrl := row.sourceUrl
    sourceName := row.sourceName
    publishedAt := row.publishedAt
    analysisOutcome := {
      version := version
      output := {
        stockCode := row.stockCode
        eventTypePrimary := eventTypePrimary
        eventTypeSecondary := eventTypeSecondary
        sentimentLabel := sentimentLabel
        sentimentScore := row.sentimentScore
        headline := row.headline
        entitySummary := row.entitySummary } }
    stock := {
      stockCode := row.stockCode
      exchange := row.exchange
      companyNameZh := companyNameZh
      companyNameEn := companyNameEn }
    entityEventId := some row.entityEventId
    createdAt := some row.createdAt }

def fetchEntityEvent (table : EntityEventTable) (entityEventId : Uuid) :
    Except DecodeError (Option EntityEvent) :=
  match table.rows.find? fun row => row.entityEventId = entityEventId with
  | none => .ok none
  | some row => (rowToEntityEvent row).map some

/-! ## Rows come back -/

def entityRow (entity : EntityEvent) (stamp : Stamp) : EntityEventRow where
  entityEventId := stamp.newId
  exchange := entity.stock.exchange
  sourceUrl := entity.sourceUrl
  sourceName := entity.sourceName
  publishedAt := entity.publishedAt
  stockCode := entity.stock.stockCode
  eventTypePrimary := entity.analysisOutcome.output.eventTypePrimary.value
  sentimentLabel := entity.analysisOutcome.output.sentimentLabel.value
  sentimentScore := entity.analysisOutcome.output.sentimentScore
  headline := entity.analysisOutcome.output.headline
  entitySummary := entity.analysisOutcome.output.entitySummary
  additionalOutcome := additionalOutcome entity
  metadata := .object [("cleaned_id", .string (uuidText entity.sourceId))]
  createdAt := stamp.now
  updatedAt := stamp.now

theorem rowOf_insertValues (entity : EntityEvent) (stamp : Stamp) :
    rowOf ((insertValues entity stamp).map Prod.snd) = some (entityRow entity stamp) := by
  simp only [insertValues, List.map_cons, List.map_nil, rowOf, SqlValue.toString_ofString,
    SqlValue.toNullableTimestamp_ofTimestamp, SqlValue.toUuid, SqlValue.toText, SqlValue.toFloat,
    SqlValue.toJsonb, SqlValue.toTimestamp, Option.bind_eq_bind, Option.bind_some]
  rfl

theorem readEventType_eventTypeJson (eventType : Option EventTypeEnum) :
    readEventType (eventTypeJson eventType) = .ok eventType := by
  cases eventType with
  | none => rfl
  | some eventType =>
      rw [eventTypeJson, readEventType, EventTypeEnum.ofValue_value]
      rfl

/-- The outcome with the stock's code. -/
def EntityEvent.underStockCode (entity : EntityEvent) : EntityEvent :=
  { entity with
    analysisOutcome := { entity.analysisOutcome with
      output := { entity.analysisOutcome.output with stockCode := entity.stock.stockCode } } }

theorem EntityEvent.underStockCode_eq {entity : EntityEvent}
    (same : entity.analysisOutcome.output.stockCode = entity.stock.stockCode) :
    entity.underStockCode = entity := by
  rw [underStockCode, ← same]

/-- The columns and the documents hold every field but the outcome's stock code, which is
the stock's afterwards. -/
theorem rowToEntityEvent_entityRow (entity : EntityEvent) (stamp : Stamp) :
    rowToEntityEvent (entityRow entity stamp) =
      .ok (entity.underStockCode.assigned stamp.newId stamp.now) := by
  have version : (additionalOutcome entity).getString "version" =
      .ok entity.analysisOutcome.version :=
    Json.getString_of_get (Json.get_cons_same _ _ _)
  have output : (additionalOutcome entity).get "output" = .ok (additionalOutput entity) := by
    rw [additionalOutcome, Json.get_cons_ne (by decide), Json.get_cons_same]
  have companyNameZh : (additionalOutput entity).getText "company_name_zh" =
      .ok entity.stock.companyNameZh :=
    Json.getText_of_get (Json.get_cons_same _ _ _)
  have companyNameEn : (additionalOutput entity).getText "company_name_en" =
      .ok entity.stock.companyNameEn := by
    refine Json.getText_of_get ?_
    rw [additionalOutput, Json.get_cons_ne (by decide), Json.get_cons_same]
  have secondary : (additionalOutput entity).get "event_type_secondary" =
      .ok (eventTypeJson entity.analysisOutcome.output.eventTypeSecondary) := by
    rw [additionalOutput, Json.get_cons_ne (by decide), Json.get_cons_ne (by decide),
      Json.get_cons_same]
  have cleanedId : (Json.object [("cleaned_id", .string (uuidText entity.sourceId))]).getText
      "cleaned_id" = .ok (uuidText entity.sourceId) :=
    Json.getText_of_get (Json.get_cons_same _ _ _)
  simp only [rowToEntityEvent, entityRow, version, output, companyNameZh, companyNameEn, secondary,
    cleanedId, uuidOfText_uuidText, orValueError, EventTypeEnum.ofValue_value,
    SentimentEnum.ofValue_value, readEventType_eventTypeJson, bind, Except.bind]
  rfl

end WealthFinder.Pipeline.Persistent
