import WorkQueue.Proofs.Json.Records
import WorkQueue.Proofs.Statements.Columns
import WorkQueue.Proofs.Time.ReadBack
import WorkQueue.Wire.Records
import WorkQueue.Wire.Request

/-!
# What is written on the wire is read back

Requests, rows, addresses, faults and reports are read back from the JSON texts that they are
written as, with every number that their fields can hold, with every text and all bytes, and with
every instant of the calendar: `wire_reads_back`. A text is read in two steps, as a JSON value and
as a record of that value, and so there are two lemmas for each kind of value: it is written as a
plain JSON value, and it is decoded from that value.
-/

namespace WorkQueue

open Json

/-! ## Numbers and texts -/

namespace Json

/-- The text of a plain value is decoded as the value is. -/
theorem decode?_compact {α : Type} (ofJson? : Json → Option α) {json : Json} (h : json.Plain) :
    decode? ofJson? json.compact = ofJson? json := by
  rw [decode?, parse?_compact h]
  rfl

/-- A count of 64 bits is read back. -/
theorem count?_nat {value : Nat} (h : value < UInt64.size) : (nat value).count? = some value :=
  natBelow?_nat h

/-- A count of 32 bits is read back. -/
theorem smallCount?_nat {value : Nat} (h : value < UInt32.size) :
    (nat value).smallCount? = some value :=
  natBelow?_nat h

/-- A number of 32 bits with a sign is read back. -/
theorem smallInt?_int {value : Int} (h : Fits32 value) : (int value).smallInt? = some value :=
  intIn?_int ⟨h.1, Int.le_sub_one_of_lt h.2⟩

/-- A number of 64 bits with a sign is read back. -/
theorem wideInt?_int {value : Int} (h : Fits64 value) : (int value).wideInt? = some value :=
  intIn?_int ⟨h.1, Int.le_sub_one_of_lt h.2⟩

/-- A text that may be missing is read back. -/
theorem nullable?_text (value : Option String) :
    nullable? string? (optional text value) = some value :=
  nullable?_optional fun _ _ => ⟨nofun, rfl⟩

end Json

/-! ## Numbers of rows, instants and words -/

/-- A queue's number is plain. -/
@[simp]
theorem QueueId.plain_toJson (id : QueueId) : id.toJson.Plain :=
  plain_nat id.value

/-- A queue's number is read back. -/
theorem QueueId.ofJson?_toJson {id : QueueId} (h : id.value < UInt64.size) :
    ofJson? id.toJson = some id := by
  rw [ofJson?, toJson, count?_nat h]
  rfl

/-- A message's number is plain. -/
@[simp]
theorem MessageId.plain_toJson (id : MessageId) : id.toJson.Plain :=
  plain_nat id.value

/-- A message's number is read back. -/
theorem MessageId.ofJson?_toJson {id : MessageId} (h : id.value < UInt64.size) :
    ofJson? id.toJson = some id := by
  rw [ofJson?, toJson, count?_nat h]
  rfl

/-- A transaction's number is plain. -/
@[simp]
theorem TransactionId.plain_toJson (id : TransactionId) : id.toJson.Plain :=
  plain_nat id.value

/-- A transaction's number is read back. -/
theorem TransactionId.ofJson?_toJson {id : TransactionId} (h : id.value < UInt64.size) :
    ofJson? id.toJson = some id := by
  rw [ofJson?, toJson, count?_nat h]
  rfl

/-- Is the instant one that the calendar has, with a leap second only at the end of a minute? -/
def Instant.OnWire (t : Instant) : Prop :=
  t.WellFormed ∧ t.InCalendar

/-- Whether an instant is one of the calendar is decided by comparing numbers. -/
instance (t : Instant) : Decidable t.OnWire :=
  inferInstanceAs (Decidable (_ ∧ _))

/-- The instants of the years from 0 to 9999 are among them. -/
theorem Instant.Storable.onWire {t : Instant} (h : t.Storable) : t.OnWire :=
  ⟨h.2.2, h.inCalendar⟩

/-- An instant is plain. -/
@[simp]
theorem Instant.plain_toJson (t : Instant) : t.toJson.Plain :=
  plain_text t.rfc3339

/-- An instant is read back. -/
theorem Instant.ofJson?_toJson {t : Instant} (h : t.OnWire) : ofJson? t.toJson = some t := by
  rw [ofJson?, toJson, string?_text, Option.bind_some, read?_rfc3339 h.1 h.2]

/-- An instant that may be missing is read back. -/
theorem Instant.nullable?_toJson {value : Option Instant} (h : ∀ t, value = some t → t.OnWire) :
    nullable? ofJson? (optional toJson value) = some value :=
  nullable?_optional fun t ht => ⟨nofun, ofJson?_toJson (h t ht)⟩

/-- A message's state is plain. -/
@[simp]
theorem MessageState.plain_toJson (state : MessageState) : state.toJson.Plain :=
  plain_text state.word

/-- A transaction's state is plain. -/
@[simp]
theorem TransactionState.plain_toJson (state : TransactionState) : state.toJson.Plain :=
  plain_text state.word

/-- An action is plain. -/
@[simp]
theorem TransactionAction.plain_toJson (action : TransactionAction) : action.toJson.Plain :=
  plain_text action.word

/-- A result code is plain. -/
@[simp]
theorem ResultCode.plain_toJson (code : ResultCode) : code.toJson.Plain :=
  plain_text code.word

/-! ## Messages -/

/-- Do the fields of the message hold numbers of their widths, and instants of the calendar? -/
structure Message.OnWire (m : Message) : Prop where
  id : m.id.value < UInt64.size
  queue : m.queue.value < UInt64.size
  owner : ∀ owner, m.owner = some owner → owner.value < UInt64.size
  addTime : m.addTime.OnWire
  closeTime : ∀ t, m.closeTime = some t → t.OnWire
  priority : Fits32 m.priority
  maxAttempts : m.maxAttempts < UInt32.size
  attempts : m.attempts < UInt32.size
  expiryTime : ∀ t, m.expiryTime = some t → t.OnWire
  correlation : Fits64 m.correlation

/-- A message is plain. -/
theorem Message.plain_toJson (m : Message) : m.toJson.Plain :=
  plain_record (by simp)

/-- A message is decoded from what it is written as. -/
theorem Message.ofJson?_toJson {m : Message} (h : m.OnWire) : ofJson? m.toJson = some m := by
  have howner : nullable? TransactionId.ofJson? (optional TransactionId.toJson m.owner) =
      some m.owner :=
    nullable?_optional fun owner howner =>
      ⟨nofun, TransactionId.ofJson?_toJson (h.owner owner howner)⟩
  have haction : nullable? TransactionAction.ofJson?
      (optional TransactionAction.toJson m.action) = some m.action :=
    nullable?_optional fun action _ => ⟨nofun, TransactionAction.ofWord_word action⟩
  obtain ⟨record, hrecord, hget⟩ := exists_record m.toJson fieldNames rfl rfl rfl
  rw [ofJson?, hrecord, record.bind_required (hget "id" _ rfl) (MessageId.ofJson?_toJson h.id),
    record.bind_required (hget "queue_id" _ rfl) (QueueId.ofJson?_toJson h.queue),
    record.bind_optional (hget "transaction_id" _ rfl) howner,
    record.bind_optional (hget "transaction_action" _ rfl) haction,
    record.bind_required (hget "state" _ rfl) (MessageState.ofWord_word m.state),
    record.bind_required (hget "add_time" _ rfl) (Instant.ofJson?_toJson h.addTime),
    record.bind_optional (hget "close_time" _ rfl) (Instant.nullable?_toJson h.closeTime),
    record.bind_required (hget "priority" _ rfl) (smallInt?_int h.priority),
    record.bind_required (hget "max_attempts" _ rfl) (smallCount?_nat h.maxAttempts),
    record.bind_required (hget "attempts" _ rfl) (smallCount?_nat h.attempts),
    record.bind_optional (hget "expiry_time" _ rfl) (Instant.nullable?_toJson h.expiryTime),
    record.bind_required (hget "correlation_id" _ rfl) (wideInt?_int h.correlation),
    record.bind_optional (hget "group_name" _ rfl) (nullable?_text m.group),
    record.bind_required (hget "metadata" _ rfl) (string?_text m.metadata),
    record.bind_required (hget "payload" _ rfl) (bytes?_bytes m.payload)]

/-! ## What clients are shown of messages -/

/-- Do the fields of what clients are shown hold numbers of their widths, and instants of the
calendar? -/
structure MessageView.OnWire (view : MessageView) : Prop where
  id : view.id.value < UInt64.size
  queue : view.queue.value < UInt64.size
  owner : ∀ owner, view.owner = some owner → owner.value < UInt64.size
  addTime : view.addTime.OnWire
  closeTime : ∀ t, view.closeTime = some t → t.OnWire
  priority : Fits32 view.priority
  maxAttempts : view.maxAttempts < UInt32.size
  attempts : view.attempts < UInt32.size
  expiryTime : ∀ t, view.expiryTime = some t → t.OnWire
  correlation : Fits64 view.correlation

/-- What clients are shown of a message holds the numbers and instants of the message. -/
theorem Message.onWire_view_iff {m : Message} : m.view.OnWire ↔ m.OnWire := by
  constructor
  all_goals
    intro h
    exact ⟨h.id, h.queue, h.owner, h.addTime, h.closeTime, h.priority, h.maxAttempts, h.attempts,
      h.expiryTime, h.correlation⟩

/-- What clients are shown of a message is written as the message is. -/
theorem Message.toJson_view (m : Message) : m.view.toJson = m.toJson := by
  rw [MessageView.toJson, toJson, view]

/-- Two decoders that begin with the same field decode values that belong together if they go on to
do so. -/
theorem bind_eq_map_bind {α β γ : Type} {field : Option α} {next : α → Option β}
    {other : α → Option γ} {shown : γ → β} (h : ∀ value, next value = (other value).map shown) :
    (field >>= next) = (field >>= other).map shown := by
  cases field with
  | none => rfl
  | some value => exact h value

/-- What is decoded as a message is decoded as what clients are shown of that message, and nothing
else is. -/
theorem MessageView.ofJson?_eq (json : Json) :
    ofJson? json = (Message.ofJson? json).map Message.view := by
  unfold ofJson? Message.ofJson?
  repeat refine bind_eq_map_bind fun _ => ?_
  rfl

/-- What clients are shown of a message is plain. -/
theorem MessageView.plain_toJson (view : MessageView) : view.toJson.Plain :=
  plain_record (by simp)

/-- What clients are shown of a message is decoded from what it is written as. -/
theorem MessageView.ofJson?_toJson {view : MessageView} (h : view.OnWire) :
    ofJson? view.toJson = some view := by
  obtain ⟨m, rfl⟩ := Message.exists_view_eq view
  rw [ofJson?_eq, m.toJson_view, Message.ofJson?_toJson (Message.onWire_view_iff.1 h),
    Option.map_some]

/-! ## Requests -/

/-- Do the fields of the request hold numbers of their widths? -/
structure MessageRequest.OnWire (request : MessageRequest) : Prop where
  transaction : request.transaction.value < UInt64.size
  queue : request.queue.value < UInt64.size
  priority : Fits32 request.priority
  maxAttempts : request.maxAttempts < UInt32.size
  expiryMinutes : ∀ minutes, request.expiryMinutes = some minutes → Fits64 minutes
  correlation : Fits64 request.correlation

/-- A request is plain. -/
theorem MessageRequest.plain_toJson (request : MessageRequest) : request.toJson.Plain :=
  plain_record (by simp)

/-- A request is decoded from what it is written as. -/
theorem MessageRequest.ofJson?_toJson {request : MessageRequest} (h : request.OnWire) :
    ofJson? request.toJson = some request := by
  have hexpiry : nullable? wideInt? (optional Json.int request.expiryMinutes) =
      some request.expiryMinutes :=
    nullable?_optional fun minutes hminutes =>
      ⟨nofun, wideInt?_int (h.expiryMinutes minutes hminutes)⟩
  obtain ⟨record, hrecord, hget⟩ := exists_record request.toJson fieldNames rfl rfl rfl
  rw [ofJson?, hrecord,
    record.bind_required (hget "transaction_id" _ rfl)
      (TransactionId.ofJson?_toJson h.transaction),
    record.bind_required (hget "queue_id" _ rfl) (QueueId.ofJson?_toJson h.queue),
    record.bind_required (hget "payload" _ rfl) (bytes?_bytes request.payload),
    record.bind_defaulted (hget "metadata" _ rfl) (string?_text request.metadata),
    record.bind_defaulted (hget "priority" _ rfl) (smallInt?_int h.priority),
    record.bind_defaulted (hget "max_attempts" _ rfl) (smallCount?_nat h.maxAttempts),
    record.bind_defaulted (hget "expiry_minutes" _ rfl) hexpiry,
    record.bind_defaulted (hget "correlation_id" _ rfl) (wideInt?_int h.correlation),
    record.bind_defaulted (hget "group_name" _ rfl) (nullable?_text request.group)]

/-! ## Transactions, queues and faults -/

/-- Do the fields of the transaction hold a number of 64 bits, and instants of the calendar? -/
structure Transaction.OnWire (t : Transaction) : Prop where
  id : t.id.value < UInt64.size
  startTime : t.startTime.OnWire
  expiryTime : t.expiryTime.OnWire
  endTime : ∀ ended, t.endTime = some ended → ended.OnWire

/-- A transaction is plain. -/
theorem Transaction.plain_toJson (t : Transaction) : t.toJson.Plain :=
  plain_record (by simp)

/-- A transaction is decoded from what it is written as. -/
theorem Transaction.ofJson?_toJson {t : Transaction} (h : t.OnWire) :
    ofJson? t.toJson = some t := by
  obtain ⟨record, hrecord, hget⟩ := exists_record t.toJson
    ["id", "state", "start_time", "expiry_time", "end_time", "end_reason"] rfl rfl rfl
  rw [ofJson?, hrecord, record.bind_required (hget "id" _ rfl) (TransactionId.ofJson?_toJson h.id),
    record.bind_required (hget "state" _ rfl) (TransactionState.ofWord_word t.state),
    record.bind_required (hget "start_time" _ rfl) (Instant.ofJson?_toJson h.startTime),
    record.bind_required (hget "expiry_time" _ rfl) (Instant.ofJson?_toJson h.expiryTime),
    record.bind_optional (hget "end_time" _ rfl) (Instant.nullable?_toJson h.endTime),
    record.bind_optional (hget "end_reason" _ rfl) (nullable?_text t.endReason)]

/-- A queue is plain. -/
theorem Queue.plain_toJson (queue : Queue) : queue.toJson.Plain :=
  plain_record (by simp)

/-- A queue is decoded from what it is written as. -/
theorem Queue.ofJson?_toJson {queue : Queue} (h : queue.id.value < UInt64.size) :
    ofJson? queue.toJson = some queue := by
  obtain ⟨record, hrecord, hget⟩ := exists_record queue.toJson ["id", "name"] rfl rfl rfl
  rw [ofJson?, hrecord, record.bind_required (hget "id" _ rfl) (QueueId.ofJson?_toJson h),
    record.bind_required (hget "name" _ rfl) (string?_text queue.name)]

/-- What clients are told about a queue is plain. -/
theorem QueueInfo.plain_toJson (info : QueueInfo) : info.toJson.Plain :=
  plain_record (by simp)

/-- What clients are told about a queue is decoded from what it is written as. -/
theorem QueueInfo.ofJson?_toJson {info : QueueInfo} (h : info.id.value < UInt64.size) :
    ofJson? info.toJson = some info := by
  obtain ⟨record, hrecord, hget⟩ := exists_record info.toJson ["id", "name"] rfl rfl rfl
  rw [ofJson?, hrecord, record.bind_required (hget "id" _ rfl) (QueueId.ofJson?_toJson h),
    record.bind_required (hget "name" _ rfl) (string?_text info.name)]

/-- An address is plain. -/
theorem QueueRef.plain_toJson (ref : QueueRef) : ref.toJson.Plain := by
  cases ref <;> exact plain_record (by simp)

/-- An address is decoded from what it is written as. -/
theorem QueueRef.ofJson?_toJson {ref : QueueRef}
    (h : ∀ id, ref = .byId id → id.value < UInt64.size) : ofJson? ref.toJson = some ref := by
  cases ref with
  | byId id =>
      have hid := QueueId.ofJson?_toJson (h id rfl)
      exact (congrArg (Option.map QueueRef.byId) hid).trans rfl
  | byName text => rfl

/-- A fault is plain. -/
theorem Fault.plain_toJson (fault : Fault) : fault.toJson.Plain :=
  plain_record (by simp)

/-- A fault is decoded from what it is written as. -/
theorem Fault.ofJson?_toJson (fault : Fault) : ofJson? fault.toJson = some fault := by
  obtain ⟨record, hrecord, hget⟩ := exists_record fault.toJson ["code", "message"] rfl rfl rfl
  rw [ofJson?, hrecord,
    record.bind_required (hget "code" _ rfl) (ResultCode.ofWord_word fault.code),
    record.bind_required (hget "message" _ rfl) (string?_text fault.message)]

/-! ## Summaries and reports -/

/-- Do the counts have 64 bits? -/
structure CommitSummary.OnWire (summary : CommitSummary) : Prop where
  added : summary.added < UInt64.size
  pulled : summary.pulled < UInt64.size

/-- What a commit made final is plain. -/
theorem CommitSummary.plain_toJson (summary : CommitSummary) : summary.toJson.Plain :=
  plain_record (by simp)

/-- What a commit made final is decoded from what it is written as. -/
theorem CommitSummary.ofJson?_toJson {summary : CommitSummary} (h : summary.OnWire) :
    ofJson? summary.toJson = some summary := by
  obtain ⟨record, hrecord, hget⟩ := exists_record summary.toJson ["added", "pulled"] rfl rfl rfl
  rw [ofJson?, hrecord, record.bind_required (hget "added" _ rfl) (count?_nat h.added),
    record.bind_required (hget "pulled" _ rfl) (count?_nat h.pulled)]

/-- Do the counts have 64 bits? -/
structure RollbackSummary.OnWire (summary : RollbackSummary) : Prop where
  discarded : summary.discarded < UInt64.size
  requeued : summary.requeued < UInt64.size
  exhausted : summary.exhausted < UInt64.size

/-- What a rollback undid is plain. -/
theorem RollbackSummary.plain_toJson (summary : RollbackSummary) : summary.toJson.Plain :=
  plain_record (by simp)

/-- What a rollback undid is decoded from what it is written as. -/
theorem RollbackSummary.ofJson?_toJson {summary : RollbackSummary} (h : summary.OnWire) :
    ofJson? summary.toJson = some summary := by
  obtain ⟨record, hrecord, hget⟩ := exists_record summary.toJson
    ["discarded", "requeued", "exhausted"] rfl rfl rfl
  rw [ofJson?, hrecord, record.bind_required (hget "discarded" _ rfl) (count?_nat h.discarded),
    record.bind_required (hget "requeued" _ rfl) (count?_nat h.requeued),
    record.bind_required (hget "exhausted" _ rfl) (count?_nat h.exhausted)]

/-- Do the counts have 64 bits? -/
def QueueStats.OnWire (stats : QueueStats) : Prop :=
  ∀ state, stats.get state < UInt64.size

/-- The messages of a queue by state are plain. -/
theorem QueueStats.plain_toJson (stats : QueueStats) : stats.toJson.Plain :=
  plain_record (by simp)

/-- The messages of a queue by state are decoded from what they are written as. -/
theorem QueueStats.ofJson?_toJson {stats : QueueStats} (h : stats.OnWire) :
    ofJson? stats.toJson = some stats := by
  obtain ⟨record, hrecord, hget⟩ := exists_record stats.toJson
    ["active", "in_transaction", "processed", "expired", "attempts_exceeded"] rfl rfl rfl
  rw [ofJson?, hrecord, record.bind_required (hget "active" _ rfl) (count?_nat (h .active)),
    record.bind_required (hget "in_transaction" _ rfl) (count?_nat (h .inTransaction)),
    record.bind_required (hget "processed" _ rfl) (count?_nat (h .processed)),
    record.bind_required (hget "expired" _ rfl) (count?_nat (h .expired)),
    record.bind_required (hget "attempts_exceeded" _ rfl) (count?_nat (h .attemptsExceeded))]

/-- Do the counts have 64 bits? -/
def SweepReport.OnWire (report : SweepReport) : Prop :=
  ∀ step, report.get step < UInt64.size

/-- A sweep's report is plain. -/
theorem SweepReport.plain_toJson (report : SweepReport) : report.toJson.Plain :=
  plain_record (by simp)

/-- A sweep's report is decoded from what it is written as. -/
theorem SweepReport.ofJson?_toJson {report : SweepReport} (h : report.OnWire) :
    ofJson? report.toJson = some report := by
  obtain ⟨record, hrecord, hget⟩ := exists_record report.toJson ["transactions_expired",
    "adds_discarded", "pulls_requeued", "pulls_exhausted", "messages_expired",
    "messages_exhausted"] rfl rfl rfl
  rw [ofJson?, hrecord,
    record.bind_required (hget "transactions_expired" _ rfl) (count?_nat (h .expireTransactions)),
    record.bind_required (hget "adds_discarded" _ rfl) (count?_nat (h .discardOrphanedAdds)),
    record.bind_required (hget "pulls_requeued" _ rfl) (count?_nat (h .requeueOrphanedPulls)),
    record.bind_required (hget "pulls_exhausted" _ rfl) (count?_nat (h .exhaustOrphanedPulls)),
    record.bind_required (hget "messages_expired" _ rfl) (count?_nat (h .expireMessages)),
    record.bind_required (hget "messages_exhausted" _ rfl)
      (count?_nat (h .closeExhaustedMessages))]

/-! ## All of them -/

/-- Everything that is written on the wire is read back from its text, and a message is shown to
clients in the text of the message itself. -/
theorem wire_reads_back :
    (∀ request : MessageRequest, request.OnWire →
        decode? MessageRequest.ofJson? request.toJson.compact = some request) ∧
      (∀ m : Message, m.OnWire → decode? Message.ofJson? m.toJson.compact = some m) ∧
      (∀ view : MessageView, view.OnWire →
        decode? MessageView.ofJson? view.toJson.compact = some view) ∧
      (∀ t : Transaction, t.OnWire → decode? Transaction.ofJson? t.toJson.compact = some t) ∧
      (∀ queue : Queue, queue.id.value < UInt64.size →
        decode? Queue.ofJson? queue.toJson.compact = some queue) ∧
      (∀ info : QueueInfo, info.id.value < UInt64.size →
        decode? QueueInfo.ofJson? info.toJson.compact = some info) ∧
      (∀ ref : QueueRef, (∀ id, ref = .byId id → id.value < UInt64.size) →
        decode? QueueRef.ofJson? ref.toJson.compact = some ref) ∧
      (∀ fault : Fault, decode? Fault.ofJson? fault.toJson.compact = some fault) ∧
      (∀ summary : CommitSummary, summary.OnWire →
        decode? CommitSummary.ofJson? summary.toJson.compact = some summary) ∧
      (∀ summary : RollbackSummary, summary.OnWire →
        decode? RollbackSummary.ofJson? summary.toJson.compact = some summary) ∧
      (∀ stats : QueueStats, stats.OnWire →
        decode? QueueStats.ofJson? stats.toJson.compact = some stats) ∧
      (∀ report : SweepReport, report.OnWire →
        decode? SweepReport.ofJson? report.toJson.compact = some report) ∧
      ∀ m : Message, m.view.toJson.compact = m.toJson.compact := by
  refine ⟨fun request h => ?_, fun m h => ?_, fun view h => ?_, fun t h => ?_, fun queue h => ?_,
    fun info h => ?_, fun ref h => ?_, fun fault => ?_, fun summary h => ?_, fun summary h => ?_,
    fun stats h => ?_, fun report h => ?_, fun m => congrArg compact m.toJson_view⟩
  · rw [decode?_compact _ request.plain_toJson, MessageRequest.ofJson?_toJson h]
  · rw [decode?_compact _ m.plain_toJson, Message.ofJson?_toJson h]
  · rw [decode?_compact _ view.plain_toJson, MessageView.ofJson?_toJson h]
  · rw [decode?_compact _ t.plain_toJson, Transaction.ofJson?_toJson h]
  · rw [decode?_compact _ queue.plain_toJson, Queue.ofJson?_toJson h]
  · rw [decode?_compact _ info.plain_toJson, QueueInfo.ofJson?_toJson h]
  · rw [decode?_compact _ ref.plain_toJson, QueueRef.ofJson?_toJson h]
  · rw [decode?_compact _ fault.plain_toJson, Fault.ofJson?_toJson fault]
  · rw [decode?_compact _ summary.plain_toJson, CommitSummary.ofJson?_toJson h]
  · rw [decode?_compact _ summary.plain_toJson, RollbackSummary.ofJson?_toJson h]
  · rw [decode?_compact _ stats.plain_toJson, QueueStats.ofJson?_toJson h]
  · rw [decode?_compact _ report.plain_toJson, SweepReport.ofJson?_toJson h]

/-- A message whose fields are at the ends of their ranges, with the last nanosecond of the year
9999 and the first of the year 0, and with texts that need every kind of escape. -/
def farthestMessage : Message where
  id := ⟨UInt64.size - 1⟩
  queue := ⟨0⟩
  owner := some ⟨UInt64.size - 1⟩
  action := some .pull
  state := .inTransaction
  addTime := ⟨-62167219200, 1⟩
  closeTime := some ⟨253402300799, 999_999_999⟩
  priority := -half32
  maxAttempts := UInt32.size - 1
  attempts := 0
  expiryTime := some ⟨1740830400, 120_000_000⟩
  correlation := half64 - 1
  group := some "\"\\/\x08\x00"
  metadata := "é漢😀"
  payload := [0, 255]

/-- The ends of the ranges are in the ranges. -/
theorem onWire_farthestMessage : farthestMessage.OnWire where
  id := by decide
  queue := by decide
  owner := by rintro _ ⟨⟩; decide
  addTime := Instant.Storable.onWire (by decide +kernel)
  closeTime := by rintro _ ⟨⟩; decide +kernel
  priority := ⟨by decide, by decide⟩
  maxAttempts := by decide
  attempts := by decide
  expiryTime := by rintro _ ⟨⟩; decide +kernel
  correlation := ⟨by decide, by decide⟩

/-- The message at the ends of its ranges is read back, and so are values of the other kinds at the
ends of theirs. -/
theorem wire_reads_back_farthest :
    let request : MessageRequest :=
      { transaction := ⟨UInt64.size - 1⟩, queue := ⟨1⟩, payload := [255],
        priority := half32 - 1, maxAttempts := UInt32.size - 1, expiryMinutes := some (-half64),
        correlation := -half64 }
    let ended : Transaction :=
      ⟨⟨1⟩, .rolledBack, ⟨-62167219200, 0⟩, ⟨60, 123_456_000⟩, some ⟨59, 5⟩, some "\n"⟩
    let queue : Queue := ⟨⟨UInt64.size - 1⟩, "q"⟩
    let most := UInt64.size - 1
    decode? MessageRequest.ofJson? request.toJson.compact = some request ∧
      decode? Message.ofJson? farthestMessage.toJson.compact = some farthestMessage ∧
      decode? MessageView.ofJson? farthestMessage.view.toJson.compact =
        some farthestMessage.view ∧
      decode? Transaction.ofJson? ended.toJson.compact = some ended ∧
      decode? Queue.ofJson? queue.toJson.compact = some queue ∧
      decode? QueueInfo.ofJson? queue.info.toJson.compact = some queue.info ∧
      decode? QueueRef.ofJson? (QueueRef.byId ⟨most⟩).toJson.compact = some (.byId ⟨most⟩) ∧
      decode? CommitSummary.ofJson? (CommitSummary.mk most 0).toJson.compact = some ⟨most, 0⟩ ∧
      decode? RollbackSummary.ofJson? (RollbackSummary.mk 0 most 0).toJson.compact =
        some ⟨0, most, 0⟩ ∧
      decode? QueueStats.ofJson? (QueueStats.mk 0 1 2 3 most).toJson.compact =
        some ⟨0, 1, 2, 3, most⟩ ∧
      decode? SweepReport.ofJson? (SweepReport.mk 0 1 2 3 4 most).toJson.compact =
        some ⟨0, 1, 2, 3, 4, most⟩ := by
  obtain ⟨hrequest, hmessage, hview, htransaction, hqueue, hinfo, href, _, hcommit, hrollback,
    hstats, hreport, _⟩ := wire_reads_back
  refine ⟨hrequest _ ⟨by decide, by decide, ⟨by decide, by decide⟩, by decide, ?_,
      ⟨by decide, by decide⟩⟩,
    hmessage _ onWire_farthestMessage, hview _ (Message.onWire_view_iff.2 onWire_farthestMessage),
    htransaction _ ⟨by decide, by decide +kernel, by decide +kernel, ?_⟩,
    hqueue _ (by decide), hinfo _ (by decide), href _ ?_,
    hcommit _ ⟨by decide, by decide⟩, hrollback _ ⟨by decide, by decide, by decide⟩,
    hstats _ fun state => by cases state <;> decide, hreport _ fun step => by cases step <;> decide⟩
  · rintro _ ⟨⟩
    exact ⟨by decide, by decide⟩
  · rintro _ ⟨⟩
    decide +kernel
  · rintro _ ⟨⟩
    decide

end WorkQueue
