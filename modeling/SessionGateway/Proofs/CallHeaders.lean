import SessionGateway.Client.Call
import SessionGateway.Proofs.HeaderList

/-! The headers of a call as a table of all the names there are. Its options and arguments decide
which rows have a value. -/

namespace SessionGateway

open HeaderList (Table rowEntry)

/-- What options make of the names but the authorization. -/
def HeaderOptions.table (options : HeaderOptions) (config : ClientConfig)
    (project : Option String) (now : Millis) (suffix : String) : Table :=
  [(HeaderName.contentType, jsonMediaType), (HeaderName.correlationId, correlationId now),
    (HeaderName.apiKey, if options.apiKey then some config.apiKey else none),
    (HeaderName.projectId,
      if options.projectId then resolveProject project config.projectId else none),
    (HeaderName.idempotencyKey, if options.idempotency then some (idempotencyKey now) else none),
    (HeaderName.timestamp,
      if options.idempotency then some (toString (Millis.seconds now)) else none),
    (HeaderName.nonce, if options.idempotency then some (nonceText now suffix) else none)]

theorem buildHeaders_eq_setAll (config : ClientConfig) (options : HeaderOptions)
    (project : Option String) (now : Millis) (suffix : String) :
    buildHeaders config options project now suffix =
      HeaderList.empty.setAll (options.table config project now suffix) := rfl

namespace Call

/-- What a call makes of every name. -/
def table (config : ClientConfig) (call : Call) (now : Millis) (suffix : String) : Table :=
  call.options.table config (call.project config) now suffix ++
    [(HeaderName.authorization, call.authorization)]

variable {config : ClientConfig} {call : Call} {now : Millis} {suffix : String}

theorem names_table : (call.table config now suffix).map Prod.fst = HeaderName.all := rfl

theorem headers_eq_setAll :
    call.headers config now suffix = HeaderList.empty.setAll (call.table config now suffix) := by
  rw [headers, buildHeaders_eq_setAll, HeaderList.setAll, HeaderList.setAll, table,
    List.foldl_append]
  rfl

theorem entries_headers :
    (call.headers config now suffix).entries = (call.table config now suffix).flatMap rowEntry := by
  rw [headers_eq_setAll]
  apply HeaderList.entries_setAll_empty
  rw [names_table]
  decide

/-- Under each name stands what its row says, once. -/
theorem under_headers {name : String} {value : Option String}
    (hrow : (name, value) ∈ call.table config now suffix) :
    (call.headers config now suffix).under name = rowEntry (name, value) := by
  have distinct : ((call.table config now suffix).map Prod.fst).Pairwise
      fun a b => Text.sameName a b = false := by
    rw [names_table]
    decide
  rw [HeaderList.under, entries_headers,
    HeaderList.filter_flatMap_rowEntry fun n => Text.sameName n name,
    HeaderList.filter_sameName_of_mem distinct hrow, List.flatMap_singleton]

theorem without_headers (name : String) :
    (call.headers config now suffix).without name =
      ⟨((call.table config now suffix).filter fun row => !Text.sameName row.1 name).flatMap
        rowEntry⟩ := by
  rw [HeaderList.without, entries_headers,
    HeaderList.filter_flatMap_rowEntry fun n => !Text.sameName n name]

end Call

end SessionGateway
