import SessionGateway.Proofs.CallHeaders
import SessionGateway.Proofs.Conduct

/-! What options make of the headers of a call. Every header has its place, and an option decides
for its own headers alone whether they stand there. -/

namespace SessionGateway

open HeaderList (Table rowEntry)

namespace HeaderList

/-- A row without a value might as well not be there. -/
theorem flatMap_rowEntry_masked (p : String → Bool) (table : Table) :
    (table.map fun row => (row.1, if p row.1 then row.2 else none)).flatMap rowEntry =
      (table.filter fun row => p row.1).flatMap rowEntry := by
  induction table with
  | nil => rfl
  | cons row rest ih =>
    rw [List.map_cons, List.flatMap_cons, ih, List.filter_cons]
    cases p row.1 <;> simp [rowEntry]

end HeaderList

namespace HeaderOptions

/-- The names that options can give, in their order. -/
def names : List String :=
  [HeaderName.contentType, HeaderName.correlationId, HeaderName.apiKey, HeaderName.projectId,
    HeaderName.idempotencyKey, HeaderName.timestamp, HeaderName.nonce]

def all : HeaderOptions := ⟨true, true, true⟩

/-- Each option decides for headers of its own. -/
def keeps (options : HeaderOptions) (name : String) : Bool :=
  if name = HeaderName.apiKey then options.apiKey
  else if name = HeaderName.projectId then options.projectId
  else if name ∈ [HeaderName.idempotencyKey, HeaderName.timestamp, HeaderName.nonce] then
    options.idempotency
  else true

variable (options : HeaderOptions) (config : ClientConfig) (project : Option String) (now : Millis)
  (suffix : String)

theorem map_fst_table :
    (options.table config project now suffix).map Prod.fst = names := rfl

/-- The tables of two options differ in which of their rows have a value. -/
theorem table_eq_map : options.table config project now suffix =
    (all.table config project now suffix).map fun row =>
      (row.1, if options.keeps row.1 then row.2 else none) := by
  obtain ⟨apiKey, projectId, idempotency⟩ := options
  cases apiKey <;> cases projectId <;> cases idempotency <;> rfl

theorem entries_buildHeaders : (buildHeaders config options project now suffix).entries =
    (options.table config project now suffix).flatMap rowEntry := by
  rw [buildHeaders_eq_setAll]
  apply HeaderList.entries_setAll_empty
  rw [map_fst_table]
  decide

theorem entries_buildHeaders_eq_filter :
    (buildHeaders config options project now suffix).entries =
      (buildHeaders config all project now suffix).entries.filter fun e =>
        options.keeps e.1 := by
  rw [entries_buildHeaders, entries_buildHeaders, table_eq_map,
    HeaderList.filter_flatMap_rowEntry options.keeps]
  exact HeaderList.flatMap_rowEntry_masked _ _

theorem names_buildHeaders_sublist :
    (buildHeaders config options project now suffix).names.Sublist names := by
  rw [HeaderList.names, entries_buildHeaders, ← map_fst_table options config project now suffix]
  exact HeaderList.names_flatMap_rowEntry _

/-- Options make no two names that are the same up to case. -/
theorem pairwise_names_buildHeaders :
    (buildHeaders config options project now suffix).names.Pairwise
      fun a b => Text.sameName a b = false := by
  have hnames : names.Pairwise fun a b => Text.sameName a b = false := by decide
  exact hnames.sublist (names_buildHeaders_sublist options config project now suffix)

theorem mem_names_buildHeaders {name value : String}
    (h : (name, some value) ∈ options.table config project now suffix) :
    name ∈ (buildHeaders config options project now suffix).names := by
  have hentry : (name, value) ∈ (buildHeaders config options project now suffix).entries := by
    rw [entries_buildHeaders]
    exact List.mem_flatMap.mpr ⟨_, h, List.mem_singleton_self _⟩
  exact List.mem_map_of_mem hentry

end HeaderOptions

/-- The credential of a logout stands last. -/
theorem Call.entries_headers_logout (config : ClientConfig) (token : String) (now : Millis)
    (suffix : String) : ((Call.logout token).headers config now suffix).entries =
      (buildHeaders config .tokenOnly none now suffix).entries ++
        [(HeaderName.authorization, "Bearer " ++ token)] := by
  have hfresh : HeaderName.authorization ∉ (buildHeaders config .tokenOnly none now suffix).names :=
    fun h => absurd ((HeaderOptions.names_buildHeaders_sublist _ _ _ _ _).subset h) (by decide)
  exact HeaderList.entries_set?_of_notMem hfresh

open HeaderOptions in
/-- With the same reading of the clock and the same suffix, options make what all options make, less
the headers of those that are off, and a suffix is asked for just if there is a nonce. A logout has
what the options without any make, and its token behind that. -/
theorem headers_by_option (options : HeaderOptions) (config : ClientConfig)
    (project : Option String) (answers : Answers) (asked : Asked) (token : String) :
    let built := (config.headers options project).perform answers asked
    let full := (config.headers all project).perform answers asked
    let plain := (config.headers tokenOnly none).perform answers asked
    built.result.entries = full.result.entries.filter (fun e => options.keeps e.1) ∧
    built.result.names.Pairwise (fun a b => Text.sameName a b = false) ∧
    built.result.names.Sublist names ∧
    HeaderName.contentType ∈ built.result.names ∧
    HeaderName.correlationId ∈ built.result.names ∧
    built.asked = ⟨asked.clock + 1, asked.suffix + (if options.idempotency then 1 else 0),
      asked.reply⟩ ∧
    (Client.step answers ⟨config, asked⟩ (.logout token)).sent.map (·.headers.entries) =
      [plain.result.entries ++ [(HeaderName.authorization, "Bearer " ++ token)]] := by
  intro built full plain
  have hresult (options : HeaderOptions) (project : Option String) :
      ((config.headers options project).perform answers asked).result =
        buildHeaders config options project (answers.clock asked.clock)
          (answers.suffix asked.suffix) := by
    rw [ClientConfig.perform_headers]
  rw [hresult, hresult, hresult]
  refine ⟨entries_buildHeaders_eq_filter .., pairwise_names_buildHeaders ..,
    names_buildHeaders_sublist .., mem_names_buildHeaders _ _ _ _ _ List.mem_cons_self,
    mem_names_buildHeaders _ _ _ _ _ (List.mem_cons_of_mem _ List.mem_cons_self), ?_, ?_⟩
  · simp only [built, ClientConfig.perform_headers]
    cases options.idempotency <;> rfl
  · rw [Client.step_eq, List.map_singleton]
    exact congrArg (fun e => [e]) (Call.entries_headers_logout ..)

end SessionGateway
