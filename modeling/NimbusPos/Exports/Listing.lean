import NimbusPos.Exports.Service

/-!
# Walking the download centre

The pages of one filter are those of one merged list. It has the newest reports whose entry
satisfies the filter, and the newest documents of the requester, up to a cap for either; of the
filter, the documents know the requester and the domain only.
-/

namespace NimbusPos.ExportsFacadeService

open Lib
open PaymentsService (truthy)

variable {toUpperCase : String → String} {t : ExportTables} {orgId : String}
  {branchId : Option String} {query : ListExportsDto} {entry other : ExportEnvelope}

-- ---
-- Entries
-- ---

def ExportEnvelope.satisfies (query : ListExportsDto) (entry : ExportEnvelope) : Bool :=
  query.sourceDomain.all (fun _ => entry.sourceDomain == .reports) &&
    query.status.all (entry.status == ·) &&
    query.format.all (fun format => entry.format == format.toString) &&
    (truthy query.sourceType).all (fun name => entry.sourceType == some name) &&
    (truthy query.requestedBy).all (entry.requestedBy == ·)

/-- What of the filter the documents know. -/
def ExportEnvelope.asked (query : ListExportsDto) (entry : ExportEnvelope) : Bool :=
  query.sourceDomain.isNone && (truthy query.requestedBy).all (entry.requestedBy == ·)

def reportInScope (orgId : String) (branchId : Option String) (a : ExportArtifact) : Bool :=
  a.orgId == orgId && (truthy branchId).all (a.branchId == some ·)

def documentInScope (orgId : String) (branchId : Option String) (d : Document) : Bool :=
  d.orgId == orgId && (truthy branchId).all (d.branchId == some ·) && d.status == .active

def reportEntries (t : ExportTables) (orgId : String) (branchId : Option String) :
    List ExportEnvelope :=
  (t.artifacts.filter (reportInScope orgId branchId)).map envelopeForReportArtifact

def documentEntries (toUpperCase : String → String) (t : ExportTables) (orgId : String)
    (branchId : Option String) : List ExportEnvelope :=
  (t.documents.filter (documentInScope orgId branchId)).map (envelopeForDocument toUpperCase)

/-- The reports whose entry satisfies the filter. -/
def reportsAsked (t : ExportTables) (orgId : String) (branchId : Option String)
    (query : ListExportsDto) : List ExportEnvelope :=
  (reportEntries t orgId branchId).filter (·.satisfies query)

/-- The documents of the requester. -/
def documentsAsked (toUpperCase : String → String) (t : ExportTables) (orgId : String)
    (branchId : Option String) (query : ListExportsDto) : List ExportEnvelope :=
  (documentEntries toUpperCase t orgId branchId).filter (·.asked query)

/-- "orderBy: { requestedAt: 'desc' }" of the merged list. -/
abbrev requestedAfter : ExportEnvelope → ExportEnvelope → Prop := newer (·.requestedAt)

/-- What the walk over the pages of a filter is to find. -/
structure Listed (toUpperCase : String → String) (t : ExportTables) (orgId : String)
    (branchId : Option String) (query : ListExportsDto) (entries : List ExportEnvelope) : Prop where
  sorted : entries.Pairwise requestedAfter
  once : (entries.map (·.exportId)).Nodup
  reports : AreFirsts requestedAfter 200 (reportsAsked t orgId branchId query)
    (entries.filter (·.sourceDomain == .reports))
  documents : AreFirsts requestedAfter 200 (documentsAsked toUpperCase t orgId branchId query)
    (entries.filter (·.sourceDomain == .documents))
  everyReport : (reportsAsked t orgId branchId query).length ≤ 200 →
    reportsAsked t orgId branchId query ⊆ entries
  everyDocument : (documentsAsked toUpperCase t orgId branchId query).length ≤ 200 →
    documentsAsked toUpperCase t orgId branchId query ⊆ entries

/-- All entries that satisfy the filter, and no others. -/
structure Everything (toUpperCase : String → String) (t : ExportTables) (orgId : String)
    (branchId : Option String) (query : ListExportsDto) (entries : List ExportEnvelope) : Prop where
  sorted : entries.Pairwise requestedAfter
  once : (entries.map (·.exportId)).Nodup
  exact : ∀ entry, entry ∈ entries ↔
    entry ∈ reportEntries t orgId branchId ++ documentEntries toUpperCase t orgId branchId ∧
      entry.satisfies query

/-- The filter, at another page. -/
def atPage (query : ListExportsDto) (page : Nat) :
    ListExportsDto := { query with page := some page }

/-- What a page shows. -/
def shown : Except HttpError ExportPage → List ExportEnvelope
  | .ok page => page.data
  | .error _ => []

/-- The pages, walked until one is empty, show the entries, and the total is their number. -/
def Walks (toUpperCase : String → String) (t : ExportTables) (orgId : String)
    (branchId : Option String) (query : ListExportsDto) (entries : List ExportEnvelope) : Prop :=
  (∀ fuel, entries.length < fuel →
    walk (fun page => shown (listExports toUpperCase t orgId branchId (atPage query page))) fuel 1 =
      entries) ∧
  ∀ page, ∃ result, listExports toUpperCase t orgId branchId (atPage query page) = .ok result ∧
    result.total = entries.length

-- ---
-- What is read of a source
-- ---

instance (createdAt : α → Time) : Std.Total (newer createdAt) :=
  ⟨fun row other => Nat.le_total (createdAt other) (createdAt row)⟩

instance (createdAt : α → Time) : IsTrans α (newer createdAt) :=
  ⟨fun _ _ _ h h' => Nat.le_trans h' h⟩

theorem ExportFormat.toString_beq (format other : ExportFormat) :
    (format.toString == other.toString) = (format == other) := by
  cases format <;> cases other <;> rfl

theorem mapReportStatus_beq (status : ExportArtifactStatus) (asked : ExportFacadeStatus)
    (hasked : (statusFilter asked).isSome) :
    (mapReportStatus status == asked) = (statusFilter asked).all (status == ·) := by
  cases status <;> cases asked <;> first | rfl | cases hasked

/-- A row is asked for as its entry satisfies the filter. -/
theorem artifactMatches_eq (hstatus : ∀ status ∈ query.status, (statusFilter status).isSome)
    (a : ExportArtifact) :
    artifactMatches orgId branchId query a =
      ((envelopeForReportArtifact a).satisfies query && reportInScope orgId branchId a) := by
  have hformat : query.format.all (fun format => a.format.toString == format.toString) =
      query.format.all (a.format == ·) := by
    simp only [ExportFormat.toString_beq]
  have hstate : query.status.all (mapReportStatus a.status == ·) =
      (query.status.bind statusFilter).all (a.status == ·) := by
    cases hasked : query.status with
    | none => rfl
    | some asked => exact mapReportStatus_beq a.status asked (hstatus asked hasked)
  have hdomain : query.sourceDomain.all (fun _ => EntryDomain.reports == EntryDomain.reports) := by
    cases query.sourceDomain <;> rfl
  simp only [artifactMatches, ExportEnvelope.satisfies, envelopeForReportArtifact, reportInScope,
    hformat, hstate, hdomain, Bool.true_and, Option.some_beq_some, Bool.and_assoc,
    Bool.and_comm, Bool.and_left_comm]

theorem reportsAsked_eq (hstatus : ∀ status ∈ query.status, (statusFilter status).isSome) :
    reportsAsked t orgId branchId query =
      (t.artifacts.filter (artifactMatches orgId branchId query)).map
        envelopeForReportArtifact := by
  rw [reportsAsked, reportEntries, List.filter_map, List.filter_filter]
  congr 2
  funext a
  exact (artifactMatches_eq hstatus a).symm

theorem documentsAsked_eq :
    documentsAsked toUpperCase t orgId branchId query =
      (if query.sourceDomain.isNone then
        t.documents.filter (documentMatches orgId branchId query) else []).map
        (envelopeForDocument toUpperCase) := by
  rw [documentsAsked, documentEntries, List.filter_map, List.filter_filter]
  cases hdomain : query.sourceDomain with
  | some domain => simp [ExportEnvelope.asked, hdomain]
  | none =>
    rw [if_pos (by rfl)]
    congr 2
    funext d
    simp only [Function.comp_apply, ExportEnvelope.asked, hdomain, Option.isNone_none,
      Bool.true_and, envelopeForDocument, documentInScope, documentMatches, Bool.and_comm]

def fetchedReports (t : ExportTables) (orgId : String) (branchId : Option String)
    (query : ListExportsDto) : List ExportEnvelope :=
  (firsts (newer (·.createdAt)) 200
    (t.artifacts.filter (artifactMatches orgId branchId query))).map envelopeForReportArtifact

def fetchedDocuments (toUpperCase : String → String) (t : ExportTables) (orgId : String)
    (branchId : Option String) (query : ListExportsDto) : List ExportEnvelope :=
  (if query.sourceDomain.isNone then
    firsts (newer (·.createdAt)) 200 (t.documents.filter (documentMatches orgId branchId query))
    else []).map (envelopeForDocument toUpperCase)

theorem fetchedReports_first (hstatus : ∀ status ∈ query.status, (statusFilter status).isSome) :
    AreFirsts requestedAfter 200 (reportsAsked t orgId branchId query)
      (fetchedReports t orgId branchId query) := by
  rw [reportsAsked_eq hstatus]
  exact (firsts_areFirsts _ 200 _).map envelopeForReportArtifact fun _ _ h => h

theorem fetchedDocuments_first :
    AreFirsts requestedAfter 200 (documentsAsked toUpperCase t orgId branchId query)
      (fetchedDocuments toUpperCase t orgId branchId query) := by
  rw [documentsAsked_eq, fetchedDocuments]
  cases query.sourceDomain with
  | none => exact (firsts_areFirsts _ 200 _).map (envelopeForDocument toUpperCase) fun _ _ h => h
  | some _ => exact ⟨List.Subset.refl _, rfl, fun _ hmem => absurd hmem List.not_mem_nil⟩

-- ---
-- Export ids
-- ---

theorem encodeId_toList (domain : EntryDomain) (id : String) :
    (encodeId domain id).toList = domain.toString.toList ++ ':' :: id.toList := by
  rw [encodeId, String.toList_append, String.toList_append, List.append_assoc]
  rfl

theorem domain_no_colon (domain : EntryDomain) :
    ∀ letter ∈ domain.toString.toList, (letter != ':') = true := by
  cases domain <;> exact List.all_eq_true.mp rfl

/-- The parts of an export id that was encoded are those it was encoded of. -/
theorem encodeId_parts (domain : EntryDomain) (id : String) :
    (encodeId domain id).toList.takeWhile (· != ':') = domain.toString.toList ∧
      (encodeId domain id).toList.dropWhile (· != ':') = ':' :: id.toList := by
  rw [encodeId_toList]
  constructor
  · rw [List.takeWhile_append_of_pos (domain_no_colon domain)]
    simp
  · rw [List.dropWhile_append_of_pos (domain_no_colon domain)]
    simp

theorem encodeId_inj {domain domain' : EntryDomain} {id id' : String}
    (h : encodeId domain id = encodeId domain' id') : domain = domain' ∧ id = id' := by
  have hdomain := (encodeId_parts domain id).1.symm.trans
    ((congrArg (fun text => text.toList.takeWhile (· != ':')) h).trans
      (encodeId_parts domain' id').1)
  have hid := (encodeId_parts domain id).2.symm.trans
    ((congrArg (fun text => text.toList.dropWhile (· != ':')) h).trans
      (encodeId_parts domain' id').2)
  refine ⟨?_, String.toList_inj.mp (List.cons.inj hid).2⟩
  revert hdomain
  cases domain <;> cases domain' <;> decide

theorem decodeId_encodeId (domain : EntryDomain) {id : String} (hid : id ≠ "") :
    decodeId (encodeId domain id) = .ok (domain, id) := by
  have hnil : id.toList.isEmpty = false := by
    rw [List.isEmpty_eq_false_iff]
    intro h
    exact hid (String.toList_inj.mp h)
  rw [decodeId, (encodeId_parts domain id).1, (encodeId_parts domain id).2]
  simp only [List.drop_one, List.tail_cons, hnil, Bool.or_false, String.ofList_toList]
  cases domain <;> rfl

theorem fetchedReports_keys :
    ((fetchedReports t orgId branchId query).map (·.exportId)).Nodup := by
  have hkeys := t.artifactKeys.sublist
    ((List.filter_sublist (p := artifactMatches orgId branchId query)).map (·.id))
  have hids := (nodup_firsts (newer (·.createdAt)) (n := 200) hkeys).map
    (f := encodeId .reports) fun _ _ h => (encodeId_inj h).2
  simpa [fetchedReports, Function.comp_def, envelopeForReportArtifact] using hids

theorem fetchedDocuments_keys :
    ((fetchedDocuments toUpperCase t orgId branchId query).map (·.exportId)).Nodup := by
  rw [fetchedDocuments]
  split
  · have hkeys := t.documentKeys.sublist
      ((List.filter_sublist (p := documentMatches orgId branchId query)).map (·.id))
    have hids := (nodup_firsts (newer (·.createdAt)) (n := 200) hkeys).map
      (f := encodeId .documents) fun _ _ h => (encodeId_inj h).2
    simpa [Function.comp_def, envelopeForDocument] using hids
  · exact .nil

-- ---
-- The merged list
-- ---

def merged (toUpperCase : String → String) (t : ExportTables) (orgId : String)
    (branchId : Option String) (query : ListExportsDto) : List ExportEnvelope :=
  (fetchedReports t orgId branchId query ++
    fetchedDocuments toUpperCase t orgId branchId query).insertionSort requestedAfter

theorem merged_perm :
    (merged toUpperCase t orgId branchId query).Perm (fetchedReports t orgId branchId query ++
      fetchedDocuments toUpperCase t orgId branchId query) :=
  List.perm_insertionSort _ _

theorem domain_of_fetchedReports (h : entry ∈ fetchedReports t orgId branchId query) :
    entry.sourceDomain = .reports := by
  obtain ⟨a, -, rfl⟩ := List.mem_map.mp h
  rfl

theorem domain_of_fetchedDocuments
    (h : entry ∈ fetchedDocuments toUpperCase t orgId branchId query) :
    entry.sourceDomain = .documents := by
  obtain ⟨d, -, rfl⟩ := List.mem_map.mp h
  rfl

theorem id_of_fetchedReports (h : entry ∈ fetchedReports t orgId branchId query) :
    ∃ id, entry.exportId = encodeId .reports id := by
  obtain ⟨a, -, rfl⟩ := List.mem_map.mp h
  exact ⟨a.id, rfl⟩

theorem id_of_fetchedDocuments (h : entry ∈ fetchedDocuments toUpperCase t orgId branchId query) :
    ∃ id, entry.exportId = encodeId .documents id := by
  obtain ⟨d, -, rfl⟩ := List.mem_map.mp h
  exact ⟨d.id, rfl⟩

theorem merged_once :
    ((merged toUpperCase t orgId branchId query).map (·.exportId)).Nodup := by
  refine (merged_perm.map _).nodup_iff.mpr ?_
  rw [List.map_append, List.nodup_append]
  refine ⟨fetchedReports_keys, fetchedDocuments_keys, ?_⟩
  intro key hreport key' hdocument hsame
  obtain ⟨entry, hentry, rfl⟩ := List.mem_map.mp hreport
  obtain ⟨other, hother, rfl⟩ := List.mem_map.mp hdocument
  obtain ⟨id, hid⟩ := id_of_fetchedReports hentry
  obtain ⟨id', hid'⟩ := id_of_fetchedDocuments hother
  rw [hid, hid'] at hsame
  cases (encodeId_inj hsame).1

theorem merged_reports :
    (fetchedReports t orgId branchId query).Perm
      ((merged toUpperCase t orgId branchId query).filter (·.sourceDomain == .reports)) := by
  refine .trans (.of_eq ?_) (merged_perm.filter _).symm
  rw [List.filter_append, List.filter_eq_self.mpr, List.filter_eq_nil_iff.mpr, List.append_nil]
  · intro entry hentry
    rw [domain_of_fetchedDocuments hentry]
    decide
  · intro entry hentry
    rw [domain_of_fetchedReports hentry]
    rfl

theorem merged_documents :
    (fetchedDocuments toUpperCase t orgId branchId query).Perm
      ((merged toUpperCase t orgId branchId query).filter (·.sourceDomain == .documents)) := by
  refine .trans (.of_eq ?_) (merged_perm.filter _).symm
  rw [List.filter_append, List.filter_eq_nil_iff.mpr, List.filter_eq_self.mpr, List.nil_append]
  · intro entry hentry
    rw [domain_of_fetchedDocuments hentry]
    rfl
  · intro entry hentry
    rw [domain_of_fetchedReports hentry]
    decide

theorem merged_listed (hstatus : ∀ status ∈ query.status, (statusFilter status).isSome) :
    Listed toUpperCase t orgId branchId query (merged toUpperCase t orgId branchId query) where
  sorted := List.pairwise_insertionSort _ _
  once := merged_once
  reports := (fetchedReports_first hstatus).perm merged_reports
  documents := fetchedDocuments_first.perm merged_documents
  everyReport hle entry hentry := by
    have hfetched := ((fetchedReports_first hstatus).mem_iff
      (List.Nodup.of_map _ fetchedReports_keys) hle).mpr hentry
    exact merged_perm.mem_iff.mpr (List.mem_append_left _ hfetched)
  everyDocument hle entry hentry := by
    have hfetched := (fetchedDocuments_first.mem_iff
      (List.Nodup.of_map _ fetchedDocuments_keys) hle).mpr hentry
    exact merged_perm.mem_iff.mpr (List.mem_append_right _ hfetched)

-- ---
-- The walk
-- ---

theorem listExports_eq (htype : (truthy query.sourceType).all isReportType) (page : Nat) :
    listExports toUpperCase t orgId branchId (atPage query page) =
      .ok { data := pageOf (query.pageSize.getD 25) (merged toUpperCase t orgId branchId query) page
            total := (merged toUpperCase t orgId branchId query).length
            page, pageSize := query.pageSize.getD 25 } := by
  have haccepted : (!(truthy (atPage query page).sourceType).all isReportType) = false := by
    simpa [atPage] using htype
  rw [listExports, haccepted]
  rfl

theorem merged_walks (htype : (truthy query.sourceType).all isReportType)
    (hsize : ∀ size ∈ query.pageSize, 1 ≤ size) :
    Walks toUpperCase t orgId branchId query (merged toUpperCase t orgId branchId query) := by
  have hpos : 0 < query.pageSize.getD 25 := by
    cases hpage : query.pageSize with
    | none => decide
    | some size => exact hsize size hpage
  constructor
  · intro fuel hfuel
    simp only [listExports_eq htype, shown]
    exact walk_pageOf hpos hfuel
  · intro page
    exact ⟨_, listExports_eq htype page, rfl⟩

/-- Whatever list the walk shows is the merged one. -/
theorem walks_unique (htype : (truthy query.sourceType).all isReportType)
    (hsize : ∀ size ∈ query.pageSize, 1 ≤ size) {entries : List ExportEnvelope}
    (h : Walks toUpperCase t orgId branchId query entries) :
    entries = merged toUpperCase t orgId branchId query := by
  let fuel := max entries.length (merged toUpperCase t orgId branchId query).length + 1
  exact (h.1 fuel (by omega)).symm.trans ((merged_walks htype hsize).1 fuel (by omega))

/-- A filter that a report can satisfy shows, once and by the time of the request, the newest
reports that satisfy it and the newest documents of the requester, and the total is their number. -/
theorem walk_listExports (toUpperCase : String → String) (t : ExportTables) (orgId : String)
    (branchId : Option String) (query : ListExportsDto)
    (hstatus : ∀ status ∈ query.status, (statusFilter status).isSome)
    (htype : (truthy query.sourceType).all isReportType)
    (hsize : ∀ size ∈ query.pageSize, 1 ≤ size) :
    ∃ entries, Listed toUpperCase t orgId branchId query entries ∧
      Walks toUpperCase t orgId branchId query entries :=
  ⟨merged toUpperCase t orgId branchId query, merged_listed hstatus, merged_walks htype hsize⟩

/-- Two exports of one report, and a document that was uploaded between them. -/
def threeEntries : ExportTables where
  artifacts :=
    [{ id := "a", orgId := "", branchId := some "b", reportRunId := "r", reportType := .dailySales
       format := .csv, status := .ready, fileName := "sales.csv", mimeType := "text/csv"
       generatedById := "u", createdAt := 0 },
     { id := "c", orgId := "", branchId := some "b", reportRunId := "r", reportType := .dailySales
       format := .csv, status := .ready, fileName := "sales.csv", mimeType := "text/csv"
       generatedById := "u", createdAt := 2 }]
  documents :=
    [{ id := "d", orgId := "", branchId := some "b", originalFileName := "scan.pdf"
       mimeType := "application/pdf", fileSizeBytes := 1, checksum := "", documentType := .invoice
       uploadedById := "u", createdAt := 1 }]
  artifactKeys := by decide
  documentKeys := by decide

def oneAPage : ListExportsDto where
  status := some .completed
  sourceType := some "DAILY_SALES"
  pageSize := some 1

theorem walk_listExports_three :
    ∃ entries, Listed id threeEntries "" (some "b") oneAPage entries ∧
      Walks id threeEntries "" (some "b") oneAPage entries :=
  walk_listExports id threeEntries "" (some "b") oneAPage (by decide) (by decide) (by decide)

-- ---
-- Everything
-- ---

theorem reportsAsked_once (hstatus : ∀ status ∈ query.status, (statusFilter status).isSome) :
    (reportsAsked t orgId branchId query).Nodup := by
  rw [reportsAsked_eq hstatus]
  have hkeys := t.artifactKeys.sublist
    ((List.filter_sublist (p := artifactMatches orgId branchId query)).map (·.id))
  refine List.Nodup.of_map (·.exportId) ?_
  have hids := hkeys.map (f := encodeId .reports) fun _ _ h => (encodeId_inj h).2
  simpa [Function.comp_def, envelopeForReportArtifact] using hids

/-- What is shown is not everything when more reports than the cap satisfy the filter. -/
theorem everything_capped (hstatus : ∀ status ∈ query.status, (statusFilter status).isSome)
    (h : Everything toUpperCase t orgId branchId query
      (merged toUpperCase t orgId branchId query)) :
    (reportsAsked t orgId branchId query).length ≤ 200 := by
  have hall : reportsAsked t orgId branchId query ⊆
      (merged toUpperCase t orgId branchId query).filter (·.sourceDomain == .reports) := by
    intro entry hentry
    obtain ⟨hmem, hsatisfies⟩ := List.mem_filter.mp hentry
    refine List.mem_filter.mpr ⟨?_, ?_⟩
    · exact (h.exact entry).mpr ⟨List.mem_append_left _ hmem, hsatisfies⟩
    · obtain ⟨a, -, rfl⟩ := List.mem_map.mp hmem
      rfl
  have hle := (List.subperm_of_subset (reportsAsked_once hstatus) hall).length_le
  rw [(merged_listed hstatus).reports.counted] at hle
  exact hle.trans (Nat.min_le_left _ _)

/-- So many exports, requested one after the other. -/
def exports (n : Nat) : ExportTables where
  artifacts := (List.range n).map fun k =>
    { id := String.ofList (List.replicate k 'x'), orgId := "", branchId := none, reportRunId := ""
      reportType := .dailySales, format := .csv, status := .ready, fileName := "", mimeType := ""
      generatedById := "", createdAt := k }
  documents := []
  artifactKeys := by
    rw [List.map_map]
    refine List.nodup_range.map fun k k' h => ?_
    simpa using congrArg String.length h
  documentKeys := .nil

theorem exports_asked (n : Nat) : (reportsAsked (exports n) "" none {}).length = n := by
  have hall : ∀ a ∈ (exports n).artifacts, artifactMatches "" none {} a = true := by
    intro a ha
    obtain ⟨k, -, rfl⟩ := List.mem_map.mp ha
    rfl
  rw [reportsAsked_eq (by simp), List.filter_eq_self.mpr hall, List.length_map, exports,
    List.length_map, List.length_range]

theorem exports_capped {n : Nat} (hn : 200 < n) :
    ¬∃ entries, Everything id (exports n) "" none {} entries ∧
      Walks id (exports n) "" none {} entries := by
  rintro ⟨entries, heverything, hwalks⟩
  obtain rfl := walks_unique rfl (by simp) hwalks
  have hle := everything_capped (by simp) heverything
  rw [exports_asked] at hle
  exact absurd hle (Nat.not_le_of_lt hn)

/-- Of 201 exports the first is on no page, and a document is shown among the exports that
failed. -/
theorem shows_not_everything :
    (¬∃ entries, Everything id (exports 201) "" none {} entries ∧
      Walks id (exports 201) "" none {} entries) ∧
    ¬∃ entries, Everything id threeEntries "" (some "b") { status := some .failed } entries ∧
      Walks id threeEntries "" (some "b") { status := some .failed } entries := by
  constructor
  · exact exports_capped (by decide)
  · rintro ⟨entries, heverything, hwalks⟩
    obtain rfl := walks_unique (by decide) (by decide) hwalks
    have hshown : (envelopeForDocument id (threeEntries.documents.head (by decide))) ∈
        merged id threeEntries "" (some "b") { status := some .failed } := by
      decide +kernel
    exact absurd ((heverything.exact _).mp hshown).2 (by decide)

-- ---
-- One entry
-- ---

theorem find_of_keys {α β : Type} [DecidableEq β] {key : α → β} {p : α → Bool} {row : α}
    {rows : List α} (hkeys : (rows.map key).Nodup) (hrow : row ∈ rows) (hp : p row) :
    (rows.find? fun other => key other == key row && p other) = some row := by
  cases hfound : rows.find? fun other => key other == key row && p other with
  | none =>
    have hnone := List.find?_eq_none.mp hfound row hrow
    simp [hp] at hnone
  | some other =>
    have hother := List.find?_some hfound
    simp only [Bool.and_eq_true, beq_iff_eq] at hother
    rw [List.inj_on_of_nodup_map hkeys (List.mem_of_find?_eq_some hfound) hrow hother.1]

/-- The details of an entry that is listed are the entry. -/
theorem getExport_listed (hids : ∀ a ∈ t.artifacts, a.id ≠ "")
    (hids' : ∀ d ∈ t.documents, d.id ≠ "")
    (h : entry ∈ merged toUpperCase t orgId branchId query) :
    getExport toUpperCase t orgId entry.exportId = .ok entry := by
  rw [merged_perm.mem_iff, List.mem_append] at h
  rcases h with hreport | hdocument
  · obtain ⟨a, ha, rfl⟩ := List.mem_map.mp hreport
    obtain ⟨hrow, hmatches⟩ := List.mem_filter.mp (mem_of_firsts _ ha)
    have horg : (a.orgId == orgId) = true := by
      simp only [artifactMatches, Bool.and_eq_true] at hmatches
      exact hmatches.1.1.1.1.1
    have hfound := find_of_keys (p := fun a => a.orgId == orgId) t.artifactKeys hrow horg
    simp only [getExport, envelopeForReportArtifact, decodeId_encodeId .reports (hids a hrow),
      hfound]
  · rw [fetchedDocuments] at hdocument
    obtain ⟨d, hd, rfl⟩ := List.mem_map.mp hdocument
    have hfetched : d ∈ t.documents ∧ documentMatches orgId branchId query d = true := by
      split at hd
      · exact List.mem_filter.mp (mem_of_firsts _ hd)
      · cases hd
    have hvisible : (d.orgId == orgId && d.status == .active) = true := by
      have hmatches := hfetched.2
      simp only [documentMatches, Bool.and_eq_true] at hmatches ⊢
      exact ⟨hmatches.1.1.1, hmatches.1.2⟩
    have hfound := find_of_keys (p := fun d => d.orgId == orgId && d.status == .active)
      t.documentKeys hfetched.1 hvisible
    simp only [← Bool.and_assoc] at hfound
    simp only [getExport, envelopeForDocument, decodeId_encodeId .documents (hids' d hfetched.1),
      hfound]

end NimbusPos.ExportsFacadeService
