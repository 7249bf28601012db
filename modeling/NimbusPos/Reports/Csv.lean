import NimbusPos.Lib.Csv
import NimbusPos.Reports.Service

/-!
# CSV export

Each report type writes one table, or two with a blank line between them. Values are written as
they stand; only the anomaly types of an actor are put between quotes.
-/

namespace NimbusPos.ReportsService

open Lib

-- ---
-- Summaries
-- ---

/-- A JSON value. A number or a boolean is the text that the language writes for it. -/
inductive Json
  | null
  | literal (text : String)
  | string (text : String)
  | array (items : List Json)
  | object (entries : List (String × Json))

namespace Json

mutual

/-- `${value}`. -/
def toText : Json → String
  | null => "null"
  | literal text | string text => text
  | array items => ",".intercalate (itemTexts items)
  | object _ => "[object Object]"

/-- The items that a `join` puts together. -/
def itemTexts : List Json → List String
  | [] => []
  | null :: items => "" :: itemTexts items
  | item :: items => toText item :: itemTexts items

end

def escapeChar (c : Char) : List Char :=
  if c = '"' then ['\\', '"']
  else if c = '\\' then ['\\', '\\']
  else if c = '\n' then ['\\', 'n']
  else if c = '\r' then ['\\', 'r']
  else if c = '\t' then ['\\', 't']
  else if c.toNat = 8 then ['\\', 'b']
  else if c.toNat = 12 then ['\\', 'f']
  else if c.toNat < 32 then ['\\', 'u', '0', '0', Nat.digitChar (c.toNat / 16), Nat.digitChar (c.toNat % 16)]
  else [c]

def quoted (text : String) : String :=
  "\"" ++ String.ofList (text.toList.flatMap escapeChar) ++ "\""

mutual

/-- `JSON.stringify`. -/
def stringify : Json → String
  | null => "null"
  | literal text => text
  | string text => quoted text
  | array items => "[" ++ ",".intercalate (stringifyItems items) ++ "]"
  | object entries => "\x7b" ++ ",".intercalate (stringifyEntries entries) ++ "\x7d"

def stringifyItems : List Json → List String
  | [] => []
  | item :: items => stringify item :: stringifyItems items

def stringifyEntries : List (String × Json) → List String
  | [] => []
  | (key, value) :: entries => (quoted key ++ ":" ++ stringify value) :: stringifyEntries entries

end

/-- A property, `none` when it is undefined. -/
def get? (value : Json) (key : String) : Option Json :=
  match value with
  | object entries => entries.lookup key
  | _ => none

/-- The items of a property that is an array. -/
def itemsOf (value : Json) (key : String) : List Json :=
  match value.get? key with
  | some (array items) => items
  | _ => []

/-- `Object.entries`. -/
def entries : Json → List (String × Json)
  | object entries => entries
  | _ => []

/-- `Object.entries` of a property that is an object. -/
def entriesOf (value : Json) (key : String) : List (String × Json) :=
  ((value.get? key).map entries).getD []

/-- `${value.key}`. -/
def text (value : Json) (key : String) : String := ((value.get? key).map toText).getD "undefined"

/-- `${value.key ?? default}`. -/
def textOr (value : Json) (key default : String) : String :=
  match value.get? key with
  | none | some null => default
  | some value => value.toText

/-- `typeof val === 'object' ? JSON.stringify(val) : val`. -/
def cellText (value : Json) : String :=
  match value with
  | null | array _ | object _ => value.stringify
  | literal _ | string _ => value.toText

end Json

-- ---
-- Tables
-- ---

structure CsvTable where
  header : List String
  rows : List (List Csv.Cell)
  deriving DecidableEq, Repr

def CsvTable.lines (table : CsvTable) : List (List Csv.Cell) :=
  table.header.map .raw :: table.rows

/-- The fields of a line, split where its template has commas. -/
def row (fields : List String) : List Csv.Cell := fields.map .raw

section

variable (summary : Json)

/-- A line `label,${summary.key ?? default}`. -/
def metric (label key default : String) : List Csv.Cell := row [label, summary.textOr key default]

/-- A line for each entry, with what stands before and after its key. -/
def entryRows (key before after : String) : List (List Csv.Cell) :=
  (summary.entriesOf key).map fun entry => row [before ++ entry.1 ++ after, entry.2.toText]

/-- A line for each item, of these properties. -/
def itemRows (key : String) (properties : List String) : List (List Csv.Cell) :=
  (summary.itemsOf key).map fun item => row (properties.map item.text)

def metrics (rows : List (List Csv.Cell)) : CsvTable := ⟨["Metric", "Value"], rows⟩

/-- `if (summary.actorBreakdown)`: the second table of the summaries by actor. -/
def actorTable : List CsvTable :=
  match summary.get? "actorBreakdown" with
  | some (.array _) =>
    [⟨["Actor", "Count", "Total"], itemRows summary "actorBreakdown" ["email", "count", "total"]⟩]
  | _ => []

def csvTables (reportType : ReportType) : List CsvTable :=
  match reportType with
  | .shiftEnd =>
    [metrics (
      [metric summary "Shift Count" "shiftCount" "0",
        metric summary "Till Count" "tillCount" "0",
        metric summary "Gross Sales" "grossSales" "0",
        metric summary "Net Sales" "netSales" "0",
        metric summary "Tax Total" "taxTotal" "0",
        metric summary "Discount Total" "discountTotal" "0",
        metric summary "Order Count" "orderCount" "0",
        metric summary "Refund Total" "refundTotal" "0",
        metric summary "Refund Count" "refundCount" "0",
        metric summary "Safe Drop Total" "safeDropTotal" "0"] ++
      entryRows summary "paymentBreakdown" "Payment (" ")")]
  | .dailySales =>
    [metrics (
      [metric summary "Gross Sales" "grossSales" "0",
        metric summary "Net Sales" "netSales" "0",
        metric summary "Tax Total" "taxTotal" "0",
        metric summary "Discount Total" "discountTotal" "0",
        metric summary "Order Count" "orderCount" "0",
        metric summary "Avg Order Value" "avgOrderValue" "0",
        metric summary "Refund Total" "refundTotal" "0",
        metric summary "Refund Count" "refundCount" "0"] ++
      entryRows summary "paymentBreakdown" "Payment (" ")")]
  | .paymentMix =>
    [⟨["Method", "Amount", "Count", "Percentage"],
      (summary.itemsOf "breakdown").map (fun item =>
        row [item.text "method", item.text "amount", item.text "count",
          item.text "percentage" ++ "%"]) ++
      [row ["Total", summary.textOr "totalAmount" "0", "", ""]]⟩]
  | .topItems =>
    [⟨["Rank", "Item", "Quantity Sold", "Gross Sales"],
      (summary.itemsOf "topItems").zipIdx.map fun (item, idx) =>
        row [toString (idx + 1), item.text "name", item.text "quantitySold",
          item.text "grossSales"]⟩]
  | .salesByCategory =>
    [⟨["Category", "Quantity Sold", "Gross Sales", "Line Items", "Percentage"],
      (summary.itemsOf "categories").map (fun item =>
        row [item.text "categoryName", item.text "quantitySold", item.text "grossSales",
          item.text "lineItems", item.text "percentage" ++ "%"]) ++
      [row ["Total", "", summary.textOr "totalSales" "0", "", ""]]⟩]
  | .salesByHour =>
    [⟨["Hour", "Order Count", "Sales"],
      itemRows summary "hourlyBreakdown" ["label", "orderCount", "sales"] ++
      [row ["Peak Hour", summary.textOr "peakHour" "", summary.textOr "peakSales" "0"]]⟩]
  | .openClosedOrders =>
    [⟨["Status", "Count", "Total Value"],
      itemRows summary "breakdown" ["status", "count", "totalValue"]⟩]
  | .discountsSummary =>
    metrics (
      [metric summary "Total Discounts" "totalDiscounts" "0",
        metric summary "Grand Total" "grandTotal" "0"] ++
      (summary.itemsOf "typeBreakdown").map fun item =>
        row ["Type " ++ item.text "type", item.text "count" ++ " (" ++ item.text "total" ++ ")"]) ::
    actorTable summary
  | .voidsSummary =>
    metrics [metric summary "Total Voids" "totalVoids" "0",
      metric summary "Grand Total" "grandTotal" "0"] :: actorTable summary
  | .refundsSummary =>
    metrics [metric summary "Total Refunds" "totalRefunds" "0",
      metric summary "Grand Total" "grandTotal" "0"] :: actorTable summary
  | .cashVariance =>
    [⟨["Till Code", "Operator", "Opening Float", "Expected Cash", "Counted Cash", "Variance",
        "Variance Status"],
      (summary.itemsOf "tillBreakdown").map (fun item =>
        row [item.text "tillCode", item.text "operatorEmail", item.text "openingFloat",
          item.text "expectedCash", item.textOr "countedCash" "", item.textOr "variance" "",
          item.textOr "varianceStatus" ""]) ++
      [row ["Total Variance", "", "", "", "", summary.textOr "totalVariance" "0", ""]]⟩]
  | .cashMovements =>
    [⟨["Type", "Count", "Total"], itemRows summary "typeBreakdown" ["type", "count", "total"]⟩]
  | .stockVariance =>
    [⟨["Item", "Unit", "Positive Adjustments", "Negative Adjustments", "Net Change", "Count"],
      itemRows summary "varianceItems" ["name", "unit", "positiveAdjustments",
        "negativeAdjustments", "netChange", "adjustmentCount"]⟩]
  | .wastageSummary =>
    [⟨["Item", "Unit", "Wasted Qty", "Estimated Cost", "Adjustment Count"],
      itemRows summary "wastageItems" ["name", "unit", "totalWastedQty", "estimatedCost",
        "adjustmentCount"] ++
      [row ["Total Cost", "", "", summary.textOr "totalEstimatedCost" "0", ""]]⟩]
  | .lowStock =>
    [⟨["Item", "Unit", "Current Stock", "Reorder Level", "Reorder Qty"],
      (summary.itemsOf "lowStockItems").map fun item =>
        row [item.text "name", item.text "unit", item.text "currentStock",
          item.textOr "reorderLevel" "", item.textOr "reorderQty" ""]⟩]
  | .reservationSummary =>
    [metrics (
      [metric summary "Total Reservations" "totalReservations" "0",
        metric summary "Seated Count" "seatedCount" "0",
        row ["Conversion Rate", summary.textOr "conversionRate" "0.00" ++ "%"],
        metric summary "Avg Party Size" "avgPartySize" "0"] ++
      entryRows summary "byStatus" "Status " "")]
  | .reservationDeposits =>
    [⟨["Status", "Count", "Total"],
      itemRows summary "statusBreakdown" ["status", "count", "total"] ++
      [row ["Grand Total", "", summary.textOr "grandTotal" "0"]]⟩]
  | .reservationNoShows =>
    [metrics
      [metric summary "No-Show Count" "noShowCount" "0",
        metric summary "Cancelled Count" "cancelledCount" "0",
        metric summary "Total Reservations" "totalReservations" "0",
        row ["No-Show Rate", summary.textOr "noShowRate" "0.00" ++ "%"]]]
  | .eventSummary =>
    [metrics (
      [metric summary "Total Events" "totalEvents" "0",
        metric summary "Total Capacity" "totalCapacity" "0",
        metric summary "Total Sold" "totalSold" "0",
        metric summary "Total Checked In" "totalCheckedIn" "0",
        row ["Overall Utilization", summary.textOr "overallUtilization" "0.00" ++ "%"]] ++
      entryRows summary "byStatus" "Status " "")]
  | .eventBookings =>
    [metrics (
      [metric summary "Total Bookings" "totalBookings" "0",
        metric summary "Total Revenue" "totalRevenue" "0",
        metric summary "Total Quantity" "totalQuantity" "0"] ++
      entryRows summary "byStatus" "Status " "")]
  | .eventCheckins =>
    [metrics (metric summary "Total Check-Ins" "totalCheckins" "0" ::
      entryRows summary "byStatus" "Status " "")]
  | .anomalySummary =>
    [metrics (metric summary "Total Anomalies" "totalAnomalies" "0" ::
      (entryRows summary "byStatus" "Status: " "" ++
        entryRows summary "bySeverity" "Severity: " "" ++
        entryRows summary "byType" "Type: " ""))]
  | .highRiskActors =>
    [⟨["User ID", "Total Anomalies", "High Severity Count", "Anomaly Types"],
      (summary.itemsOf "actors").map fun item =>
        row [item.text "userId", item.text "totalAnomalies", item.text "highSeverityCount"] ++
          [.quoted (", ".intercalate (Json.itemTexts (item.itemsOf "anomalyTypes")))]⟩]
  | .staffOperations =>
    [⟨["Email", "Sales Count", "Sales Total", "Refund Count", "Refund Total", "Discount Count",
        "Discount Total", "Void Count", "Void Total"],
      itemRows summary "staffBreakdown" ["email", "salesCount", "salesTotal", "refundCount",
        "refundTotal", "discountCount", "discountTotal", "voidCount", "voidTotal"]⟩]
  | .reportCatalog =>
    [⟨["Key", "Value"], summary.entries.map fun entry => row [entry.1, entry.2.cellText]⟩]

end

/-- The lines of the tables, with a blank line between two tables. -/
def csvLines (tables : List CsvTable) : List (List Csv.Cell) :=
  [row [""]].intercalate (tables.map CsvTable.lines)

def generateCsv (reportType : ReportType) (summary : Json) : String :=
  Csv.write (csvLines (csvTables summary reportType))

end NimbusPos.ReportsService

/-!
# Reading an export back

Every row of a table has as many fields as its header. What is read back is what was written as
long as no value holds a character that the format gives a meaning.
-/

namespace NimbusPos.ReportsService

open Lib

/-- Reading the text gives one record for each line, with the values that were put in it, and the
rows of a table are as long as its header. -/
structure RoundTrips (tables : List CsvTable) (text : String) : Prop where
  records : Csv.readRecords text = some ((csvLines tables).map (·.map Csv.Cell.value))
  fields : ∀ table ∈ tables, ∀ cells ∈ table.rows, cells.length = table.header.length

-- ---
-- The tables
-- ---

/-- A header of two plain names or more, and rows as long as it. -/
structure CsvTable.Shaped (table : CsvTable) : Prop where
  header : ∀ name ∈ table.header, (Csv.Cell.raw name).Plain
  two : 2 ≤ table.header.length
  rows : ∀ cells ∈ table.rows, cells.length = table.header.length

theorem shaped_of {header : List String} {rows : List (List Csv.Cell)}
    (hheader : ∀ name ∈ header, (Csv.Cell.raw name).Plain) (htwo : 2 ≤ header.length)
    (hrows : ∀ cells ∈ rows, cells.length = header.length) : CsvTable.Shaped ⟨header, rows⟩ :=
  ⟨hheader, htwo, hrows⟩

theorem row_length (fields : List String) : (row fields).length = fields.length := List.length_map _

variable {summary : Json}

theorem actorTable_shaped : ∀ table ∈ actorTable summary, table.Shaped := by
  unfold actorTable
  split
  · rw [List.forall_mem_singleton]
    refine shaped_of ?_ ?_ ?_
    · decide +kernel
    · decide
    · simp [itemRows, row_length]
  · simp

theorem metrics_shaped {rows : List (List Csv.Cell)} (h : ∀ cells ∈ rows, cells.length = 2) :
    (metrics rows).Shaped := by
  refine shaped_of ?_ ?_ h
  · decide +kernel
  · decide

theorem csvTables_shaped (summary : Json) (reportType : ReportType) :
    ∀ table ∈ csvTables summary reportType, table.Shaped := by
  cases reportType with
  | shiftEnd | dailySales | reservationSummary | eventSummary | eventBookings | eventCheckins
  | anomalySummary | reservationNoShows =>
    rw [csvTables, List.forall_mem_singleton]
    refine metrics_shaped ?_
    simp only [entryRows, List.forall_mem_cons, List.forall_mem_append, List.forall_mem_map]
    simp [metric, row_length]
  | discountsSummary | voidsSummary | refundsSummary =>
    rw [csvTables, List.forall_mem_cons]
    refine ⟨metrics_shaped ?_, actorTable_shaped⟩
    simp +contextual [metric, row_length, or_imp]
  | _ =>
    rw [csvTables, List.forall_mem_singleton]
    refine shaped_of ?_ ?_ ?_
    · decide +kernel
    · decide
    · simp only [itemRows, List.forall_mem_append, List.forall_mem_map]
      simp [row_length]

theorem csvTables_ne_nil (summary : Json) (reportType : ReportType) :
    csvTables summary reportType ≠ [] := by
  cases reportType <;> exact List.cons_ne_nil _ _

-- ---
-- The lines
-- ---

theorem csvLines_singleton (table : CsvTable) : csvLines [table] = table.lines :=
  List.intercalate_singleton

theorem csvLines_cons (table next : CsvTable) (tables : List CsvTable) :
    csvLines (table :: next :: tables) =
      table.lines ++ row [""] :: csvLines (next :: tables) := by
  simp [csvLines, List.intercalate_cons_cons]

theorem CsvTable.Shaped.lines_ge {table : CsvTable} (h : table.Shaped) :
    ∀ cells ∈ table.lines, 2 ≤ cells.length := by
  rw [CsvTable.lines, List.forall_mem_cons, List.length_map]
  exact ⟨h.two, fun cells hmem => h.rows cells hmem ▸ h.two⟩

theorem csvLines_ends {table : CsvTable} {tables : List CsvTable}
    (h : ∀ t ∈ table :: tables, t.Shaped) : Csv.Ends (csvLines (table :: tables)) := by
  induction tables generalizing table with
  | nil =>
    intro cells hlast
    rw [csvLines_singleton] at hlast
    exact (h table (.head _)).lines_ge cells (List.mem_of_getLast? hlast)
  | cons next tables ih =>
    intro cells hlast
    have hnext := ih fun t hmem => h t (.tail _ hmem)
    have hsome : csvLines (next :: tables) ≠ [] := by
      cases tables with
      | nil => simp [csvLines_singleton, CsvTable.lines]
      | cons other tables => simp [csvLines_cons]
    obtain ⟨first, lines, hlines⟩ := List.exists_cons_of_ne_nil hsome
    rw [csvLines_cons, List.getLast?_append, hlines, List.getLast?_cons_cons, ← hlines] at hlast
    obtain ⟨last, hsomeLast⟩ : ∃ last, (csvLines (next :: tables)).getLast? = some last := by
      rw [hlines]
      exact ⟨_, List.getLast?_cons⟩
    rw [hsomeLast, Option.some_or] at hlast
    exact hnext cells (hsomeLast.trans hlast)

/-- A blank line holds nothing that is not plain, and so do the headers. -/
theorem csvLines_plain_iff {tables : List CsvTable} (h : ∀ t ∈ tables, t.Shaped) :
    (∀ cells ∈ csvLines tables, ∀ c ∈ cells, c.Plain) ↔
      ∀ t ∈ tables, ∀ cells ∈ t.rows, ∀ c ∈ cells, c.Plain := by
  have htable {table : CsvTable} (hshaped : table.Shaped) :
      (∀ cells ∈ table.lines, ∀ c ∈ cells, c.Plain) ↔
        ∀ cells ∈ table.rows, ∀ c ∈ cells, c.Plain := by
    rw [CsvTable.lines, List.forall_mem_cons, List.forall_mem_map]
    exact and_iff_right hshaped.header
  have hblank : ∀ c ∈ row [""], c.Plain := by simp [row, Csv.Cell.Plain]
  induction tables with
  | nil => simp [csvLines]
  | cons table tables ih =>
    have hrest := ih fun t hmem => h t (.tail _ hmem)
    have hfirst := htable (h table (.head _))
    cases tables with
    | nil => rw [csvLines_singleton, List.forall_mem_singleton, hfirst]
    | cons next tables =>
      rw [csvLines_cons, List.forall_mem_append, List.forall_mem_cons (a := row [""]),
        List.forall_mem_cons (a := table)]
      exact and_congr hfirst ((and_iff_right hblank).trans hrest)

theorem csvLines_ne_nil {tables : List CsvTable} (h : ∀ t ∈ tables, t.Shaped) :
    ∀ cells ∈ csvLines tables, cells ≠ [] := by
  induction tables with
  | nil => simp [csvLines]
  | cons table tables ih =>
    have hrest := ih fun t hmem => h t (.tail _ hmem)
    have hfirst : ∀ cells ∈ table.lines, cells ≠ [] := by
      rintro cells hmem rfl
      exact absurd ((h table (.head _)).lines_ge [] hmem) (by decide)
    cases tables with
    | nil => rwa [csvLines_singleton]
    | cons next tables =>
      rw [csvLines_cons, List.forall_mem_append, List.forall_mem_cons]
      exact ⟨hfirst, by simp [row], hrest⟩

-- ---
-- The round trip
-- ---

theorem records_iff (summary : Json) (reportType : ReportType) :
    Csv.readRecords (generateCsv reportType summary) =
        some ((csvLines (csvTables summary reportType)).map (·.map Csv.Cell.value)) ↔
      ∀ table ∈ csvTables summary reportType, ∀ cells ∈ table.rows, ∀ c ∈ cells, c.Plain := by
  have hshaped := csvTables_shaped summary reportType
  obtain ⟨table, tables, htables⟩ :=
    List.exists_cons_of_ne_nil (csvTables_ne_nil summary reportType)
  have hends : Csv.Ends (csvLines (csvTables summary reportType)) := by
    rw [htables] at hshaped ⊢
    exact csvLines_ends hshaped
  have hsome : csvLines (csvTables summary reportType) ≠ [] := by
    rw [htables]
    cases tables with
    | nil => simp [csvLines_singleton, CsvTable.lines]
    | cons next tables => simp [csvLines_cons, CsvTable.lines]
  rw [← csvLines_plain_iff hshaped]
  exact Csv.readRecords_write hsome hends (csvLines_ne_nil hshaped)

/-- An export is read back exactly when no value in a row holds a comma, a quote or a line break,
and no anomaly type a quote. -/
theorem csv_round_trips (reportType : ReportType) (summary : Json) :
    RoundTrips (csvTables summary reportType) (generateCsv reportType summary) ↔
      ∀ table ∈ csvTables summary reportType, ∀ cells ∈ table.rows, ∀ c ∈ cells, c.Plain := by
  rw [← records_iff]
  constructor
  · exact fun h => h.records
  · exact fun h => ⟨h, fun table hmem => (csvTables_shaped summary reportType table hmem).rows⟩

/-- A menu item with a comma in its name. -/
def topItems : Json :=
  .object [("topItems", .array [.object [("name", .string "Fish, chips"),
    ("quantitySold", .literal "3"), ("grossSales", .string "45000")]])]

/-- Its row is read as five fields. -/
theorem comma_splits :
    ¬RoundTrips (csvTables topItems .topItems) (generateCsv .topItems topItems) := by
  intro h
  exact absurd ((records_iff topItems .topItems).mp h.records) (by decide +kernel)

end NimbusPos.ReportsService
