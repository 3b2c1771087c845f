import NhaTrangLaundry.Domain.CanonicalForm
import NhaTrangLaundry.Lib.Date

/-! What an export names, and the document that is signed for it. -/

namespace NhaTrangLaundry.Db.Exports

open Lib Domain Canonical

def businessTimezone : String := "Asia/Ho_Chi_Minh"

def exportDayBoundary : String := "orders.created_at"

inductive ExportDataset where
  | storeDayOrdersV1
deriving DecidableEq

def ExportDataset.value : ExportDataset → String
  | .storeDayOrdersV1 => "STORE_DAY_ORDERS_V1"

/-- Which records, of which shop, for which day or, with a last day, for which window of days. -/
structure ExportFacts where
  dataset : ExportDataset
  storeId : Uuid
  businessDate : Date
  businessDateTo : Option Date
deriving DecidableEq

def ExportFacts.value (facts : ExportFacts) : Value :=
  .dataclass ([("dataset", .str facts.dataset.value), ("store_id", .uuid facts.storeId),
    ("business_date", .str facts.businessDate.isoformat)] ++
    match facts.businessDateTo with
    | none => []
    | some last => [("business_date_to", .str last.isoformat)])

def windowDays (first : Date) (last : Option Date) : Int :=
  match last with
  | none => 1
  | some last => last.ordinal - first.ordinal + 1

structure ExportMoneySource where
  column : String
  ledger : String
  cutOn : String

def ExportMoneySource.value (source : ExportMoneySource) : Value :=
  .dataclass [("column", .str source.column), ("ledger", .str source.ledger),
    ("cut_on", .str source.cutOn)]

/-- What the code of one release writes into every statement. -/
structure ExportShape where
  columns : List String
  excludes : List String
  dayQuery : String
  windowQuery : String
  dayStatementVi : String → String
  windowStatementVi : String → String → Int → String
  moneySources : List ExportMoneySource
  moneyLineVi : String

namespace ExportShape

def queryVersion (shape : ExportShape) (facts : ExportFacts) : String :=
  match facts.businessDateTo with
  | none => shape.dayQuery
  | some _ => shape.windowQuery

def statementVi (shape : ExportShape) (facts : ExportFacts) : String :=
  match facts.businessDateTo with
  | none => shape.dayStatementVi facts.businessDate.isoformat
  | some last => shape.windowStatementVi facts.businessDate.isoformat last.isoformat
      (windowDays facts.businessDate (some last))

end ExportShape

def texts (items : List String) : Value := .seq (items.map .str)

/-- The members that a statement has had in every release. -/
def statementFields (shape : ExportShape) (facts : ExportFacts) : List (String × Value) :=
  [("facts", facts.value), ("business_timezone", .str businessTimezone),
    ("day_boundary", .str exportDayBoundary), ("columns", texts shape.columns),
    ("excludes", texts shape.excludes), ("query_version", .str (shape.queryVersion facts)),
    ("statement_vi", .str (shape.statementVi facts))]

/-- `_statement`: the document an owner approves. -/
def statement (shape : ExportShape) (facts : ExportFacts) : Value :=
  .dataclass (statementFields shape facts ++
    [("money_sources", .seq (shape.moneySources.map ExportMoneySource.value)),
      ("money_line_vi", .str shape.moneyLineVi)])

/-- The release before the payment ledger; it had no money sources. -/
def retiredShape : ExportShape where
  columns :=
    ["order_id", "created_at", "commercial_status", "intake_status", "production_status",
      "production_accepted_at", "production_ready_at", "production_released_at", "closed_at",
      "expected_total_vnd", "paid_amount_vnd", "settlement_attested_at", "balance_status",
      "refunded_amount_vnd", "refunded_at"]
  excludes :=
    ["customer_incident_evidence.summary", "assistant_turn_payloads.question",
      "assistant_turn_payloads.answer", "orders.bound_contact_id"]
  dayQuery := "store-day-orders-export-v2:3f884e227d6a2d05"
  windowQuery := "store-window-orders-export-v1:b0ae2bdf3725ab24"
  dayStatementVi first :=
    "Xuất bản sao hồ sơ của chính cửa hàng cho ngày " ++
    first ++
    " (theo giờ Việt Nam): mã đơn, trạng thái, mốc thời gian, số tiền đã thu và số tiền đã " ++
    "hoàn lại cho khách của những đơn MỞ trong ngày đó. Đơn đã thu tiền rồi bị huỷ và hoàn " ++
    "tiền vẫn hiện số tiền đã thu, kèm số tiền đã hoàn và lúc hoàn trên cùng dòng — cả hai " ++
    "việc đều đã xảy ra. Ngày được cắt theo lúc mở đơn, không phải theo lúc thu tiền: đơn mở " ++
    "hôm trước mà thu tiền hôm sau vẫn nằm ở ngày mở. Vì vậy tổng tiền trong tệp này không " ++
    "bằng ô “tiền đã thu hôm nay” trên màn hình Hôm nay — ô đó cộng theo lúc thu. Hai con số " ++
    "trả lời hai câu hỏi khác nhau, không phải một con số sai. Bản xuất không kèm lời khách " ++
    "phàn nàn, không kèm mô tả bằng chứng và không kèm mã liên hệ của khách — những phần đó " ++
    "nằm trong lịch xoá dữ liệu, và một bản sao mang ra ngoài sẽ không còn được lịch đó bảo " ++
    "vệ."
  windowStatementVi first last days :=
    "Xuất bản sao hồ sơ của chính cửa hàng cho các ngày từ " ++
    first ++
    " đến hết " ++
    last ++
    " (" ++
    toString days ++
    " ngày, theo giờ Việt Nam): mã đơn, trạng thái, mốc thời gian, số tiền đã thu và số tiền " ++
    "đã hoàn lại cho khách của những đơn MỞ trong các ngày đó. Đơn đã thu tiền rồi bị huỷ và " ++
    "hoàn tiền vẫn hiện số tiền đã thu, kèm số tiền đã hoàn và lúc hoàn trên cùng dòng — cả " ++
    "hai việc đều đã xảy ra. Ngày được cắt theo lúc mở đơn, không phải theo lúc thu tiền: " ++
    "đơn mở hôm trước mà thu tiền hôm sau vẫn nằm ở ngày mở, và đơn mở trước ngày đầu hay " ++
    "sau ngày cuối không có trong tệp dù được thu tiền trong khoảng này. Vì vậy tổng tiền " ++
    "trong tệp này không bằng tổng các ô “tiền đã thu hôm nay” trên màn hình Hôm nay — ô đó " ++
    "cộng theo lúc thu. Hai con số trả lời hai câu hỏi khác nhau, không phải một con số sai. " ++
    "Bản xuất không kèm lời khách phàn nàn, không kèm mô tả bằng chứng và không kèm mã liên " ++
    "hệ của khách — những phần đó nằm trong lịch xoá dữ liệu, và một bản sao mang ra ngoài " ++
    "sẽ không còn được lịch đó bảo vệ."
  moneySources := []
  moneyLineVi := ""

/-- `_retired_statement`, kept only to recognise an envelope that binds it. -/
def retiredStatement (facts : ExportFacts) : Value := .dataclass (statementFields retiredShape facts)

end NhaTrangLaundry.Db.Exports
