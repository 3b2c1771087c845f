import NhaTrangLaundry.Domain.Settlement
import NhaTrangLaundry.Lib.Outcome
import NhaTrangLaundry.Lib.Uuid

/-! What a cancellation does to money a remedy already moved. -/

namespace NhaTrangLaundry.Domain.CancellationMoney

open Lib Outcome Catalog Settlement

inductive CreditState where
  | unspent
  | spent
  | voided
deriving DecidableEq

inductive CancellationMoneyRefusal where
  | creditChainNotNetted
  | cancellationMoneyChanged
deriving DecidableEq

def cancellationRefusalVi : CancellationMoneyRefusal → String
  | .creditChainNotNetted =>
    "Đơn này dùng khoản giảm trừ của một đơn đã huỷ mà lúc huỷ chưa trừ lại đủ. Huỷ không " ++
    "tính tiền sẽ trả khách hai lần — báo chủ tiệm."
  | .cancellationMoneyChanged =>
    "Số tiền hoàn hoặc khoản giảm trừ của đơn vừa thay đổi. Xem lại số mới rồi bấm Huỷ đơn " ++
    "lần nữa."

inductive MoneyError where
  | refused (code : CancellationMoneyRefusal)
  | valueError (message : String)
  | keyError
  | database
deriving DecidableEq

structure RemedyCreditFact where
  creditId : Uuid
  kind : RemedyKind
  amountVnd : Int
  state : CreditState
  issuerUncovered : Bool
deriving DecidableEq

def face (credits : List RemedyCreditFact) : Int := (credits.map RemedyCreditFact.amountVnd).sum

/-- The four figures of a cancellation without charge, as the sheet showed them. -/
structure CancellationMoneyFigures where
  refundVnd : Int
  nettedVnd : Int
  voidedVnd : Int
  reissuedVnd : Int
deriving DecidableEq

def CancellationMoneyFigures.create (refundVnd nettedVnd voidedVnd reissuedVnd : Int) :
    Except MoneyError CancellationMoneyFigures := do
  require (∀ value ∈ [refundVnd, nettedVnd, voidedVnd, reissuedVnd], wholeVnd value)
    (.valueError "a cancellation figure is a non-negative whole number of đồng")
  .ok ⟨refundVnd, nettedVnd, voidedVnd, reissuedVnd⟩

structure CancellationMoneyPlan where
  voided : List RemedyCreditFact
  netted : List RemedyCreditFact
  refundableVnd : Int
  nettedVnd : Int
  reissued : List RemedyCreditFact
  linesVi : List String
  refusal : Option CancellationMoneyRefusal

namespace CancellationMoneyPlan

def refundVnd (plan : CancellationMoneyPlan) : Int := plan.refundableVnd - plan.nettedVnd

def movesRemedyMoney (plan : CancellationMoneyPlan) : Bool :=
  !plan.voided.isEmpty || !plan.netted.isEmpty || !plan.reissued.isEmpty

def figures (plan : CancellationMoneyPlan) : Except MoneyError CancellationMoneyFigures :=
  CancellationMoneyFigures.create plan.refundVnd plan.nettedVnd (face plan.voided)
    (face plan.reissued)

/-- Refuse before anything is written what may not go through, or what the press was
not shown. -/
def requireAllowed (plan : CancellationMoneyPlan) (expected : Option CancellationMoneyFigures) :
    Except MoneyError PUnit :=
  match plan.refusal, expected with
  | some code, _ => .error (.refused code)
  | none, none =>
    require (plan.movesRemedyMoney = false) (.refused .cancellationMoneyChanged)
  | none, some expected => do
    let figures ← plan.figures
    require (expected = figures) (.refused .cancellationMoneyChanged)

end CancellationMoneyPlan

def remedyKindVi : RemedyKind → String
  | .damageCompensation => "Bồi thường món bị hỏng"
  | .lateDeliveryCredit => "Giảm trừ do giao trễ"
  | .lostItem => "Mất đồ"
  | .freeRewash => "Giặt lại miễn phí"

def creditVi (credit : RemedyCreditFact) : String :=
  remedyKindVi credit.kind ++ " " ++ Text.vndText credit.amountVnd

def nettedLine (netted : List RemedyCreditFact) (refundableVnd nettedVnd : Int) : String :=
  let spent := ", ".intercalate (netted.map creditVi)
  if refundableVnd = 0 then
    "Khoản " ++ spent ++ " khách đã dùng ở đơn khác; đơn này không hoàn tiền nên không có " ++
      "gì để trừ."
  else
    "Trừ khoản " ++ spent ++ " khách đã dùng: hoàn " ++ Text.vndText (refundableVnd - nettedVnd) ++
      " thay vì " ++ Text.vndText refundableVnd ++
      if nettedVnd < face netted then " (không trừ quá số khách đã trả)." else "."

def cancellationMoneyPlan (resolution : Option CustodyResolution) (refundableVnd : Int)
    (issuedFromOrder spentOnOrder : List RemedyCreditFact) :
    Except MoneyError CancellationMoneyPlan := do
  require (wholeVnd refundableVnd)
    (.valueError "the refundable amount is a non-negative whole number of đồng")
  require (∀ credit ∈ issuedFromOrder ++ spentOnOrder, 0 < credit.amountVnd)
    (.valueError "a remedy credit is a positive whole number of đồng")
  if resolution = some .unclaimedDisposed then
    .ok ⟨[], [], refundableVnd, 0, [], [], none⟩
  else
    let voided := issuedFromOrder.filter fun c => c.state = .unspent
    let netted := issuedFromOrder.filter fun c => c.state = .spent
    let nettedVnd := min refundableVnd (face netted)
    let reissued := spentOnOrder.filter fun c => c.state = .spent
    let refusal := if reissued.any RemedyCreditFact.issuerUncovered then
      some CancellationMoneyRefusal.creditChainNotNetted else none
    let lines :=
      voided.map (fun c => "Khoản " ++ creditVi c ++ " khách chưa dùng được huỷ cùng đơn.") ++
      (if netted.isEmpty then [] else [nettedLine netted refundableVnd nettedVnd]) ++
      reissued.map (fun c => "Cấp lại cho khách khoản " ++ creditVi c ++ " đã dùng cho đơn này.")
    .ok ⟨voided, netted, refundableVnd, nettedVnd, reissued,
      match refusal with
      | some code => [cancellationRefusalVi code]
      | none => lines, refusal⟩

lemma cancellationMoneyPlan_ok {resolution : Option CustodyResolution} {refundableVnd : Int}
    {issued spent : List RemedyCreditFact} {plan : CancellationMoneyPlan}
    {figures : CancellationMoneyFigures} (hres : resolution ≠ some .unclaimedDisposed)
    (hplan : cancellationMoneyPlan resolution refundableVnd issued spent = .ok plan)
    (hallowed : plan.requireAllowed (some figures) = .ok ⟨⟩) :
    (∀ credit ∈ issued ++ spent, 0 < credit.amountVnd) ∧
      plan.voided = issued.filter (fun c => c.state = .unspent) ∧
      plan.netted = issued.filter (fun c => c.state = .spent) ∧
      plan.refundableVnd = refundableVnd ∧ plan.nettedVnd = min refundableVnd (face plan.netted) ∧
      ∀ c ∈ spent, c.state = .spent → c.issuerUncovered = false := by
  simp only [cancellationMoneyPlan, bind_ok, require_ok, if_neg hres] at hplan
  obtain ⟨-, -, -, hpos, hplan⟩ := hplan
  cases hplan
  refine ⟨hpos, rfl, rfl, rfl, rfl, ?_⟩
  intro c hc hst
  by_contra hun
  have hany : (spent.filter fun c => c.state = .spent).any RemedyCreditFact.issuerUncovered := by
    rw [List.any_eq_true]
    exact ⟨c, List.mem_filter.mpr ⟨hc, by simpa using hst⟩, by simpa using hun⟩
  simp [CancellationMoneyPlan.requireAllowed, hany] at hallowed

end NhaTrangLaundry.Domain.CancellationMoney
