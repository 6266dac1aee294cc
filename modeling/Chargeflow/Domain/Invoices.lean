import Chargeflow.Foundation.Table
import Chargeflow.Foundation.Calendar

/-!
# Invoices

The rows of the invoice and invoice line tables, and the status machine of an invoice.
-/

namespace Chargeflow

open Foundation

/-- `InvoiceStatus`. -/
inductive InvoiceStatus where
  | draft
  | issued
  | paid
  | failed
  | overdue
  | canceled
  deriving DecidableEq

/-- The text stored for an invoice status. -/
def InvoiceStatus.value : InvoiceStatus → String
  | draft => "draft"
  | issued => "issued"
  | paid => "paid"
  | failed => "failed"
  | overdue => "overdue"
  | canceled => "canceled"

/-- `PAYABLE_INVOICE_STATUSES`: the statuses from which a payment attempt is allowed. -/
def payableInvoiceStatuses : List InvoiceStatus := [.issued, .failed, .overdue]

/-- `INVOICE_TRANSITIONS`: the statuses an invoice may move to. -/
def invoiceTransitions : InvoiceStatus → List InvoiceStatus
  | .draft => [.issued, .canceled]
  | .issued => [.paid, .failed, .overdue, .canceled]
  | .failed => [.issued, .paid, .overdue, .canceled]
  | .overdue => [.paid, .canceled]
  | .paid => []
  | .canceled => []

/-- A row of the invoice table.  The total is a number of hundredths. -/
structure Invoice where
  id : ℕ
  organizationId : ℕ
  subscriptionId : ℕ
  status : InvoiceStatus
  total : ℤ
  currency : String
  periodStart : DateTime
  periodEnd : DateTime
  issuedAt : Option DateTime
  paidAt : Option DateTime

/-- A row of the invoice line table. -/
structure InvoiceLine where
  id : ℕ
  organizationId : ℕ
  invoiceId : ℕ
  description : String
  amount : ℤ

/-- The primary key of an invoice. -/
instance : Keyed Invoice := ⟨Invoice.id, fun n i => { i with id := n }, fun _ _ => rfl⟩

/-- The primary key of an invoice line. -/
instance : Keyed InvoiceLine := ⟨InvoiceLine.id, fun n l => { l with id := n }, fun _ _ => rfl⟩

/-- The key of an invoice, as a field. -/
@[simp] theorem key_invoice (i : Invoice) : key i = i.id := rfl

/-- An invoice a payment may be attempted on. -/
def Invoice.Payable (i : Invoice) : Prop := i.status ∈ payableInvoiceStatuses

/-- Whether an invoice is payable can be computed. -/
instance (i : Invoice) : Decidable i.Payable := by
  unfold Invoice.Payable; infer_instance

/-- The statuses in which an invoice can be paid. -/
theorem Invoice.payable_iff {i : Invoice} :
    i.Payable ↔ i.status = .issued ∨ i.status = .failed ∨ i.status = .overdue := by
  simp [Invoice.Payable, payableInvoiceStatuses]

/-- The fields `transition_to` writes: the status, and the time of issue or of payment. -/
def Invoice.stamp (i : Invoice) (newStatus : InvoiceStatus) (now : DateTime) : Invoice :=
  { i with
    status := newStatus
    issuedAt := if newStatus = .issued then some now else i.issuedAt
    paidAt := if newStatus = .paid then some now else i.paidAt }

end Chargeflow
