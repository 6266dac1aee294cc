import Chargeflow.Effects.Saving

/-!
# What the invoice and subscription services do

One lemma per service method: the databases it can leave behind when it commits.  The methods that
start a billing period end in `generateForSubscription`, whose effect is `Billed`; the cancellation
of the open invoices of a subscription is described row by row, by `closeOpen`.
-/

namespace Chargeflow

open Foundation

/-! ## Generating invoices -/

/-- The invoice bills the current period of the subscription. -/
def Invoice.Covers (i : Invoice) (s : Subscription) : Prop :=
  i.subscriptionId = s.id ∧ i.periodStart = s.currentPeriodStart ∧ i.periodEnd = s.currentPeriodEnd

/-- The invoice `generate_for_subscription` leaves behind, apart from its key. -/
def issuedInvoice (plan : Plan) (s : Subscription) (now : DateTime) : Invoice :=
  { InvoiceService.draftInvoice plan s with
    organizationId := s.organizationId
    status := .issued
    issuedAt := some now }

/-- The effect of billing an ACTIVE subscription: its current period has an invoice already, or it
gets one, which is issued and handed to the charge worker. -/
inductive Billed (db db' : Db) (s : Subscription) : Prop
  | already (i : Invoice) (hi : i ∈ db.invoices) (hcovers : i.Covers s) (hdb : db' = db)
  | issued (plan : Plan) (hplan : plan ∈ db.plans) (hplanId : plan.id = s.planId) (now : DateTime)
      (hnone : ∀ i ∈ db.invoices, ¬ i.Covers s)
      (hdb : db' = { db with
        invoices := db.invoices.insert (issuedInvoice plan s now)
        invoiceLines := db.invoiceLines.insert
          { id := 0
            organizationId := s.organizationId
            invoiceId := db.invoices.next
            description := InvoiceService.lineDescription plan s
            amount := plan.price }
        chargeTasks := db.chargeTasks ++ [db.invoices.next] })

/-- The invoices `generate_for_subscription` looks for before it creates one. -/
theorem covers_iff {db : Db} {s : Subscription} {i : Invoice} :
    i ∈ db.invoices.filter (fun i => i.subscriptionId == s.id &&
      i.periodStart == s.currentPeriodStart && i.periodEnd == s.currentPeriodEnd) ↔
      i ∈ db.invoices ∧ i.Covers s := by
  simp [Invoice.Covers, and_assoc]

/-- `generate_for_subscription` bills an ACTIVE subscription and no other. -/
theorem InvoiceService.generateForSubscription_eq_ok {db db' : Db} {subscriptionId : ℕ}
    {now : DateTime} {result : Option Invoice}
    (h : generateForSubscription db subscriptionId now = .ok (db', result)) :
    ∃ s ∈ db.subscriptions, s.id = subscriptionId ∧
      ((s.status ≠ .active ∧ db' = db) ∨ (s.status = .active ∧ Billed db db' s)) := by
  simp only [generateForSubscription, bind_eq_ok_iff, fetch_eq_ok_iff] at h
  obtain ⟨s, ⟨hs, hid⟩, plan, ⟨hplan, hplanId⟩, h⟩ := h
  refine ⟨s, hs, hid, ?_⟩
  split_ifs at h with hactive
  · simp only [pure_eq_ok_iff, Prod.mk.injEq] at h
    exact Or.inl ⟨hactive, h.1.symm⟩
  · refine Or.inr ⟨not_not.mp hactive, ?_⟩
    split at h
    · rename_i i l hfilter
      simp only [pure_eq_ok_iff, Prod.mk.injEq] at h
      have hi : i ∈ db.invoices ∧ i.Covers s := covers_iff.mp (by rw [hfilter]; simp)
      exact Billed.already i hi.1 hi.2 h.1.symm
    · rename_i hfilter
      have hnone : ∀ i ∈ db.invoices, ¬ i.Covers s := fun i hi hc => by
        have := covers_iff.mpr ⟨hi, hc⟩
        rw [hfilter] at this
        simp at this
      simp only [bind_eq_ok_iff, pure_eq_ok_iff, Prod.exists, Prod.mk.injEq] at h
      obtain ⟨db₁, i₁, hcreate, db₂, hline, db₃, i₃, htransition, rfl, -⟩ := h
      obtain ⟨s₁, hs₁, hsid, rfl, rfl⟩ := Invoice.create_eq_ok hcreate
      have hsame : s₁ = s := Table.eq_of_key_eq hs₁ hs hsid
      subst hsame
      obtain ⟨i₂, hi₂, hi₂id, rfl⟩ := InvoiceLine.create_eq_ok hline
      have hi₂eq : i₂ = withKey db.invoices.next _ :=
        Table.eq_of_key_eq hi₂ Table.mem_insert_self hi₂id
      obtain ⟨-, rfl, rfl⟩ := Invoice.transitionTo_eq_ok htransition Table.mem_insert_self
      refine Billed.issued plan hplan hplanId now hnone ?_
      subst hi₂eq
      rw [InvoiceService.handOff, Table.insert_update rfl]
      rfl

/-! ## Canceling the open invoices -/

/-- An open invoice of the subscription is canceled, any other invoice stays as it is. -/
def closeOpen (subscriptionId : ℕ) (i : Invoice) : Invoice :=
  if i.subscriptionId = subscriptionId ∧ i.status ∈ InvoiceService.openInvoiceStatuses then
    { i with status := .canceled }
  else i

/-- Closing an invoice changes nothing but its status. -/
theorem closeOpen_id (subscriptionId : ℕ) (i : Invoice) :
    (closeOpen subscriptionId i).id = i.id := by
  unfold closeOpen
  split_ifs <;> rfl

/-- The loop of `cancel_open_for_subscription` over a list of open invoices.  The induction is on
the list: the rows still to come are untouched by the transitions made so far. -/
theorem cancelLoop_eq_ok {l : List Invoice} {db db' : Db} {now : DateTime}
    (hmem : ∀ i ∈ l, i ∈ db.invoices) (hnodup : l.Nodup)
    (hopen : ∀ i ∈ l, i.status ∈ InvoiceService.openInvoiceStatuses)
    (h : l.foldlM (fun db invoice => do
        let (db, _) ← invoice.transitionTo db .canceled now
        return db) db = (.ok db' : Except Err Db)) :
    ∃ invoices, db' = { db with invoices := invoices } ∧ invoices.next = db.invoices.next ∧
      ∀ j, j ∈ invoices ↔ (∃ i ∈ l, j = { i with status := .canceled }) ∨
        (j ∈ db.invoices ∧ j ∉ l) := by
  induction l generalizing db with
  | nil =>
    simp only [List.foldlM_nil, pure_eq_ok_iff] at h
    exact ⟨db.invoices, by rw [h], rfl, by simp⟩
  | cons a l ih =>
    rw [List.foldlM_cons] at h
    simp only [bind_eq_ok_iff, pure_eq_ok_iff, Prod.exists] at h
    obtain ⟨db₁, ⟨db₁', _, htransition, rfl⟩, h⟩ := h
    have ha : a ∈ db.invoices := hmem a List.mem_cons_self
    obtain ⟨hal, hnodup'⟩ := List.nodup_cons.mp hnodup
    obtain ⟨-, -, rfl⟩ := Invoice.transitionTo_eq_ok htransition ha
    have hupdate : ∀ j, j ∈ db.invoices.update (a.stamp .canceled now) ↔
        j = { a with status := .canceled } ∨ (j ∈ db.invoices ∧ j ≠ a) :=
      fun j => Table.mem_update_of_mem ha rfl
    have hrest : ∀ i ∈ l, i ∈ db.invoices.update (a.stamp .canceled now) := fun i hi =>
      (hupdate i).mpr (Or.inr ⟨hmem i (List.mem_cons_of_mem _ hi), fun h => hal (h ▸ hi)⟩)
    obtain ⟨invoices, rfl, hnext, hrows⟩ :=
      ih hrest hnodup' (fun i hi => hopen i (List.mem_cons_of_mem _ hi)) h
    refine ⟨invoices, rfl, hnext, ?_⟩
    intro j
    rw [hrows, hupdate]
    constructor
    · rintro (⟨i, hi, rfl⟩ | ⟨rfl | ⟨hj, hja⟩, hjl⟩)
      · exact Or.inl ⟨i, List.mem_cons_of_mem _ hi, rfl⟩
      · exact Or.inl ⟨a, List.mem_cons_self, rfl⟩
      · exact Or.inr ⟨hj, by simp [hja, hjl]⟩
    · rintro (⟨i, hi, rfl⟩ | ⟨hj, hjl⟩)
      · rcases List.mem_cons.mp hi with rfl | hi
        · -- a canceled row is not open, so it is not one of the rows still to come
          refine Or.inr ⟨Or.inl rfl, ?_⟩
          intro hcanceled
          have := hopen _ (List.mem_cons_of_mem _ hcanceled)
          simp [InvoiceService.openInvoiceStatuses] at this
        · exact Or.inl ⟨i, hi, rfl⟩
      · rw [List.mem_cons, not_or] at hjl
        exact Or.inr ⟨Or.inr ⟨hj, hjl.1⟩, hjl.2⟩

/-- `cancel_open_for_subscription` closes the open invoices of the subscription. -/
theorem InvoiceService.cancelOpenForSubscription_eq_ok {db db' : Db} {subscriptionId : ℕ}
    {now : DateTime} (h : cancelOpenForSubscription db subscriptionId now = .ok db') :
    ∃ invoices, db' = { db with invoices := invoices } ∧ invoices.next = db.invoices.next ∧
      ∀ j, j ∈ invoices ↔ ∃ i ∈ db.invoices, j = closeOpen subscriptionId i := by
  have hlist : ∀ i, i ∈ (db.invoices.filter fun i =>
      i.subscriptionId == subscriptionId && decide (i.status ∈ openInvoiceStatuses)) ↔
      i ∈ db.invoices ∧ i.subscriptionId = subscriptionId ∧ i.status ∈ openInvoiceStatuses := by
    intro i
    simp
  obtain ⟨invoices, hdb, hnext, hrows⟩ := cancelLoop_eq_ok
    (fun i hi => ((hlist i).mp hi).1) (Table.nodup_filter _)
    (fun i hi => ((hlist i).mp hi).2.2) h
  refine ⟨invoices, hdb, hnext, ?_⟩
  intro j
  rw [hrows]
  constructor
  · rintro (⟨i, hi, rfl⟩ | ⟨hj, hjl⟩)
    · obtain ⟨hi, hopen⟩ := (hlist i).mp hi
      exact ⟨i, hi, by rw [closeOpen, if_pos hopen]⟩
    · exact ⟨j, hj, by rw [closeOpen, if_neg fun hopen => hjl ((hlist j).mpr ⟨hj, hopen⟩)]⟩
  · rintro ⟨i, hi, rfl⟩
    unfold closeOpen
    split_ifs with hopen
    · exact Or.inl ⟨i, (hlist i).mpr ⟨hi, hopen⟩, rfl⟩
    · exact Or.inr ⟨hi, fun hil => hopen ((hlist i).mp hil).2⟩

/-! ## Invoice transitions -/

namespace InvoiceService

/-- A stored invoice is paid once. -/
theorem markPaid_eq_ok {db db' : Db} {i : Invoice} {now : DateTime}
    (h : markPaid db i.id now = .ok db') (hi : i ∈ db.invoices) :
    (i.status = .paid ∧ db' = db) ∨
      (i.status ≠ .paid ∧
        db' = { db with invoices := db.invoices.update (i.stamp .paid now) }) := by
  simp only [markPaid, bind_eq_ok_iff, fetch_eq_ok_iff] at h
  obtain ⟨j, ⟨hj, hid⟩, h⟩ := h
  obtain rfl := Table.eq_of_key_eq hj hi hid
  split_ifs at h with hpaid
  · exact Or.inl ⟨hpaid, (pure_eq_ok_iff.mp h).symm⟩
  · simp only [bind_eq_ok_iff, pure_eq_ok_iff, Prod.exists] at h
    obtain ⟨db₁, i₁, htransition, rfl⟩ := h
    exact Or.inr ⟨hpaid, (Invoice.transitionTo_eq_ok htransition hi).2.2⟩

/-- Only an ISSUED invoice fails. -/
theorem markFailed_eq_ok {db db' : Db} {i : Invoice} {now : DateTime}
    (h : markFailed db i.id now = .ok db') (hi : i ∈ db.invoices) :
    (i.status ≠ .issued ∧ db' = db) ∨ (i.status = .issued ∧
      db' = { db with invoices := db.invoices.update (i.stamp .failed now) }) := by
  simp only [markFailed, bind_eq_ok_iff, fetch_eq_ok_iff] at h
  obtain ⟨j, ⟨hj, hid⟩, h⟩ := h
  obtain rfl := Table.eq_of_key_eq hj hi hid
  split_ifs at h with hissued
  · exact Or.inl ⟨hissued, (pure_eq_ok_iff.mp h).symm⟩
  · simp only [bind_eq_ok_iff, pure_eq_ok_iff, Prod.exists] at h
    obtain ⟨db₁, i₁, htransition, rfl⟩ := h
    exact Or.inr ⟨not_not.mp hissued, (Invoice.transitionTo_eq_ok htransition hi).2.2⟩

/-- A FAILED invoice that dunning gives up becomes OVERDUE. -/
theorem markOverdue_eq_ok {db db' : Db} {i : Invoice} {now : DateTime}
    (h : markOverdue db i.id now = .ok db') (hi : i ∈ db.invoices) (hfailed : i.status = .failed) :
    db' = { db with invoices := db.invoices.update (i.stamp .overdue now) } := by
  simp only [markOverdue, bind_eq_ok_iff, fetch_eq_ok_iff] at h
  obtain ⟨j, ⟨hj, hid⟩, h⟩ := h
  obtain rfl := Table.eq_of_key_eq hj hi hid
  rw [if_neg (not_not.mpr hfailed)] at h
  simp only [bind_eq_ok_iff, pure_eq_ok_iff, Prod.exists] at h
  obtain ⟨db₁, i₁, htransition, rfl⟩ := h
  exact (Invoice.transitionTo_eq_ok htransition hi).2.2

/-- A FAILED invoice that is reissued is handed to the charge worker again. -/
theorem reissueForRetry_eq_ok {db db' : Db} {i : Invoice} {now : DateTime}
    (h : reissueForRetry db i.id now = .ok db') (hi : i ∈ db.invoices)
    (hfailed : i.status = .failed) :
    db' = handOff { db with invoices := db.invoices.update (i.stamp .issued now) } i.id := by
  simp only [reissueForRetry, bind_eq_ok_iff, fetch_eq_ok_iff] at h
  obtain ⟨j, ⟨hj, hid⟩, h⟩ := h
  obtain rfl := Table.eq_of_key_eq hj hi hid
  rw [if_neg (not_not.mpr hfailed)] at h
  simp only [bind_eq_ok_iff, pure_eq_ok_iff, Prod.exists] at h
  obtain ⟨db₁, i₁, htransition, rfl⟩ := h
  rw [(Invoice.transitionTo_eq_ok htransition hi).2.2]

end InvoiceService

/-! ## Billing periods -/

namespace SubscriptionService

/-- A later month, or the same month of a later year. -/
theorem addMonths_lt {dt e : DateTime} {months : ℕ} (hmonths : 0 < months)
    (h : addMonths dt months = .ok e) : dt < e := by
  simp only [addMonths] at h
  split at h
  · rename_i date hdate
    simp only [Except.ok.injEq] at h
    obtain ⟨hy, hm, -⟩ := Date.ofYmd?_eq_some hdate
    have hmonth := dt.date.valid.2.1
    subst h
    refine DateTime.lt_onDate ?_
    by_cases hyear : dt.date.year < date.year
    · exact Date.ordinal_lt_of_year_lt hyear
    · exact Date.ordinal_lt_of_month_lt (by omega) (by omega)
  · simp at h

/-- Some days later is later. -/
theorem addDays_lt {dt e : DateTime} {n : ℕ} (hn : 0 < n) (h : addDays dt n = .ok e) : dt < e := by
  unfold addDays at h
  split_ifs at h
  split at h
  · rename_i t ht
    simp only [Except.ok.injEq] at h
    rw [← h]
    exact DateTime.lt_addDays hn ht
  · simp at h

/-- A billing period ends after it starts. -/
theorem computePeriodEnd_lt {start e : DateTime} {plan : Plan}
    (h : computePeriodEnd start plan = .ok e) : start < e := by
  unfold computePeriodEnd at h
  split at h
  · exact addDays_lt (by decide) h
  · exact addDays_lt (by decide) h
  · exact addMonths_lt (by decide) h
  · exact addMonths_lt (by decide) h
  · exact addDays_lt (by decide) h

end SubscriptionService

end Chargeflow
