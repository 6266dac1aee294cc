import Chargeflow.System.Settling

/-!
# Dunning commits

In a reachable database a turn of dunning commits for every invoice.  The rows it moves are read
under the lock, so their transitions are legal and win their compare-and-set; the subscription it
cancels still has its customer and its plan, so the save of the reason passes `clean`.
-/

namespace Chargeflow

open Foundation

/-! ## Cancellation -/

/-- The loop of `cancel_open_for_subscription` commits.  The induction is on the list: the rows
still to come are untouched by the transitions made so far. -/
theorem cancelLoop_commits {l : List Invoice} {db : Db} (hmem : ∀ i ∈ l, i ∈ db.invoices)
    (hnodup : l.Nodup) (hopen : ∀ i ∈ l, i.status ∈ InvoiceService.openInvoiceStatuses)
    (now : DateTime) :
    ∃ db', l.foldlM (fun db invoice => do
        let (db, _) ← invoice.transitionTo db .canceled now
        return db) db = (.ok db' : Except Err Db) := by
  induction l generalizing db with
  | nil => exact ⟨db, rfl⟩
  | cons a l ih =>
    have ha : a ∈ db.invoices := hmem a List.mem_cons_self
    obtain ⟨hal, hnodup'⟩ := List.nodup_cons.mp hnodup
    have hedge : InvoiceStatus.canceled ∈ invoiceTransitions a.status := by
      have hstatus := hopen a List.mem_cons_self
      simp only [InvoiceService.openInvoiceStatuses, List.mem_cons, List.not_mem_nil, or_false]
        at hstatus
      rcases hstatus with h | h | h <;> simp [h, invoiceTransitions]
    have hget : db.invoices.get? a.id = some a := Table.get?_key ha
    have hmoved : a.transitionTo db .canceled now =
        .ok ({ db with invoices := db.invoices.update (a.stamp .canceled now) },
          a.stamp .canceled now) := by
      simp only [Invoice.transitionTo, hget, if_pos hedge, if_true]
    have hrest : ∀ i ∈ l, i ∈
        ({ db with invoices := db.invoices.update (a.stamp .canceled now) } : Db).invoices :=
      fun i hi => (Table.mem_update_of_mem ha (by rfl)).mpr
        (Or.inr ⟨hmem i (List.mem_cons_of_mem _ hi), fun h => hal (h ▸ hi)⟩)
    obtain ⟨db', hdb'⟩ := ih hrest hnodup' fun i hi => hopen i (List.mem_cons_of_mem _ hi)
    refine ⟨db', ?_⟩
    rw [List.foldlM_cons, hmoved]
    exact hdb'

/-- The cancellation of the open invoices always commits. -/
theorem InvoiceService.cancelOpenForSubscription_commits (db : Db) (subscriptionId : ℕ)
    (now : DateTime) : ∃ db', cancelOpenForSubscription db subscriptionId now = .ok db' := by
  refine cancelLoop_commits ?_ (Table.nodup_filter _) ?_ now
  · intro i hi
    exact (Table.mem_filter.mp hi).1
  · intro i hi
    have htest := (Table.mem_filter.mp hi).2
    simp only [Bool.and_eq_true, decide_eq_true_eq] at htest
    exact htest.2

/-- The save of a stored subscription that keeps its parents and its organization. -/
theorem Subscription.save_commits {db : Db} {s s' : Subscription}
    {fields : List SubscriptionField} (h : Tenancy db) (hs : s ∈ db.subscriptions)
    (hid : s'.id = s.id) (horg : s'.organizationId = s.organizationId)
    (hcustomer : s'.customerId = s.customerId) (hplan : s'.planId = s.planId) :
    ∃ db', Subscription.save db fields s' = .ok db' := by
  obtain ⟨customer, hc, hcid, hcorg⟩ := h.customer s hs
  obtain ⟨plan, hp, hpid, hporg⟩ := h.plan s hs
  have hfetchS : fetch db.subscriptions "Subscription" s'.id = .ok s :=
    fetch_eq_ok_iff.mpr ⟨hs, hid.symm⟩
  have hfetchC : fetch db.customers "Customer" s'.customerId = .ok customer :=
    fetch_eq_ok_iff.mpr ⟨hc, hcid.trans hcustomer.symm⟩
  have hfetchP : fetch db.plans "Plan" s'.planId = .ok plan :=
    fetch_eq_ok_iff.mpr ⟨hp, hpid.trans hplan.symm⟩
  have hsame : ¬ (s.customerId ≠ s'.customerId ∨ s.planId ≠ s'.planId) := by
    simp [hcustomer, hplan]
  have hstays : (!db.subscriptions.any fun q =>
      q.id == s'.id && q.organizationId != customer.organizationId) = true := by
    rw [Bool.not_eq_true', Table.any_eq_false]
    intro q hq
    by_contra hmoved
    simp only [Bool.not_eq_false, Bool.and_eq_true, beq_iff_eq, bne_iff_ne] at hmoved
    obtain rfl := Table.eq_of_key_eq hq hs (hmoved.1.trans hid)
    exact hmoved.2 hcorg.symm
  have hown : s'.organizationId = customer.organizationId := horg.trans hcorg.symm
  have hclean : Subscription.clean db (some s'.organizationId) s' =
      .ok { s' with organizationId := customer.organizationId } := by
    simp only [Subscription.clean, hfetchC, hfetchP, ok_bind, checkOrganization, Option.all_some,
      hown, hporg.trans hcorg.symm, beq_self_eq_true, ensure, if_true, hstays]
    rfl
  unfold Subscription.save
  rw [hfetchS, ok_bind, if_neg hsame, hclean]
  exact ⟨_, rfl⟩

/-- The cancellation of an open subscription commits. -/
theorem SubscriptionService.cancel_commits {db : Db} {s : Subscription} (h : Tenancy db)
    (hs : s ∈ db.subscriptions) (hopen : s.status ≠ .canceled) (reason : CancellationReason)
    (now : DateTime) : ∃ db', cancel db s.id reason now = .ok db' := by
  have hget : db.subscriptions.get? s.id = some s := Table.get?_key hs
  have hedge : SubscriptionStatus.canceled ∈ subscriptionTransitions s.status := by
    cases hstatus : s.status with
    | canceled => exact absurd hstatus hopen
    | _ => simp [subscriptionTransitions]
  have hmoved : s.transitionTo db .canceled now =
      .ok ({ db with subscriptions := db.subscriptions.update (s.stamp .canceled now) },
        s.stamp .canceled now) := by
    simp only [Subscription.transitionTo, hget, if_pos hedge, if_true]
  have hrow : s.stamp .canceled now ∈ db.subscriptions.update (s.stamp .canceled now) :=
    Table.mem_update_self hs rfl
  have htenancy : Tenancy
      { db with subscriptions := db.subscriptions.update (s.stamp .canceled now) } :=
    h.updateSubscription hs rfl rfl rfl rfl
  obtain ⟨db₁, hsave⟩ : ∃ db₁, Subscription.save _ [.canceledReason]
      { s.stamp .canceled now with canceledReason := some reason } = .ok db₁ :=
    Subscription.save_commits htenancy hrow rfl rfl rfl rfl
  obtain ⟨db₂, hclose⟩ :=
    InvoiceService.cancelOpenForSubscription_commits db₁ s.id now
  refine ⟨db₂, ?_⟩
  simp only [cancel, fetch, hget, ok_bind, hmoved]
  exact bind_eq_ok_iff.mpr ⟨db₁, hsave, hclose⟩

/-! ## Dunning -/

namespace InvoiceService

/-- A FAILED invoice can be marked OVERDUE. -/
theorem markOverdue_of_failed {db : Db} {i : Invoice} {now : DateTime} (hi : i ∈ db.invoices)
    (hfailed : i.status = .failed) :
    markOverdue db i.id now =
      .ok { db with invoices := db.invoices.update (i.stamp .overdue now) } := by
  have hget : db.invoices.get? i.id = some i := Table.get?_key hi
  have hedge : InvoiceStatus.overdue ∈ invoiceTransitions i.status := by
    simp [hfailed, invoiceTransitions]
  simp only [markOverdue, fetch, hget, ok_bind, hfailed, ne_eq, not_true_eq_false, if_false,
    Invoice.transitionTo]
  rw [if_pos (by rwa [hfailed] at hedge)]
  rfl

/-- A FAILED invoice can be reissued and is handed to a worker. -/
theorem reissueForRetry_of_failed {db : Db} {i : Invoice} {now : DateTime} (hi : i ∈ db.invoices)
    (hfailed : i.status = .failed) :
    reissueForRetry db i.id now =
      .ok (handOff { db with invoices := db.invoices.update (i.stamp .issued now) } i.id) := by
  have hget : db.invoices.get? i.id = some i := Table.get?_key hi
  have hedge : InvoiceStatus.issued ∈ invoiceTransitions i.status := by
    simp [hfailed, invoiceTransitions]
  simp only [reissueForRetry, fetch, hget, ok_bind, hfailed, ne_eq, not_true_eq_false, if_false,
    Invoice.transitionTo]
  rw [if_pos (by rwa [hfailed] at hedge)]
  rfl

end InvoiceService

/-- A turn of dunning commits for every invoice. -/
theorem dunInvoice_commits {db : Db} {i : Invoice} (h : Tenancy db) (hi : i ∈ db.invoices)
    (now : DateTime) : ∃ db', dunInvoice db i.id now = .ok db' := by
  obtain ⟨s, hs, hsid, -⟩ := h.subscription i hi
  have hfetchI : fetch db.invoices "Invoice" i.id = .ok i := fetch_key hi
  have hfetchS : fetch db.subscriptions "Subscription" i.subscriptionId = .ok s :=
    fetch_eq_ok_iff.mpr ⟨hs, hsid⟩
  unfold dunInvoice
  rw [hfetchI, ok_bind, hfetchS, ok_bind]
  by_cases hfailed : i.status = .failed
  · rw [if_neg (not_not.mpr hfailed)]
    dsimp only
    by_cases hcount : maxDunningAttempts ≤ (db.attempts.filter fun p =>
        p.invoiceId == i.id && p.status == .failed).length
    · rw [if_pos hcount, InvoiceService.markOverdue_of_failed hi hfailed, ok_bind]
      by_cases hopen : s.status = .canceled
      · rw [if_neg (not_not.mpr hopen)]
        exact ⟨_, rfl⟩
      · rw [if_pos hopen]
        have hgivenUp : Tenancy { db with invoices := db.invoices.update (i.stamp .overdue now) } :=
          h.updateInvoice hi rfl rfl rfl
        exact SubscriptionService.cancel_commits hgivenUp hs hopen .nonPayment now
    · rw [if_neg hcount, InvoiceService.reissueForRetry_of_failed hi hfailed]
      exact ⟨_, rfl⟩
  · rw [if_pos hfailed]
    exact ⟨db, rfl⟩

end Chargeflow
