import Chargeflow.Application.Cycles
import Chargeflow.System.Tenancy

/-!
# What a handler of a cycle does

When a subscription enters its next period, the plan alone decides what it is billed, and whether it
can be: the period may reach beyond the calendar, and the text of the line beyond its column.
-/

namespace Chargeflow

open Foundation

/-- A subscription in its new period, and the plan it is billed by. -/
structure Bill where
  subscription : Subscription
  plan : Plan

/-- The invoice of the new period, apart from its key. -/
def Bill.invoice (b : Bill) (issuedAt : DateTime) : Invoice :=
  issuedInvoice b.plan b.subscription issuedAt

/-- The line of the invoice, apart from its key. -/
def Bill.line (b : Bill) (invoiceId : ℕ) : InvoiceLine where
  id := 0
  organizationId := b.subscription.organizationId
  invoiceId := invoiceId
  description := InvoiceService.lineDescription b.plan b.subscription
  amount := b.plan.price

/-- The period is billed, and the charge handed to the worker. -/
def Bill.issue (issuedAt : DateTime) (db : Db) (b : Bill) : Db :=
  { db with
    invoices := db.invoices.insert (b.invoice issuedAt)
    invoiceLines := db.invoiceLines.insert (b.line db.invoices.next)
    chargeTasks := db.chargeTasks ++ [db.invoices.next] }

/-- The subscription enters its new period, which is billed. -/
def Bill.apply (issuedAt : DateTime) (db : Db) (b : Bill) : Db :=
  Bill.issue issuedAt { db with subscriptions := db.subscriptions.update b.subscription } b

/-- What a subscription is billed that enters its next period. -/
def nextBill (db : Db) (now : DateTime) (s : Subscription) : Option Bill :=
  match db.plans.get? s.planId with
  | none => none
  | some plan =>
    match SubscriptionService.computePeriodEnd now plan with
    | .error _ => none
    | .ok e =>
      let bill : Bill := ⟨(s.stamp .active now).inPeriod now e, plan⟩
      if (InvoiceService.lineDescription bill.plan bill.subscription).length ≤ 255 then some bill
      else none

variable {db : Db} {s : Subscription} {plan : Plan} {now issuedAt : DateTime}

/-- The bill of a subscription: a period from now on, at the plan of the subscription. -/
theorem nextBill_eq_some {b : Bill} (h : nextBill db now s = some b) :
    ∃ e, SubscriptionService.computePeriodEnd now b.plan = .ok e ∧
      b.subscription = (s.stamp .active now).inPeriod now e ∧ b.plan ∈ db.plans ∧
      b.plan.id = s.planId := by
  unfold nextBill at h
  split at h
  case h_1 => cases h
  rename_i plan hplan
  split at h
  case h_1 => cases h
  rename_i e he
  dsimp only at h
  split_ifs at h
  obtain rfl := Option.some.inj h
  obtain ⟨hmem, hid⟩ := Table.get?_eq_some_iff.mp hplan
  exact ⟨e, he, rfl, hmem, hid⟩

/-! ## Billing a period that is not billed yet -/

/-- A first invoice of the current period can be created. -/
theorem Invoice.create_of_none (hs : s ∈ db.subscriptions) {i : Invoice} (hid : i.id = 0)
    (hsub : i.subscriptionId = s.id) (hnone : ∀ j ∈ db.invoices, ¬ (j.subscriptionId = s.id ∧
      j.periodStart = i.periodStart ∧ j.periodEnd = i.periodEnd)) :
    Invoice.create db i = .ok ({ db with
      invoices := db.invoices.insert { i with organizationId := s.organizationId } },
      withKey db.invoices.next { i with organizationId := s.organizationId }) := by
  have hfetch : fetch db.subscriptions "Subscription" i.subscriptionId = .ok s :=
    hsub ▸ fetch_key hs
  have hold : db.invoices.any (fun q => q.id == i.id &&
      q.organizationId != s.organizationId) = false := by
    refine Table.any_eq_false.mpr fun q hq => ?_
    have hpos : q.id ≠ 0 := Nat.pos_iff_ne_zero.mp (db.invoices.key_pos q hq)
    simp [hid, hpos]
  have hfree : db.invoices.any (fun q => q.subscriptionId == i.subscriptionId &&
      q.periodStart == i.periodStart && q.periodEnd == i.periodEnd) = false := by
    refine Table.any_eq_false.mpr fun q hq => ?_
    have := hnone q hq
    simp only [Bool.and_eq_false_iff, beq_eq_false_iff_ne]
    rw [hsub]
    tauto
  have hclean : Invoice.clean db none i = .ok { i with organizationId := s.organizationId } := by
    unfold Invoice.clean
    rw [hfetch]
    simp only [ok_bind]
    rw [hold]
    rfl
  unfold Invoice.create
  rw [hclean]
  simp only [ok_bind]
  rw [hfree]
  rfl

/-- A line of a stored invoice can be created if its text fits. -/
theorem InvoiceLine.create_of_mem {i : Invoice} (hi : i ∈ db.invoices) {l : InvoiceLine}
    (hl : l.invoiceId = i.id) :
    InvoiceLine.create db l = if l.description.length ≤ 255 then
      .ok { db with
        invoiceLines := db.invoiceLines.insert { l with organizationId := i.organizationId } }
      else .error (.dataError "description") := by
  have hfetch : fetch db.invoices "Invoice" l.invoiceId = .ok i := hl ▸ fetch_key hi
  unfold InvoiceLine.create checkLength ensure
  rw [hfetch, ok_bind]
  by_cases hfits : l.description.length ≤ 255
  · simp only [hfits, decide_true, if_true, ok_bind]
    rfl
  · simp only [hfits, decide_false, Bool.false_eq_true, if_false]
    rfl

/-- A stored invoice moves along every edge of its transition table. -/
theorem Invoice.transitionTo_of_mem {i : Invoice} (hi : i ∈ db.invoices)
    {newStatus : InvoiceStatus} (hedge : newStatus ∈ invoiceTransitions i.status) :
    i.transitionTo db newStatus now = .ok
      ({ db with invoices := db.invoices.update (i.stamp newStatus now) },
        i.stamp newStatus now) := by
  have hget : db.invoices.get? i.id = some i := Table.get?_key hi
  unfold Invoice.transitionTo
  rw [if_pos hedge, hget]
  exact if_pos rfl

/-- A stored subscription moves along every edge of its transition table. -/
theorem Subscription.transitionTo_of_mem (hs : s ∈ db.subscriptions)
    {newStatus : SubscriptionStatus} (hedge : newStatus ∈ subscriptionTransitions s.status) :
    s.transitionTo db newStatus now = .ok
      ({ db with subscriptions := db.subscriptions.update (s.stamp newStatus now) },
        s.stamp newStatus now) := by
  have hget : db.subscriptions.get? s.id = some s := Table.get?_key hs
  unfold Subscription.transitionTo
  rw [if_pos hedge, hget]
  exact if_pos rfl

/-- An ACTIVE subscription whose period is not billed yet is billed, if the text of the line fits
its column. -/
theorem InvoiceService.generateForSubscription_of_none (hs : s ∈ db.subscriptions)
    (hactive : s.status = .active) (hplan : plan ∈ db.plans) (hplanId : plan.id = s.planId)
    (hnone : ∀ i ∈ db.invoices, ¬ i.Covers s) :
    if (lineDescription plan s).length ≤ 255 then
      ∃ result, generateForSubscription db s.id issuedAt =
        .ok (Bill.issue issuedAt db ⟨s, plan⟩, result)
    else generateForSubscription db s.id issuedAt = .error (.dataError "description") := by
  have hfetch : fetch db.subscriptions "Subscription" s.id = .ok s := fetch_key hs
  have hfetchPlan : fetch db.plans "Plan" s.planId = .ok plan := hplanId ▸ fetch_key hplan
  have hfilter : (db.invoices.filter fun i => i.subscriptionId == s.id &&
      i.periodStart == s.currentPeriodStart && i.periodEnd == s.currentPeriodEnd) = [] := by
    refine List.eq_nil_iff_forall_not_mem.mpr fun i hi => ?_
    obtain ⟨hmem, hcovers⟩ := covers_iff.mp hi
    exact hnone i hmem hcovers
  have hcreate := Invoice.create_of_none (i := draftInvoice plan s) hs rfl rfl hnone
  unfold generateForSubscription
  simp only [hfetch, hfetchPlan, ok_bind, hactive, ne_eq, not_true_eq_false, if_false, hfilter,
    hcreate]
  rw [InvoiceLine.create_of_mem Table.mem_insert_self rfl]
  split_ifs with hfits
  · simp only [ok_bind]
    have hedge : InvoiceStatus.issued ∈ invoiceTransitions .draft := by decide
    rw [Invoice.transitionTo_of_mem Table.mem_insert_self hedge]
    refine ⟨_, congrArg (fun db' => Except.ok (db', _)) ?_⟩
    dsimp only [handOff, Bill.issue]
    rw [Table.insert_update rfl]
    rfl
  · rfl

/-! ## Entering the next period -/

/-- A subscription that keeps its customer, its plan and its organization can be saved. -/
theorem Subscription.save_of_mem (hdb : Tenancy db) (hs : s ∈ db.subscriptions)
    (fields : List SubscriptionField) (s' : Subscription) (hid : s'.id = s.id)
    (hcustomer : s'.customerId = s.customerId) (hplan : s'.planId = s.planId)
    (horganization : s'.organizationId = s.organizationId) :
    Subscription.save db fields s' = .ok
      { db with subscriptions := db.subscriptions.update (s.merge fields s') } := by
  have hfetch : fetch db.subscriptions "Subscription" s'.id = .ok s := hid ▸ fetch_key hs
  obtain ⟨c, hc, hcid, hcorg⟩ := hdb.customer s hs
  obtain ⟨p, hp, hpid, hporg⟩ := hdb.plan s hs
  have hfetchCustomer : fetch db.customers "Customer" s'.customerId = .ok c :=
    fetch_eq_ok_iff.mpr ⟨hc, hcid.trans hcustomer.symm⟩
  have hfetchPlan : fetch db.plans "Plan" s'.planId = .ok p :=
    fetch_eq_ok_iff.mpr ⟨hp, hpid.trans hplan.symm⟩
  have hstays : db.subscriptions.any (fun q => q.id == s'.id &&
      q.organizationId != c.organizationId) = false := by
    refine Table.any_eq_false.mpr fun q hq => ?_
    by_cases hqid : q.id = s.id
    · obtain rfl := Table.eq_of_key_eq hq hs hqid
      simp [hcorg]
    · simp [hid, hqid]
  have hagree : (p.organizationId == c.organizationId) = true := by simp [hporg, hcorg]
  have hown : (some s'.organizationId).all (· == c.organizationId) = true := by
    simp [horganization, hcorg]
  have hclean : Subscription.clean db (some s'.organizationId) s' =
      .ok { s' with organizationId := c.organizationId } := by
    unfold Subscription.clean checkOrganization
    rw [hfetchCustomer, ok_bind, hfetchPlan, ok_bind, hagree, hown, hstays]
    rfl
  unfold Subscription.save
  rw [hfetch, ok_bind, if_neg (by simp [hcustomer, hplan])]
  rw [hclean]
  rfl

/-- An ACTIVE subscription stays as it is when it becomes ACTIVE. -/
theorem Subscription.stamp_active (h : s.status = .active) : s.stamp .active now = s := by
  cases s
  cases h
  rfl

/-- An ACTIVE subscription enters its next period, unless the period cannot be billed. -/
theorem SubscriptionService.startPeriod_of_none (hdb : Tenancy db) (hs : s ∈ db.subscriptions)
    (hactive : s.status = .active) (hplan : plan ∈ db.plans) (hplanId : plan.id = s.planId)
    (hnone : ∀ e, now < e → ∀ i ∈ db.invoices, ¬ i.Covers (s.inPeriod now e)) :
    match nextBill db now s with
    | some b => startPeriod db s plan now issuedAt = .ok (b.apply issuedAt db)
    | none => ∃ e, startPeriod db s plan now issuedAt = .error e := by
  have hget : db.plans.get? s.planId = some plan := Table.get?_eq_some_iff.mpr ⟨hplan, hplanId⟩
  unfold nextBill
  rw [hget, Subscription.stamp_active hactive]
  dsimp only
  cases he : computePeriodEnd now plan with
  | error e =>
    refine ⟨e, ?_⟩
    unfold startPeriod
    rw [he]
    rfl
  | ok e =>
    have hsave := Subscription.save_of_mem hdb hs [.currentPeriodStart, .currentPeriodEnd]
      (s.inPeriod now e) rfl rfl rfl rfl
    have hmerge : s.merge [.currentPeriodStart, .currentPeriodEnd] (s.inPeriod now e) =
        s.inPeriod now e := rfl
    rw [hmerge] at hsave
    have hgenerate := @InvoiceService.generateForSubscription_of_none
      { db with subscriptions := db.subscriptions.update (s.inPeriod now e) } (s.inPeriod now e)
      plan issuedAt (Table.mem_update_self hs rfl) hactive hplan hplanId
      (hnone e (computePeriodEnd_lt he))
    have hid : (s.inPeriod now e).id = s.id := rfl
    rw [hid] at hgenerate
    have hstart : startPeriod db s plan now issuedAt =
        (InvoiceService.generateForSubscription
          { db with subscriptions := db.subscriptions.update (s.inPeriod now e) }
          s.id issuedAt).map Prod.fst := by
      have hperiod : { s with currentPeriodStart := now, currentPeriodEnd := e } =
          s.inPeriod now e := rfl
      unfold startPeriod
      rw [he, ok_bind, hperiod, hsave, ok_bind]
      cases InvoiceService.generateForSubscription _ s.id issuedAt <;> rfl
    dsimp only
    split_ifs at hgenerate with hfits
    · obtain ⟨result, hgenerate⟩ := hgenerate
      rw [if_pos hfits]
      dsimp only
      rw [hstart, hgenerate]
      rfl
    · rw [if_neg hfits]
      dsimp only
      rw [hstart, hgenerate]
      exact ⟨_, rfl⟩

/-! ## The handlers -/

/-- The older periods of a subscription have ended. -/
def Ended (db : Db) (now : DateTime) (s : Subscription) : Prop :=
  ∀ i ∈ db.invoices, i.subscriptionId = s.id → i.periodEnd ≤ now

/-- No period that starts now is billed yet. -/
theorem Ended.not_covers (h : Ended db now s) {e : DateTime} (he : now < e) :
    ∀ i ∈ db.invoices, ¬ i.Covers (s.inPeriod now e) := by
  rintro i hi ⟨hsub, -, hend⟩
  have hle := h i hi hsub
  rw [hend] at hle
  exact absurd he (not_lt.mpr hle)

/-- The bill does not look at the status of the subscription. -/
theorem nextBill_stamp (now : DateTime) (s : Subscription) :
    nextBill db now (s.stamp .active now) = nextBill db now s := by
  have hstamp : (s.stamp .active now).stamp .active now = s.stamp .active now :=
    Subscription.stamp_active rfl
  unfold nextBill
  rw [hstamp]
  rfl

/-- The handler of a cycle bills a subscription that the cycle lists, unless it cannot be billed. -/
theorem Cycle.handler_of_selects {cycle : Cycle} (hdb : Tenancy db) (hs : s ∈ db.subscriptions)
    (hselects : cycle.selects now s = true) (hended : Ended db now s) :
    match nextBill db now s with
    | some b => cycle.handler now db s.id = .ok (b.apply now db)
    | none => ∃ e, cycle.handler now db s.id = .error e := by
  obtain ⟨plan, hplan, hplanId, -⟩ := hdb.plan s hs
  have hfetch : fetch db.subscriptions "Subscription" s.id = .ok s := fetch_key hs
  have hfetchPlan : fetch db.plans "Plan" s.planId = .ok plan :=
    fetch_eq_ok_iff.mpr ⟨hplan, hplanId⟩
  unfold selects at hselects
  rw [Bool.and_eq_true, beq_iff_eq, decide_eq_true_eq] at hselects
  obtain ⟨hstatus, hdue⟩ := hselects
  cases cycle with
  | renewals =>
    have hactive : s.status = .active := hstatus
    have hcheck : SubscriptionService.isDueForRenewal s now = true := by
      simp [SubscriptionService.isDueForRenewal, hactive, hdue]
    have hhandler : Cycle.renewals.handler now db s.id =
        SubscriptionService.startPeriod db s plan now now := by
      unfold handler SubscriptionService.renewIfStillDue SubscriptionService.renew
      simp only [hfetch, hfetchPlan, ok_bind, hcheck, hactive]
      rfl
    rw [hhandler]
    exact SubscriptionService.startPeriod_of_none hdb hs hactive hplan hplanId
      fun e he => hended.not_covers he
  | activations =>
    have htrial : s.status = .trial := hstatus
    have hcheck : SubscriptionService.isTrialToActivate s = true := by
      simp [SubscriptionService.isTrialToActivate, htrial]
    have hedge : SubscriptionStatus.active ∈ subscriptionTransitions s.status := by
      rw [htrial]
      decide
    have hhandler : Cycle.activations.handler now db s.id =
        SubscriptionService.startPeriod
          { db with subscriptions := db.subscriptions.update (s.stamp .active now) }
          (s.stamp .active now) plan now now := by
      unfold handler SubscriptionService.activateIfStillExpired SubscriptionService.activate
      simp only [hfetch, hfetchPlan, ok_bind, hcheck, not_lt.mpr hdue, if_false,
        Subscription.transitionTo_of_mem hs hedge]
      rfl
    have hupdated : Tenancy
        { db with subscriptions := db.subscriptions.update (s.stamp .active now) } :=
      hdb.updateSubscription hs rfl rfl rfl rfl
    have hstart := @SubscriptionService.startPeriod_of_none _ _ plan now now hupdated
      (Table.mem_update_self hs rfl) rfl hplan hplanId
      fun e he => hended.not_covers (s := s) he
    have hbill : nextBill
        { db with subscriptions := db.subscriptions.update (s.stamp .active now) } now s =
        nextBill db now s := rfl
    rw [hhandler]
    rw [nextBill_stamp, hbill] at hstart
    cases hbill : nextBill db now s with
    | none =>
      rw [hbill] at hstart
      exact hstart
    | some b =>
      rw [hbill] at hstart
      obtain ⟨e, -, hrow, -⟩ := nextBill_eq_some hbill
      have hkey : key (s.stamp .active now) = key b.subscription := by
        rw [hrow]
        rfl
      dsimp only at hstart ⊢
      rw [hstart]
      unfold Bill.apply
      dsimp only
      rw [Table.update_update hkey]

end Chargeflow
