import Chargeflow.Effects.Settlement
import Chargeflow.Foundation.Evolution

/-!
# The history of a row

`BooksStep` is one transaction seen from the books.  What a transaction may do to a row that is
already there is stated once for each table, as a transitive relation between a row and its later
version: `Subscription.Later`, `Invoice.Later` and `PaymentAttempt.Later`.
-/

namespace Chargeflow

open Foundation

/-- One transaction, seen from the books. -/
inductive BooksStep (env : Env) (readings : List DateTime) (b b' : Books) : Prop
  | lifecycle (h : Lifecycle readings b b')
  | settled {p : PaymentAttempt} {success : Bool} {response : List (String × Json)}
      {incoming : Json} {now : DateTime} (h : Settles env b p success response incoming now b')

/-! ## Later versions of a row -/

/-- The text is on record for the attempt: as its charge id, or inside its response. -/
def PaymentAttempt.Records (p : PaymentAttempt) (c : String) : Prop :=
  p.providerChargeId = c ∨ Json.Occurs c p.providerResponse

/-- A later version of a subscription: it keeps its keys, a trial ends once, and CANCELED is the
end. -/
structure Subscription.Later (s s' : Subscription) : Prop where
  id : s'.id = s.id
  organizationId : s'.organizationId = s.organizationId
  customerId : s'.customerId = s.customerId
  planId : s'.planId = s.planId
  billed : s.status ≠ .trial → s'.status ≠ .trial
  canceled : s.status = .canceled → s' = s

/-- A later version of an invoice: it keeps what was billed, and PAID and CANCELED are the end. -/
structure Invoice.Later (i i' : Invoice) : Prop where
  id : i'.id = i.id
  organizationId : i'.organizationId = i.organizationId
  subscriptionId : i'.subscriptionId = i.subscriptionId
  total : i'.total = i.total
  currency : i'.currency = i.currency
  periodStart : i'.periodStart = i.periodStart
  periodEnd : i'.periodEnd = i.periodEnd
  paid : i.status = .paid → i' = i
  canceled : i.status = .canceled → i' = i

/-- A later version of an attempt: it keeps its snapshot, SUCCESS and the flag, and a charge id once
it has one. -/
structure PaymentAttempt.Later (p p' : PaymentAttempt) : Prop where
  snapshot : p.SameSnapshot p'
  pending : p'.status = .pending → p.status = .pending
  success : p.status = .success → p'.status = .success
  flag : p.needsReconciliation = true → p'.needsReconciliation = true ∧ p'.status = p.status
  chargeId : p.providerChargeId ≠ "" → p'.providerChargeId = p.providerChargeId
  settled : ¬ p.Unsettled → p'.providerChargeId = p.providerChargeId
  evidence : ¬ p.Unsettled → ∀ c, p.Records c → p'.Records c

/-- A subscription is a later version of itself. -/
theorem Subscription.Later.refl (s : Subscription) : s.Later s :=
  ⟨rfl, rfl, rfl, rfl, fun h => h, fun _ => rfl⟩

/-- Later versions of a subscription compose. -/
theorem Subscription.Later.trans {s s' s'' : Subscription} (h : s.Later s') (h' : s'.Later s'') :
    s.Later s'' where
  id := h'.id.trans h.id
  organizationId := h'.organizationId.trans h.organizationId
  customerId := h'.customerId.trans h.customerId
  planId := h'.planId.trans h.planId
  billed hs := h'.billed (h.billed hs)
  canceled hs := by
    have hsame := h.canceled hs
    subst hsame
    exact h'.canceled hs

/-- An invoice is a later version of itself. -/
theorem Invoice.Later.refl (i : Invoice) : i.Later i :=
  ⟨rfl, rfl, rfl, rfl, rfl, rfl, rfl, fun _ => rfl, fun _ => rfl⟩

/-- Later versions of an invoice compose. -/
theorem Invoice.Later.trans {i i' i'' : Invoice} (h : i.Later i') (h' : i'.Later i'') :
    i.Later i'' where
  id := h'.id.trans h.id
  organizationId := h'.organizationId.trans h.organizationId
  subscriptionId := h'.subscriptionId.trans h.subscriptionId
  total := h'.total.trans h.total
  currency := h'.currency.trans h.currency
  periodStart := h'.periodStart.trans h.periodStart
  periodEnd := h'.periodEnd.trans h.periodEnd
  paid hi := by
    have hsame := h.paid hi
    subst hsame
    exact h'.paid hi
  canceled hi := by
    have hsame := h.canceled hi
    subst hsame
    exact h'.canceled hi

/-- An attempt has its own snapshot. -/
theorem PaymentAttempt.SameSnapshot.refl (p : PaymentAttempt) : p.SameSnapshot p :=
  ⟨rfl, rfl, rfl, rfl, rfl, rfl, rfl, rfl, rfl, rfl, rfl⟩

/-- Equal snapshots compose. -/
theorem PaymentAttempt.SameSnapshot.trans {p p' p'' : PaymentAttempt} (h : p.SameSnapshot p')
    (h' : p'.SameSnapshot p'') : p.SameSnapshot p'' where
  id := h'.id.trans h.id
  organizationId := h'.organizationId.trans h.organizationId
  invoiceId := h'.invoiceId.trans h.invoiceId
  amount := h'.amount.trans h.amount
  currency := h'.currency.trans h.currency
  provider := h'.provider.trans h.provider
  providerIdempotencyKey := h'.providerIdempotencyKey.trans h.providerIdempotencyKey
  providerCustomerId := h'.providerCustomerId.trans h.providerCustomerId
  providerPaymentMethodId := h'.providerPaymentMethodId.trans h.providerPaymentMethodId
  idempotencyKey := h'.idempotencyKey.trans h.idempotencyKey
  attemptedAt := h'.attemptedAt.trans h.attemptedAt

/-- A settled attempt stays settled. -/
theorem PaymentAttempt.Later.not_unsettled {p p' : PaymentAttempt} (h : p.Later p')
    (hp : ¬ p.Unsettled) : ¬ p'.Unsettled := by
  rintro ⟨hsuccess, hflag⟩
  refine hp ⟨fun hs => hsuccess (h.success hs), ?_⟩
  by_contra hf
  rw [(h.flag (by simpa using hf)).1] at hflag
  cases hflag

/-- An attempt is a later version of itself. -/
theorem PaymentAttempt.Later.refl (p : PaymentAttempt) : p.Later p :=
  ⟨.refl p, fun h => h, fun h => h, fun h => ⟨h, rfl⟩, fun _ => rfl, fun _ => rfl, fun _ _ h => h⟩

/-- Later versions of an attempt compose. -/
theorem PaymentAttempt.Later.trans {p p' p'' : PaymentAttempt} (h : p.Later p')
    (h' : p'.Later p'') : p.Later p'' where
  snapshot := h.snapshot.trans h'.snapshot
  pending hp := h.pending (h'.pending hp)
  success hp := h'.success (h.success hp)
  flag hp := by
    obtain ⟨hflag, hstatus⟩ := h.flag hp
    obtain ⟨hflag', hstatus'⟩ := h'.flag hflag
    exact ⟨hflag', hstatus'.trans hstatus⟩
  chargeId hp := by
    have hsame := h.chargeId hp
    rw [h'.chargeId (by rwa [hsame]), hsame]
  settled hp := (h'.settled (h.not_unsettled hp)).trans (h.settled hp)
  evidence hp c hc := h'.evidence (h.not_unsettled hp) c (h.evidence hp c hc)

/-! ## What a transaction does to a row -/

/-- The status of an open subscription may change, and its period with it. -/
theorem Subscription.Later.of_open {s s' : Subscription} (hopen : s.status ≠ .canceled)
    (hid : s'.id = s.id) (horg : s'.organizationId = s.organizationId)
    (hcustomer : s'.customerId = s.customerId) (hplan : s'.planId = s.planId)
    (hbilled : s.status ≠ .trial → s'.status ≠ .trial) : s.Later s' :=
  ⟨hid, horg, hcustomer, hplan, hbilled, fun h => absurd h hopen⟩

/-- A declined charge leaves a later version of the subscription. -/
theorem Subscription.later_declined (s : Subscription) (now : DateTime) :
    s.Later (s.declined now) := by
  unfold Subscription.declined
  split_ifs with hactive
  · exact .of_open (by simp [hactive]) rfl rfl rfl rfl (by simp [Subscription.stamp])
  · exact .refl s

/-- A reactivation leaves a later version of the subscription. -/
theorem Reactivated.later {invoices : Table Invoice} {s s' : Subscription} {now : DateTime}
    (h : Reactivated invoices s now s') : s.Later s' := by
  cases h with
  | unchanged => exact .refl s
  | active hoverdue =>
    exact .of_open (by simp [hoverdue]) rfl rfl rfl rfl (by simp [Subscription.stamp])

/-- The start of a period leaves later versions of the subscriptions. -/
theorem PeriodStart.evolves {readings : List DateTime} {subs subs' : Table Subscription}
    {s : Subscription} (h : PeriodStart readings subs subs' s) :
    subs.Evolves Subscription.Later subs' := by
  cases h with
  | created => exact .insert Subscription.Later.refl _ _
  | activated hs hstatus =>
    refine .update Subscription.Later.refl hs ?_ rfl
    exact .of_open (by simp [hstatus]) rfl rfl rfl rfl
      (by simp [Subscription.stamp, Subscription.inPeriod])
  | renewed hs hstatus =>
    refine .update Subscription.Later.refl hs ?_ rfl
    exact .of_open (by simp [hstatus]) rfl rfl rfl rfl fun h => h
  | current => exact .refl Subscription.Later.refl _

/-- In one transaction an invoice stays as it is, or moves along one edge of its transition
table. -/
def Invoice.Edge (i i' : Invoice) : Prop :=
  i' = i ∨ ∃ newStatus now, newStatus ∈ invoiceTransitions i.status ∧ i' = i.stamp newStatus now

/-- An invoice that stays as it is takes no edge. -/
theorem Invoice.Edge.refl (i : Invoice) : i.Edge i := Or.inl rfl

/-- An edge leads to a later version. -/
theorem Invoice.Edge.later {i i' : Invoice} (h : i.Edge i') : i.Later i' := by
  obtain rfl | ⟨newStatus, now, hedge, rfl⟩ := h
  · exact .refl i'
  · refine ⟨rfl, rfl, rfl, rfl, rfl, rfl, rfl, fun h => ?_, fun h => ?_⟩ <;>
      simp [h, invoiceTransitions] at hedge

/-- An invoice that is ISSUED before and after a transaction was not issued by it. -/
theorem Invoice.Edge.eq_of_issued {i i' : Invoice} (h : i.Edge i') (hi : i.status = .issued)
    (hi' : i'.status = .issued) : i' = i := by
  obtain rfl | ⟨newStatus, now, hedge, rfl⟩ := h
  · rfl
  · have hstatus : newStatus = .issued := hi'
    rw [hi, hstatus] at hedge
    simp [invoiceTransitions] at hedge

/-- Closing an invoice takes an edge, or none. -/
theorem Invoice.edge_closeOpen (subscriptionId : ℕ) (i : Invoice) :
    i.Edge (closeOpen subscriptionId i) := by
  unfold closeOpen
  split_ifs with hopen
  · refine Or.inr ⟨.canceled, i.periodStart, ?_, rfl⟩
    have hstatus := hopen.2
    simp only [InvoiceService.openInvoiceStatuses, List.mem_cons, List.not_mem_nil, or_false]
      at hstatus
    rcases hstatus with h | h | h <;> simp [h, invoiceTransitions]
  · exact .refl i

/-- A declined charge takes an edge, or none. -/
theorem Invoice.edge_declined (i : Invoice) (now : DateTime) : i.Edge (i.declined now) := by
  unfold Invoice.declined
  split_ifs with hissued
  · exact Or.inr ⟨.failed, now, by simp [hissued, invoiceTransitions], rfl⟩
  · exact .refl i

/-- The payment of a payable invoice takes an edge. -/
theorem Invoice.edge_paid {i : Invoice} (h : i.Payable) (now : DateTime) :
    i.Edge (i.stamp .paid now) := by
  refine Or.inr ⟨.paid, now, ?_, rfl⟩
  rcases Invoice.payable_iff.mp h with h | h | h <;> simp [h, invoiceTransitions]

/-- A FAILED invoice that is given up is not open any more when its subscription is closed. -/
theorem Invoice.edge_exhausted {i : Invoice} (h : i.status = .failed) (subscriptionId : ℕ)
    (now : DateTime) : i.Edge (closeOpen subscriptionId (i.stamp .overdue now)) := by
  have hclosed : closeOpen subscriptionId (i.stamp .overdue now) = i.stamp .overdue now := by
    rw [closeOpen, if_neg]
    simp [Invoice.stamp, InvoiceService.openInvoiceStatuses]
  rw [hclosed]
  exact Or.inr ⟨.overdue, now, by simp [h, invoiceTransitions], rfl⟩

/-- Attempts that agree outside of the columns a settlement writes. -/
theorem PaymentAttempt.SameSnapshot.of_eq {p p' : PaymentAttempt}
    (h : { p' with
      status := p.status
      providerChargeId := p.providerChargeId
      providerResponse := p.providerResponse
      needsReconciliation := p.needsReconciliation } = p) : p.SameSnapshot p' := by
  rw [← h]
  exact ⟨rfl, rfl, rfl, rfl, rfl, rfl, rfl, rfl, rfl, rfl, rfl⟩

/-- An unsettled attempt may get any response and, if it has none, a charge id. -/
theorem PaymentAttempt.Later.of_unsettled {p p' : PaymentAttempt} (hopen : p.Unsettled)
    (hsame : p.SameSnapshot p')
    (hcharge : p.providerChargeId ≠ "" → p'.providerChargeId = p.providerChargeId)
    (hpending : p'.status = .pending → p.status = .pending) : p.Later p' where
  snapshot := hsame
  pending := hpending
  success h := absurd h hopen.1
  flag h := by simp [hopen.2] at h
  chargeId := hcharge
  settled h := absurd hopen h
  evidence h := absurd hopen h

/-- A recorded charge id is not replaced. -/
theorem PaymentAttempt.bound_chargeId {env : Env} {p : PaymentAttempt}
    {response : List (String × Json)} {incoming : Json} (h : p.providerChargeId ≠ "") :
    (p.bound env response incoming).providerChargeId = p.providerChargeId := by
  rw [PaymentAttempt.bound, if_neg]
  simp [bindsCharge, h]

/-- The response and the charge id of a result that contradicts the recorded id are kept with the
earlier ones. -/
theorem PaymentAttempt.later_mismatched (p : PaymentAttempt) (response : List (String × Json))
    (incoming : Json) : p.Later (p.mismatched response incoming) where
  snapshot := .of_eq rfl
  pending h := h
  success h := h
  flag _ := ⟨rfl, rfl⟩
  chargeId _ := rfl
  settled _ := rfl
  evidence _ c hc := by
    rcases hc with hc | hc
    · exact Or.inl hc
    · exact Or.inr (.field List.mem_cons_self hc)

/-- What a settlement does to its attempt. -/
theorem Settlement.evolves {env : Env} {b b' : Books} {p : PaymentAttempt} {i : Invoice}
    {s : Subscription} {success : Bool} {response : List (String × Json)} {incoming : Json}
    {now : DateTime} (hp : p ∈ b.attempts)
    (h : Settlement env b p i s success response incoming now b') :
    b.attempts.Evolves PaymentAttempt.Later b'.attempts := by
  have hupdate : ∀ {p' : PaymentAttempt}, p.Later p' →
      b.attempts.Evolves PaymentAttempt.Later (b.attempts.update p') :=
    fun hlater => .update PaymentAttempt.Later.refl hp hlater hlater.snapshot.id
  have hcharge : p.providerChargeId ≠ "" →
      (p.bound env response incoming).providerChargeId = p.providerChargeId :=
    PaymentAttempt.bound_chargeId
  cases h with
  | ignored => exact .refl PaymentAttempt.Later.refl _
  | mismatched => exact hupdate (p.later_mismatched response incoming)
  | collided hopen => exact hupdate (.of_unsettled hopen (.of_eq rfl) (fun _ => rfl) fun h => h)
  | repeated hopen _ _ hfailed hrow =>
    rcases hrow with rfl | rfl
    · exact hupdate (.refl _)
    · exact hupdate (.of_unsettled hopen (.of_eq rfl) hcharge fun h => h)
  | inapplicable hopen => exact hupdate (.of_unsettled hopen (.of_eq rfl) hcharge fun h => h)
  | applied hopen =>
    exact hupdate (.of_unsettled hopen (.of_eq rfl) hcharge fun h => PaymentStatus.noConfusion h)
  | declined hopen =>
    exact hupdate (.of_unsettled hopen (.of_eq rfl) hcharge fun h => PaymentStatus.noConfusion h)
  | declinedClosed hopen =>
    exact hupdate (.of_unsettled hopen (.of_eq rfl) hcharge fun h => PaymentStatus.noConfusion h)

namespace BooksStep

variable {env : Env} {readings : List DateTime} {b b' : Books}

/-- A step leaves later versions of the subscriptions. -/
theorem subscriptions (h : BooksStep env readings b b') :
    b.subscriptions.Evolves Subscription.Later b'.subscriptions := by
  have hrefl := Subscription.Later.refl
  cases h with
  | lifecycle h =>
    cases h with
    | trialed => exact .insert hrefl _ _
    | covered hstart => exact hstart.evolves
    | billed hstart => exact hstart.evolves
    | canceled hs hopen =>
      exact .update hrefl hs (.of_open hopen rfl rfl rfl rfl (by simp [Subscription.close])) rfl
    | exhausted _ _ _ hs _ hopen =>
      exact .update hrefl hs (.of_open hopen rfl rfl rfl rfl (by simp [Subscription.close])) rfl
    | _ => exact .refl hrefl _
  | settled h =>
    obtain ⟨-, i, -, s, hs, -, -, h⟩ := h
    cases h with
    | applied _ _ _ _ hs' => exact .update hrefl hs hs'.later hs'.later.id
    | declined => exact .update hrefl hs (s.later_declined _) (s.later_declined _).id
    | _ => exact .refl hrefl _

/-- A step takes every invoice along one edge at most. -/
theorem invoices_edge (h : BooksStep env readings b b') :
    b.invoices.Evolves Invoice.Edge b'.invoices := by
  have hrefl := Invoice.Edge.refl
  cases h with
  | lifecycle h =>
    cases h with
    | billed => exact .insert hrefl _ _
    | canceled _ _ _ _ hnext hclosed =>
      exact .of_image (closeOpen_id _) (fun i _ => i.edge_closeOpen _) hnext hclosed
    | reissued hi hstatus _ now =>
      exact .update hrefl hi (Or.inr ⟨.issued, now, by simp [hstatus, invoiceTransitions], rfl⟩) rfl
    | abandoned hi hstatus _ _ _ now =>
      exact .update hrefl hi (Or.inr ⟨.overdue, now, by simp [hstatus, invoiceTransitions], rfl⟩)
        rfl
    | @exhausted i hi hstatus _ s _ _ _ now invoices hnext hclosed =>
      have hrows : ∀ k, k ∈ b.invoices.update (i.stamp .overdue now) ↔
          k = i.stamp .overdue now ∨ (k ∈ b.invoices ∧ k ≠ i) :=
        fun k => Table.mem_update_of_mem hi rfl
      refine ⟨hnext.ge, ?_, ?_⟩
      · intro j hj
        by_cases hji : j = i
        · subst hji
          exact ⟨_, (hclosed _).mpr ⟨_, (hrows _).mpr (Or.inl rfl), rfl⟩, closeOpen_id _ _,
            Invoice.edge_exhausted hstatus _ _⟩
        · exact ⟨_, (hclosed _).mpr ⟨j, (hrows j).mpr (Or.inr ⟨hj, hji⟩), rfl⟩, closeOpen_id _ _,
            j.edge_closeOpen _⟩
      · intro j' hj'
        obtain ⟨k, hk, rfl⟩ := (hclosed j').mp hj'
        rcases (hrows k).mp hk with rfl | ⟨hk, -⟩
        · exact Or.inl ⟨i, hi, (closeOpen_id s.id (i.stamp .overdue now)).symm,
            Invoice.edge_exhausted hstatus _ _⟩
        · exact Or.inl ⟨k, hk, (closeOpen_id _ _).symm, k.edge_closeOpen _⟩
    | _ => exact .refl hrefl _
  | settled h =>
    obtain ⟨-, i, hi, s, -, -, -, h⟩ := h
    cases h with
    | applied _ _ _ happ => exact .update hrefl hi (Invoice.edge_paid happ.payable _) rfl
    | declined => exact .update hrefl hi (i.edge_declined _) (i.edge_declined _).later.id
    | _ => exact .refl hrefl _

/-- A step leaves later versions of the invoices. -/
theorem invoices (h : BooksStep env readings b b') :
    b.invoices.Evolves Invoice.Later b'.invoices :=
  h.invoices_edge.mono fun _ _ => Invoice.Edge.later

/-- A step leaves later versions of the attempts. -/
theorem attempts (h : BooksStep env readings b b') :
    b.attempts.Evolves PaymentAttempt.Later b'.attempts := by
  cases h with
  | lifecycle h =>
    cases h with
    | prepared => exact .insert PaymentAttempt.Later.refl _ _
    | _ => exact .refl PaymentAttempt.Later.refl _
  | settled h =>
    obtain ⟨hp, i, -, s, -, -, -, h⟩ := h
    exact h.evolves hp

end BooksStep

end Chargeflow
