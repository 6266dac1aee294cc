import Chargeflow.Effects.Twins
import Chargeflow.Api.ViewSets

/-!
# The services in two runs

Every service, run for a row of the organization in one database and for its counterpart in the
other, ends in the same way: with the same error, or with databases that still correspond.
-/

namespace Chargeflow

open Foundation

variable {w : Setting}

/-- The rest of a service, from a state that it has reached. -/
theorem alike_after {db db' : Db} {x y : Except Err Db} (hdb : Persists w db db')
    (h : Alike (Kept w db') x y) : Alike (Kept w db) x y :=
  h.mono fun _ _ hkept => hkept.after hdb

/-! ## Draws -/

/-- The provider key that a preparation draws. -/
structure DrawnKey (w : Setting) (providerKey : String) : Prop where
  mem : providerKey ∈ w.providerKeys
  neutral : w.KeyNeutral "mock" providerKey

/-- The charge id that the gateway draws. -/
structure DrawnCharge (w : Setting) (chargeId : String) : Prop where
  attempts : ∀ provider, w.ChargeNeutral provider chargeId
  receipts : Neutral w.receipts w.start₁.receipts w.start₂.receipts fun q =>
    q.providerChargeId == chargeId

/-- The gateway answers with the charge id that it draws. -/
theorem DrawnCharge.neutral {chargeId : String} (h : DrawnCharge w chargeId) (success : Bool)
    (provider : String) : w.ChargeNeutral provider
      (w.chargeText (MockPaymentGateway.outcomeResponse success) chargeId) := by
  unfold Setting.chargeText PaymentService.incomingChargeId
  by_cases hempty : chargeId = ""
  · subst hempty
    exact Neutral.never
  · rw [if_pos hempty]
    exact h.attempts provider

namespace Twins

variable {db₁ db₂ : Db}

/-! ## Invoices -/

/-- Both runs do alike in `generate_for_subscription`. -/
theorem generateForSubscription (h : Twins w db₁ db₂) {n : ℕ}
    (hn : HasRow w.subscriptions.own db₁.subscriptions n) (now : DateTime) :
    Alike (fun a b => Kept w db₁ a.1 b.1) (InvoiceService.generateForSubscription db₁ n now)
      (InvoiceService.generateForSubscription db₂ (w.names.subscriptions.map n) now) := by
  refine (fetch_alike h.subscriptions hn "Subscription").bind ?_
  rintro s _ ⟨rfl, hs, hso, -⟩
  refine (fetch_alike h.plans (h.tenancy₁.plans.hasRow hs hso) "Plan").bind ?_
  rintro plan _ ⟨rfl, -, -, -⟩
  refine .ite Iff.rfl (fun _ => .ok h.kept) fun _ => ?_
  have hfilter : (db₂.invoices.filter fun i =>
        i.subscriptionId == (w.subscriptions.row s).id &&
          i.periodStart == (w.subscriptions.row s).currentPeriodStart &&
          i.periodEnd == (w.subscriptions.row s).currentPeriodEnd) =
      (db₁.invoices.filter fun i => i.subscriptionId == s.id &&
        i.periodStart == s.currentPeriodStart && i.periodEnd == s.currentPeriodEnd).map
        (Invoice.rename w.names) := by
    simp only [Bool.and_assoc]
    exact h.filter_invoices (.of_mem hs hso) fun _ _ _ => rfl
  rw [hfilter]
  cases db₁.invoices.filter fun i => i.subscriptionId == s.id &&
      i.periodStart == s.currentPeriodStart && i.periodEnd == s.currentPeriodEnd with
  | cons i l => exact .ok h.kept
  | nil =>
    refine (h.createInvoice (i := InvoiceService.draftInvoice plan s) rfl (.of_mem hs hso)).bind ?_
    rintro ⟨a₁, i⟩ ⟨a₂, i₂⟩ ⟨hkept, rfl, hi⟩
    refine (hkept.twins.createLine (l := ⟨0, 0, i.id, InvoiceService.lineDescription plan s,
      plan.price⟩) hi).bind ?_
    rintro b₁ b₂ hline
    refine (hline.twins.transitionInvoice (hline.persists.invoices _ hi) .issued now).bind ?_
    rintro ⟨c₁, issued⟩ ⟨c₂, issued₂⟩ ⟨hissued, rfl, rfl⟩
    have hpersists := (hkept.persists.trans hline.persists).trans hissued.persists
    have hhanded := hissued.twins.handOff
      (hissued.persists.invoices _ (hline.persists.invoices _ hi))
    exact .ok (hhanded.after hpersists)

/-- Both runs do alike in `InvoiceService.mark_paid`. -/
theorem markPaid (h : Twins w db₁ db₂) {n : ℕ} (hn : HasRow w.invoices.own db₁.invoices n)
    (now : DateTime) :
    Alike (Kept w db₁) (InvoiceService.markPaid db₁ n now)
      (InvoiceService.markPaid db₂ (w.names.invoices.map n) now) := by
  refine (fetch_alike h.invoices hn "Invoice").bind ?_
  rintro i _ ⟨rfl, hi, hown, -⟩
  refine .ite Iff.rfl (fun _ => .ok h.kept) fun _ => ?_
  refine (h.transitionInvoice (.of_mem hi hown) .paid now).bind ?_
  rintro _ _ ⟨hkept, -, -⟩
  exact .ok hkept

/-- Both runs do alike in `InvoiceService.mark_failed`. -/
theorem markFailed (h : Twins w db₁ db₂) {n : ℕ} (hn : HasRow w.invoices.own db₁.invoices n)
    (now : DateTime) :
    Alike (Kept w db₁) (InvoiceService.markFailed db₁ n now)
      (InvoiceService.markFailed db₂ (w.names.invoices.map n) now) := by
  refine (fetch_alike h.invoices hn "Invoice").bind ?_
  rintro i _ ⟨rfl, hi, hown, -⟩
  refine .ite Iff.rfl (fun _ => .ok h.kept) fun _ => ?_
  refine (h.transitionInvoice (.of_mem hi hown) .failed now).bind ?_
  rintro _ _ ⟨hkept, -, -⟩
  exact .ok hkept

/-- Both runs do alike in `cancel_open_for_subscription`. -/
theorem cancelOpenForSubscription (h : Twins w db₁ db₂) {n : ℕ}
    (hn : HasRow w.subscriptions.own db₁.subscriptions n) (now : DateTime) :
    Alike (Kept w db₁) (InvoiceService.cancelOpenForSubscription db₁ n now)
      (InvoiceService.cancelOpenForSubscription db₂ (w.names.subscriptions.map n) now) := by
  have hfilter : (db₂.invoices.filter fun i => i.subscriptionId == w.names.subscriptions.map n &&
        decide (i.status ∈ InvoiceService.openInvoiceStatuses)) =
      (db₁.invoices.filter fun i => i.subscriptionId == n &&
        decide (i.status ∈ InvoiceService.openInvoiceStatuses)).map (Invoice.rename w.names) :=
    h.filter_invoices hn fun _ _ _ => rfl
  unfold InvoiceService.cancelOpenForSubscription
  rw [hfilter]
  refine Alike.foldlM ?_ h.kept
  intro i hi a b hkept
  obtain ⟨hi, htest⟩ := Table.mem_filter.mp hi
  rw [Bool.and_eq_true, beq_iff_eq] at htest
  obtain ⟨s, hs, hso, hsid⟩ := hn
  have hown := (h.tenancy₁.subscriptions.own hi hs (htest.1.trans hsid.symm)).trans hso
  refine (hkept.twins.transitionInvoice (hkept.persists.invoices _ (.of_mem hi hown)) .canceled
    now).bind ?_
  rintro _ _ ⟨hnext, -, -⟩
  exact .ok (hnext.after hkept.persists)

/-! ## Subscriptions -/

/-- Both runs do alike in `_start_period`. -/
theorem startPeriod (h : Twins w db₁ db₂) {s : Subscription} {plan : Plan}
    (hs : HasRow w.subscriptions.own db₁.subscriptions s.id)
    (hc : HasRow w.customers.own db₁.customers s.customerId)
    (hp : HasRow w.plans.own db₁.plans s.planId) (now issuedAt : DateTime) :
    Alike (Kept w db₁) (SubscriptionService.startPeriod db₁ s plan now issuedAt)
      (SubscriptionService.startPeriod db₂ (s.rename w.names) (plan.rename w.names) now
        issuedAt) := by
  refine .same rfl ?_
  rintro periodEnd -
  refine (h.saveSubscription (s := { s with
    currentPeriodStart := now
    currentPeriodEnd := periodEnd }) hs hc hp).bind ?_
  rintro db₁' db₂' hsaved
  refine (hsaved.twins.generateForSubscription (hsaved.persists.subscriptions _ hs) issuedAt).bind
    ?_
  rintro _ _ hgenerated
  exact .ok (hgenerated.after hsaved.persists)

/-- Both runs do alike in `SubscriptionService.activate`. -/
theorem activate (h : Twins w db₁ db₂) {n : ℕ}
    (hn : HasRow w.subscriptions.own db₁.subscriptions n) (now issuedAt : DateTime) :
    Alike (Kept w db₁) (SubscriptionService.activate db₁ n now issuedAt)
      (SubscriptionService.activate db₂ (w.names.subscriptions.map n) now issuedAt) := by
  refine (fetch_alike h.subscriptions hn "Subscription").bind ?_
  rintro s _ ⟨rfl, hs, hso, -⟩
  have hc := h.tenancy₁.customers.hasRow hs hso
  have hp := h.tenancy₁.plans.hasRow hs hso
  refine (fetch_alike h.plans hp "Plan").bind ?_
  rintro plan _ ⟨rfl, -, -, -⟩
  refine .same rfl ?_
  rintro _ -
  refine (h.transitionSubscription (.of_mem hs hso) .active now).bind ?_
  rintro ⟨db₁', s'⟩ ⟨db₂', s₂⟩ ⟨hmoved, rfl, rfl⟩
  have hs' := hmoved.persists.subscriptions _ (.of_mem hs hso)
  exact alike_after hmoved.persists (hmoved.twins.startPeriod (s := s.stamp .active now) hs'
    (hmoved.persists.customers _ hc) (hmoved.persists.plans _ hp) now issuedAt)

/-- Both runs do alike in `SubscriptionService.renew`. -/
theorem renew (h : Twins w db₁ db₂) {n : ℕ}
    (hn : HasRow w.subscriptions.own db₁.subscriptions n) (checkedAt now issuedAt : DateTime) :
    Alike (Kept w db₁) (SubscriptionService.renew db₁ n checkedAt now issuedAt)
      (SubscriptionService.renew db₂ (w.names.subscriptions.map n) checkedAt now issuedAt) := by
  refine (fetch_alike h.subscriptions hn "Subscription").bind ?_
  rintro s _ ⟨rfl, hs, hso, -⟩
  have hp := h.tenancy₁.plans.hasRow hs hso
  refine (fetch_alike h.plans hp "Plan").bind ?_
  rintro plan _ ⟨rfl, -, -, -⟩
  refine .same rfl ?_
  rintro _ -
  refine .same rfl ?_
  rintro _ -
  exact h.startPeriod (.of_mem hs hso) (h.tenancy₁.customers.hasRow hs hso) hp now issuedAt

/-- Both runs do alike in `SubscriptionService.cancel`. -/
theorem cancel (h : Twins w db₁ db₂) {n : ℕ}
    (hn : HasRow w.subscriptions.own db₁.subscriptions n) (reason : CancellationReason)
    (now : DateTime) :
    Alike (Kept w db₁) (SubscriptionService.cancel db₁ n reason now)
      (SubscriptionService.cancel db₂ (w.names.subscriptions.map n) reason now) := by
  refine (fetch_alike h.subscriptions hn "Subscription").bind ?_
  rintro s _ ⟨rfl, hs, hso, -⟩
  refine (h.transitionSubscription (.of_mem hs hso) .canceled now).bind ?_
  rintro ⟨db₁', s'⟩ ⟨db₂', s₂⟩ ⟨hmoved, rfl, rfl⟩
  have hs' := hmoved.persists.subscriptions _ (.of_mem hs hso)
  have hc := hmoved.persists.customers _ (h.tenancy₁.customers.hasRow hs hso)
  have hp := hmoved.persists.plans _ (h.tenancy₁.plans.hasRow hs hso)
  refine (hmoved.twins.saveSubscription
    (s := { s.stamp .canceled now with canceledReason := some reason }) hs' hc hp).bind ?_
  rintro db₁'' db₂'' hsaved
  exact alike_after (hmoved.persists.trans hsaved.persists)
    (hsaved.twins.cancelOpenForSubscription (hsaved.persists.subscriptions _ hs') now)

/-- Both runs do alike in `SubscriptionService.mark_overdue`. -/
theorem markOverdue (h : Twins w db₁ db₂) {n : ℕ}
    (hn : HasRow w.subscriptions.own db₁.subscriptions n) (now : DateTime) :
    Alike (Kept w db₁) (SubscriptionService.markOverdue db₁ n now)
      (SubscriptionService.markOverdue db₂ (w.names.subscriptions.map n) now) := by
  refine (fetch_alike h.subscriptions hn "Subscription").bind ?_
  rintro s _ ⟨rfl, hs, hso, -⟩
  refine .ite Iff.rfl (fun _ => .ok h.kept) fun _ => ?_
  refine (h.transitionSubscription (.of_mem hs hso) .overdue now).bind ?_
  rintro _ _ ⟨hkept, -, -⟩
  exact .ok hkept

/-- Both runs do alike in `SubscriptionService.reactivate`. -/
theorem reactivate (h : Twins w db₁ db₂) {n : ℕ}
    (hn : HasRow w.subscriptions.own db₁.subscriptions n) (now : DateTime) :
    Alike (Kept w db₁) (SubscriptionService.reactivate db₁ n now)
      (SubscriptionService.reactivate db₂ (w.names.subscriptions.map n) now) := by
  refine (fetch_alike h.subscriptions hn "Subscription").bind ?_
  rintro s _ ⟨rfl, hs, hso, -⟩
  refine .ite Iff.rfl (fun _ => .ok h.kept) fun _ => ?_
  have hany := h.any_invoices (.of_mem hs hso)
    (q := fun i => i.status == .failed || i.status == .overdue) fun _ _ _ => rfl
  refine .ite (Bool.eq_iff_iff.mp hany.symm) (fun _ => .ok h.kept) fun _ => ?_
  have hmoved : Alike (fun a b => Kept w db₁ a.1 b.1) (s.transitionTo db₁ .active now)
      ((w.subscriptions.row s).transitionTo db₂ .active now) :=
    (h.transitionSubscription (.of_mem hs hso) .active now).mono fun _ _ hkept => hkept.1
  generalize s.transitionTo db₁ .active now = x at hmoved ⊢
  generalize (w.subscriptions.row s).transitionTo db₂ .active now = y at hmoved ⊢
  cases hmoved with
  | ok hkept => exact .ok hkept
  | error e =>
    cases e with
    | invalidStatusTransition => exact .ok h.kept
    | _ => exact .error _

/-- Both runs do alike in `SubscriptionService.create`. -/
theorem create (h : Twins w db₁ db₂) {customerId planId : ℕ}
    (hc : HasRow w.customers.own db₁.customers customerId)
    (hp : HasRow w.plans.own db₁.plans planId) (now issuedAt : DateTime) :
    Alike (fun a b => Kept w db₁ a.1 b.1 ∧ b.2 = a.2.rename w.names)
      (SubscriptionService.create db₁ customerId planId now issuedAt)
      (SubscriptionService.create db₂ (w.names.customers.map customerId)
        (w.names.plans.map planId) now issuedAt) := by
  refine (h.lockParents hc hp).bind ?_
  rintro ⟨c, plan⟩ _ ⟨rfl, -, -⟩
  refine .same rfl ?_
  rintro _ -
  refine .same rfl ?_
  rintro _ -
  refine .ite Iff.rfl (fun _ => .same rfl fun periodEnd _ => ?_) fun _ =>
    .same rfl fun periodEnd _ => ?_
  all_goals
    refine (h.createSubscription (s := ⟨0, 0, customerId, planId,
      if decide (0 < plan.trialPeriodDays) then .trial else .active, now, periodEnd, none, none⟩)
      rfl hc hp).bind ?_
    rintro ⟨db₁', s⟩ ⟨db₂', s₂⟩ ⟨hkept, rfl, hs⟩
    refine (hkept.twins.generateForSubscription hs issuedAt).bind ?_
    rintro _ _ hgenerated
    exact .ok ⟨hgenerated.after hkept.persists, rfl⟩

/-! ## Preparing a charge -/

/-- The first attempt of an invoice that passes a test. -/
theorem firstAttempt (h : Twins w db₁ db₂) {i : Invoice} (hi : i ∈ db₁.invoices)
    (hown : w.invoices.own i = true) {p q : PaymentAttempt → Bool}
    (hpq : ∀ a ∈ db₁.attempts, w.attempts.own a = true → q (a.rename w.names) = p a) :
    PaymentService.firstAttempt db₂ (i.rename w.names) q =
      (PaymentService.firstAttempt db₁ i p).map (PaymentAttempt.rename w.names) := by
  unfold PaymentService.firstAttempt
  rw [← List.head?_map]
  exact congrArg List.head? (h.filter_attempts (.of_mem hi hown) hpq)

/-- The first attempt of an invoice is an attempt of its organization. -/
theorem firstAttempt_hasRow (h : Twins w db₁ db₂) {i : Invoice} (hi : i ∈ db₁.invoices)
    (hown : w.invoices.own i = true) {p : PaymentAttempt → Bool} {a : PaymentAttempt}
    (ha : PaymentService.firstAttempt db₁ i p = some a) :
    HasRow w.attempts.own db₁.attempts a.id := by
  obtain ⟨ha, htest⟩ := Table.head?_filter_eq_some ha
  rw [Bool.and_eq_true, beq_iff_eq] at htest
  exact .of_mem ha ((h.tenancy₁.attempts.own ha hi htest.1).trans hown)

/-- The attempt with a client key. -/
theorem findReplay (h : Twins w db₁ db₂) (idempotencyKey : String) :
    PaymentService.findReplay db₂ w.organizationId idempotencyKey =
      (PaymentService.findReplay db₁ w.organizationId idempotencyKey).map
        (PaymentAttempt.rename w.names) := by
  unfold PaymentService.findReplay
  rw [← List.head?_map]
  refine congrArg List.head? (h.attempts.filter ?_ ?_ fun _ _ _ => rfl)
  all_goals
    intro a _ htest
    rw [Bool.and_eq_true, beq_iff_eq] at htest
    exact own_attempt.mpr htest.1

/-- What a preparation leads to. -/
def Prepared (w : Setting) (db : Db) (a b : Db × Option PaymentAttempt × Bool) : Prop :=
  Kept w db a.1 b.1 ∧ b.2 = (a.2.1.map (PaymentAttempt.rename w.names), a.2.2) ∧
    ∀ p ∈ a.2.1, HasRow w.attempts.own a.1.attempts p.id

/-- Both runs do alike in `_prepare_attempt`, where they draw the same provider key. -/
theorem prepareAttempt (h : Twins w db₁ db₂) {s : Subscription} {i : Invoice}
    (hs : s ∈ db₁.subscriptions) (hso : w.subscriptions.own s = true) (hi : i ∈ db₁.invoices)
    (hio : w.invoices.own i = true) (idempotencyKey : Option String) {providerKey : String}
    (hkey : DrawnKey w providerKey) (now : DateTime) :
    Alike (Prepared w db₁)
      (PaymentService.prepareAttempt db₁ s i idempotencyKey providerKey now)
      (PaymentService.prepareAttempt db₂ (s.rename w.names) (i.rename w.names) idempotencyKey
        providerKey now) := by
  have hsome : ∀ {p : PaymentAttempt} {test : PaymentAttempt → Bool} (b : Bool),
      PaymentService.firstAttempt db₁ i test = some p →
      Prepared w db₁ (db₁, some p, b) (db₂, some (p.rename w.names), b) := by
    intro p test b hp
    refine ⟨h.kept, rfl, ?_⟩
    intro q hq
    obtain rfl := Option.some.inj hq
    exact h.firstAttempt_hasRow hi hio hp
  have hpending : PaymentService.firstAttempt db₂ (i.rename w.names) (fun p => p.status == .pending)
      = (PaymentService.firstAttempt db₁ i fun p => p.status == .pending).map
        (PaymentAttempt.rename w.names) := h.firstAttempt hi hio fun _ _ _ => rfl
  have hissue : (if (i.rename w.names).status = .issued then PaymentService.firstAttempt db₂
        (i.rename w.names) (PaymentService.sinceIssue (i.rename w.names)) else none) =
      (if i.status = .issued then PaymentService.firstAttempt db₁ i (PaymentService.sinceIssue i)
        else none).map (PaymentAttempt.rename w.names) := by
    rw [apply_ite (Option.map (PaymentAttempt.rename w.names)), Option.map_none]
    exact congrArg (ite _ · none) (h.firstAttempt hi hio fun _ _ _ => rfl)
  have hexisting : PaymentService.firstAttempt db₂ (i.rename w.names)
      (fun p => p.status == .pending || p.status == .success) =
      (PaymentService.firstAttempt db₁ i fun p => p.status == .pending || p.status == .success).map
        (PaymentAttempt.rename w.names) := h.firstAttempt hi hio fun _ _ _ => rfl
  unfold PaymentService.prepareAttempt
  refine .ite Iff.rfl (fun _ => ?_) fun _ => ?_
  · rw [hpending]
    cases hp : PaymentService.firstAttempt db₁ i fun p => p.status == .pending with
    | some p => exact .ok (hsome _ hp)
    | none => exact .error _
  · dsimp only
    rw [hissue]
    cases hp : (if i.status = .issued then
        PaymentService.firstAttempt db₁ i (PaymentService.sinceIssue i) else none) with
    | some p =>
      refine .same rfl ?_
      rintro _ -
      split_ifs at hp
      exact .ok (hsome _ hp)
    | none =>
      dsimp only [Option.map_none]
      rw [hexisting]
      cases hp : PaymentService.firstAttempt db₁ i fun p =>
          p.status == .pending || p.status == .success with
      | some p => exact .ok (hsome _ hp)
      | none =>
        refine .same rfl ?_
        rintro _ -
        refine (fetch_alike h.customers (h.tenancy₁.customers.hasRow hs hso) "Customer").bind ?_
        rintro c _ ⟨rfl, -, -, -⟩
        refine (h.createAttempt (p := PaymentService.newAttempt i c idempotencyKey providerKey now)
          rfl (.of_mem hi hio) hkey.mem hkey.neutral Neutral.never).bind ?_
        rintro ⟨db₁', p⟩ ⟨db₂', p₂⟩ ⟨hkept, rfl, hp⟩
        refine .ok ⟨hkept, rfl, ?_⟩
        intro q hq
        obtain rfl := Option.some.inj hq
        exact hp

/-- Both runs do alike in `_prepare`. -/
theorem prepare (h : Twins w db₁ db₂) {n : ℕ} (hn : HasRow w.invoices.own db₁.invoices n)
    (idempotencyKey : Option String) (issuedOnly : Bool) {providerKey : String}
    (hkey : DrawnKey w providerKey) (now : DateTime) :
    Alike (Prepared w db₁)
      (PaymentService.prepare db₁ n idempotencyKey issuedOnly providerKey now)
      (PaymentService.prepare db₂ (w.names.invoices.map n) idempotencyKey issuedOnly providerKey
        now) := by
  refine (fetch_alike h.invoices hn "Invoice").bind ?_
  rintro i _ ⟨rfl, hi, hio, -⟩
  refine (fetch_alike h.subscriptions (h.tenancy₁.subscriptions.hasRow hi hio) "Subscription").bind
    ?_
  rintro s _ ⟨rfl, hs, hso, -⟩
  refine .ite Iff.rfl (fun _ => .ok ⟨h.kept, rfl, fun p hp => by cases hp⟩) fun _ => ?_
  have horg := own_invoice.mp hio
  have hreplay : (normalizeKey idempotencyKey).bind
        (PaymentService.findReplay db₂ (w.invoices.row i).organizationId) =
      ((normalizeKey idempotencyKey).bind
        (PaymentService.findReplay db₁ i.organizationId)).map (PaymentAttempt.rename w.names) := by
    have horg₂ : (w.invoices.row i).organizationId = w.organizationId := horg
    rw [horg, horg₂]
    cases normalizeKey idempotencyKey with
    | none => rfl
    | some k => exact h.findReplay k
  dsimp only
  rw [hreplay]
  cases hr : (normalizeKey idempotencyKey).bind
      (PaymentService.findReplay db₁ i.organizationId) with
  | none => exact h.prepareAttempt hs hso hi hio (normalizeKey idempotencyKey) hkey now
  | some p =>
    obtain ⟨k, -, hp⟩ := Option.bind_eq_some_iff.mp hr
    obtain ⟨hp, htest⟩ := Table.head?_filter_eq_some hp
    rw [Bool.and_eq_true, beq_iff_eq, horg] at htest
    have hown := own_attempt.mpr htest.1
    have hinvoice : ((p.rename w.names).invoiceId == (i.rename w.names).id) =
        (p.invoiceId == i.id) := by
      rw [Bool.eq_iff_iff, beq_iff_eq, beq_iff_eq]
      exact h.invoices.map_eq_map_iff (h.tenancy₁.attempts.hasRow hp hown) (.of_mem hi hio)
    refine (ensure_alike hinvoice _).bind ?_
    rintro _ _ -
    refine .ok ⟨h.kept, rfl, ?_⟩
    intro q hq
    obtain rfl := Option.some.inj hq
    exact .of_mem hp hown

/-! ## The gateway -/

/-- The receipt for a provider key of the organization. -/
theorem findReceipt (h : Twins w db₁ db₂) {k : String} (hk : k ∈ w.providerKeys) :
    MockPaymentGateway.findReceipt db₂ k =
      (MockPaymentGateway.findReceipt db₁ k).map (MockChargeReceipt.rename w.names) := by
  unfold MockPaymentGateway.findReceipt
  rw [← List.head?_map]
  refine congrArg List.head? (h.receipts.filter ?_ ?_ fun _ _ _ => rfl)
  all_goals
    intro r _ htest
    rw [own_receipt, beq_iff_eq.mp htest]
    exact hk

/-- A receipt for a provider key of the organization is inserted in both runs, or in none. -/
theorem insertReceipt (h : Twins w db₁ db₂) {r : MockChargeReceipt}
    (hk : r.providerIdempotencyKey ∈ w.providerKeys) (hcharge : DrawnCharge w r.providerChargeId)
    (hneutral : ∀ provider,
      w.ChargeNeutral provider (w.chargeText r.providerResponse r.providerChargeId)) :
    (MockPaymentGateway.insertReceipt db₁ r = none ∧
      MockPaymentGateway.insertReceipt db₂ r = none) ∨
    ∃ db₁' db₂', MockPaymentGateway.insertReceipt db₁ r = some db₁' ∧
      MockPaymentGateway.insertReceipt db₂ r = some db₂' ∧ Kept w db₁ db₁' db₂' := by
  have hany : (db₂.receipts.any fun q => q.providerIdempotencyKey == r.providerIdempotencyKey ||
        q.providerChargeId == r.providerChargeId) =
      db₁.receipts.any fun q => q.providerIdempotencyKey == r.providerIdempotencyKey ||
        q.providerChargeId == r.providerChargeId := by
    refine h.receipts.any_neutral hcharge.receipts ?_ ?_ fun _ _ _ => rfl
    all_goals
      intro q _ hown
      rw [Bool.or_eq_right_iff_imp, beq_iff_eq]
      exact fun hsame => absurd (own_receipt.mpr (hsame ▸ hk)) hown
  have hrow : withKey db₂.receipts.next r = (withKey db₁.receipts.next r).rename w.names :=
    congrArg (fun n => { r with id := n }) h.receipts.map_next.symm
  unfold MockPaymentGateway.insertReceipt
  rw [hany]
  split_ifs
  · exact Or.inl ⟨rfl, rfl⟩
  · refine Or.inr ⟨_, _, rfl, rfl, ⟨{ h with
      receipts := h.receipts.insert (own_receipt.mpr hk) hrow
      tenancy₁ := { h.tenancy₁ with }
      tenancy₂ := { h.tenancy₂ with }
      charge := ?_ }, ?_⟩⟩
    · intro q hq hown
      rcases Table.mem_insert.mp hq with hq | rfl
      · exact h.charge q hq hown
      · exact hneutral
    · exact { Persists.refl db₁ with plans := fun n hn => hn }

/-- What the gateway answers. -/
def Charged (w : Setting) (db : Db) (a b : Db × ChargeResult) : Prop :=
  Kept w db a.1 b.1 ∧ b.2 = a.2 ∧
    ∀ provider, w.ChargeNeutral provider
      (w.chargeText a.2.providerResponse a.2.providerChargeId)

/-- The gateway answers both runs alike, under a key that belongs to the tenant. -/
theorem gatewayCharge (h : Twins w db₁ db₂) (request : ChargeRequest) (success : Bool)
    {chargeId : String} (hk : request.idempotencyKey ∈ w.providerKeys)
    (hcharge : DrawnCharge w chargeId) :
    Alike (Charged w db₁) (MockPaymentGateway.charge w.env db₁ request success chargeId)
      (MockPaymentGateway.charge w.env db₂ request success chargeId) := by
  have hseen : ∀ {r : MockChargeReceipt},
      MockPaymentGateway.findReceipt db₁ request.idempotencyKey = some r →
      ∀ provider, w.ChargeNeutral provider
        (w.chargeText r.providerResponse r.providerChargeId) := by
    intro r hr
    obtain ⟨hr, htest⟩ := Table.head?_filter_eq_some hr
    rw [beq_iff_eq] at htest
    exact h.charge r hr (htest ▸ hk)
  unfold MockPaymentGateway.charge
  rw [h.findReceipt hk]
  refine .same rfl ?_
  rintro fingerprint -
  cases hr : MockPaymentGateway.findReceipt db₁ request.idempotencyKey with
  | some r =>
    simp only [Option.map_some, ok_bind]
    refine .same rfl ?_
    rintro _ -
    exact .ok ⟨h.kept, rfl, hseen hr⟩
  | none =>
    refine .same rfl ?_
    rintro _ -
    have hinsert := h.insertReceipt (r := MockPaymentGateway.newReceipt request fingerprint
      success chargeId) hk hcharge (hcharge.neutral success)
    dsimp only
    rcases hinsert with ⟨h₁, h₂⟩ | ⟨db₁', db₂', h₁, h₂, hkept⟩
    · rw [h₁, h₂]
      dsimp only
      rw [h.findReceipt hk, hr]
      exact .error _
    · rw [h₁, h₂]
      simp only [ok_bind]
      refine .same rfl ?_
      rintro _ -
      exact .ok ⟨hkept, rfl, hcharge.neutral success⟩

/-! ## Settling -/

/-- An attempt in memory: its row and its invoice are there, and its charge id is its own. -/
structure InMemory (w : Setting) (db : Db) (p : PaymentAttempt) : Prop where
  row : HasRow w.attempts.own db.attempts p.id
  invoice : HasRow w.invoices.own db.invoices p.invoiceId
  charge : w.ChargeNeutral p.provider p.providerChargeId

/-- An attempt in memory stays one while the rows of the tenant persist. -/
theorem InMemory.persists {db db' : Db} {p : PaymentAttempt} (h : InMemory w db p)
    (hdb : Persists w db db') : InMemory w db' p :=
  ⟨hdb.attempts _ h.row, hdb.invoices _ h.invoice, h.charge⟩

/-- Both runs do alike in `_apply_success`. -/
theorem applySuccess (h : Twins w db₁ db₂) {s : Subscription} {i : Invoice} {p : PaymentAttempt}
    (hs : HasRow w.subscriptions.own db₁.subscriptions s.id)
    (hi : HasRow w.invoices.own db₁.invoices i.id) (hp : InMemory w db₁ p) (now : DateTime) :
    Alike (Kept w db₁) (PaymentService.applySuccess db₁ s i p now)
      (PaymentService.applySuccess db₂ (s.rename w.names) (i.rename w.names) (p.rename w.names)
        now) := by
  have hother : (db₂.attempts.any fun q => q.invoiceId == (i.rename w.names).id &&
        q.status == .success && q.id != (p.rename w.names).id) =
      db₁.attempts.any fun q => q.invoiceId == i.id && q.status == .success && q.id != p.id := by
    simp only [Bool.and_assoc]
    refine h.any_attempts hi ?_
    intro q hq hown
    have hid : ((q.rename w.names).id != (p.rename w.names).id) = (q.id != p.id) := by
      rw [Bool.eq_iff_iff, bne_iff_ne, bne_iff_ne]
      exact not_congr (h.attempts.map_eq_map_iff (.of_mem hq hown) hp.row)
    exact congrArg (q.status == .success && ·) hid
  have happlicable : (!(s.status != .canceled && decide i.Payable &&
        !db₂.attempts.any fun q => q.invoiceId == (i.rename w.names).id &&
          q.status == .success && q.id != (p.rename w.names).id)) =
      !(s.status != .canceled && decide i.Payable &&
        !db₁.attempts.any fun q => q.invoiceId == i.id && q.status == .success &&
          q.id != p.id) := by
    rw [hother]
  refine .ite (Bool.eq_iff_iff.mp happlicable.symm) (fun _ => ?_) fun _ => ?_
  · exact h.saveAttempt (p := { p with needsReconciliation := true }) _ (by decide) hp.row
      hp.invoice hp.charge
  · refine (h.saveAttempt (p := { p with status := .success }) _ (by decide) hp.row hp.invoice
      hp.charge).bind ?_
    rintro db₁' db₂' hsaved
    refine (hsaved.twins.markPaid (hsaved.persists.invoices _ hi) now).bind ?_
    rintro db₁'' db₂'' hpaid
    have hpersists := hsaved.persists.trans hpaid.persists
    exact alike_after hpersists
      (hpaid.twins.reactivate (hpersists.subscriptions _ hs) now)

/-- Both runs do alike in `_apply_failure`. -/
theorem applyFailure (h : Twins w db₁ db₂) {s : Subscription} {i : Invoice} {p : PaymentAttempt}
    (hs : HasRow w.subscriptions.own db₁.subscriptions s.id)
    (hi : HasRow w.invoices.own db₁.invoices i.id) (hp : InMemory w db₁ p) (now : DateTime) :
    Alike (Kept w db₁) (PaymentService.applyFailure db₁ s i p now)
      (PaymentService.applyFailure db₂ (s.rename w.names) (i.rename w.names) (p.rename w.names)
        now) := by
  refine (h.saveAttempt (p := { p with status := .failed }) _ (by decide) hp.row hp.invoice
    hp.charge).bind ?_
  rintro db₁' db₂' hsaved
  have hi' := hsaved.persists.invoices _ hi
  have hpaid : (db₂'.attempts.any fun q => q.invoiceId == (i.rename w.names).id &&
        q.status == .success) =
      db₁'.attempts.any fun q => q.invoiceId == i.id && q.status == .success :=
    hsaved.twins.any_attempts hi' fun _ _ _ => rfl
  have hcondition : (decide i.Payable && s.status != .canceled &&
        !db₂'.attempts.any fun q => q.invoiceId == (i.rename w.names).id && q.status == .success) =
      (decide i.Payable && s.status != .canceled &&
        !db₁'.attempts.any fun q => q.invoiceId == i.id && q.status == .success) := by
    rw [hpaid]
  refine .ite (Bool.eq_iff_iff.mp hcondition.symm) (fun _ => ?_) fun _ => .ok hsaved
  refine (hsaved.twins.markFailed hi' now).bind ?_
  rintro db₁'' db₂'' hfailed
  have hpersists := hsaved.persists.trans hfailed.persists
  exact alike_after hpersists (hfailed.twins.markOverdue (hpersists.subscriptions _ hs) now)

/-- The charge id is recorded in both runs, or belongs to another payment in both. -/
inductive SameBinding (w : Setting) (db : Db) :
    PaymentService.ChargeBinding → PaymentService.ChargeBinding → Prop
  | bound {db₁ db₂ : Db} {p : PaymentAttempt} (hkept : Kept w db db₁ db₂)
      (hp : InMemory w db₁ p) :
      SameBinding w db (.bound db₁ p) (.bound db₂ (p.rename w.names))
  | collided {db₁ db₂ : Db} (hkept : Kept w db db₁ db₂) :
      SameBinding w db (.collided db₁) (.collided db₂)

/-- Both runs do alike in `_bind_charge_id`, where no other tenant has the charge id. -/
theorem bindChargeId (h : Twins w db₁ db₂) {p : PaymentAttempt} (hp : InMemory w db₁ p)
    (response : List (String × Json)) {incoming : Json}
    (hincoming : ∀ provider, w.ChargeNeutral provider (w.env.columnText incoming)) :
    Alike (SameBinding w db₁) (PaymentService.bindChargeId w.env db₁ p response incoming)
      (PaymentService.bindChargeId w.env db₂ (p.rename w.names) response incoming) := by
  refine .ite Iff.rfl (fun _ => ?_) fun _ => ?_
  · have hsaved := h.saveAttempt (p := { p with
      providerResponse := .obj response
      providerChargeId := w.env.columnText incoming })
      [.providerResponse, .providerChargeId] (by decide) hp.row hp.invoice
      (hincoming p.provider)
    have hflagged := h.saveAttempt (p := { p with
      providerChargeId := ""
      providerResponse := PaymentService.collisionResponse response incoming
      needsReconciliation := true })
      [.providerResponse, .needsReconciliation] (by decide) hp.row hp.invoice
      Neutral.never
    dsimp only [PaymentAttempt.rename] at hsaved hflagged ⊢
    rcases hsaved.both with ⟨db₁', db₂', h₁, h₂, hkept⟩ | ⟨e, h₁, h₂⟩
    · rw [h₁, h₂]
      refine .ok (.bound (p := { p with
        providerResponse := .obj response
        providerChargeId := w.env.columnText incoming }) hkept ?_)
      exact ⟨hkept.persists.attempts _ hp.row, hkept.persists.invoices _ hp.invoice,
        hincoming p.provider⟩
    · rw [h₁, h₂]
      split
      case h_1 hok => cases hok
      case h_2 =>
        refine hflagged.bind ?_
        rintro _ _ hkept
        exact .ok (.collided hkept)
      case h_3 herror =>
        cases herror
        exact .error _
  · exact .ok (.bound (p := { p with providerResponse := .obj response }) h.kept
      ⟨hp.row, hp.invoice, hp.charge⟩)

/-- Both runs do alike in `_settle`. -/
theorem settle (h : Twins w db₁ db₂) {n : ℕ} (hn : HasRow w.attempts.own db₁.attempts n)
    (success : Bool) (response : List (String × Json)) (chargeId : String) (now : DateTime)
    (hcharge : ∀ provider, w.ChargeNeutral provider (w.chargeText response chargeId)) :
    Alike (Kept w db₁) (PaymentService.settle w.env db₁ n success response chargeId now)
      (PaymentService.settle w.env db₂ (w.names.attempts.map n) success response chargeId now) := by
  refine (fetch_alike h.attempts hn "PaymentAttempt").bind ?_
  rintro p _ ⟨rfl, hp, hpo, -⟩
  have hpi := h.tenancy₁.attempts.hasRow hp hpo
  refine (fetch_alike h.invoices hpi "Invoice").bind ?_
  rintro i _ ⟨rfl, hi, hio, -⟩
  have his := h.tenancy₁.subscriptions.hasRow hi hio
  refine (fetch_alike h.subscriptions his "Subscription").bind ?_
  rintro s _ ⟨rfl, hs, hso, -⟩
  have hmemory : InMemory w db₁ p :=
    ⟨.of_mem hp hpo, hpi, (h.neutral p hp (own_attempt.mp hpo)).2⟩
  refine .ite Iff.rfl (fun _ => .ok h.kept) fun _ => ?_
  refine .ite Iff.rfl (fun _ => ?_) fun _ => ?_
  · -- another charge id than the recorded one
    exact h.saveAttempt (p := { p with
      needsReconciliation := true
      providerResponse := PaymentService.mismatchResponse p.providerResponse response
        (PaymentService.incomingChargeId response chargeId) })
      _ (by decide) hmemory.row hmemory.invoice hmemory.charge
  refine .ite Iff.rfl (fun _ => .ok h.kept) fun _ => ?_
  refine (h.bindChargeId hmemory response hcharge).bind ?_
  rintro _ _ hbinding
  cases hbinding with
  | collided hkept => exact .ok hkept
  | @bound db₁' db₂' p hkept hp =>
    have hs' := hkept.persists.subscriptions _ (.of_mem hs hso)
    have hi' := hkept.persists.invoices _ (.of_mem hi hio)
    refine .ite Iff.rfl (fun _ => .ok hkept) fun _ => ?_
    refine .ite Iff.rfl (fun _ => ?_) fun _ => ?_
    · exact alike_after hkept.persists (hkept.twins.applySuccess hs' hi' hp now)
    · exact alike_after hkept.persists (hkept.twins.applyFailure hs' hi' hp now)

/-! ## Charging -/

/-- What a charge leaves behind, and what it returns. -/
def Phased (w : Setting) (db : Db) (a b : Db × Except Err (Option PaymentAttempt)) : Prop :=
  Kept w db a.1 b.1 ∧ Alike (fun p q => q = p.map (PaymentAttempt.rename w.names)) a.2 b.2

/-- What the phases do after more writes, they do from the first state. -/
theorem Phased.after {db db' : Db} {a b : Db × Except Err (Option PaymentAttempt)}
    (h : Phased w db' a b) (hdb : Persists w db db') : Phased w db a b :=
  ⟨h.1.after hdb, h.2⟩

/-- The next phase, in both runs. -/
theorem Phased.phase {α β : Type} {Q : α → β → Prop} {x : Except Err α} {y : Except Err β}
    {f : α → Db × Except Err (Option PaymentAttempt)}
    {g : β → Db × Except Err (Option PaymentAttempt)} (h : Twins w db₁ db₂) (hxy : Alike Q x y)
    (hrest : ∀ a b, Q a b → Phased w db₁ (f a) (g b)) :
    Phased w db₁ (PaymentService.afterPhase db₁ x f) (PaymentService.afterPhase db₂ y g) := by
  cases hxy with
  | ok h => exact hrest _ _ h
  | error e => exact ⟨h.kept, .error e⟩

/-- Both runs do alike in the phases after an attempt is committed. -/
theorem chargePhases (h : Twins w db₁ db₂) {n : ℕ} (hn : HasRow w.attempts.own db₁.attempts n)
    {draw : ChargeDraw} (hdraw : DrawnCharge w draw.chargeId) :
    Phased w db₁ (PaymentService.chargePhases w.env db₁ n draw)
      (PaymentService.chargePhases w.env db₂ (w.names.attempts.map n) draw) := by
  refine Phased.phase h (fetch_alike h.attempts hn "PaymentAttempt") ?_
  rintro p _ ⟨rfl, hp, hpo, hpn⟩
  have hchargeable : PaymentService.chargeable (w.attempts.row p) =
      PaymentService.chargeable p := rfl
  dsimp only
  rw [hchargeable]
  split_ifs
  · exact ⟨h.kept, .ok rfl⟩
  have hgateway : Alike (fun _ _ => True) (getPaymentGateway p.provider)
      (getPaymentGateway (w.attempts.row p).provider) :=
        (ensure_alike rfl _).mono fun _ _ _ => trivial
  refine Phased.phase h hgateway ?_
  rintro _ _ -
  refine Phased.phase h (h.gatewayCharge (PaymentService.chargeRequest p) draw.success
    (h.providerKey p hp (own_attempt.mp hpo)) hdraw) ?_
  rintro ⟨db₁', _⟩ ⟨db₂', result⟩ ⟨hkept, rfl, hneutral⟩
  have hn' := hkept.persists.attempts _ (.of_mem hp hpo)
  refine Phased.after ?_ hkept.persists
  refine Phased.phase hkept.twins (hkept.twins.settle hn' result.success result.providerResponse
    result.providerChargeId draw.settledAt hneutral) ?_
  intro db₁'' db₂'' hsettled
  refine ⟨hsettled, ?_⟩
  have hn'' := hpn ▸ hsettled.persists.attempts _ hn'
  refine (fetch_alike hsettled.twins.attempts hn'' "PaymentAttempt").map ?_
  intro _ _ hq
  rw [hq.1]
  rfl

/-- Both runs do alike in the phases of one attempt to pay. -/
theorem phases (h : Twins w db₁ db₂) {n : ℕ} (hn : HasRow w.invoices.own db₁.invoices n)
    (idempotencyKey : Option String) (issuedOnly : Bool) {draw : ChargeDraw}
    (hkey : DrawnKey w draw.providerKey) (hdraw : DrawnCharge w draw.chargeId) :
    Phased w db₁ (PaymentService.phases w.env db₁ n idempotencyKey issuedOnly draw)
      (PaymentService.phases w.env db₂ (w.names.invoices.map n) idempotencyKey issuedOnly
        draw) := by
  refine Phased.phase h (h.prepare hn idempotencyKey issuedOnly hkey draw.preparedAt) ?_
  rintro ⟨db₁', p, shouldCharge⟩ ⟨db₂', _⟩ ⟨hkept, rfl, hp⟩
  cases p with
  | none => exact ⟨hkept, .ok rfl⟩
  | some p =>
    cases shouldCharge with
    | false => exact ⟨hkept, .ok rfl⟩
    | true => exact (hkept.twins.chargePhases (hp p rfl) hdraw).after hkept.persists

/-- The worker, in both runs. -/
theorem runCharges (h : Twins w db₁ db₂) {draws : ℕ → ChargeDraw}
    (hkeys : ∀ i, DrawnKey w (draws i).providerKey)
    (hdraws : ∀ i, DrawnCharge w (draws i).chargeId) {tasks : List (ℕ × ℕ)}
    (htasks : ∀ task ∈ tasks, HasRow w.invoices.own db₁.invoices task.1) :
    Kept w db₁ (Chargeflow.runCharges w.env draws db₁ tasks)
      (Chargeflow.runCharges w.env draws db₂
        (tasks.map (Prod.map w.names.invoices.map id))) := by
  induction tasks generalizing db₁ db₂ with
  | nil => exact h.kept
  | cons task tasks ih =>
    have hstep := (h.phases (htasks task List.mem_cons_self) none true (hkeys task.2)
      (hdraws task.2)).1
    refine (ih hstep.twins ?_).after hstep.persists
    intro t ht
    exact hstep.persists.invoices _ (htasks t (List.mem_cons_of_mem task ht))

/-- The charges that both runs have handed off. -/
theorem triggered (h : Twins w db₁ db₂) :
    Chargeflow.triggered w.start₂ db₂ =
        (Chargeflow.triggered w.start₁ db₁).map (Prod.map w.names.invoices.map id) ∧
      ∀ task ∈ Chargeflow.triggered w.start₁ db₁, HasRow w.invoices.own db₁.invoices task.1 := by
  obtain ⟨l, hl₁, hl₂, hl⟩ := h.tasks
  unfold Chargeflow.triggered
  rw [hl₁, hl₂, List.drop_left, List.drop_left]
  refine ⟨List.zipIdx_map, ?_⟩
  intro task htask
  exact hl _ (List.fst_mem_of_mem_zipIdx htask)

end Twins

end Chargeflow
