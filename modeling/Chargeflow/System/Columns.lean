import Chargeflow.System.Prices
import Chargeflow.System.Settling
import Chargeflow.System.Writes

/-!
# What fits the columns

An attempt copies the price of a plan, by way of the invoice, and the provider's tokens of a
customer.  The columns it copies from are as wide as its own, so the attempt of a stored invoice
fits, and `_prepare` goes through for a stored invoice, unless it refuses the call or the client key
is too long.
-/

namespace Chargeflow

open Foundation PaymentService

/-- An amount and a currency fit their columns. -/
def FitsPrice (amount : ℤ) (currency : String) : Prop :=
  amount.natAbs < 10 ^ 10 ∧ currency.length ≤ 3

/-- The tokens of a customer fit their columns. -/
def Customer.Fits (c : Customer) : Prop :=
  c.providerCustomerId.length ≤ 255 ∧ c.providerPaymentMethodId.length ≤ 255

/-- What an attempt copies fits the columns it is copied from. -/
structure Db.Fits (db : Db) : Prop where
  plans : ∀ p ∈ db.plans, FitsPrice p.price p.currency
  customers : ∀ c ∈ db.customers, c.Fits
  invoices : ∀ i ∈ db.invoices, FitsPrice i.total i.currency

/-- The empty database fits its columns. -/
theorem Db.Fits.empty : Db.empty.Fits := by
  refine ⟨?_, ?_, ?_⟩ <;>
  · intro a ha
    simp [Db.empty] at ha

variable {env : Env} {db db' : Db}

/-! ## One transaction -/

/-- A plan that is saved fits its columns. -/
theorem Plan.save_fits {p : Plan} (h : p.save db = .ok db') :
    FitsPrice p.price p.currency ∧ ∀ q ∈ db'.plans, q ∈ db.plans ∨ FitsPrice q.price q.currency := by
  simp only [Plan.save, check_eq_ok_iff, checkAmount, checkLength, ensure_eq_ok_iff,
    decide_eq_true_eq, pure_eq_ok_iff] at h
  obtain ⟨-, -, hprice, hcurrency, rfl⟩ := h
  refine ⟨⟨hprice, hcurrency⟩, ?_⟩
  intro q hq
  cases hget : db.plans.get? p.id with
  | some row =>
    rw [hget] at hq
    rcases Table.mem_update.mp hq with ⟨rfl, -⟩ | ⟨hq, -⟩
    · exact Or.inr ⟨hprice, hcurrency⟩
    · exact Or.inl hq
  | none =>
    rw [hget] at hq
    rcases Table.mem_insert.mp hq with hq | rfl
    · exact Or.inl hq
    · exact Or.inr ⟨hprice, hcurrency⟩

/-- A customer that is saved fits its columns. -/
theorem Customer.save_fits {c : Customer} (h : c.save db = .ok db') :
    ∀ q ∈ db'.customers, q ∈ db.customers ∨ q.Fits := by
  simp only [Customer.save, check_eq_ok_iff, checkLength, ensure_eq_ok_iff, decide_eq_true_eq,
    pure_eq_ok_iff] at h
  obtain ⟨-, hcustomer, hmethod, rfl⟩ := h
  intro q hq
  cases hget : db.customers.get? c.id with
  | some row =>
    rw [hget] at hq
    rcases Table.mem_update.mp hq with ⟨rfl, -⟩ | ⟨hq, -⟩
    · exact Or.inr ⟨hcustomer, hmethod⟩
    · exact Or.inl hq
  | none =>
    rw [hget] at hq
    rcases Table.mem_insert.mp hq with hq | rfl
    · exact Or.inl hq
    · exact Or.inr ⟨hcustomer, hmethod⟩

/-- An operation leaves plans and customers that fit their columns. -/
theorem Operation.fits_parents {op : Operation} (h : op.apply env db = .ok db') (hdb : db.Fits) :
    (∀ p ∈ db'.plans, FitsPrice p.price p.currency) ∧ ∀ c ∈ db'.customers, c.Fits := by
  have hsame : ∀ {db₁ : Db}, db₁.plans = db.plans ∧ db₁.customers = db.customers →
      (∀ p ∈ db₁.plans, FitsPrice p.price p.currency) ∧ ∀ c ∈ db₁.customers, c.Fits := by
    rintro db₁ ⟨hplans, hcustomers⟩
    rw [hplans, hcustomers]
    exact ⟨hdb.plans, hdb.customers⟩
  have hparents : ∀ {a b : Db}, Reaches ServiceWrite a b →
      b.plans = a.plans ∧ b.customers = a.customers := by
    intro a b hwrites
    refine hwrites.relation (R := fun a b => b.plans = a.plans ∧ b.customers = a.customers) ?_ ?_ ?_
    · exact fun _ => ⟨rfl, rfl⟩
    · exact fun a b c hab hbc => ⟨hbc.1.trans hab.1, hbc.2.trans hab.2⟩
    · exact fun a b hwrite => hwrite.parents
  cases op with
  | savePlan plan =>
    obtain ⟨plans, rfl⟩ := Plan.save_eq_ok h
    refine ⟨?_, hdb.customers⟩
    intro q hq
    rcases (Plan.save_fits h).2 q hq with hold | hfits
    · exact hdb.plans q hold
    · exact hfits
  | saveCustomer customer =>
    obtain ⟨customers, rfl⟩ := Customer.save_eq_ok h
    refine ⟨hdb.plans, ?_⟩
    intro q hq
    rcases Customer.save_fits h q hq with hold | hfits
    · exact hdb.customers q hold
    · exact hfits
  | create customerId planId now issuedAt =>
    obtain ⟨⟨db₁, s⟩, hrun, rfl⟩ := map_eq_ok_iff.mp h
    obtain ⟨s₀, db₂, s₁, -, -, hcreate, hrest⟩ := SubscriptionService.create_writes hrun
    obtain ⟨customer, -, -, hdb₂, -⟩ := Subscription.create_eq_ok hcreate
    obtain ⟨hplans, hcustomers⟩ := hparents (hrest.mono fun _ _ => ServiceWrite.lifecycle)
    rw [hdb₂] at hplans hcustomers
    exact hsame ⟨hplans, hcustomers⟩
  | _ =>
    refine hsame (Operation.service_relation
      (R := fun a b => b.plans = a.plans ∧ b.customers = a.customers) ?_ ?_ ?_ h rfl)
    · exact fun a b c hab hbc => ⟨hbc.1.trans hab.1, hbc.2.trans hab.2⟩
    · exact fun _ _ _ => ⟨rfl, rfl⟩
    · exact fun a b hwrite => hwrite.parents

/-- An operation leaves rows that fit their columns. -/
theorem Operation.fits {op : Operation} (h : op.apply env db = .ok db') (hdb : db.Fits) :
    db'.Fits := by
  obtain ⟨hplans, hcustomers⟩ := Operation.fits_parents h hdb
  refine ⟨hplans, hcustomers, ?_⟩
  have hkept : ∀ {db₁ : Db}, PricesKept db db₁ →
      ∀ i ∈ db₁.invoices, FitsPrice i.total i.currency := by
    intro db₁ hkept i' hi'
    obtain ⟨i, hi, -, htotal, hcurrency⟩ := hkept.origin i' hi'
    rw [← htotal, ← hcurrency]
    exact hdb.invoices i hi
  cases Operation.pricing h with
  | kept h => exact hkept h
  | @billed db₁ hprices hsame s hs hbilled =>
    cases hbilled with
    | already i hi hcovers heq => exact heq ▸ hkept hprices
    | issued plan hplan hplanId now hnone heq =>
      subst heq
      intro i hi
      rcases Table.mem_insert.mp hi with hi | rfl
      · exact hkept hprices i hi
      · exact hdb.plans plan (hsame ▸ hplan)

/-- Every reachable database fits its columns. -/
theorem Reachable.fits (h : Reachable env db) : db.Fits :=
  h.invariant (I := Db.Fits) .empty fun _ _ _ hdb ⟨_, hop⟩ => Operation.fits hop hdb

/-! ## Preparing a charge -/

/-- A client key fits its column. -/
def FitsKey (key : Option String) : Prop := (key.getD "").length ≤ 255

/-- Whether a key fits its column can be computed. -/
instance (key : Option String) : Decidable (FitsKey key) := by unfold FitsKey; infer_instance

/-- A key for the provider as `_prepare` draws one. -/
def FreshKey (db : Db) (providerKey : String) : Prop :=
  FitsColumn providerKey 255 ∧ ∀ q ∈ db.attempts, q.providerIdempotencyKey ≠ providerKey

variable {i : Invoice} {c : Customer} {key : Option String} {providerKey : String}

/-- Of an attempt of a stored invoice only the client key may not fit. -/
theorem checkLengths_preparedAttempt (h : db.Fits) (hi : i ∈ db.invoices) (hc : c ∈ db.customers)
    (hkey : FreshKey db providerKey) (key : Option String) (now : DateTime) :
    (preparedAttempt i c key providerKey now).checkLengths =
      if FitsKey key then .ok () else .error (.dataError "idempotency_key") := by
  obtain ⟨htotal, hcurrency⟩ := h.invoices i hi
  obtain ⟨hcustomer, hmethod⟩ := h.customers c hc
  have hfits : ∀ {column text : String} {n : ℕ}, text.length ≤ n → checkLength column text n = .ok () :=
    fun hle => if_pos (decide_eq_true hle)
  have hamount : checkAmount "amount" i.total = .ok () := if_pos (decide_eq_true htotal)
  have hprovider : checkLength "provider" "mock" 50 = .ok () := by decide
  have hcharge : checkLength "provider_charge_id" "" 255 = .ok () := by decide
  simp only [PaymentAttempt.checkLengths, preparedAttempt, newAttempt, hamount, hfits hcurrency,
    hprovider, hfits hkey.1.1, hfits hcustomer, hfits hmethod, hcharge, ok_bind]
  simp only [checkLength, ensure, decide_eq_true_eq]
  rfl

/-- A new attempt of an invoice violates no unique constraint. -/
theorem preparedAttempt_unique (hkey : FreshKey db providerKey) (hunbound : Unbound db.attempts i key)
    (now : DateTime) :
    PaymentAttempt.Unique db.attempts (preparedAttempt i c (normalizeKey key) providerKey now) where
  clientKey q hq _ horg k hk := hunbound k hk q hq horg
  success _ _ _ hsuccess := PaymentStatus.noConfusion hsuccess
  providerKey q hq _ _ := hkey.2 q hq
  charge _ _ _ _ hcharge := absurd rfl hcharge

/-- The attempt of a stored invoice is created, unless the client key does not fit. -/
theorem create_preparedAttempt (h : db.Fits) (hi : i ∈ db.invoices) (hc : c ∈ db.customers)
    (hkey : FreshKey db providerKey) (hunbound : Unbound db.attempts i key) (now : DateTime) :
    PaymentAttempt.create db (newAttempt i c (normalizeKey key) providerKey now) =
      if FitsKey (normalizeKey key) then
        .ok ({ db with attempts :=
            db.attempts.insert (preparedAttempt i c (normalizeKey key) providerKey now) },
          withKey db.attempts.next (preparedAttempt i c (normalizeKey key) providerKey now))
      else .error (.dataError "idempotency_key") := by
  have hclean : PaymentAttempt.clean db none (newAttempt i c (normalizeKey key) providerKey now) =
      .ok (preparedAttempt i c (normalizeKey key) providerKey now) := by
    have hfetch : fetch db.invoices "Invoice" i.id = .ok i := fetch_key hi
    have hinvoice : (newAttempt i c (normalizeKey key) providerKey now).invoiceId = i.id := rfl
    have hid : (newAttempt i c (normalizeKey key) providerKey now).id = 0 := rfl
    unfold PaymentAttempt.clean
    rw [hinvoice, hfetch, ok_bind, hid, Table.get?_zero]
    rfl
  have hnormal : ({ newAttempt i c (normalizeKey key) providerKey now with
      idempotencyKey :=
        normalizeKey (newAttempt i c (normalizeKey key) providerKey now).idempotencyKey } :
      PaymentAttempt) = newAttempt i c (normalizeKey key) providerKey now := by
    have hsame : normalizeKey (newAttempt i c (normalizeKey key) providerKey now).idempotencyKey =
        normalizeKey key := normalizeKey_normalizeKey key
    rw [hsame]
    rfl
  have hconstraints : PaymentAttempt.checkConstraints db
      (preparedAttempt i c (normalizeKey key) providerKey now) = .ok () :=
    PaymentAttempt.checkConstraints_eq_ok_iff.mpr (preparedAttempt_unique hkey hunbound now)
  unfold PaymentAttempt.create
  dsimp only
  rw [hnormal, hclean, ok_bind, checkLengths_preparedAttempt h hi hc hkey]
  split_ifs with hfits
  · rw [ok_bind, hconstraints, ok_bind]
    rfl
  · rfl

/-- The errors that the endpoint of `attempt` answers with a 400 or a 409. -/
inductive Refusal : Err → Prop
  | notPayable (message : String) : Refusal (.invoiceNotPayable message)
  | conflict (message : String) : Refusal (.idempotencyConflict message)

/-- `_prepare` goes through, refuses the call, or finds the client key too long. -/
inductive Prepares (key : Option String) : Except Err (Db × Option PaymentAttempt × Bool) → Prop
  | prepared (r : Db × Option PaymentAttempt × Bool) : Prepares key (.ok r)
  | refused {e : Err} (h : Refusal e) : Prepares key (.error e)
  | tooLong (h : ¬ FitsKey key) : Prepares key (.error (.dataError "idempotency_key"))

variable {s : Subscription}

/-- An attempt is found or created, or the call is refused. -/
theorem prepareAttempt_prepares (hdb : db.Fits) (htenancy : Tenancy db) (hi : i ∈ db.invoices)
    (hs : s ∈ db.subscriptions) (hkey : FreshKey db providerKey)
    (hunbound : Unbound db.attempts i key) (now : DateTime) :
    Prepares (normalizeKey key) (prepareAttempt db s i (normalizeKey key) providerKey now) := by
  unfold prepareAttempt
  by_cases hpayable : i.Payable
  · rw [if_neg (not_not.mpr hpayable)]
    dsimp only
    split
    · rename_i q hq
      cases htest : (normalizeKey key).isNone || q.idempotencyKey == normalizeKey key with
      | true => exact .prepared _
      | false => exact .refused (.conflict _)
    · split
      · exact .prepared _
      · by_cases hopen : s.status = .canceled
        · rw [hopen]
          exact .refused (.notPayable _)
        · obtain ⟨c, hc, hcid, -⟩ := htenancy.customer s hs
          have hfetch : fetch db.customers "Customer" s.customerId = .ok c :=
            fetch_eq_ok_iff.mpr ⟨hc, hcid⟩
          rw [ensure, if_pos (by simp [hopen]), ok_bind, hfetch, ok_bind,
            create_preparedAttempt hdb hi hc hkey hunbound now]
          split_ifs with hfits
          · exact .prepared _
          · exact .tooLong hfits
  · rw [if_pos hpayable]
    split
    · exact .prepared _
    · exact .refused (.notPayable _)

/-- The worker is refused nothing. -/
theorem prepareAttempt_of_issued (hdb : db.Fits) (htenancy : Tenancy db) (hi : i ∈ db.invoices)
    (hs : s ∈ db.subscriptions) (hkey : FreshKey db providerKey) (hissued : i.status = .issued)
    (hopen : s.status ≠ .canceled) (now : DateTime) :
    ∃ r, prepareAttempt db s i none providerKey now = .ok r := by
  unfold prepareAttempt
  rw [if_neg (not_not.mpr (Invoice.payable_iff.mpr (Or.inl hissued)))]
  dsimp only
  split
  · exact ⟨_, rfl⟩
  · split
    · exact ⟨_, rfl⟩
    · obtain ⟨c, hc, hcid, -⟩ := htenancy.customer s hs
      have hfetch : fetch db.customers "Customer" s.customerId = .ok c :=
        fetch_eq_ok_iff.mpr ⟨hc, hcid⟩
      have hunbound : Unbound db.attempts i none := fun _ hk => nomatch hk
      have hcreate := create_preparedAttempt (c := c) hdb hi hc hkey hunbound now
      rw [ensure, if_pos (by simp [hopen]), ok_bind, hfetch, ok_bind]
      rw [show normalizeKey none = none from rfl, if_pos (by decide)] at hcreate
      rw [hcreate]
      exact ⟨_, rfl⟩

/-- `_prepare` for a stored invoice. -/
theorem prepare_prepares (hdb : db.Fits) (htenancy : Tenancy db) (hi : i ∈ db.invoices)
    (hkey : FreshKey db providerKey) (key : Option String) (issuedOnly : Bool) (now : DateTime) :
    Prepares (normalizeKey key) (prepare db i.id key issuedOnly providerKey now) := by
  obtain ⟨s, hs, hsid, -⟩ := htenancy.subscription i hi
  have hfetchI : fetch db.invoices "Invoice" i.id = .ok i := fetch_key hi
  have hfetchS : fetch db.subscriptions "Subscription" i.subscriptionId = .ok s :=
    fetch_eq_ok_iff.mpr ⟨hs, hsid⟩
  simp only [prepare, hfetchI, hfetchS, ok_bind]
  split_ifs with hskip
  · exact .prepared _
  · split
    · rename_i q hq
      cases htest : q.invoiceId == i.id with
      | true => exact .prepared _
      | false => exact .refused (.conflict _)
    · rename_i hreplay
      refine prepareAttempt_prepares hdb htenancy hi hs hkey ?_ now
      intro k hk q hq horg hqk
      rw [hk, Option.bind_some] at hreplay
      have htest := Table.head?_filter_eq_none.mp hreplay q hq
      simp [horg, hqk] at htest

/-- The worker prepares the charge of every invoice. -/
theorem prepare_of_worker (hdb : db.Fits) (hsound : db.Consistent) (hi : i ∈ db.invoices)
    (hkey : FreshKey db providerKey) (now : DateTime) :
    ∃ r, prepare db i.id none true providerKey now = .ok r := by
  obtain ⟨s, hs, hsid, -⟩ := hsound.tenancy.subscription i hi
  have hfetchI : fetch db.invoices "Invoice" i.id = .ok i := fetch_key hi
  have hfetchS : fetch db.subscriptions "Subscription" i.subscriptionId = .ok s :=
    fetch_eq_ok_iff.mpr ⟨hs, hsid⟩
  simp only [prepare, hfetchI, hfetchS, ok_bind]
  by_cases hissued : i.status = .issued
  · rw [if_neg (by simp [hissued])]
    -- the subscription of an ISSUED invoice is open
    have hopen : s.status ≠ .canceled := by
      intro hcanceled
      rcases (hsound.sound.inStanding.agrees s hs i hi hsid.symm).closed hcanceled with h | h | h <;>
        simp [hissued] at h
    exact prepareAttempt_of_issued hdb hsound.tenancy hi hs hkey hissued hopen now
  · rw [if_pos (by simp [hissued])]
    exact ⟨_, rfl⟩

end Chargeflow
