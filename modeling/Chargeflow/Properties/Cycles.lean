import Chargeflow.System.Cycles

/-!
# Each cycle bills what is due, once

A cycle lists the subscriptions that are due and moves each of them to its next period, unless the
handler raises for it.  What one handler does is the same whatever the others did before it, so the
order of the list changes nothing but the keys of the new rows, and what a failing handler leaves
undone is done by the next execution.
-/

namespace Chargeflow

open Foundation SubscriptionService

variable {env : Env} {db db' : Db} {now : DateTime} {cycle : Cycle} {raises : ℕ → Option Raised}

/-- The subscriptions for which the handler raises. -/
def Cycle.failing (raises : ℕ → Option Raised) (cycle : Cycle) (now : DateTime) (db : Db) : Set ℕ :=
  fun id => ∃ e, cycle.handlerRaising raises now db id = .error e

/-- An execution of a cycle whose handler raises for the subscriptions in `B`. -/
structure Cycle.Exact (cycle : Cycle) (now : DateTime) (B : Set ℕ) (db db' : Db) : Prop where
  /-- A subscription that is due enters its next period, with one new invoice. -/
  billed : ∀ s ∈ db.subscriptions, cycle.selects now s = true → s.id ∉ B →
    ∃ plan ∈ db.plans, ∃ e, plan.id = s.planId ∧ computePeriodEnd now plan = .ok e ∧ now < e ∧
      (s.stamp .active now).inPeriod now e ∈ db'.subscriptions ∧
      ∃ i ∈ db'.invoices, i ∉ db.invoices ∧
        i = withKey i.id (issuedInvoice plan ((s.stamp .active now).inPeriod now e) now) ∧
        ∀ j ∈ db'.invoices, j.subscriptionId = s.id → j ∈ db.invoices ∨ j = i
  /-- Every other subscription is left alone. -/
  kept : ∀ s ∈ db.subscriptions, (cycle.selects now s = true → s.id ∈ B) →
    s ∈ db'.subscriptions ∧ ∀ i ∈ db'.invoices, i.subscriptionId = s.id → i ∈ db.invoices
  subscriptions : ∀ s' ∈ db'.subscriptions, ∃ s ∈ db.subscriptions, s.id = s'.id
  /-- The old invoices are left alone. -/
  invoices : ∀ i ∈ db.invoices, i ∈ db'.invoices
  issued : ∀ i ∈ db'.invoices, i ∉ db.invoices →
    ∃ s ∈ db.subscriptions, s.id = i.subscriptionId ∧ cycle.selects now s = true ∧ s.id ∉ B
  /-- Every new invoice is handed to the charge worker, once. -/
  handedOff : ∃ tasks, db'.chargeTasks = db.chargeTasks ++ tasks ∧ tasks.Nodup ∧
    ∀ n, n ∈ tasks ↔ ∃ i ∈ db'.invoices, i ∉ db.invoices ∧ i.id = n
  lines : ∀ l ∈ db.invoiceLines, l ∈ db'.invoiceLines
  plans : db'.plans = db.plans
  customers : db'.customers = db.customers
  attempts : db'.attempts = db.attempts
  webhookEvents : db'.webhookEvents = db.webhookEvents
  receipts : db'.receipts = db.receipts

/-! ## The bills of a run -/

/-- The bills of a run belong to different subscriptions that are listed. -/
structure BillsOf (cycle : Cycle) (now : DateTime) (B : Set ℕ) (db : Db) (bills : List Bill) :
    Prop where
  nodup : (bills.map fun b => b.subscription.id).Nodup
  billed : ∀ b, b ∈ bills ↔ ∃ s ∈ db.subscriptions, cycle.selects now s = true ∧ s.id ∉ B ∧
    nextBill db now s = some b
  total : ∀ s ∈ db.subscriptions, cycle.selects now s = true → s.id ∉ B →
    ∃ b, nextBill db now s = some b

/-- The bill of a subscription is about that subscription. -/
theorem id_of_nextBill {s : Subscription} {b : Bill} (h : nextBill db now s = some b) :
    b.subscription.id = s.id := by
  obtain ⟨e, -, hrow, -⟩ := nextBill_eq_some h
  rw [hrow]
  rfl

/-- A handler fails for a listed subscription that has no bill. -/
theorem Cycle.mem_failing (h : Reaches (ClockedStep env) Db.empty db) {s : Subscription}
    (hs : s ∈ db.subscriptions) (hselects : cycle.selects now s = true) :
    s.id ∈ cycle.failing raises now db ↔ billOf raises now db s.id = none := by
  have hget : db.subscriptions.get? s.id = some s := Table.get?_key hs
  have hhandler := handler_of_reaches h hs hselects
  unfold failing billOf handlerRaising
  show (∃ e, _ = Except.error e) ↔ _
  cases raises s.id with
  | some e => exact ⟨fun _ => rfl, fun _ => ⟨e, rfl⟩⟩
  | none =>
    simp only [hget, Option.bind_some]
    cases hbill : nextBill db now s with
    | none =>
      rw [hbill] at hhandler
      obtain ⟨e, he⟩ := hhandler
      exact ⟨fun _ => rfl, fun _ => ⟨.exception e, by rw [he]; rfl⟩⟩
    | some b =>
      rw [hbill] at hhandler
      dsimp only at hhandler
      rw [hhandler]
      constructor
      · rintro ⟨e, he⟩
        cases he
      · intro hnone
        cases hnone

/-- A cycle that starts with all the selected rows makes their bills. -/
theorem Cycle.Starts.billsOf {ids : List ℕ} (h : cycle.Starts env raises now db ids)
    (hall : ∀ s ∈ db.subscriptions, cycle.selects now s = true → s.id ∈ ids) :
    BillsOf cycle now (cycle.failing raises now db) db
      (ids.filterMap (billOf raises now db)) := by
  -- the bill of a listed subscription that does not fail
  have hbillOf : ∀ {id b}, billOf raises now db id = some b → ∃ s ∈ db.subscriptions,
      s.id = id ∧ nextBill db now s = some b := by
    intro id b hb
    unfold billOf at hb
    split at hb
    case h_1 => cases hb
    obtain ⟨s, hs, hb⟩ := Option.bind_eq_some_iff.mp hb
    obtain ⟨hmem, hid⟩ := Table.get?_eq_some_iff.mp hs
    exact ⟨s, hmem, hid, hb⟩
  have htotal : ∀ s ∈ db.subscriptions, cycle.selects now s = true →
      s.id ∉ cycle.failing raises now db → ∃ b, billOf raises now db s.id = some b ∧
        nextBill db now s = some b := by
    intro s hs hselects hfails
    rw [mem_failing h.reached hs hselects] at hfails
    obtain ⟨b, hb⟩ := Option.ne_none_iff_exists'.mp hfails
    obtain ⟨t, ht, hid, hbill⟩ := hbillOf hb
    obtain rfl := Table.eq_of_key_eq ht hs hid
    exact ⟨b, hb, hbill⟩
  refine ⟨?_, ?_, ?_⟩
  · rw [List.map_filterMap]
    refine h.nodup.filterMap ?_
    intro id id' n hn hn'
    obtain ⟨b, hb, rfl⟩ := Option.map_eq_some_iff.mp hn
    obtain ⟨b', hb', heq⟩ := Option.map_eq_some_iff.mp hn'
    obtain ⟨s, -, rfl, hs⟩ := hbillOf hb
    obtain ⟨s', -, rfl, hs'⟩ := hbillOf hb'
    rw [← id_of_nextBill hs, ← id_of_nextBill hs', heq]
  · intro b
    rw [List.mem_filterMap]
    constructor
    · rintro ⟨id, hid, hb⟩
      obtain ⟨s, hs, rfl, hselects⟩ := h.listed id hid
      obtain ⟨t, ht, htid, hbill⟩ := hbillOf hb
      obtain rfl := Table.eq_of_key_eq ht hs htid
      refine ⟨t, ht, hselects, ?_, hbill⟩
      rw [mem_failing h.reached ht hselects, hb]
      exact Option.some_ne_none b
    · rintro ⟨s, hs, hselects, hfails, hbill⟩
      obtain ⟨b', hb', hbill'⟩ := htotal s hs hselects hfails
      obtain rfl := Option.some.inj (hbill.symm.trans hbill')
      exact ⟨s.id, hall s hs hselects, hb'⟩
  · intro s hs hselects hfails
    obtain ⟨b, -, hbill⟩ := htotal s hs hselects hfails
    exact ⟨b, hbill⟩

/-! ## What a run does -/

namespace BillsOf

variable {B : Set ℕ} {bills : List Bill}

/-- Two bills of one subscription are the same. -/
theorem position_unique (h : BillsOf cycle now B db bills) {k k' : ℕ} {b b' : Bill}
    (hk : bills[k]? = some b) (hk' : bills[k']? = some b')
    (hid : b.subscription.id = b'.subscription.id) : k = k' := by
  have hlt : k < (bills.map fun b => b.subscription.id).length := by
    rw [List.length_map]
    exact (List.getElem?_eq_some_iff.mp hk).1
  refine (List.getElem?_inj hlt h.nodup).mp ?_
  rw [List.getElem?_map, List.getElem?_map, hk, hk', Option.map_some, Option.map_some, hid]

/-- The subscriptions after the bills: the billed ones and those without a bill. -/
theorem mem_subscriptions (h : BillsOf cycle now B db bills) {t : Subscription} :
    t ∈ (applyBills now db bills).subscriptions ↔ (∃ b ∈ bills, b.subscription = t) ∨
      (t ∈ db.subscriptions ∧ ∀ b ∈ bills, t.id ≠ b.subscription.id) := by
  have hmem : ∀ a ∈ bills.map Bill.subscription, ∃ c ∈ db.subscriptions, key c = key a := by
    intro a ha
    obtain ⟨b, hb, rfl⟩ := List.mem_map.mp ha
    obtain ⟨s, hs, -, -, hbill⟩ := (h.billed b).mp hb
    exact ⟨s, hs, (id_of_nextBill hbill).symm⟩
  have hnodup : ((bills.map Bill.subscription).map key).Nodup := by
    rw [List.map_map]
    exact h.nodup
  rw [applyBills_eq]
  refine (Table.mem_updateAll hmem hnodup).trans ?_
  rw [List.mem_map, List.forall_mem_map]
  rfl

/-- The invoices after the bills: the earlier ones and one for each bill. -/
theorem mem_invoices {i : Invoice} : i ∈ (applyBills now db bills).invoices ↔
    i ∈ db.invoices ∨ ∃ k b, bills[k]? = some b ∧
      i = withKey (db.invoices.next + k) (b.invoice now) := by
  rw [applyBills_eq]
  refine Table.mem_insertAll.trans (or_congr_right ?_)
  simp only [List.getElem?_map, Option.map_eq_some_iff]
  constructor
  · rintro ⟨k, _, ⟨b, hb, rfl⟩, hi⟩
    exact ⟨k, b, hb, hi⟩
  · rintro ⟨k, b, hb, hi⟩
    exact ⟨k, _, ⟨b, hb, rfl⟩, hi⟩

/-- The lines after the bills: the earlier ones and one for each bill. -/
theorem mem_invoiceLines {l : InvoiceLine} : l ∈ (applyBills now db bills).invoiceLines ↔
    l ∈ db.invoiceLines ∨ ∃ k b, bills[k]? = some b ∧
      l = withKey (db.invoiceLines.next + k) (b.line (db.invoices.next + k)) := by
  rw [applyBills_eq]
  refine Table.mem_insertAll.trans (or_congr_right ?_)
  simp only [List.getElem?_mapIdx, Option.map_eq_some_iff]
  constructor
  · rintro ⟨k, _, ⟨b, hb, rfl⟩, hl⟩
    exact ⟨k, b, hb, hl⟩
  · rintro ⟨k, b, hb, hl⟩
    exact ⟨k, _, ⟨b, hb, rfl⟩, hl⟩

/-- A new invoice has a key that no old one has. -/
theorem not_mem_invoices (k : ℕ) (i : Invoice) :
    withKey (db.invoices.next + k) i ∉ db.invoices := by
  intro h
  have hlt : db.invoices.next + k < db.invoices.next := Table.key_lt h
  omega

/-- A cycle that makes its bills is exact. -/
theorem exact (h : BillsOf cycle now B db bills) :
    cycle.Exact now B db (applyBills now db bills) where
  billed := by
    intro s hs hselects hfails
    obtain ⟨b, hbill⟩ := h.total s hs hselects hfails
    have hb : b ∈ bills := (h.billed b).mpr ⟨s, hs, hselects, hfails, hbill⟩
    obtain ⟨e, he, hrow, hplan, hplanId⟩ := nextBill_eq_some hbill
    obtain ⟨k, hk⟩ := List.mem_iff_getElem?.mp hb
    refine ⟨b.plan, hplan, e, hplanId, he, computePeriodEnd_lt he, ?_,
      withKey (db.invoices.next + k) (b.invoice now), mem_invoices.mpr (Or.inr ⟨k, b, hk, rfl⟩),
      not_mem_invoices k _, ?_, ?_⟩
    · exact h.mem_subscriptions.mpr (Or.inl ⟨b, hb, hrow⟩)
    · rw [← hrow]
      rfl
    · intro j hj hsub
      rcases mem_invoices.mp hj with hj | ⟨k', b', hk', rfl⟩
      · exact Or.inl hj
      · have hid : b'.subscription.id = s.id := hsub
        obtain rfl := h.position_unique hk hk' ((id_of_nextBill hbill).trans hid.symm)
        obtain rfl := Option.some.inj (hk.symm.trans hk')
        exact Or.inr rfl
  kept := by
    intro s hs hother
    have hnone : ∀ b ∈ bills, s.id ≠ b.subscription.id := by
      intro b hb hid
      obtain ⟨t, ht, hselects, hfails, hbill⟩ := (h.billed b).mp hb
      obtain rfl := Table.eq_of_key_eq hs ht (hid.trans (id_of_nextBill hbill))
      exact hfails (hother hselects)
    refine ⟨h.mem_subscriptions.mpr (Or.inr ⟨hs, hnone⟩), ?_⟩
    intro i hi hsub
    rcases mem_invoices.mp hi with hi | ⟨k, b, hk, rfl⟩
    · exact hi
    · exact absurd hsub.symm (hnone b (List.mem_of_getElem? hk))
  subscriptions := by
    intro s' hs'
    rcases h.mem_subscriptions.mp hs' with ⟨b, hb, rfl⟩ | ⟨hs', -⟩
    · obtain ⟨s, hs, -, -, hbill⟩ := (h.billed b).mp hb
      exact ⟨s, hs, (id_of_nextBill hbill).symm⟩
    · exact ⟨s', hs', rfl⟩
  invoices := fun i hi => mem_invoices.mpr (Or.inl hi)
  issued := by
    intro i hi hnew
    rcases mem_invoices.mp hi with hi | ⟨k, b, hk, rfl⟩
    · exact absurd hi hnew
    · obtain ⟨s, hs, hselects, hfails, hbill⟩ := (h.billed b).mp (List.mem_of_getElem? hk)
      exact ⟨s, hs, (id_of_nextBill hbill).symm, hselects, hfails⟩
  handedOff := by
    refine ⟨(List.range bills.length).map (db.invoices.next + ·), by rw [applyBills_eq], ?_, ?_⟩
    · exact List.nodup_range.map fun m n hmn => Nat.add_left_cancel hmn
    · intro n
      simp only [List.mem_map, List.mem_range]
      constructor
      · rintro ⟨k, hk, rfl⟩
        exact ⟨_, mem_invoices.mpr (Or.inr ⟨k, _, List.getElem?_eq_getElem hk, rfl⟩),
          not_mem_invoices k _, rfl⟩
      · rintro ⟨i, hi, hnew, rfl⟩
        rcases mem_invoices.mp hi with hi | ⟨k, b, hk, rfl⟩
        · exact absurd hi hnew
        · exact ⟨k, (List.getElem?_eq_some_iff.mp hk).1, rfl⟩
  lines := fun l hl => mem_invoiceLines.mpr (Or.inl hl)
  plans := by rw [applyBills_eq]
  customers := by rw [applyBills_eq]
  attempts := by rw [applyBills_eq]
  webhookEvents := by rw [applyBills_eq]
  receipts := by rw [applyBills_eq]

end BillsOf

/-! ## The order of the list -/

/-- Two databases that came from one are the same but for the keys of the new invoices and lines. -/
structure SameUpToKeys (db db₁ db₂ : Db) (σ τ : Equiv.Perm ℕ) : Prop where
  oldInvoices : ∀ n < db.invoices.next, σ n = n
  oldLines : ∀ n < db.invoiceLines.next, τ n = n
  subscriptions : db₂.subscriptions = db₁.subscriptions
  invoices : ∀ i, i ∈ db₁.invoices ↔ withKey (σ i.id) i ∈ db₂.invoices
  lines : ∀ l, l ∈ db₁.invoiceLines ↔
    withKey (τ l.id) { l with invoiceId := σ l.invoiceId } ∈ db₂.invoiceLines
  tasks : ∃ new₁ new₂, db₁.chargeTasks = db.chargeTasks ++ new₁ ∧
    db₂.chargeTasks = db.chargeTasks ++ new₂ ∧ new₂.Perm (new₁.map σ)
  plans : db₂.plans = db₁.plans
  customers : db₂.customers = db₁.customers
  attempts : db₂.attempts = db₁.attempts
  webhookEvents : db₂.webhookEvents = db₁.webhookEvents
  receipts : db₂.receipts = db₁.receipts

namespace BillsOf

variable {B : Set ℕ} {bills bills' : List Bill} {σ : Equiv.Perm ℕ}

/-- The order of the bills only permutes the numbers of the invoices. -/
theorem invoices_renamed (hσ : ∀ n, bills'[σ n]? = bills[n]?) (i : Invoice) :
    i ∈ (applyBills now db bills).invoices ↔
      withKey (above db.invoices.next σ i.id) i ∈ (applyBills now db bills').invoices := by
  rw [mem_invoices, mem_invoices]
  constructor
  · rintro (hi | ⟨k, b, hk, rfl⟩)
    · have hfixed : above db.invoices.next σ i.id = i.id := above_of_lt (Table.key_lt hi)
      rw [hfixed]
      exact Or.inl hi
    · refine Or.inr ⟨σ k, b, (hσ k).trans hk, ?_⟩
      have hid : above db.invoices.next σ (db.invoices.next + k) = db.invoices.next + σ k :=
        above_add _ _ _
      exact congrArg (withKey · (b.invoice now)) hid
  · rintro (hi | ⟨k, b, hk, heq⟩)
    · have hfixed : above db.invoices.next σ i.id = i.id := eq_of_above_lt (Table.key_lt hi)
      rw [hfixed] at hi
      exact Or.inl hi
    · have hid : i.id = db.invoices.next + σ.symm k :=
        above_eq_add_iff.mp (congrArg Invoice.id heq)
      have hk' : bills[σ.symm k]? = some b := by
        rw [← hσ, Equiv.apply_symm_apply]
        exact hk
      refine Or.inr ⟨σ.symm k, b, hk', ?_⟩
      have hrow : withKey i.id (withKey (above db.invoices.next σ i.id) i) =
          withKey i.id (withKey (db.invoices.next + k) (b.invoice now)) := by rw [heq]
      rw [← hid]
      exact hrow

/-- The order of the bills only permutes the numbers of the lines. -/
theorem lines_renamed (hdb : Tenancy db) (hσ : ∀ n, bills'[σ n]? = bills[n]?) (l : InvoiceLine) :
    l ∈ (applyBills now db bills).invoiceLines ↔
      withKey (above db.invoiceLines.next σ l.id)
        { l with invoiceId := above db.invoices.next σ l.invoiceId } ∈
        (applyBills now db bills').invoiceLines := by
  have hparent : ∀ l' ∈ db.invoiceLines, l'.invoiceId < db.invoices.next := by
    intro l' hl'
    obtain ⟨i, hi, hid, -⟩ := hdb.line l' hl'
    exact hid ▸ Table.key_lt hi
  rw [mem_invoiceLines, mem_invoiceLines]
  constructor
  · rintro (hl | ⟨k, b, hk, rfl⟩)
    · have hid : above db.invoiceLines.next σ l.id = l.id := above_of_lt (Table.key_lt hl)
      rw [hid, above_of_lt (hparent l hl)]
      exact Or.inl hl
    · refine Or.inr ⟨σ k, b, (hσ k).trans hk, ?_⟩
      have hid : above db.invoiceLines.next σ (db.invoiceLines.next + k) =
          db.invoiceLines.next + σ k := above_add _ _ _
      have hinvoice : above db.invoices.next σ (db.invoices.next + k) =
          db.invoices.next + σ k := above_add _ _ _
      rw [← hid, ← hinvoice]
      rfl
  · rintro (hl | ⟨k, b, hk, heq⟩)
    · have hid : above db.invoiceLines.next σ l.id = l.id := eq_of_above_lt (Table.key_lt hl)
      have hinvoice : above db.invoices.next σ l.invoiceId = l.invoiceId :=
        eq_of_above_lt (hparent _ hl)
      rw [hid, hinvoice] at hl
      exact Or.inl hl
    · have hid : l.id = db.invoiceLines.next + σ.symm k :=
        above_eq_add_iff.mp (congrArg InvoiceLine.id heq)
      have hinvoice : l.invoiceId = db.invoices.next + σ.symm k :=
        above_eq_add_iff.mp (congrArg InvoiceLine.invoiceId heq)
      have hk' : bills[σ.symm k]? = some b := by
        rw [← hσ, Equiv.apply_symm_apply]
        exact hk
      refine Or.inr ⟨σ.symm k, b, hk', ?_⟩
      have hrow : ({ withKey (above db.invoiceLines.next σ l.id)
            { l with invoiceId := above db.invoices.next σ l.invoiceId } with
          id := l.id
          invoiceId := l.invoiceId } : InvoiceLine) =
          { withKey (db.invoiceLines.next + k) (b.line (db.invoices.next + k)) with
            id := l.id
            invoiceId := l.invoiceId } := by rw [heq]
      rw [← hid, ← hinvoice]
      exact hrow

/-- The order of the bills changes the keys of the new rows, and nothing else. -/
theorem sameUpToKeys (h : BillsOf cycle now B db bills) (hdb : Tenancy db)
    (hperm : bills.Perm bills') :
    ∃ σ τ, SameUpToKeys db (applyBills now db bills) (applyBills now db bills') σ τ := by
  obtain ⟨σ, hσ⟩ := exists_renaming hperm
  have hnodup : ((bills.map Bill.subscription).map key).Nodup := by
    rw [List.map_map]
    exact h.nodup
  refine ⟨above db.invoices.next σ, above db.invoiceLines.next σ, fun n hn => above_of_lt hn,
    fun n hn => above_of_lt hn, ?_, invoices_renamed hσ, lines_renamed hdb hσ, ?_, ?_, ?_, ?_, ?_,
    ?_⟩
  · rw [applyBills_eq, applyBills_eq]
    exact (Table.updateAll_perm (hperm.map _) hnodup).symm
  · refine ⟨(List.range bills.length).map (db.invoices.next + ·),
      (List.range bills'.length).map (db.invoices.next + ·), by rw [applyBills_eq],
      by rw [applyBills_eq], ?_⟩
    rw [← hperm.length_eq]
    exact map_above_range hperm.length_eq hσ _
  all_goals rw [applyBills_eq, applyBills_eq]

end BillsOf

/-! ## A whole cycle -/

/-- A list of the subscriptions that are due, in any order. -/
theorem Cycle.starts_of_perm (h : Reaches (ClockedStep env) Db.empty db)
    (hraises : ∀ id e, raises id = some e → ∃ e', e = .exception e') {ids : List ℕ}
    (hids : ids.Perm (cycle.ids db now)) : cycle.Starts env raises now db ids ∧
      ∀ s ∈ db.subscriptions, cycle.selects now s = true → s.id ∈ ids := by
  have hkeys : (db.subscriptions.rows.map Subscription.id).Nodup := db.subscriptions.keys_nodup
  have hnodup : (cycle.ids db now).Nodup :=
    hkeys.sublist (List.filter_sublist.map Subscription.id)
  refine ⟨⟨h, hraises, hids.nodup_iff.mpr hnodup, ?_⟩, ?_⟩
  · intro id hid
    obtain ⟨s, hs, rfl⟩ := List.mem_map.mp (hids.mem_iff.mp hid)
    obtain ⟨hmem, hselects⟩ := Table.mem_filter.mp hs
    exact ⟨s, hmem, rfl, hselects⟩
  · intro s hs hselects
    exact hids.mem_iff.mpr (List.mem_map_of_mem (Table.mem_filter.mpr ⟨hs, hselects⟩))

/-- What is due after an execution is what was due before it and failed. -/
theorem Cycle.Exact.selects_iff {B : Set ℕ} (h : cycle.Exact now B db db') {s : Subscription} :
    s ∈ db'.subscriptions ∧ cycle.selects now s = true ↔
      s ∈ db.subscriptions ∧ cycle.selects now s = true ∧ s.id ∈ B := by
  constructor
  · rintro ⟨hs, hselects⟩
    obtain ⟨t, ht, hid⟩ := h.subscriptions s hs
    by_cases hother : cycle.selects now t = true → t.id ∈ B
    · obtain rfl := Table.eq_of_key_eq (h.kept t ht hother).1 hs hid
      exact ⟨ht, hselects, hother hselects⟩
    · -- the new period has not ended
      push Not at hother
      obtain ⟨plan, -, e, -, -, hlt, hrow, -⟩ := h.billed t ht hother.1 hother.2
      obtain rfl := Table.eq_of_key_eq hrow hs hid
      unfold selects at hselects
      rw [Bool.and_eq_true, decide_eq_true_eq] at hselects
      exact absurd hselects.2 (not_le.mpr hlt)
  · rintro ⟨hs, hselects, hB⟩
    exact ⟨(h.kept s hs fun _ => hB).1, hselects⟩

/-- An execution with any exceptions, from any reachable database and with any order of the list. -/
theorem Cycle.run_exact (h : Reaches (ClockedStep env) Db.empty db)
    (hraises : ∀ id e, raises id = some e → ∃ e', e = .exception e') {ids : List ℕ}
    (hids : ids.Perm (cycle.ids db now)) {stopped : Option Raised}
    (hrun : cycle.run raises now db ids = (db', stopped)) :
    stopped = none ∧ cycle.Exact now (cycle.failing raises now db) db db' ∧
      Reaches (ClockedStep env) Db.empty db' := by
  obtain ⟨hstarts, hall⟩ := starts_of_perm h hraises hids
  obtain ⟨hresult, hreach⟩ := run_eq hstarts
  obtain ⟨rfl, rfl⟩ := Prod.mk.inj (hrun.symm.trans hresult)
  exact ⟨rfl, (hstarts.billsOf hall).exact, hreach⟩

/-- One execution bills what is due, once, whatever fails for other reasons and in whatever order;
a second execution in which nothing fails touches only what failed in the first one. -/
theorem cycle_exact (h : Reaches (ClockedStep env) Db.empty db)
    (hraises : ∀ id e, raises id = some e → ∃ e', e = .exception e') {ids : List ℕ}
    (hids : ids.Perm (cycle.ids db now)) {stopped : Option Raised}
    (hrun : cycle.run raises now db ids = (db', stopped)) :
    stopped = none ∧ cycle.Exact now (cycle.failing raises now db) db db' ∧
    (∀ ids₂ db₂ stopped₂, ids₂.Perm (cycle.ids db now) →
      cycle.run raises now db ids₂ = (db₂, stopped₂) → ∃ σ τ, SameUpToKeys db db' db₂ σ τ) ∧
    ∀ ids₂ db₂ stopped₂, ids₂.Perm (cycle.ids db' now) →
      cycle.run (fun _ => none) now db' ids₂ = (db₂, stopped₂) →
      cycle.Exact now (cycle.failing (fun _ => none) now db') db' db₂ ∧
      (∀ s ∈ db'.subscriptions, s ∉ db₂.subscriptions →
        s ∈ db.subscriptions ∧ cycle.selects now s = true ∧ s.id ∈ cycle.failing raises now db) ∧
      ∀ i ∈ db₂.invoices, i ∉ db'.invoices → ∃ s ∈ db.subscriptions,
        s.id = i.subscriptionId ∧ cycle.selects now s = true ∧
          s.id ∈ cycle.failing raises now db := by
  obtain ⟨hstopped, hexact, hreach⟩ := Cycle.run_exact h hraises hids hrun
  refine ⟨hstopped, hexact, ?_, ?_⟩
  · intro ids₂ db₂ stopped₂ hids₂ hrun₂
    obtain ⟨hstarts, hall⟩ := Cycle.starts_of_perm h hraises hids
    obtain ⟨hstarts₂, -⟩ := Cycle.starts_of_perm h hraises hids₂
    obtain ⟨rfl, -⟩ := Prod.mk.inj (hrun.symm.trans (Cycle.run_eq hstarts).1)
    obtain ⟨rfl, -⟩ := Prod.mk.inj (hrun₂.symm.trans (Cycle.run_eq hstarts₂).1)
    have hreachable : Reachable env db := h.mono fun _ _ => ClockedStep.step
    exact (hstarts.billsOf hall).sameUpToKeys hreachable.tenancy
      ((hids.trans hids₂.symm).filterMap _)
  · intro ids₂ db₂ stopped₂ hids₂ hrun₂
    obtain ⟨-, hexact₂, -⟩ := Cycle.run_exact hreach (fun id e he => by cases he) hids₂ hrun₂
    refine ⟨hexact₂, ?_, ?_⟩
    · intro s hs hchanged
      by_cases hselects : cycle.selects now s = true
      · exact hexact.selects_iff.mp ⟨hs, hselects⟩
      · exact absurd (hexact₂.kept s hs fun h => absurd h hselects).1 hchanged
    · intro i hi hnew
      obtain ⟨s, hs, hid, hselects, -⟩ := hexact₂.issued i hi hnew
      obtain ⟨hold, -, hfails⟩ := hexact.selects_iff.mp ⟨hs, hselects⟩
      exact ⟨s, hold, hid, hselects, hfails⟩

/-- Two subscriptions to a monthly plan. -/
def twoSubscribed : Db :=
  Db.empty.after sampleEnv (subscribed ++ [.create 1 1 (sampleTime 0 2) (sampleTime 0 3)])

/-- The handler raises for the first one. -/
def explodes (subscriptionId : ℕ) : Option Raised :=
  if subscriptionId = 1 then some (.exception (.runtimeError "provider exploded")) else none

/-- The sample with two subscriptions is reached. -/
theorem twoSubscribed_reached : Reaches (ClockedStep sampleEnv) Db.empty twoSubscribed :=
  clocked_after sampleEnv Db.empty _ (by decide)

/-- The other one is renewed. -/
theorem cycle_exact_exploding : ∃ db', Cycle.renewals.run explodes (sampleTime 2 0) twoSubscribed
      [2, 1] = (db', none) ∧ (∃ s ∈ db'.subscriptions, s.id = 1 ∧ s ∈ twoSubscribed.subscriptions) ∧
    ∃ s ∈ db'.subscriptions, s.id = 2 ∧ s.currentPeriodStart = sampleTime 2 0 := by
  have hraises : ∀ id e, explodes id = some e → ∃ e', e = Raised.exception e' := by
    intro id e he
    unfold explodes at he
    split_ifs at he
    exact ⟨_, (Option.some.inj he).symm⟩
  have hids : [2, 1].Perm (Cycle.renewals.ids twoSubscribed (sampleTime 2 0)) := by decide +kernel
  obtain ⟨hstopped, hexact, -⟩ := cycle_exact twoSubscribed_reached hraises hids
    (Prod.mk.eta (p := Cycle.renewals.run explodes (sampleTime 2 0) twoSubscribed [2, 1])).symm
  have hfails : 1 ∈ Cycle.renewals.failing explodes (sampleTime 2 0) twoSubscribed := ⟨_, rfl⟩
  have hreturns : 2 ∉ Cycle.renewals.failing explodes (sampleTime 2 0) twoSubscribed := by
    rintro ⟨e, he⟩
    have hok : (Cycle.renewals.handlerRaising explodes (sampleTime 2 0) twoSubscribed
        2).toOption.isSome = true := by decide +kernel
    rw [he] at hok
    cases hok
  obtain ⟨s, hs, hid⟩ : ∃ s ∈ twoSubscribed.subscriptions, s.id = 1 := by decide +kernel
  obtain ⟨t, ht, htid, hselects⟩ : ∃ t ∈ twoSubscribed.subscriptions, t.id = 2 ∧
      Cycle.renewals.selects (sampleTime 2 0) t = true := by decide +kernel
  obtain ⟨plan, -, e, -, -, -, hrow, -⟩ := hexact.billed t ht hselects (htid ▸ hreturns)
  exact ⟨_, Prod.ext rfl hstopped, ⟨s, (hexact.kept s hs fun _ => hid ▸ hfails).1, hid, hs⟩,
    _, hrow, htid, rfl⟩

end Chargeflow
