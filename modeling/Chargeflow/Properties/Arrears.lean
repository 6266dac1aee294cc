import Chargeflow.System.Arrears

/-!
# Arrears and payment

`reactivate` brings an OVERDUE subscription back when none of its invoices is FAILED or OVERDUE.  An
invoice that dunning has issued again is neither, so the subscription may come back while that
invoice is unpaid.  A transaction brings no subscription back too early exactly when it is
`Careful`: the success it settles does not pay the last FAILED invoice of an OVERDUE subscription
while another one that failed before is ISSUED again.
-/

namespace Chargeflow

open Foundation PaymentService

variable {env : Env}

/-- The invoice `n` was FAILED at some point of a run. -/
def EverFailed (l : List (Db × Db)) (n : ℕ) : Prop :=
  ∃ s ∈ l, ∃ i ∈ s.2.invoices, i.id = n ∧ i.status = .failed

/-- A transaction after the run `l` moves a subscription from OVERDUE to ACTIVE only when all of its
invoices that ever failed are PAID. -/
def ClearsByPayment (l : List (Db × Db)) (db db' : Db) : Prop :=
  ∀ s ∈ db.subscriptions, s.status = .overdue →
    ∀ s' ∈ db'.subscriptions, s'.id = s.id → s'.status = .active →
      ∀ i ∈ db'.invoices, i.subscriptionId = s.id → EverFailed (l ++ [(db, db')]) i.id →
        i.status = .paid

/-- A transaction after the run `l` does not settle a success that is accepted for the last FAILED
invoice of an OVERDUE subscription, while another invoice of it that failed before is ISSUED. -/
def Careful (env : Env) (l : List (Db × Db)) (db : Db) (op : Operation) : Prop :=
  ∀ r, op.result db = some r → r.success = true →
    ∀ i ∈ db.invoices, i.id = r.payment.invoiceId →
    ∀ s ∈ db.subscriptions, s.id = i.subscriptionId →
      Accepted env db.books r.payment i s r.incoming → s.status = .overdue →
      LastInArrears db.invoices s i →
      ∀ j ∈ db.invoices, j.subscriptionId = s.id → j ≠ i → EverFailed l j.id → j.status ≠ .issued

/-- Whether an invoice ever failed can be computed. -/
instance (l : List (Db × Db)) (n : ℕ) : Decidable (EverFailed l n) := by
  unfold EverFailed; infer_instance

/-- Whether a step clears arrears by a payment can be computed. -/
instance (l : List (Db × Db)) (db db' : Db) : Decidable (ClearsByPayment l db db') := by
  unfold ClearsByPayment; infer_instance

/-- An invoice failed in a run if it failed in one of its parts. -/
theorem everFailed_append {l l' : List (Db × Db)} {n : ℕ} :
    EverFailed (l ++ l') n ↔ EverFailed l n ∨ EverFailed l' n := by
  simp only [EverFailed, List.mem_append, or_and_right, exists_or]

/-- An invoice that failed before and is ISSUED stays behind when another one brings its
subscription back. -/
theorem ClearsByPayment.careful {l : List (Db × Db)} {db db' : Db} {op : Operation}
    (hdb : db.Consistent) (hop : op.apply env db = .ok db') (h : ClearsByPayment l db db') :
    Careful env l db op := by
  intro r hresult hsuccess i hi hpi s hs hsi haccepted hoverdue hlast j hj hjs hne hfailed hissued
  obtain ⟨hinvoices, hsubscriptions⟩ :=
    op.paid_of_accepted hdb hop hresult hsuccess hi hpi hs hsi haccepted
  have hactive : s.stamp .active r.now ∈ db'.subscriptions := by
    have hrow : s.reactivated (db.invoices.update (i.stamp .paid r.now)) r.now =
        s.stamp .active r.now := if_pos ⟨hoverdue, (inArrears_paid (b := db.books) hi).mpr hlast⟩
    rw [hsubscriptions, hrow]
    exact Table.mem_update_self hs rfl
  have hkept : j ∈ db'.invoices := by
    rw [hinvoices]
    exact (Table.mem_update_of_mem hi (by rfl)).mpr (Or.inr ⟨hj, hne⟩)
  have hpaid := h s hs hoverdue _ hactive rfl rfl j hkept hjs
    (everFailed_append.mpr (Or.inl hfailed))
  simp [hissued] at hpaid

/-- The invoices of a subscription that comes back are PAID or ISSUED, and those that are ISSUED did
not fail before. -/
theorem Careful.clearsByPayment {l : List (Db × Db)} {db db' : Db} {op : Operation}
    (hdb : db.Consistent) (hclosed : ClosedTogether db.books) (hop : op.apply env db = .ok db')
    (h : Careful env l db op) : ClearsByPayment l db db' := by
  intro s hs hoverdue s' hs' hid hactive i' hi' hsub hfailed
  cases hresult : op.result db with
  | none =>
    exact absurd hactive ((op.lifecycle_of_no_result hop hresult).not_active hs hs' hid hoverdue)
  | some r =>
    obtain ⟨i, hi, t, ht, hpi, hti⟩ := hdb.rows (Operation.result_mem hresult)
    by_cases haccepted : r.success = true ∧ Accepted env db.books r.payment i t r.incoming
    · obtain ⟨hsuccess, haccepted⟩ := haccepted
      obtain ⟨hinvoices, hsubscriptions⟩ :=
        op.paid_of_accepted hdb hop hresult hsuccess hi hpi ht hti haccepted
      -- it is the subscription of the paid invoice that comes back, and nothing else is in arrears
      rw [hsubscriptions] at hs'
      obtain ⟨rfl, hlast⟩ : s = t ∧ LastInArrears db.invoices t i := by
        rcases Table.update_version ht (reactivated_id _ _) hs hs' hid.symm with rfl | ⟨rfl, rfl⟩
        · rw [hoverdue] at hactive
          cases hactive
        · have hnone : ¬ InArrears (db.books.invoices.update (i.stamp .paid r.now)) s := by
            intro harrears
            rw [Subscription.reactivated, if_neg fun h => h.2 harrears, hoverdue] at hactive
            cases hactive
          exact ⟨rfl, (inArrears_paid hi).mp hnone⟩
      rw [hinvoices] at hi'
      rcases (Table.mem_update_of_mem hi (by rfl)).mp hi' with rfl | ⟨hold, hne⟩
      · rfl
      · have hbefore : EverFailed l i'.id := by
          rcases everFailed_append.mp hfailed with hbefore | ⟨_, hmem, k, hk, hki, hkfailed⟩
          · exact hbefore
          · obtain rfl := List.mem_singleton.mp hmem
            have hk' : k ∈ db.invoices.update (i.stamp .paid r.now) := hinvoices ▸ hk
            obtain rfl := Table.eq_of_key_eq hk' hi' hki
            exact absurd hkfailed (hlast k hold hsub hne).1
        have hagrees := hdb.sound.inStanding.agrees s hs i' hold hsub
        cases hstatus : i'.status with
        | paid => rfl
        | draft => exact absurd hstatus hagrees.issued
        | issued =>
          exact absurd hstatus (h r hresult hsuccess i hi hpi s hs hti haccepted hoverdue hlast i'
            hold hsub hne hbefore)
        | failed => exact absurd hstatus (hlast i' hold hsub hne).1
        | overdue => exact absurd hstatus (hlast i' hold hsub hne).2
        | canceled =>
          obtain ⟨u, hu, huid, hcanceled⟩ := hclosed i' hold hstatus
          rw [Table.eq_of_key_eq hu hs (huid.trans hsub), hoverdue] at hcanceled
          cases hcanceled
    · have hbooks := op.books_of_result hdb hop hresult hi hpi ht hti
      have hs'' : s' ∈ db'.books.subscriptions := hs'
      rw [hbooks] at hs''
      have hstays := settledBooks_overdue (b := db.books) ht haccepted hs hs'' hid hoverdue
      rw [hstays] at hactive
      cases hactive

/-- In every run, a transaction brings back no subscription before all of its invoices that ever
failed are paid exactly when the transaction is `Careful`. -/
theorem arrears_clear_iff {l : List (Db × Db)} {db : Db} (h : Trace (Step env) Db.empty l db)
    {l₁ l₂ : List (Db × Db)} {a b : Db} (hl : l = l₁ ++ (a, b) :: l₂) {op : Operation}
    (hop : op.apply env a = .ok b) : ClearsByPayment l₁ a b ↔ Careful env l₁ a op := by
  subst hl
  have hreach : Reachable env a := h.split.1.reaches
  exact ⟨fun hclears => hclears.careful hreach.consistent hop,
    fun hcareful => hcareful.clearsByPayment hreach.consistent (Reaches.closedTogether hreach) hop⟩

/-- A subscription is renewed before its first invoice is charged.  The charges of both invoices are
prepared, that of the first one fails, and dunning issues the invoice again. -/
def reissuedBehind : List Operation :=
  subscribed ++ [.renew 1 (sampleTime 1 0) (sampleTime 1 1) (sampleTime 1 2),
    .prepare 1 none true "key_1" (sampleTime 1 3), .prepare 2 none true "key_2" (sampleTime 1 4),
    .settle 1 false [] "ch_1" (sampleTime 1 5), .dun 1 (sampleTime 1 6)]

/-- The first invoice is charged again, and paid. -/
theorem arrears_clear_iff_paid :
    Careful sampleEnv
      (Db.empty.steps sampleEnv (reissuedBehind ++ [.prepare 1 none true "key_3" (sampleTime 1 7)]))
      (Db.empty.after sampleEnv (reissuedBehind ++ [.prepare 1 none true "key_3" (sampleTime 1 7)]))
      (.settle 3 true [] "ch_3" (sampleTime 1 8)) := by
  have hrun : Trace (Step sampleEnv) Db.empty _ _ := trace_after
    (reissuedBehind ++ [.prepare 1 none true "key_3" (sampleTime 1 7)]) fun _ _ hstep => hstep
  have hop : Operation.apply sampleEnv (Db.empty.after sampleEnv
      (reissuedBehind ++ [.prepare 1 none true "key_3" (sampleTime 1 7)]))
      (.settle 3 true [] "ch_3" (sampleTime 1 8)) = .ok _ := apply_eq_after _ (by decide)
  have hlast : Trace (Step sampleEnv) _ _ _ := .cons ⟨_, hop⟩ (.nil _)
  exact (arrears_clear_iff (hrun.append hlast) rfl hop).mp (by decide)

/-- The charge of the second invoice succeeds, and the subscription comes back while the first one,
which failed, is unpaid. -/
theorem arrears_cleared_unpaid :
    ¬ ∀ (l : List (Db × Db)) (db : Db), Trace (Step sampleEnv) Db.empty l db →
      ∀ l₁ a b l₂, l = l₁ ++ (a, b) :: l₂ → ClearsByPayment l₁ a b := by
  intro h
  have hrun : Trace (Step sampleEnv) Db.empty _ _ := trace_after reissuedBehind fun _ _ hstep => hstep
  have hop : Operation.apply sampleEnv (Db.empty.after sampleEnv reissuedBehind)
      (.settle 2 true [] "ch_2" (sampleTime 1 7)) = .ok _ := apply_eq_after _ (by decide)
  have hlast : Trace (Step sampleEnv) _ _ _ := .cons ⟨_, hop⟩ (.nil _)
  have hclears := h _ _ (hrun.append hlast) _ _ _ [] rfl
  exact absurd hclears (by decide)

end Chargeflow
