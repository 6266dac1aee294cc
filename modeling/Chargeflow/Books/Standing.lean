import Chargeflow.Books.Links

/-!
# Subscriptions and their invoices

`Subscription.Agrees` relates the status of a subscription to the status of one of its invoices, and
`InStanding` asks for it of all of them, and for an invoice that can still bring an OVERDUE
subscription back.  The transactions that change a subscription together with its invoices are of
two kinds: one invoice and the subscription change (`InStanding.update`), or the subscription is
closed with all its open invoices (`InStanding.close`).
-/

namespace Chargeflow

open Foundation

/-- The status of a subscription agrees with the status of one of its invoices. -/
structure Subscription.Agrees (s : Subscription) (i : Invoice) : Prop where
  billed : s.status ≠ .trial
  issued : i.status ≠ .draft
  failed : i.status = .failed → s.status = .overdue
  closed : s.status = .canceled →
    i.status = .paid ∨ i.status = .canceled ∨ i.status = .overdue
  unpaid : i.status = .overdue → s.status = .canceled ∧ s.canceledReason = some .nonPayment

/-- An invoice of the subscription that is still pursued. -/
def Pursued (invoices : Table Invoice) (s : Subscription) : Prop :=
  ∃ i ∈ invoices, i.subscriptionId = s.id ∧ (i.status = .issued ∨ i.status = .failed)

/-- Every subscription agrees with its invoices, and an OVERDUE one has an invoice that is still
pursued. -/
structure InStanding (subs : Table Subscription) (invoices : Table Invoice) : Prop where
  agrees : ∀ s ∈ subs, ∀ i ∈ invoices, i.subscriptionId = s.id → s.Agrees i
  pursued : ∀ s ∈ subs, s.status = .overdue → Pursued invoices s

namespace InStanding

variable {subs : Table Subscription} {invoices : Table Invoice}

/-- A subscription and one of its invoices change. -/
theorem update (hb : InStanding subs invoices) {s s' : Subscription} {i i' : Invoice}
    (hs : s ∈ subs) (hi : i ∈ invoices) (hsi : s.id = i.subscriptionId)
    (hsid : s'.id = s.id) (hiid : i'.id = i.id) (hisub : i'.subscriptionId = i.subscriptionId)
    (hagrees : s'.Agrees i')
    (hothers : ∀ j ∈ invoices, j ≠ i → j.subscriptionId = s.id → s'.Agrees j)
    (hpursued : s'.status = .overdue → Pursued (invoices.update i') s') :
    InStanding (subs.update s') (invoices.update i') where
  agrees t ht j hj hjt := by
    rcases (Table.mem_update_of_mem hs hsid).mp ht with rfl | ⟨ht₀, hts⟩ <;>
      rcases (Table.mem_update_of_mem hi hiid).mp hj with rfl | ⟨hj₀, hji⟩
    · exact hagrees
    · exact hothers j hj₀ hji (hjt.trans hsid)
    · -- the changed invoice belongs to no other subscription
      refine absurd (Table.eq_of_key_eq ht₀ hs ?_) hts
      exact hjt.symm.trans (hisub.trans hsi.symm)
    · exact hb.agrees t ht₀ j hj₀ hjt
  pursued t ht hoverdue := by
    rcases (Table.mem_update_of_mem hs hsid).mp ht with rfl | ⟨ht, hts⟩
    · exact hpursued hoverdue
    · obtain ⟨j, hj, hjt, hstatus⟩ := hb.pursued t ht hoverdue
      have hji : j ≠ i := by
        rintro rfl
        exact hts (Table.eq_of_key_eq ht hs (hjt.symm.trans hsi.symm))
      exact ⟨j, (Table.mem_update_of_mem hi hiid).mpr (Or.inr ⟨hj, hji⟩), hjt, hstatus⟩

/-- A subscription is closed and its open invoices are canceled.  An OVERDUE invoice is left only
when the subscription is closed for it. -/
theorem close {invoices' : Table Invoice} {s : Subscription} (hs : s ∈ subs)
    (hagrees : ∀ t ∈ subs, t ≠ s → ∀ i ∈ invoices, i.subscriptionId = t.id →
      t.Agrees i)
    (hpursued : ∀ t ∈ subs, t ≠ s → t.status = .overdue → Pursued invoices t)
    (reason : CancellationReason) (now : DateTime)
    (hreason : ∀ i ∈ invoices, i.subscriptionId = s.id → i.status = .overdue →
      reason = .nonPayment)
    (hclosed : ∀ j, j ∈ invoices' ↔ ∃ i ∈ invoices, j = closeOpen s.id i) :
    InStanding (subs.update (s.close reason now)) invoices' where
  agrees t ht j hj hjt := by
    obtain ⟨i, hi, rfl⟩ := (hclosed j).mp hj
    rw [(i.edge_closeOpen s.id).later.subscriptionId] at hjt
    rcases (Table.mem_update_of_mem hs (by rfl)).mp ht with rfl | ⟨ht, hts⟩
    · have hown : i.subscriptionId = s.id := hjt
      have hstatus : (closeOpen s.id i).status = .paid ∨ (closeOpen s.id i).status = .canceled ∨
          (closeOpen s.id i).status = .overdue := by
        unfold closeOpen
        split_ifs with hopen
        · exact Or.inr (Or.inl rfl)
        · simp only [hown, true_and, InvoiceService.openInvoiceStatuses, List.mem_cons,
            List.not_mem_nil, or_false] at hopen
          cases hi : i.status <;> simp_all
      refine ⟨by simp [Subscription.close], ?_, ?_, fun _ => hstatus, fun hoverdue => ⟨rfl, ?_⟩⟩
      · rcases hstatus with h | h | h <;> simp [h]
      · rcases hstatus with h | h | h <;> simp [h]
      · refine congrArg some (hreason i hi hown ?_)
        unfold closeOpen at hoverdue
        split_ifs at hoverdue
        exact hoverdue
    · have hother : i.subscriptionId ≠ s.id := fun h =>
        hts (Table.eq_of_key_eq ht hs (hjt.symm.trans h))
      rw [closeOpen, if_neg fun h => hother h.1]
      exact hagrees t ht hts i hi hjt
  pursued t ht hoverdue := by
    rcases (Table.mem_update_of_mem hs (by rfl)).mp ht with rfl | ⟨ht, hts⟩
    · simp [Subscription.close] at hoverdue
    · obtain ⟨i, hi, hit, hstatus⟩ := hpursued t ht hts hoverdue
      have hother : i.subscriptionId ≠ s.id := fun h =>
        hts (Table.eq_of_key_eq ht hs (hit.symm.trans h))
      refine ⟨i, (hclosed i).mpr ⟨i, hi, ?_⟩, hit, hstatus⟩
      rw [closeOpen, if_neg fun h => hother h.1]

/-- A subscription moves to a period it is billed for.  It had no invoices in its trial, and an
ACTIVE one agrees with its invoices whatever its period. -/
theorem start (hb : InStanding subs invoices)
    (hlinked : ∀ i ∈ invoices, i.subscriptionId ≠ subs.next) {readings : List DateTime}
    {subs' : Table Subscription} {s : Subscription}
    (hstart : PeriodStart readings subs subs' s) : InStanding subs' invoices where
  agrees t ht j hj hjt := by
    rcases hstart.rows ht with rfl | ⟨ht, -⟩
    · have hactive := hstart.mem.2
      rcases hstart.origin with hnew | ⟨s₀, hs₀, hid, hstatus⟩
      · exact absurd (hjt.trans hnew) (hlinked j hj)
      · have hagrees := hb.agrees s₀ hs₀ j hj (hjt.trans hid.symm)
        have hactive₀ : s₀.status = .active := hstatus.resolve_left hagrees.billed
        refine ⟨by simp [hactive], hagrees.issued, ?_, ?_, ?_⟩
        · intro h
          simp [hagrees.failed h] at hactive₀
        · intro h
          simp [hactive] at h
        · intro h
          simp [(hagrees.unpaid h).1] at hactive₀
    · exact hb.agrees t ht j hj hjt
  pursued t ht hoverdue := by
    rcases hstart.rows ht with rfl | ⟨ht, -⟩
    · simp [hstart.mem.2] at hoverdue
    · exact hb.pursued t ht hoverdue

/-- An ACTIVE subscription gets an ISSUED invoice. -/
theorem insert (hb : InStanding subs invoices) {s : Subscription} (hs : s ∈ subs)
    (hactive : s.status = .active) {i : Invoice} (hissued : i.status = .issued)
    (hid : i.subscriptionId = s.id) : InStanding subs (invoices.insert i) where
  agrees t ht j hj hjt := by
    rcases Table.mem_insert.mp hj with hj | rfl
    · exact hb.agrees t ht j hj hjt
    · have hstatus : (withKey invoices.next i).status = .issued := hissued
      have hts : t = s := Table.eq_of_key_eq ht hs (hjt.symm.trans hid)
      subst hts
      exact ⟨by simp [hactive], by simp [hstatus], by simp [hstatus], by simp [hactive],
        by simp [hstatus]⟩
  pursued t ht hoverdue := by
    obtain ⟨j, hj, hjt, hstatus⟩ := hb.pursued t ht hoverdue
    exact ⟨j, Table.mem_insert_of_mem hj, hjt, hstatus⟩

end InStanding

/-! ## One transaction -/

variable {env : Env} {readings : List DateTime} {b b' : Books}

/-- What brings no result of the provider keeps subscriptions and invoices in agreement. -/
theorem Lifecycle.inStanding (h : Lifecycle readings b b')
    (hb : InStanding b.subscriptions b.invoices) (hlinked : Linked b) :
    InStanding b'.subscriptions b'.invoices := by
  cases h with
  | idle => exact hb
  | @trialed s hstatus =>
    refine ⟨?_, ?_⟩
    · intro t ht j hj hjt
      rcases Table.mem_insert.mp ht with ht | rfl
      · exact hb.agrees t ht j hj hjt
      · exact absurd hjt (hlinked.subscriptionId_ne_next hj)
    · intro t ht hoverdue
      rcases Table.mem_insert.mp ht with ht | rfl
      · exact hb.pursued t ht hoverdue
      · have htrial : (withKey b.subscriptions.next s).status = .trial := hstatus
        simp [htrial] at hoverdue
  | covered hstart => exact hb.start (fun _ => hlinked.subscriptionId_ne_next) hstart
  | billed hstart =>
    have hstarted := hb.start (fun _ => hlinked.subscriptionId_ne_next) hstart
    exact hstarted.insert hstart.mem.1 hstart.mem.2 rfl rfl
  | canceled hs hopen reason now hnext hclosed =>
    refine .close hs (fun t ht _ => hb.agrees t ht) (fun t ht _ => hb.pursued t ht) reason now
      ?_ hclosed
    intro i hi hown hoverdue
    exact absurd ((hb.agrees _ hs i hi hown).unpaid hoverdue).1 hopen
  | prepared => exact ⟨hb.agrees, hb.pursued⟩
  | @reissued i hi hstatus hcount now =>
    obtain ⟨s, hs, hsi, -⟩ := hlinked.subscription i hi
    have hoverdue := (hb.agrees s hs i hi hsi.symm).failed hstatus
    rw [← Table.update_self hs]
    refine hb.update hs hi hsi (by rfl) (by rfl) (by rfl) ?_
      (fun j hj _ hjs => hb.agrees s hs j hj hjs)
      fun _ => ⟨_, Table.mem_update_self hi rfl, hsi.symm, Or.inl rfl⟩
    exact ⟨by simp [hoverdue], by simp [Invoice.stamp], by simp [Invoice.stamp],
      by simp [hoverdue], by simp [Invoice.stamp]⟩
  | abandoned hi hstatus hs hid hcanceled =>
    have hoverdue := (hb.agrees _ hs _ hi hid.symm).failed hstatus
    simp [hcanceled] at hoverdue
  | @exhausted i hi hstatus hcount s hs hid hopen now invoices hnext hclosed =>
    -- the other subscriptions do not see the change of the invoice
    have hrow : ∀ t ∈ b.subscriptions, t ≠ s → ∀ j,
        j ∈ b.invoices.update (i.stamp .overdue now) → j.subscriptionId = t.id →
        j ∈ b.invoices := by
      intro t ht hts j hj hjt
      rcases (Table.mem_update_of_mem hi (by rfl)).mp hj with rfl | ⟨hj, -⟩
      · exact absurd (Table.eq_of_key_eq ht hs (hjt.symm.trans hid.symm)) hts
      · exact hj
    refine .close hs (fun t ht hts j hj hjt => hb.agrees t ht j (hrow t ht hts j hj hjt) hjt)
      ?_ .nonPayment now (fun _ _ _ _ => rfl) hclosed
    intro t ht hts hoverdue
    obtain ⟨j, hj, hjt, hpursued⟩ := hb.pursued t ht hoverdue
    have hji : j ≠ i := by
      rintro rfl
      exact hts (Table.eq_of_key_eq ht hs (hjt.symm.trans hid.symm))
    exact ⟨j, (Table.mem_update_of_mem hi (by rfl)).mpr (Or.inr ⟨hj, hji⟩), hjt, hpursued⟩

/-- A settlement keeps subscriptions and invoices in agreement. -/
theorem Settles.inStanding {p : PaymentAttempt} {success : Bool}
    {response : List (String × Json)} {incoming : Json} {now : DateTime}
    (h : Settles env b p success response incoming now b')
    (hb : InStanding b.subscriptions b.invoices) :
    InStanding b'.subscriptions b'.invoices := by
  obtain ⟨-, i, hi, s, hs, -, hsi, h⟩ := h
  have hagrees := hb.agrees s hs i hi hsi.symm
  cases h with
  | applied _ _ _ happ hs' =>
    cases hs' with
    | unchanged hkept =>
      refine hb.update hs hi hsi (by rfl) (by rfl) (by rfl) ?_
        (fun j hj _ hjs => hb.agrees s hs j hj hjs) ?_
      · exact ⟨hagrees.billed, by simp [Invoice.stamp], by simp [Invoice.stamp],
          fun _ => Or.inl rfl, by simp [Invoice.stamp]⟩
      · intro hoverdue
        -- what keeps it in arrears is FAILED, as it is not closed
        obtain ⟨j, hj, hjs, hstatus⟩ := hkept.resolve_left (not_not.mpr hoverdue)
        refine ⟨j, hj, hjs, Or.inr (hstatus.resolve_right ?_)⟩
        intro hunpaid
        rcases (Table.mem_update_of_mem hi (by rfl)).mp hj with rfl | ⟨hj, -⟩
        · simp [Invoice.stamp] at hunpaid
        · exact happ.notCanceled ((hb.agrees s hs j hj hjs).unpaid hunpaid).1
    | active hoverdue hclear =>
      refine hb.update hs hi hsi (by rfl) (by rfl) (by rfl) ?_ ?_
        fun hstatus => by simp [Subscription.stamp] at hstatus
      · exact ⟨by simp [Subscription.stamp], by simp [Invoice.stamp], by simp [Invoice.stamp],
          fun _ => Or.inl rfl, by simp [Invoice.stamp]⟩
      · intro j hj hji hjs
        have hold := hb.agrees s hs j hj hjs
        have hmem : j ∈ b.invoices.update (i.stamp .paid now) :=
          (Table.mem_update_of_mem hi (by rfl)).mpr (Or.inr ⟨hj, hji⟩)
        exact ⟨by simp [Subscription.stamp], hold.issued,
          fun hfailed => absurd ⟨j, hmem, hjs, Or.inl hfailed⟩ hclear,
          by simp [Subscription.stamp],
          fun hunpaid => absurd ⟨j, hmem, hjs, Or.inr hunpaid⟩ hclear⟩
  | declined _ _ _ _ hdec =>
    have hoverdue : (s.declined now).status = .overdue := by
      rw [s.declined_status]
      have hbilled := hagrees.billed
      have hopen := hdec.notCanceled
      cases hstatus : s.status <;> simp_all
    have hfailed : (i.declined now).status = .failed := by
      rw [i.declined_status]
      rcases Invoice.payable_iff.mp hdec.payable with h | h | h
      · simp [h]
      · simp [h]
      · exact absurd (hagrees.unpaid h).1 hdec.notCanceled
    have hlater := (i.edge_declined now).later
    refine hb.update hs hi hsi (s.later_declined now).id hlater.id hlater.subscriptionId ?_
      ?_ fun _ => ⟨_, Table.mem_update_self hi hlater.id, ?_, Or.inr hfailed⟩
    · exact ⟨by simp [hoverdue], by simp [hfailed], fun _ => hoverdue, by simp [hoverdue],
        by simp [hfailed]⟩
    · intro j hj _ hjs
      have hold := hb.agrees s hs j hj hjs
      exact ⟨by simp [hoverdue], hold.issued, fun _ => hoverdue, by simp [hoverdue],
        fun hunpaid => absurd (hold.unpaid hunpaid).1 hdec.notCanceled⟩
    · rw [hlater.subscriptionId, (s.later_declined now).id, hsi]
  | _ => exact ⟨hb.agrees, hb.pursued⟩

/-- A step keeps subscriptions and invoices in agreement. -/
theorem BooksStep.inStanding (h : BooksStep env readings b b')
    (hb : InStanding b.subscriptions b.invoices) (hlinked : Linked b) :
    InStanding b'.subscriptions b'.invoices := by
  cases h with
  | lifecycle h => exact h.inStanding hb hlinked
  | settled h => exact h.inStanding hb

end Chargeflow
