import Chargeflow.Books.Links

/-!
# Closed subscriptions

A CANCELED subscription stays as it is, and an invoice is only CANCELED together with its
subscription.
-/

namespace Chargeflow

open Foundation

/-- The subscription with the key `n` is CANCELED. -/
def Closed (b : Books) (n : ℕ) : Prop := ∃ s ∈ b.subscriptions, s.id = n ∧ s.status = .canceled

/-- Every CANCELED invoice belongs to a CANCELED subscription. -/
def ClosedTogether (b : Books) : Prop :=
  ∀ i ∈ b.invoices, i.status = .canceled → Closed b i.subscriptionId

/-- The attempt belongs to a CANCELED subscription. -/
def OnClosed (b : Books) (p : PaymentAttempt) : Prop :=
  ∃ i ∈ b.invoices, i.id = p.invoiceId ∧ Closed b i.subscriptionId

/-- A subscription that is closed is CANCELED. -/
theorem closed_update {b : Books} {s : Subscription} (hs : s ∈ b.subscriptions)
    (reason : CancellationReason) (now : DateTime) (invoices : Table Invoice) :
    Closed { b with subscriptions := b.subscriptions.update (s.close reason now)
                    invoices := invoices } s.id :=
  ⟨s.close reason now, Table.mem_update_self hs rfl, rfl, rfl⟩

/-- An invoice that is closed with the open invoices of a subscription was CANCELED before, or is
one of them. -/
theorem closeOpen_canceled {subscriptionId : ℕ} {i : Invoice}
    (h : (closeOpen subscriptionId i).status = .canceled) :
    i.status = .canceled ∨ i.subscriptionId = subscriptionId := by
  unfold closeOpen at h
  split_ifs at h with hopen
  · exact Or.inr hopen.1
  · exact Or.inl h

/-- Closing an invoice leaves it with its subscription. -/
theorem closeOpen_subscriptionId (subscriptionId : ℕ) (i : Invoice) :
    (closeOpen subscriptionId i).subscriptionId = i.subscriptionId := by
  unfold closeOpen
  split_ifs <;> rfl

namespace BooksStep

variable {env : Env} {readings : List DateTime} {b b' : Books}

/-- What is closed stays closed. -/
theorem closed (h : BooksStep env readings b b') {n : ℕ} (hn : Closed b n) : Closed b' n := by
  obtain ⟨s, hs, hid, hcanceled⟩ := hn
  obtain ⟨s', hs', hkey, hlater⟩ := h.subscriptions.kept s hs
  exact ⟨s', hs', Eq.trans hkey hid, by rw [hlater.canceled hcanceled]; exact hcanceled⟩

/-- An attempt of a closed subscription stays one. -/
theorem onClosed (h : BooksStep env readings b b') {p p' : PaymentAttempt} (hp : OnClosed b p)
    (hinvoice : p'.invoiceId = p.invoiceId) : OnClosed b' p' := by
  obtain ⟨i, hi, hid, hclosed⟩ := hp
  obtain ⟨i', hi', hkey, hlater⟩ := h.invoices.kept i hi
  refine ⟨i', hi', Eq.trans hkey (hid.trans hinvoice.symm), ?_⟩
  rw [hlater.subscriptionId]
  exact h.closed hclosed

/-- A transaction cancels an invoice only together with its subscription. -/
theorem canceled_origin (h : BooksStep env readings b b') {i' : Invoice} (hi' : i' ∈ b'.invoices)
    (hcanceled : i'.status = .canceled) :
    (∃ i ∈ b.invoices, i.status = .canceled ∧ i.subscriptionId = i'.subscriptionId) ∨
      Closed b' i'.subscriptionId := by
  have hupdated : ∀ {i j : Invoice}, i ∈ b.invoices → j.id = i.id → j.status ≠ .canceled →
      i' ∈ b.invoices.update j → ∃ i ∈ b.invoices, i.status = .canceled ∧
        i.subscriptionId = i'.subscriptionId := by
    intro i j hi hid hstatus hmem
    rcases (Table.mem_update_of_mem hi hid).mp hmem with rfl | ⟨hold, -⟩
    · exact absurd hcanceled hstatus
    · exact ⟨i', hold, hcanceled, rfl⟩
  cases h with
  | lifecycle h =>
    cases h with
    | billed =>
      rcases Table.mem_insert.mp hi' with hold | rfl
      · exact Or.inl ⟨i', hold, hcanceled, rfl⟩
      · cases hcanceled
    | canceled hs _ reason now _ hclosed =>
      obtain ⟨i, hi, rfl⟩ := (hclosed i').mp hi'
      rcases closeOpen_canceled hcanceled with hold | hown
      · exact Or.inl ⟨i, hi, hold, (closeOpen_subscriptionId _ i).symm⟩
      · refine Or.inr ?_
        rw [closeOpen_subscriptionId, hown]
        exact closed_update hs reason now _
    | reissued hi =>
      exact Or.inl (hupdated hi (by rfl) (by simp [Invoice.stamp]) hi')
    | abandoned hi =>
      exact Or.inl (hupdated hi (by rfl) (by simp [Invoice.stamp]) hi')
    | exhausted hi _ _ hs _ _ now _ hclosed =>
      obtain ⟨k, hk, rfl⟩ := (hclosed i').mp hi'
      rcases closeOpen_canceled hcanceled with hold | hown
      · rcases (Table.mem_update_of_mem hi (by rfl)).mp hk with rfl | ⟨hk, -⟩
        · cases hold
        · exact Or.inl ⟨k, hk, hold, (closeOpen_subscriptionId _ k).symm⟩
      · refine Or.inr ?_
        rw [closeOpen_subscriptionId, hown]
        exact closed_update hs .nonPayment now _
    | _ => exact Or.inl ⟨i', hi', hcanceled, rfl⟩
  | settled h =>
    obtain ⟨-, i, hi, s, -, -, -, h⟩ := h
    cases h with
    | applied => exact Or.inl (hupdated hi (by rfl) (by simp [Invoice.stamp]) hi')
    | declined =>
      refine Or.inl ?_
      unfold Invoice.declined at hi'
      split_ifs at hi' with hissued
      · exact hupdated hi (by rfl) (by simp [Invoice.stamp]) hi'
      · rw [Table.update_self hi] at hi'
        exact ⟨i', hi', hcanceled, rfl⟩
    | _ => exact Or.inl ⟨i', hi', hcanceled, rfl⟩

/-- A step keeps it that CANCELED invoices belong to CANCELED subscriptions. -/
theorem closedTogether (h : BooksStep env readings b b') (hb : ClosedTogether b) :
    ClosedTogether b' := by
  intro i' hi' hcanceled
  rcases h.canceled_origin hi' hcanceled with ⟨i, hi, hold, hsame⟩ | hclosed
  · rw [← hsame]
    exact h.closed (hb i hi hold)
  · exact hclosed

end BooksStep

end Chargeflow
