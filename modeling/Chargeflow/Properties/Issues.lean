import Chargeflow.Books.Issues
import Chargeflow.System.Operations

/-!
# One charge for each issue

While an invoice stays ISSUED, and also while it leaves that status without being issued again, at
most one attempt is made for it.  An ISSUED invoice without a flagged attempt that nobody has
touched for `stuckChargeAfter` is found by one of the two queries of `reconcile_stuck`: either it
has no attempt since its issue, and is handed to the worker again, or that attempt is PENDING, and
is recovered.  The tasks of the charge worker may be lost, repeated or late: a task is a call of
`prepare` at any time.
-/

namespace Chargeflow

open Foundation PaymentService

variable {env : Env}

/-- One transaction that commits, with the clock running between the transactions on an invoice. -/
def StampedStep (env : Env) (db db' : Db) : Prop :=
  Step env db db' ∧ StampsIncrease db.books db'.books

/-- The invoice `n` is ISSUED. -/
def isIssued (db : Db) (n : ℕ) : Bool := db.invoices.any fun i => i.id == n && i.status == .issued

/-- The attempts for the invoice `n` that a transaction creates. -/
def newAttempts (db db' : Db) (n : ℕ) : List PaymentAttempt :=
  db'.attempts.filter fun p => p.invoiceId == n && !db.attempts.any fun q => q.id == p.id

/-- The number of attempts that the transactions of a run create for the invoice `n` while it is
ISSUED. -/
def chargesWhileIssued (n : ℕ) : List (Db × Db) → ℕ
  | [] => 0
  | (db, db') :: l =>
    (if isIssued db n then (newAttempts db db' n).length else 0) + chargesWhileIssued n l

/-- The invoice `n` has an attempt since it was last issued. -/
def ChargedSinceIssue (db : Db) (n : ℕ) : Prop :=
  ∃ i ∈ db.invoices, i.id = n ∧ ∃ p ∈ db.attempts, p.invoiceId = n ∧ sinceIssue i p = true

/-- Along a stamped run the attempts belong to the issues. -/
theorem Reaches.issues {db : Db} (h : Reaches (StampedStep env) Db.empty db) : Issues db.books := by
  refine h.invariant (I := fun db => Issues db.books) ?_ ?_
  · exact ⟨fun i hi => by simp [Db.books, Db.empty] at hi,
      fun i hi => by simp [Db.books, Db.empty] at hi⟩
  · intro a b hreach hissues hstep
    obtain ⟨hstep, hstamps⟩ := hstep
    have hsound := Reachable.sound (hreach.mono fun _ _ h => h.1)
    obtain ⟨_, hbooks⟩ := hstep.books
    exact hbooks.issues hstamps hissues hsound.inStanding hsound.coupled

/-! ## One attempt -/

/-- The attempts of an invoice that a step adds. -/
theorem mem_newAttempts {db db' : Db} {n : ℕ} {p : PaymentAttempt} :
    p ∈ newAttempts db db' n ↔
      p ∈ db'.attempts ∧ p.invoiceId = n ∧ ∀ q ∈ db.attempts, q.id ≠ p.id := by
  simp [newAttempts]

/-- An attempt since the last issue stays one until the invoice is issued again. -/
theorem ChargedSinceIssue.step {db db' : Db} {n : ℕ} (h : ChargedSinceIssue db n)
    (hstep : Step env db db') (hnot : ¬ IssuedBy db.books db'.books n) :
    ChargedSinceIssue db' n := by
  obtain ⟨i, hi, rfl, p, hp, hinvoice, hsince⟩ := h
  obtain ⟨_, hbooks⟩ := hstep.books
  obtain ⟨i', hi', hid, hedge⟩ := hbooks.invoices_edge.kept i hi
  obtain ⟨p', hp', -, hlater⟩ := hbooks.attempts.kept p hp
  have hissuedAt : i'.issuedAt = i.issuedAt := by
    obtain rfl | ⟨newStatus, now, hmem, rfl⟩ := hedge
    · rfl
    · by_cases hstatus : newStatus = .issued
      · refine absurd ⟨⟨_, hi', rfl, hstatus⟩, ?_⟩ hnot
        intro j hj hjid hissued
        rw [Table.eq_of_key_eq hj hi hjid] at hissued
        simp [hissued, hstatus, invoiceTransitions] at hmem
      · simp [Invoice.stamp, hstatus]
  refine ⟨i', hi', hid, p', hp', hlater.snapshot.invoiceId.trans hinvoice, ?_⟩
  rw [hlater.sinceIssue]
  unfold sinceIssue at hsince ⊢
  rwa [hissuedAt]

/-- No attempt is created while the invoice is ISSUED and has one since its issue. -/
theorem ChargedSinceIssue.newAttempts_eq_nil {db db' : Db} {n : ℕ} (h : ChargedSinceIssue db n)
    (hissued : isIssued db n = true) (hstep : Step env db db') : newAttempts db db' n = [] := by
  obtain ⟨i, hi, rfl, p, hp, hinvoice, hsince⟩ := h
  obtain ⟨_, hbooks⟩ := hstep.books
  have hstatus : i.status = .issued := by
    obtain ⟨j, hj, htest⟩ := Table.any_eq_true.mp hissued
    simp only [Bool.and_eq_true, beq_iff_eq] at htest
    rw [← Table.eq_of_key_eq hj hi htest.1]
    exact htest.2
  refine List.eq_nil_iff_forall_not_mem.mpr ?_
  intro q hq
  obtain ⟨hq, hqi, hnew⟩ := mem_newAttempts.mp hq
  rcases hbooks.attempt_new hq with ⟨q₀, hq₀, hid, -⟩ | ⟨-, -, -, ⟨s, j, hc, hjq⟩, -⟩
  · exact hnew q₀ hq₀ hid
  · obtain rfl := Table.eq_of_key_eq hc.invoice hi (hjq.trans hqi)
    simp [hc.noneSinceIssue hstatus p hp hinvoice] at hsince

/-- A transaction creates at most one attempt. -/
theorem newAttempts_length_le_one {db db' : Db} (hstep : Step env db db') (n : ℕ) :
    (newAttempts db db' n).length ≤ 1 := by
  obtain ⟨_, hbooks⟩ := hstep.books
  refine Table.length_filter_le_one ?_
  intro p hp q hq hptest hqtest
  have hp' := mem_newAttempts.mp (Table.mem_filter.mpr ⟨hp, hptest⟩)
  have hq' := mem_newAttempts.mp (Table.mem_filter.mpr ⟨hq, hqtest⟩)
  rcases hbooks.attempt_new hp with ⟨p₀, hp₀, hid, -⟩ | ⟨-, -, -, -, hothers⟩
  · exact absurd hid (hp'.2.2 p₀ hp₀)
  · by_contra hne
    exact hq'.2.2 q (hothers q hq fun h => hne h.symm) rfl

/-- An attempt created while the invoice is ISSUED is one since its issue. -/
theorem chargedSinceIssue_of_new {db db' : Db} {n : ℕ} (hissues : Issues db.books)
    (hstep : StampedStep env db db') (hissued : isIssued db n = true) {p : PaymentAttempt}
    (hp : p ∈ newAttempts db db' n) : ChargedSinceIssue db' n := by
  obtain ⟨hp', rfl, hnew⟩ := mem_newAttempts.mp hp
  obtain ⟨⟨_, hbooks⟩, hstamps⟩ := And.imp_left Step.books hstep
  obtain ⟨i, hi, htest⟩ := Table.any_eq_true.mp hissued
  simp only [Bool.and_eq_true, beq_iff_eq] at htest
  obtain ⟨t, ht⟩ := hissues.stamped i hi htest.2
  rcases hbooks.attempt_new hp' with ⟨p₀, hp₀, hid, -⟩ | ⟨-, -, hsame, -, -⟩
  · exact absurd hid (hnew p₀ hp₀)
  · have hi' : i ∈ db'.invoices := by
      have hrows : db'.invoices = db.invoices := hsame
      rwa [hrows]
    refine ⟨i, hi', htest.1, p, hp', rfl, sinceIssue_eq_true_iff.mpr ⟨t, ht, ?_⟩⟩
    exact (hstamps.attempt p hp' hnew i hi htest.1 t ht).le

/-- Between two issues of an invoice at most one attempt is created while it is ISSUED, and none if
it has one since its issue. -/
theorem chargesWhileIssued_le {db db' : Db} {l : List (Db × Db)} {n : ℕ}
    (h : Trace (StampedStep env) db l db') (hreach : Reaches (StampedStep env) Db.empty db)
    (hnot : ∀ s ∈ l, ¬ IssuedBy s.1.books s.2.books n) :
    chargesWhileIssued n l ≤ 1 ∧ (ChargedSinceIssue db n → chargesWhileIssued n l = 0) := by
  induction h with
  | nil => simp [chargesWhileIssued]
  | @cons a b c l hstep htrace ih =>
    have hnot' : ¬ IssuedBy a.books b.books n := hnot (a, b) List.mem_cons_self
    obtain ⟨hone, hzero⟩ := ih (hreach.tail hstep) fun s hs => hnot s (List.mem_cons_of_mem _ hs)
    simp only [chargesWhileIssued]
    by_cases hissued : isIssued a n = true
    · rw [if_pos hissued]
      have hle := newAttempts_length_le_one hstep.1 n
      constructor
      · by_cases hnil : newAttempts a b n = []
        · simpa [hnil] using hone
        · obtain ⟨p, hp⟩ := List.exists_mem_of_ne_nil _ hnil
          rw [hzero (chargedSinceIssue_of_new (Reaches.issues hreach) hstep hissued hp)]
          exact hle
      · intro hcharged
        rw [hcharged.newAttempts_eq_nil hissued hstep.1, hzero (hcharged.step hstep.1 hnot')]
        rfl
    · rw [if_neg hissued]
      refine ⟨by omega, ?_⟩
      intro hcharged
      rw [hzero (hcharged.step hstep.1 hnot')]

/-! ## No orphans -/

/-- An ISSUED invoice without an attempt since its issue is handed to the worker again, and one with
such an attempt has it recovered. -/
theorem stuck_or_pending {db : Db} (hissues : Issues db.books) {i : Invoice} (hi : i ∈ db.invoices)
    (hissued : i.status = .issued)
    (hunflagged : ∀ p ∈ db.attempts, p.invoiceId = i.id → p.needsReconciliation = false)
    {now : DateTime} (hissuedAt : ∀ t ∈ i.issuedAt, StuckSince t now)
    (hattempted : ∀ p ∈ db.attempts, p.invoiceId = i.id → StuckSince p.attemptedAt now) :
    i.id ∈ stuckIds db now ∨ ∃ p ∈ db.attempts, p.invoiceId = i.id ∧ p.status = .pending ∧
      p.id ∈ pendingIds db now := by
  obtain ⟨t, ht⟩ := hissues.stamped i hi hissued
  by_cases hcharged : ∃ p ∈ db.attempts, p.invoiceId = i.id ∧ sinceIssue i p = true
  · obtain ⟨p, hp, hinvoice, hsince⟩ := hcharged
    have hpending := hissues.pending i hi hissued p hp hinvoice hsince
    refine Or.inr ⟨p, hp, hinvoice, hpending,
      List.mem_map.mpr ⟨p, Table.mem_filter.mpr ⟨hp, ?_⟩, rfl⟩⟩
    rw [hpending, hunflagged p hp hinvoice, decide_eq_true (hattempted p hp hinvoice)]
    rfl
  · refine Or.inl (List.mem_map.mpr ⟨i, Table.mem_filter.mpr ⟨hi, ?_⟩, rfl⟩)
    have hnone : db.attempts.any (fun p => p.invoiceId == i.id && sinceIssue i p) = false := by
      refine Table.any_eq_false.mpr ?_
      intro p hp
      by_contra htest
      simp only [Bool.not_eq_false, Bool.and_eq_true, beq_iff_eq] at htest
      exact hcharged ⟨p, hp, htest⟩
    have hstuck : i.issuedAt.any (fun t => decide (StuckSince t now)) = true := by
      rw [ht, Option.any_some, decide_eq_true_eq]
      exact hissuedAt t ht
    rw [hissued, hstuck, hnone]
    rfl

/-- Between two issues of an invoice at most one attempt is created while it is ISSUED, and an
ISSUED invoice that nobody has touched for long enough is found by `reconcile_stuck`. -/
theorem one_charge_per_issue {db : Db} (h : Reaches (StampedStep env) Db.empty db) :
    (∀ (n : ℕ) (l : List (Db × Db)) (db' : Db), Trace (StampedStep env) db l db' →
      (∀ s ∈ l, ¬ IssuedBy s.1.books s.2.books n) → chargesWhileIssued n l ≤ 1) ∧
    ∀ i ∈ db.invoices, i.status = .issued →
      (∀ p ∈ db.attempts, p.invoiceId = i.id → p.needsReconciliation = false) →
      ∀ now, (∀ t ∈ i.issuedAt, StuckSince t now) →
      (∀ p ∈ db.attempts, p.invoiceId = i.id → StuckSince p.attemptedAt now) →
      i.id ∈ stuckIds db now ∨ ∃ p ∈ db.attempts, p.invoiceId = i.id ∧ p.status = .pending ∧
        p.id ∈ pendingIds db now := by
  refine ⟨?_, ?_⟩
  · intro n l db' htrace hnot
    exact (chargesWhileIssued_le htrace h hnot).1
  · intro i hi hissued hunflagged now hissuedAt hattempted
    exact stuck_or_pending (Reaches.issues h) hi hissued hunflagged hissuedAt hattempted

/-- A first charge fails, and dunning reissues the invoice. -/
def reissuedOperations : List Operation :=
  subscribed ++ [.prepare 1 none true "key_1" (sampleTime 0 2),
    .settle 1 false [] "ch_1" (sampleTime 0 3), .dun 1 (sampleTime 0 4)]

/-- The worker is handed the invoice twice. -/
def chargedTwice : List Operation :=
  [.prepare 1 none true "key_2" (sampleTime 0 5), .prepare 1 none true "key_3" (sampleTime 0 6)]

/-- The reissued invoice is charged once, and dunning finds the stuck attempt. -/
theorem one_charge_per_issue_reissued :
    chargesWhileIssued 1 ((Db.empty.after sampleEnv reissuedOperations).steps sampleEnv
      chargedTwice) ≤ 1 ∧
    1 ∈ stuckIds (Db.empty.after sampleEnv reissuedOperations) (sampleTime 1 0) := by
  have hreach : Reaches (StampedStep sampleEnv) Db.empty
      (Db.empty.after sampleEnv reissuedOperations) := by
    have hstamps : ∀ s ∈ Db.empty.steps sampleEnv reissuedOperations,
        StampsIncrease s.1.books s.2.books := by decide
    exact (trace_after _ fun s hs hstep => ⟨hstep, hstamps s hs⟩).reaches
  obtain ⟨hcharges, hfound⟩ := one_charge_per_issue hreach
  constructor
  · have hstamps : ∀ s ∈ (Db.empty.after sampleEnv reissuedOperations).steps sampleEnv chargedTwice,
        StampsIncrease s.1.books s.2.books := by decide
    refine hcharges 1 _ _ (trace_after _ fun s hs hstep => ⟨hstep, hstamps s hs⟩) ?_
    decide
  · obtain ⟨i, hi, hid, hissued, hstuck⟩ :
        ∃ i ∈ (Db.empty.after sampleEnv reissuedOperations).invoices,
          i.id = 1 ∧ i.status = .issued ∧
            ∀ t ∈ i.issuedAt, StuckSince t (sampleTime 1 0) := by decide
    have hattempts : ∀ p ∈ (Db.empty.after sampleEnv reissuedOperations).attempts,
        p.needsReconciliation = false ∧ p.status ≠ .pending ∧
          StuckSince p.attemptedAt (sampleTime 1 0) := by decide
    rcases hfound i hi hissued (fun p hp _ => (hattempts p hp).1) (sampleTime 1 0) hstuck
      (fun p hp _ => (hattempts p hp).2.2) with hmem | ⟨p, hp, -, hpending, -⟩
    · exact hid ▸ hmem
    · exact absurd hpending (hattempts p hp).2.1

end Chargeflow
