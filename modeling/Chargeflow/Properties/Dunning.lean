import Chargeflow.Books.Rounds
import Chargeflow.System.Writes

/-!
# Dunning is bounded

When no charge is started by hand, an invoice is issued at most `maxDunningAttempts` times and has
at most as many attempts, and it becomes OVERDUE when exactly so many of them failed.  Tasks of the
charge worker may be lost, repeated or late, turns of dunning may overlap, and any result may be
settled for any attempt at any time: a task is a call of `prepare` for an invoice that may have
moved on, and it is the status under the lock that decides.
-/

namespace Chargeflow

open Foundation PaymentService

variable {env : Env}

/-- The transaction starts no charge by hand: a charge is prepared by the worker. -/
def Operation.Automated (op : Operation) : Prop :=
  ∀ invoiceId key providerKey now, op ≠ .prepare invoiceId key false providerKey now

/-- One transaction that commits, where no charge is started by hand. -/
def AutomatedStep (env : Env) (db db' : Db) : Prop :=
  ∃ op : Operation, op.Automated ∧ op.apply env db = .ok db'

/-- A step of the automated system is a step. -/
theorem AutomatedStep.step {db db' : Db} (h : AutomatedStep env db db') : Step env db db' :=
  h.imp fun _ hop => hop.2

/-- The number of transactions of a run that move the invoice `n` to ISSUED. -/
def issuesOf (n : ℕ) (l : List (Db × Db)) : ℕ := l.countP fun s => IssuedBy s.1.books s.2.books n

/-! ## One transaction -/

/-- Attempts are made for ISSUED invoices when none is made by hand. -/
theorem Operation.chargesIssued {db db' : Db} {op : Operation} (h : op.apply env db = .ok db')
    (hop : op.Automated) : ChargesIssued db.books db'.books := by
  have hsame : db'.attempts = db.attempts → ChargesIssued db.books db'.books := by
    intro hattempts p' hp' hnew
    have hold : p' ∈ db.attempts := hattempts ▸ hp'
    exact absurd rfl (hnew p' hold)
  have hsettled : ∀ {p : PaymentAttempt} {success : Bool} {response : List (String × Json)}
      {incoming : Json} {now : DateTime},
      Settles env db.books p success response incoming now db'.books →
      ChargesIssued db.books db'.books := by
    intro p success response incoming now hsettles p' hp' hnew
    obtain ⟨q, hq, hid, -⟩ := hsettles.attempt_origin hp'
    exact absurd hid (hnew q hq)
  cases op with
  | prepare invoiceId key issuedOnly providerKey now =>
    cases issuedOnly with
    | false => exact absurd rfl (hop invoiceId key providerKey now)
    | true =>
      obtain ⟨⟨db₁, payment, shouldCharge⟩, hrun, rfl⟩ := map_eq_ok_iff.mp h
      obtain ⟨i, hi, s, -, rfl, -, hprepared, -⟩ := prepare_eq_ok hrun
      rcases prepare_issuedOnly hrun hi with hissued | ⟨rfl, -⟩
      · cases hprepared with
        | created =>
          intro p' hp' hnew j hj hjp
          rcases Table.mem_insert.mp hp' with hp | rfl
          · exact absurd rfl (hnew p' hp)
          · rwa [Table.eq_of_key_eq hj hi hjp]
        | _ => exact hsame rfl
      · exact hsame rfl
  | gateway request seen success chargeId =>
    obtain ⟨⟨db₁, result⟩, hrun, rfl⟩ := map_eq_ok_iff.mp h
    obtain ⟨fingerprint, r, -, hanswered, -⟩ := MockPaymentGateway.finishCharge_eq_ok hrun
    cases hanswered <;> exact hsame rfl
  | settle paymentId success response chargeId now =>
    obtain ⟨p, b', -, hsettles, rfl⟩ := PaymentService.settle_eq_ok h
    exact hsettled hsettles
  | webhook eventType payload provider providerEventId now =>
    obtain ⟨event, -, -, ⟨hbooks, -⟩ | ⟨p, -, hsettles⟩⟩ := PaymentService.handleWebhook_eq_ok h
    · exact hsame (congrArg Books.attempts hbooks)
    · exact hsettled hsettles
  | _ => exact hsame (Reaches.attempts_eq (Operation.billingWrites h rfl (by simp)))

/-! ## Every run -/

/-- The empty books are in round zero. -/
theorem inRounds_empty : InRounds Db.empty.books fun _ => 0 where
  free _ _ := rfl
  invoices i hi := by simp [Db.books, Db.empty] at hi

/-- An automated step leaves the rounds in step with the issues. -/
theorem AutomatedStep.inRounds {db db' : Db} {k : ℕ → ℕ} (h : AutomatedStep env db db')
    (hsound : Sound db.books) (hrounds : InRounds db.books k) :
    InRounds db'.books (issuesAfter db.books db'.books k) := by
  obtain ⟨op, hop, happly⟩ := h
  exact op.apply_eq_ok happly |>.inRounds hrounds hsound.linked hsound.inStanding hsound.coupled
    (op.chargesIssued happly hop)

/-- After a run every invoice is in the round of the number of its issues.  The induction is on the
run, for any rounds it starts from. -/
theorem inRounds_of_trace {db db' : Db} {l : List (Db × Db)} {k : ℕ → ℕ}
    (h : Trace (AutomatedStep env) db l db') (hsound : Sound db.books)
    (hrounds : InRounds db.books k) : InRounds db'.books fun n => k n + issuesOf n l := by
  induction h generalizing k with
  | nil => exact hrounds
  | @cons a b c l hstep _ ih =>
    obtain ⟨_, hbooks⟩ := hstep.step.books
    have hnext := ih (hbooks.sound hsound) (hstep.inRounds hsound hrounds)
    have hcount : (fun n => issuesAfter a.books b.books k n + issuesOf n l) =
        fun n => k n + issuesOf n ((a, b) :: l) := by
      funext n
      simp only [issuesAfter, issuesOf, List.countP_cons, decide_eq_true_eq]
      omega
    exact hcount ▸ hnext

/-- When no charge is started by hand, an invoice is issued at most `maxDunningAttempts` times, has
at most as many attempts, and becomes OVERDUE with exactly as many FAILED ones. -/
theorem dunning_bounded {l : List (Db × Db)} {db : Db}
    (h : Trace (AutomatedStep env) Db.empty l db) (n : ℕ) :
    issuesOf n l ≤ maxDunningAttempts ∧ (attemptsOf db.attempts n).length ≤ maxDunningAttempts ∧
    ∀ l₁ a b l₂, l = l₁ ++ (a, b) :: l₂ → GivenUpBy a.books b.books n →
      (b.attempts.filter fun p => p.invoiceId == n && p.status == .failed).length =
        maxDunningAttempts := by
  have hrounds := inRounds_of_trace h sound_empty inRounds_empty
  have hreach : Reachable env db := h.reaches.mono fun _ _ => AutomatedStep.step
  refine ⟨?_, ?_, ?_⟩
  · by_cases hnone : ∀ i ∈ db.invoices, i.id ≠ n
    · have hzero := hrounds.free n hnone
      omega
    · obtain ⟨i, hi, rfl⟩ : ∃ i ∈ db.invoices, i.id = n := by simpa using hnone
      have hlimit := (hrounds.invoices i hi).limit
      omega
  · by_cases hnone : attemptsOf db.attempts n = []
    · simp [hnone]
    · obtain ⟨p, hp⟩ := List.exists_mem_of_ne_nil _ hnone
      obtain ⟨hp, hinvoice⟩ := Table.mem_filter.mp hp
      obtain ⟨i, hi, hid, -⟩ := hreach.sound.linked.invoice p hp
      obtain rfl := hid.trans (beq_iff_eq.mp hinvoice)
      exact (hrounds.invoices i hi).count.trans (hrounds.invoices i hi).limit
  · rintro l₁ a b l₂ rfl hgiven
    obtain ⟨hbefore, hstep⟩ := h.split
    have hbeforeRounds := inRounds_of_trace hbefore sound_empty inRounds_empty
    have hbeforeReach : Reachable env a := hbefore.reaches.mono fun _ _ => AutomatedStep.step
    obtain ⟨_, hbooks⟩ := hstep.step.books
    exact hbooks.failed_of_givenUp hbeforeRounds hbeforeReach.sound.inStanding hgiven

/-- Whether an operation is automated can be computed. -/
instance (op : Operation) : Decidable op.Automated := by
  cases op with
  | prepare invoiceId key issuedOnly providerKey now =>
    cases issuedOnly with
    | false => exact .isFalse fun h => h invoiceId key providerKey now rfl
    | true => exact .isTrue (by simp [Operation.Automated])
  | _ => exact .isTrue (by simp [Operation.Automated])

/-- The first invoice is charged by the worker in each of its rounds, and every charge fails.  The
task of the second round comes twice, and two cycles of dunning take up the second failure. -/
def exhaustedOperations : List Operation :=
  subscribed ++ [.prepare 1 none true "key_1" (sampleTime 0 2),
    .settle 1 false [] "ch_1" (sampleTime 0 3), .dun 1 (sampleTime 0 4),
    .prepare 1 none true "key_2" (sampleTime 0 5), .prepare 1 none true "key_3" (sampleTime 0 6),
    .settle 2 false [] "ch_2" (sampleTime 0 7), .dun 1 (sampleTime 0 8), .dun 1 (sampleTime 0 9),
    .prepare 1 none true "key_4" (sampleTime 0 10), .settle 3 false [] "ch_3" (sampleTime 0 11)]

/-- After three declines the invoice was issued three times and has three FAILED attempts. -/
theorem dunning_bounded_exhausted :
    issuesOf 1 (Db.empty.steps sampleEnv exhaustedOperations) ≤ 3 ∧
    (((Db.empty.after sampleEnv exhaustedOperations).after sampleEnv
      [.dun 1 (sampleTime 0 12)]).attempts.filter fun p =>
        p.invoiceId == 1 && p.status == .failed).length = 3 := by
  have hauto : ∀ op ∈ exhaustedOperations, op.Automated := by decide
  have hrun : Trace (AutomatedStep sampleEnv) Db.empty _ _ :=
    trace_after_of sampleEnv Db.empty hauto
  have hdun : Operation.apply sampleEnv (Db.empty.after sampleEnv exhaustedOperations)
      (.dun 1 (sampleTime 0 12)) = .ok ((Db.empty.after sampleEnv exhaustedOperations).after
        sampleEnv [.dun 1 (sampleTime 0 12)]) := apply_eq_after _ (by decide)
  have hstep : Trace (AutomatedStep sampleEnv) (Db.empty.after sampleEnv exhaustedOperations) _ _ :=
    .cons ⟨_, by simp [Operation.Automated], hdun⟩ (.nil _)
  exact ⟨(dunning_bounded hrun 1).1,
    (dunning_bounded (hrun.append hstep) 1).2.2 _ _ _ [] rfl (by decide)⟩

end Chargeflow
