import Chargeflow.Properties.Issues
import Chargeflow.System.Collection
import Chargeflow.System.Ledger

/-!
# Every invoice is settled

Callers may stop at any point, tasks may be lost, and every other transaction may come in between:
as long as `reconcile_stuck` and `run_dunning` keep coming round, an invoice that is ISSUED or
FAILED does not stay so.  In each round the invoice goes down the stages that `Invoice.rank` counts:
an attempt that is under way is recovered, an invoice without one is handed to the worker, and a
FAILED one is dunned.  Whatever else happens can only take it further down.
-/

namespace Chargeflow

open Foundation PaymentService

variable {env : Env}

/-! ## What holds in every run -/

/-- The rank of the invoice `n`. -/
def Books.rank (b : Books) (n : ℕ) : ℕ :=
  match b.invoices.get? n with
  | some i => i.rank b.attempts
  | none => 0

/-- The rank of an invoice is computed from its attempts. -/
theorem Books.rank_eq {b : Books} {i : Invoice} (hi : i ∈ b.invoices) :
    b.rank i.id = i.rank b.attempts := by
  have hget : b.invoices.get? i.id = some i := Table.get?_key hi
  rw [Books.rank, hget]

/-- What the rounds go by. -/
structure Orderly (sys : Sys) : Prop where
  sound : Sound sys.db.books
  closedTogether : ClosedTogether sys.db.books
  issues : Issues sys.db.books
  unexhausted : Unexhausted sys.db.books
  flagged : ∀ p ∈ sys.db.attempts, p.needsReconciliation = true → OnClosed sys.db.books p

/-- The states of a timed run are orderly. -/
theorem Reaches.orderly {sys : Sys} (h : Reaches (TimedStep env) Sys.empty sys) : Orderly sys := by
  have hsys : Reaches (SysStep env) Sys.empty sys := h.mono fun _ _ => TimedStep.sysStep
  have haudited := Reaches.audited hsys
  have hissues : Issues sys.db.books := by
    have hdbs : Reaches (StampedStep env) Sys.empty.db sys.db := h.simulation (f := Sys.db) ?_
    · exact Reaches.issues hdbs
    rintro a b ⟨e, hstep, hstamps⟩
    exact (SysStep.db ⟨e, hstep⟩).imp_right fun hdb => ⟨hdb, hstamps⟩
  have hunexhausted : Unexhausted sys.db.books := by
    refine h.invariant (I := fun sys => Unexhausted sys.db.books) ?_ ?_
    · intro i hi
      simp [Sys.empty, Db.empty, Db.books] at hi
    · intro a b hreach ha hstep
      have hsound := (Reaches.db (hreach.mono fun _ _ => TimedStep.sysStep)).sound
      rcases hstep.sysStep.db with hsame | hdb
      · rwa [hsame]
      · obtain ⟨readings, hbooks⟩ := hdb.books
        exact hbooks.unexhausted hsound.coupled hsound.inStanding hsound.linked ha
  exact ⟨(Reaches.db hsys).sound, haudited.closedTogether, hissues, hunexhausted,
    haudited.audited.flagged⟩

/-- A state of a run in which the invoice `n` exists. -/
def Known (env : Env) (n : ℕ) (sys : Sys) : Prop :=
  Reaches (TimedStep env) Sys.empty sys ∧ ∃ i ∈ sys.db.invoices, i.id = n

/-- The effect of an event on the books. -/
theorem TimedStep.books {a b : Sys} (h : TimedStep env a b) :
    b.db.books = a.db.books ∨ ∃ readings, BooksStep env readings a.db.books b.db.books := by
  rcases h.sysStep.db with hsame | hdb
  · exact Or.inl (congrArg Db.books hsame)
  · exact Or.inr hdb.books

/-- No event raises the rank. -/
theorem Known.step {n : ℕ} (a b : Sys) (h : Known env n a) (hstep : TimedStep env a b) :
    Known env n b ∧ b.db.books.rank n ≤ a.db.books.rank n := by
  obtain ⟨hreach, i, hi, rfl⟩ := h
  have ha := Reaches.orderly hreach
  have hb := Reaches.orderly (hreach.tail hstep)
  rcases hstep.books with hsame | ⟨readings, hbooks⟩
  · refine ⟨⟨hreach.tail hstep, i, ?_, rfl⟩, by rw [hsame]⟩
    have hinvoices : b.db.invoices = a.db.invoices := congrArg Books.invoices hsame
    rwa [hinvoices]
  · obtain ⟨i', hi', hid, -⟩ := hbooks.invoices_edge.kept i hi
    refine ⟨⟨hreach.tail hstep, i', hi', hid⟩, ?_⟩
    have hid' : i'.id = i.id := hid
    rw [Books.rank_eq (b := a.db.books) hi, ← hid', Books.rank_eq (b := b.db.books) hi']
    exact hbooks.rank_le hb.sound.coupled ha.sound.inStanding ha.sound.linked ha.unexhausted hi hi'
      hid

/-- A known invoice stays known, and its rank does not go up. -/
theorem Known.reaches {n : ℕ} {a b : Sys} (h : Known env n a) (hreach : Reaches (TimedStep env) a b) :
    Known env n b ∧ b.db.books.rank n ≤ a.db.books.rank n :=
  hreach.not_raised (I := Known env n) (m := fun sys => sys.db.books.rank n) h Known.step

/-! ## Stages -/

/-- The rank tells the stage of an invoice. -/
theorem Orderly.stage {sys : Sys} (h : Orderly sys) {i : Invoice} (hi : i ∈ sys.db.invoices) :
    (i.Ended ∧ sys.db.books.rank i.id = 0) ∨
    (i.status = .failed ∧ sys.db.books.rank i.id % 3 = 1) ∨
    (i.status = .issued ∧ underWay sys.db.attempts i.id = true ∧ sys.db.books.rank i.id % 3 = 2) ∨
    (i.status = .issued ∧ underWay sys.db.attempts i.id = false ∧
      sys.db.books.rank i.id % 3 = 0 ∧ 0 < sys.db.books.rank i.id) := by
  have hrank : sys.db.books.rank i.id = i.rank sys.db.attempts := Books.rank_eq hi
  rw [hrank]
  by_cases hissued : i.status = .issued
  · have hleft : failures sys.db.attempts i.id < maxDunningAttempts := h.unexhausted i hi hissued
    cases hpending : underWay sys.db.attempts i.id with
    | true =>
      refine Or.inr (Or.inr (Or.inl ⟨hissued, rfl, ?_⟩))
      rw [Invoice.rank_of_underWay hissued hpending]
      omega
    | false =>
      refine Or.inr (Or.inr (Or.inr ⟨hissued, rfl, ?_⟩))
      rw [Invoice.rank_of_issued hissued hpending]
      omega
  · by_cases hfailed : i.status = .failed
    · refine Or.inr (Or.inl ⟨hfailed, ?_⟩)
      rw [Invoice.rank_of_failed hfailed]
      omega
    · exact Or.inl ⟨⟨hissued, hfailed⟩, Invoice.rank_of_ended ⟨hissued, hfailed⟩⟩

/-- There are at most nine stages. -/
theorem Orderly.rank_le {sys : Sys} (h : Orderly sys) {i : Invoice} (hi : i ∈ sys.db.invoices) :
    sys.db.books.rank i.id ≤ 9 := by
  have hrank : sys.db.books.rank i.id = i.rank sys.db.attempts := Books.rank_eq hi
  have hmax : maxDunningAttempts = 3 := rfl
  rw [hrank]
  by_cases hfailed : i.status = .failed
  · obtain ⟨p, hp, hinvoice, hstatus⟩ := h.sound.coupled.failed i hi hfailed
    have hone : 0 < failures sys.db.attempts i.id := by
      refine List.length_pos_of_mem (a := p) (Table.mem_filter.mpr ⟨hp, ?_⟩)
      simp [hinvoice, hstatus]
    rw [Invoice.rank_of_failed hfailed]
    omega
  · by_cases hissued : i.status = .issued
    · obtain ⟨-, hle⟩ := Invoice.rank_issued_bounds sys.db.attempts hissued
      omega
    · rw [Invoice.rank_of_ended ⟨hissued, hfailed⟩]
      omega

/-- The subscription of an ISSUED invoice is open, so its attempts are not flagged. -/
theorem Orderly.unflagged {sys : Sys} (h : Orderly sys) {i : Invoice} (hi : i ∈ sys.db.invoices)
    (hissued : i.status = .issued) {p : PaymentAttempt} (hp : p ∈ sys.db.attempts)
    (hinvoice : p.invoiceId = i.id) : p.needsReconciliation = false := by
  rw [Bool.eq_false_iff]
  intro hflag
  obtain ⟨j, hj, hji, s, hs, hsj, hcanceled⟩ := h.flagged p hp hflag
  obtain rfl := Table.eq_of_key_eq hj hi (hji.trans hinvoice)
  rcases (h.sound.inStanding.agrees s hs j hj hsj.symm).closed hcanceled with hstatus | hstatus |
    hstatus <;> simp [hissued] at hstatus

/-- The invoice is the same, and so is the attempt that is under way. -/
def StillCharging (i : Invoice) (p : PaymentAttempt) (sys : Sys) : Prop :=
  i ∈ sys.db.invoices ∧ ∃ q ∈ sys.db.attempts, p.Later q ∧ q.status = .pending

section

variable {i : Invoice} {p : PaymentAttempt} {a b : Sys}

/-- An event that does not take an ISSUED invoice further leaves it alone. -/
theorem Known.level (h : Known env i.id a) (hstep : TimedStep env a b)
    (hrank : a.db.books.rank i.id ≤ b.db.books.rank i.id) (hissued : i.status = .issued)
    (hi : i ∈ a.db.invoices) : i ∈ b.db.invoices ∧
      ∀ q ∈ a.db.attempts, q.invoiceId = i.id → q.status = .pending →
        ∃ q' ∈ b.db.attempts, q'.id = q.id ∧ q.Later q' ∧ q'.status = .pending := by
  rcases hstep.books with hsame | ⟨readings, hbooks⟩
  · have hinvoices : b.db.invoices = a.db.invoices := congrArg Books.invoices hsame
    have hattempts : b.db.attempts = a.db.attempts := congrArg Books.attempts hsame
    rw [hinvoices, hattempts]
    exact ⟨hi, fun q hq _ hpending => ⟨q, hq, rfl, .refl q, hpending⟩⟩
  · obtain ⟨i', hi', hid, -⟩ := hbooks.invoices_edge.kept i hi
    have hid' : i'.id = i.id := hid
    have hb := Reaches.orderly (h.1.tail hstep)
    rw [Books.rank_eq (b := a.db.books) hi, ← hid', Books.rank_eq (b := b.db.books) hi'] at hrank
    obtain ⟨rfl, hkept⟩ := hbooks.level hb.sound.coupled (Reaches.orderly h.1).unexhausted hi hi' hid
      hissued hrank
    exact ⟨hi', hkept⟩

/-- An ISSUED invoice whose rank does not go down stays as it is. -/
theorem Known.invoice_mem (h : Known env i.id a) (hreach : Reaches (TimedStep env) a b)
    (hrank : a.db.books.rank i.id ≤ b.db.books.rank i.id) (hissued : i.status = .issued)
    (hi : i ∈ a.db.invoices) : i ∈ b.db.invoices := by
  refine hreach.level (I := Known env i.id) (m := fun sys => sys.db.books.rank i.id)
    (P := fun sys => i ∈ sys.db.invoices) h Known.step ?_ hrank hi
  intro c d hc hstep hle hmem
  exact (hc.level hstep hle hissued hmem).1

/-- An attempt that is still charging goes on if the rank of its invoice does not go down. -/
theorem Known.stillCharging (h : Known env i.id a) (hreach : Reaches (TimedStep env) a b)
    (hrank : a.db.books.rank i.id ≤ b.db.books.rank i.id) (hissued : i.status = .issued)
    (hinvoice : p.invoiceId = i.id) (hp : StillCharging i p a) : StillCharging i p b := by
  refine hreach.level (I := Known env i.id) (m := fun sys => sys.db.books.rank i.id)
    (P := StillCharging i p) h Known.step ?_ hrank hp
  rintro c d hc hstep hle ⟨hi, q, hq, hlater, hpending⟩
  obtain ⟨hi', hkept⟩ := hc.level hstep hle hissued hi
  obtain ⟨q', hq', -, hlater', hpending'⟩ :=
    hkept q hq (hlater.snapshot.invoiceId.trans hinvoice) hpending
  exact ⟨hi', q', hq', hlater.trans hlater', hpending'⟩

/-- The attempt that is under way can be charged. -/
theorem StillCharging.chargeable (h : StillCharging i p a) (ha : Orderly a)
    (hissued : i.status = .issued) (hinvoice : p.invoiceId = i.id) :
    ∃ q ∈ a.db.attempts, q.id = p.id ∧ chargeable q = true := by
  obtain ⟨hi, q, hq, hlater, hpending⟩ := h
  have hunflagged := ha.unflagged hi hissued hq (hlater.snapshot.invoiceId.trans hinvoice)
  exact ⟨q, hq, hlater.snapshot.id, by simp [PaymentService.chargeable, hpending, hunflagged]⟩

/-! ## The three passes -/

/-- The recovery of the attempt that is under way takes the invoice further. -/
theorem recovery_lowers {raises : ℕ → Prop} {now : DateTime} (h : Known env i.id a)
    (hi : i ∈ a.db.invoices) (hissued : i.status = .issued) (hp : p ∈ a.db.attempts)
    (hinvoice : p.invoiceId = i.id) (hpending : p.status = .pending)
    (hstuck : StuckSince p.attemptedAt now) (hraises : ¬ raises p.id)
    (hpass : Pass (TimedStep env) (Attended env raises (Recovered env)) (pendingIds a.db now) a b) :
    b.db.books.rank i.id < a.db.books.rank i.id := by
  have hcharging : StillCharging i p a := ⟨hi, p, hp, .refl p, hpending⟩
  have hlisted : p.id ∈ pendingIds a.db now := by
    refine List.mem_map.mpr ⟨p, Table.mem_filter.mpr ⟨hp, ?_⟩, rfl⟩
    rw [hpending, (Reaches.orderly h.1).unflagged hi hissued hp hinvoice, decide_eq_true hstuck]
    rfl
  refine hpass.lowers (I := Known env i.id) (m := fun sys => sys.db.books.rank i.id) h
    (Attended.reaches fun _ _ _ => Recovered.reaches) Known.step hlisted ?_
  intro c d hc hbefore hle hattended
  rcases hattended with hrecovered | ⟨hraised, -⟩
  · by_contra hnot
    have hd := hc.reaches hrecovered.reaches
    obtain ⟨q, hq, hqid, hchargeable⟩ := (h.stillCharging (hbefore.trans hrecovered.reaches)
      (Nat.le_of_not_lt hnot) hissued hinvoice hcharging).chargeable (Reaches.orderly hd.1.1)
      hissued hinvoice
    cases hrecovered with
    | skipped hdone =>
      rw [hdone q hq hqid] at hchargeable
      cases hchargeable
    | charged hcharge hcaller hsettle =>
      obtain ⟨q', hq', hid', hdone⟩ := not_chargeable_of_answered hcaller hsettle.1
      rw [Table.eq_of_key_eq hq hq' (hqid.trans hid'.symm), hdone] at hchargeable
      cases hchargeable
  · exact absurd hraised hraises

/-- An ISSUED invoice that has no attempt under way is handed to the worker. -/
theorem stuck_of_free {db : Db} (hissues : Issues db.books) (hi : i ∈ db.invoices)
    (hissued : i.status = .issued) (hfree : underWay db.attempts i.id = false) {now : DateTime}
    (hissuedAt : ∀ t ∈ i.issuedAt, StuckSince t now) : i.id ∈ stuckIds db now := by
  obtain ⟨t, ht⟩ := hissues.stamped i hi hissued
  refine List.mem_map.mpr ⟨i, Table.mem_filter.mpr ⟨hi, ?_⟩, rfl⟩
  have hnone : db.attempts.any (fun p => p.invoiceId == i.id && sinceIssue i p) = false := by
    refine Table.any_eq_false.mpr ?_
    intro q hq
    by_contra htest
    simp only [Bool.not_eq_false, Bool.and_eq_true, beq_iff_eq] at htest
    have hpending := hissues.pending i hi hissued q hq htest.1 htest.2
    rw [underWay_eq_true_iff.mpr ⟨q, hq, htest.1, hpending⟩] at hfree
    cases hfree
  have hstuck : i.issuedAt.any (fun t => decide (StuckSince t now)) = true := by
    rw [ht, Option.any_some, decide_eq_true_eq]
    exact hissuedAt t ht
  rw [hissued, hstuck, hnone]
  rfl

/-- The task of the worker takes it further. -/
theorem charge_lowers {raises : ℕ → Prop} {tasks : List ℕ} (h : Known env i.id a)
    (hi : i ∈ a.db.invoices) (hissued : i.status = .issued)
    (hfree : a.db.books.rank i.id % 3 = 0) (htask : i.id ∈ tasks) (hraises : ¬ raises i.id)
    (hpass : Pass (TimedStep env) (Attended env raises (Charged env)) tasks a b) :
    b.db.books.rank i.id < a.db.books.rank i.id := by
  refine hpass.lowers (I := Known env i.id) (m := fun sys => sys.db.books.rank i.id) h
    (Attended.reaches fun _ _ _ => Charged.reaches) Known.step htask ?_
  intro c d hc hbefore hle hattended
  rcases hattended with ⟨providerKey, now, hcall⟩ | ⟨hraised, -⟩
  · by_contra hnot
    have hbefore' := (h.reaches hbefore).2
    have hdle := (Known.step c d hc hcall.step).2
    have hic := h.invoice_mem hbefore hle hissued hi
    have hlevel : c.db.books.rank i.id ≤ d.db.books.rank i.id :=
      Nat.le_trans hbefore' (Nat.le_of_not_lt hnot)
    have hid := hc.invoice_mem (.single hcall.step) hlevel hissued hic
    have hcs := Reaches.orderly hc.1
    have hds := Reaches.orderly (hc.1.tail hcall.step)
    have hunderWay := underWay_of_call hic hissued hcs.sound.coupled hcs.issues hcall.1
    -- an ISSUED invoice with an attempt under way is at another stage
    rcases hds.stage hid with ⟨hended, -⟩ | ⟨hfailed, -⟩ | ⟨-, -, hrank⟩ | ⟨-, hnone, -⟩
    · exact hended.1 hissued
    · simp [hissued] at hfailed
    · omega
    · rw [hunderWay] at hnone
      cases hnone
  · exact absurd hraised hraises

/-- Dunning takes a FAILED invoice further. -/
theorem dunning_lowers {raises : ℕ → Prop} {n : ℕ} (h : Known env n a)
    (hfailed : a.db.books.rank n % 3 = 1) (hraises : ¬ raises n)
    (hpass : Pass (TimedStep env) (Attended env raises (Dunned env)) (failedIds a.db) a b) :
    b.db.books.rank n < a.db.books.rank n := by
  have hstatus : ∀ {sys : Sys} {j : Invoice}, Known env n sys → j ∈ sys.db.invoices → j.id = n →
      (j.status = .failed ↔ sys.db.books.rank n % 3 = 1) := by
    rintro sys j hsys hj rfl
    rcases (Reaches.orderly hsys.1).stage hj with ⟨hended, hrank⟩ | ⟨hstatus, hrank⟩ |
      ⟨hstatus, -, hrank⟩ | ⟨hstatus, -, hrank, -⟩
    · rw [hrank]
      exact iff_of_false hended.2 (by decide)
    · exact iff_of_true hstatus hrank
    · exact iff_of_false (by simp [hstatus]) (by omega)
    · exact iff_of_false (by simp [hstatus]) (by omega)
  obtain ⟨i, hi, hin⟩ := h.2
  have hlisted : n ∈ failedIds a.db := by
    refine List.mem_map.mpr ⟨i, Table.mem_filter.mpr ⟨hi, ?_⟩, hin⟩
    simp [(hstatus h hi hin).mpr hfailed]
  refine hpass.lowers (I := Known env n) (m := fun sys => sys.db.books.rank n) h
    (Attended.reaches fun _ _ _ => Dunned.reaches) Known.step hlisted ?_
  intro c d hc hbefore hle hattended
  rcases hattended with ⟨now, hdun⟩ | ⟨hraised, -⟩
  · have hbefore' := (h.reaches hbefore).2
    obtain ⟨hd, hdle⟩ := Known.step c d hc hdun.step
    obtain ⟨j, hj, hjn⟩ := hc.2
    obtain ⟨j', hj', hjn'⟩ := hd.2
    obtain ⟨-, hop, -⟩ := Sys.transact_eq_some hdun.1
    have hnot := dunInvoice_not_failed (i := j) (by rw [hjn]; exact hop) hj hj' (hjn'.trans hjn.symm)
    rw [Ne, hstatus hd hj' hjn'] at hnot
    omega
  · exact absurd hraised hraises

end

/-! ## Rounds -/

/-- A round takes an invoice two stages further out of three. -/
theorem Round.lowers {raises : ℕ → Prop} {n : ℕ} (hraises : ¬ raises n) (s s' : Sys)
    (h : Known env n s) (hround : Round env raises s s') :
    Known env n s' ∧ (2 * s'.db.books.rank n + 1) / 3 ≤ (2 * s.db.books.rank n + 1) / 3 - 1 := by
  obtain @⟨queried, listed, handed, charged, failed, dunned, _, tasks, now, later, hbefore,
    hattempts, hrecover, hissues, hhandOff, htasks, hcharge, hbetween, hdun, hafter⟩ := hround
  have hrecovery := hrecover.reaches (Attended.reaches fun _ _ _ => Recovered.reaches)
  obtain ⟨hq, hqs⟩ := h.reaches hbefore
  obtain ⟨hl, hlq⟩ := hq.reaches hrecovery
  obtain ⟨hh, hhl⟩ := Known.step _ _ hl hhandOff.step
  obtain ⟨hc, hch⟩ := hh.reaches (hcharge.reaches (Attended.reaches fun _ _ _ => Charged.reaches))
  obtain ⟨hf, hfc⟩ := hc.reaches hbetween
  obtain ⟨hd, hdf⟩ := hf.reaches (hdun.reaches (Attended.reaches fun _ _ _ => Dunned.reaches))
  obtain ⟨hs', hsd⟩ := hd.reaches hafter
  have hdunned : failed.db.books.rank n % 3 = 1 → dunned.db.books.rank n < failed.db.books.rank n :=
    fun hfailed => dunning_lowers hf hfailed hraises hdun
  obtain ⟨i, hi, rfl⟩ := h.2
  have hrecovered : s.db.books.rank i.id % 3 = 2 →
      listed.db.books.rank i.id < s.db.books.rank i.id := by
    intro hrank
    rcases (Reaches.orderly h.1).stage hi with ⟨-, hzero⟩ | ⟨-, hone⟩ | ⟨hissued, hpending, -⟩ |
      ⟨-, -, hzero, -⟩
    · omega
    · omega
    · by_contra hnot
      obtain ⟨p, hp, hinvoice, hstatus⟩ := underWay_eq_true_iff.mp hpending
      obtain ⟨hiq, q, hqmem, hlater, hqstatus⟩ := h.stillCharging (p := p) hbefore (by omega) hissued
        hinvoice ⟨hi, p, hp, .refl p, hstatus⟩
      have hqinvoice : q.invoiceId = i.id := hlater.snapshot.invoiceId.trans hinvoice
      have hstuck : StuckSince q.attemptedAt now :=
        hlater.snapshot.attemptedAt ▸ hattempts p hp
      have hlower := recovery_lowers hq hiq hissued hqmem hqinvoice hqstatus hstuck (by
        rintro ⟨r, hr, hrid, hraised⟩
        rw [Table.eq_of_key_eq hr hqmem hrid, hqinvoice] at hraised
        exact hraises hraised) hrecover
      omega
    · omega
  have hcharged : s.db.books.rank i.id % 3 = 0 → 0 < s.db.books.rank i.id →
      s'.db.books.rank i.id < s.db.books.rank i.id := by
    intro hrank hpos
    rcases (Reaches.orderly h.1).stage hi with ⟨-, hzero⟩ | ⟨-, hone⟩ | ⟨-, -, htwo⟩ |
      ⟨hissued, -, -, -⟩
    · omega
    · omega
    · omega
    · by_contra hnot
      have hil := h.invoice_mem (hbefore.trans hrecovery) (by omega) hissued hi
      have hfree : underWay listed.db.attempts i.id = false := by
        rcases (Reaches.orderly hl.1).stage hil with ⟨hended, -⟩ | ⟨hfailed, -⟩ | ⟨-, -, htwo⟩ |
          ⟨-, hfree, -⟩
        · exact absurd hissued hended.1
        · simp [hissued] at hfailed
        · omega
        · exact hfree
      have hstuck := stuck_of_free (Reaches.orderly hl.1).issues hil hissued hfree (hissues i hi)
      have hih := hl.invoice_mem (.single hhandOff.step) (by omega) hissued hil
      have hlower := charge_lowers hh hih hissued (by omega) (htasks _ hstuck hraises) hraises hcharge
      omega
  refine ⟨hs', ?_⟩
  obtain hzero | hone | htwo : s.db.books.rank i.id % 3 = 0 ∨ s.db.books.rank i.id % 3 = 1 ∨
      s.db.books.rank i.id % 3 = 2 := by omega
  · by_cases hpos : 0 < s.db.books.rank i.id
    · have hlower := hcharged hzero hpos
      omega
    · omega
  · -- a FAILED invoice is dunned, if nothing has taken it further before
    have hlower : s'.db.books.rank i.id < s.db.books.rank i.id := by omega
    omega
  · -- the recovery may fail the invoice, which is dunned in the same round
    have hlower := hrecovered htwo
    have htwice : s'.db.books.rank i.id + 2 ≤ s.db.books.rank i.id := by omega
    omega

/-- After six rounds an invoice for whose rows no handler raises is neither ISSUED nor FAILED. -/
theorem rounds_end {raises : ℕ → Prop} {sys sys' : Sys} (h : Reaches (TimedStep env) Sys.empty sys)
    (hrounds : Iterated (Round env raises) (2 * maxDunningAttempts) sys sys') {i : Invoice}
    (hi : i ∈ sys.db.invoices) (hraises : ¬ raises i.id) :
    Reaches (TimedStep env) Sys.empty sys' ∧ ∃ i' ∈ sys'.db.invoices, i'.id = i.id ∧ i'.Ended := by
  have hmax : maxDunningAttempts = 3 := rfl
  obtain ⟨hknown, hle⟩ := hrounds.descent (I := Known env i.id)
    (m := fun sys => (2 * sys.db.books.rank i.id + 1) / 3) ⟨h, i, hi, rfl⟩ (Round.lowers hraises)
  have hnine := (Reaches.orderly h).rank_le hi
  obtain ⟨i', hi', hid⟩ := hknown.2
  refine ⟨hknown.1, i', hi', hid, ?_⟩
  rw [← hid] at hle hnine
  rcases (Reaches.orderly hknown.1).stage hi' with ⟨hended, -⟩ | ⟨-, hrank⟩ | ⟨-, -, hrank⟩ |
    ⟨-, -, hrank, hpos⟩
  · exact hended
  · omega
  · omega
  · omega

/-- An invoice that is neither ISSUED nor FAILED is PAID or given up. -/
theorem Orderly.paid_or_givenUp {sys : Sys} (h : Orderly sys) {i : Invoice}
    (hi : i ∈ sys.db.invoices) (hended : i.Ended) : i.status = .paid ∨
      (i.status = .overdue ∨ i.status = .canceled) ∧ Closed sys.db.books i.subscriptionId := by
  obtain ⟨s, hs, hsid, -⟩ := h.sound.linked.subscription i hi
  have hagrees := h.sound.inStanding.agrees s hs i hi hsid.symm
  cases hstatus : i.status with
  | paid => exact Or.inl rfl
  | overdue => exact Or.inr ⟨Or.inl rfl, s, hs, hsid, (hagrees.unpaid hstatus).1⟩
  | canceled => exact Or.inr ⟨Or.inr rfl, h.closedTogether i hi hstatus⟩
  | draft => exact absurd hstatus hagrees.issued
  | issued => exact absurd hstatus hended.1
  | failed => exact absurd hstatus hended.2

/-- Six rounds of collection settle every invoice for whose rows no handler raises: it is PAID, or
it has been given up and its subscription is CANCELED. -/
theorem invoices_are_settled {raises : ℕ → Prop} {sys sys' : Sys}
    (h : Reaches (TimedStep env) Sys.empty sys)
    (hrounds : Iterated (Round env raises) (2 * maxDunningAttempts) sys sys') {i : Invoice}
    (hi : i ∈ sys.db.invoices) (hraises : ¬ raises i.id) :
    ∃ i' ∈ sys'.db.invoices, i'.id = i.id ∧ (i'.status = .paid ∨
      (i'.status = .overdue ∨ i'.status = .canceled) ∧ Closed sys'.db.books i'.subscriptionId) := by
  obtain ⟨hreach, i', hi', hid, hended⟩ := rounds_end h hrounds hi hraises
  exact ⟨i', hi', hid, (Reaches.orderly hreach).paid_or_givenUp hi' hended⟩

/-- An event that is taken and keeps the order of the stamps is a timed one. -/
theorem timedEvent_after {sys : Sys} {e : Event} (h : (sys.step env e).isSome = true)
    (hstamps : StampsIncrease sys.db.books (sys.after env [e]).db.books) :
    TimedEvent env e sys (sys.after env [e]) :=
  ⟨Sys.step_eq_after e h, hstamps⟩

/-- The clock runs between the events of a list. -/
def Sys.Timed (env : Env) (sys : Sys) : List Event → Prop
  | [] => True
  | e :: events => StampsIncrease sys.db.books (sys.after env [e]).db.books ∧
      (sys.after env [e]).Timed env events

/-- Whether a run is timed can be computed. -/
instance Sys.decidableTimed (env : Env) :
    ∀ (sys : Sys) (events : List Event), Decidable (sys.Timed env events)
  | _, [] => .isTrue trivial
  | sys, e :: events => @instDecidableAnd _ _ inferInstance (Sys.decidableTimed env (sys.after env [e])
      events)

/-- A timed run consists of timed steps. -/
theorem timed_reaches_after {sys : Sys} {events : List Event} (h : sys.Timed env events) :
    Reaches (TimedStep env) sys (sys.after env events) := by
  induction events generalizing sys with
  | nil => exact .refl
  | cons e events ih =>
    obtain ⟨hstamps, hrest⟩ := h
    have hreach := ih hrest
    change Reaches (TimedStep env) sys ((sys.after env [e]).after env events)
    have hone : sys.after env [e] = (sys.step env e).getD sys := rfl
    cases hstep : sys.step env e with
    | none =>
      rw [hstep] at hone
      rw [hone] at hreach ⊢
      exact hreach
    | some sys' =>
      rw [hstep] at hone
      rw [hone] at hreach hstamps ⊢
      exact .head ⟨e, hstep, hstamps⟩ hreach

/-- A run of `reconcile_stuck` that finds nothing to hand over. -/
theorem timedEvent_reconcile {sys : Sys} {now : DateTime} (hstuck : stuckIds sys.db now = []) :
    TimedEvent env (.transact (.reconcile now)) sys sys := by
  have hdb : handOffStuck sys.db now = sys.db := by
    rw [handOffStuck, hstuck, List.append_nil]
  refine ⟨?_, ?_, ?_⟩
  · simp [Sys.step, permitted, Operation.apply, hdb]
  · intro i' hi' hby
    obtain ⟨i, hi, hid, hissued⟩ := hby.1
    exact absurd hissued (hby.2 i hi hid)
  · intro p' hp' hnew
    exact absurd rfl (hnew p' hp')

/-- A round in which there is nothing to do. -/
theorem Round.idle {raises : ℕ → Prop} {sys : Sys} {now : DateTime}
    (hattempts : ∀ p ∈ sys.db.attempts, StuckSince p.attemptedAt now)
    (hissues : ∀ i ∈ sys.db.invoices, ∀ t ∈ i.issuedAt, StuckSince t now)
    (hpending : pendingIds sys.db now = []) (hstuck : stuckIds sys.db now = [])
    (hfailed : failedIds sys.db = []) : Round env raises sys sys := by
  have hnoTask : Pass (TimedStep env) (Attended env raises (Charged env)) [] sys sys := .nil .refl
  refine .mk .refl hattempts ?_ hissues (timedEvent_reconcile hstuck) ?_ hnoTask .refl ?_ .refl
  · rw [hpending]
    exact .nil .refl
  · rw [hstuck]
    exact fun n hn => absurd hn List.not_mem_nil
  · rw [hfailed]
    exact .nil .refl

/-- A customer has subscribed, and the task to charge the first invoice is lost. -/
def taskLost : Sys := Sys.empty.after sampleEnv (subscribed.map .transact)

/-- The invoice is handed to the worker again. -/
def taskFound : Sys := taskLost.after sampleEnv [.transact (.reconcile (sampleTime 1 0))]

/-- A worker has taken the retry. -/
def taskTaken : Sys := taskFound.after sampleEnv [.call 1 none true "key_1" (sampleTime 1 1)]

/-- The worker stops before it has called the provider. -/
def workerCrashed : Sys := taskTaken.after sampleEnv [.crash 0]

/-- The attempt is found, and its charge comes to an answer. -/
def chargeRecovered : Sys :=
  workerCrashed.after sampleEnv [.recover 1, .advance 0 true "mock_1" (sampleTime 2 0),
    .advance 0 true "mock_1" (sampleTime 2 0), .advance 0 true "mock_1" (sampleTime 2 0)]

/-- The charge of the retry is settled. -/
def chargeSettled : Sys :=
  chargeRecovered.after sampleEnv [.advance 0 true "mock_1" (sampleTime 2 1)]

/-- No attempt is stuck any more. -/
def noneStuck : Sys := chargeSettled.after sampleEnv [.transact (.reconcile (sampleTime 2 2))]

/-- A round in which the worker crashes. -/
theorem round_taskLost : Round sampleEnv (fun _ => False) taskLost workerCrashed := by
  have hhandOff : TimedEvent sampleEnv (.transact (.reconcile (sampleTime 1 0))) taskLost taskFound :=
    timedEvent_after (by decide +kernel) (by decide +kernel)
  have htaken : TimedEvent sampleEnv (.call 1 none true "key_1" (sampleTime 1 1)) taskFound
      taskTaken := timedEvent_after (by decide +kernel) (by decide +kernel)
  have hcrashed : TimedEvent sampleEnv (.crash 0) taskTaken workerCrashed :=
    timedEvent_after (by decide +kernel) (by decide +kernel)
  have hpending : pendingIds taskLost.db (sampleTime 1 0) = [] := by decide +kernel
  have hstuck : stuckIds taskLost.db (sampleTime 1 0) = [1] := by decide +kernel
  have hfailed : failedIds workerCrashed.db = [] := by decide +kernel
  have hattempts : ∀ p ∈ taskLost.db.attempts, StuckSince p.attemptedAt (sampleTime 1 0) := by
    decide +kernel
  have htasks : Pass (TimedStep sampleEnv) (Attended sampleEnv (fun _ => False) (Charged sampleEnv))
      [1] taskFound taskTaken := .cons .refl (Or.inl ⟨_, _, htaken⟩) (.nil .refl)
  refine .mk .refl hattempts ?_ (by decide +kernel) hhandOff ?_ htasks (.single hcrashed.step) ?_
    .refl
  · rw [hpending]
    exact .nil .refl
  · rw [hstuck]
    exact fun n hn _ => hn
  · rw [hfailed]
    exact .nil .refl

/-- The round after it, which recovers the attempt. -/
theorem round_workerCrashed : Round sampleEnv (fun _ => False) workerCrashed noneStuck := by
  have hcharge : Reaches (TimedStep sampleEnv) workerCrashed chargeRecovered :=
    timed_reaches_after (by decide +kernel)
  have hsettle : TimedEvent sampleEnv (.advance 0 true "mock_1" (sampleTime 2 1)) chargeRecovered
      chargeSettled := timedEvent_after (by decide +kernel) (by decide +kernel)
  have hcaller : chargeRecovered.charges[0]? =
      some (.answered 1 (MockPaymentGateway.answer ⟨1, "key_1", "", true, "mock_1",
        MockPaymentGateway.outcomeResponse true⟩)) := by rfl
  have hhandOff : TimedEvent sampleEnv (.transact (.reconcile (sampleTime 2 2))) chargeSettled
      noneStuck := timedEvent_after (by decide +kernel) (by decide +kernel)
  have hpending : pendingIds workerCrashed.db (sampleTime 2 0) = [1] := by decide +kernel
  have hstuck : stuckIds chargeSettled.db (sampleTime 2 2) = [] := by decide +kernel
  have hfailed : failedIds noneStuck.db = [] := by decide +kernel
  have hattempts : ∀ p ∈ workerCrashed.db.attempts, StuckSince p.attemptedAt (sampleTime 2 0) := by
    decide +kernel
  have hnoTask : Pass (TimedStep sampleEnv)
      (Attended sampleEnv (fun _ => False) (Charged sampleEnv)) [] noneStuck noneStuck := .nil .refl
  refine .mk .refl hattempts ?_ (by decide +kernel) hhandOff ?_ hnoTask .refl ?_ .refl
  · rw [hpending]
    exact .cons .refl (Or.inl (.charged hcharge hcaller hsettle)) (.nil .refl)
  · rw [hstuck]
    exact fun n hn => absurd hn List.not_mem_nil
  · rw [hfailed]
    exact .nil .refl

/-- A round that finds nothing to do. -/
theorem round_noneStuck : Round sampleEnv (fun _ => False) noneStuck noneStuck := by
  have hattempts : ∀ p ∈ noneStuck.db.attempts, StuckSince p.attemptedAt (sampleTime 3 0) := by
    decide +kernel
  exact Round.idle hattempts (by decide +kernel) (by decide +kernel) (by decide +kernel)
    (by decide +kernel)

/-- The invoice whose task was lost is settled after the rounds. -/
theorem invoices_are_settled_taskLost : ∃ i ∈ noneStuck.db.invoices, i.id = 1 ∧
    (i.status = .paid ∨ (i.status = .overdue ∨ i.status = .canceled) ∧
      Closed noneStuck.db.books i.subscriptionId) := by
  obtain ⟨i, hi, hid⟩ : ∃ i ∈ taskLost.db.invoices, i.id = 1 := by decide +kernel
  rw [← hid]
  exact invoices_are_settled (timed_reaches_after (by decide +kernel))
    (.succ round_taskLost (.succ round_workerCrashed (.succ round_noneStuck
      (.succ round_noneStuck (.succ round_noneStuck (.succ round_noneStuck (.zero _))))))) hi id

end Chargeflow
