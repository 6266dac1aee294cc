import Chargeflow.System.Operations

/-!
# Provider successes

A success that is settled for an attempt is never lost: the attempt is SUCCESS, or it is flagged for
reconciliation, from then on.  The charge id that came with the success is kept as well, unless the
attempt was settled before without recording a charge id: then `settle` returns early and drops it.

A flag keeps further charges of the invoice away as long as the flagged attempt is PENDING or
SUCCESS, and whenever the invoice or the subscription is closed for good.  A flagged attempt that is
FAILED blocks nothing: `_prepare` looks for PENDING and SUCCESS attempts only.
-/

namespace Chargeflow

open Foundation PaymentService

variable {env : Env}

/-! ## The row of a settled success -/

/-- The charge id of a result is the recorded one, once it does not contradict it. -/
theorem PaymentAttempt.bound_chargeId_eq (env : Env) {p : PaymentAttempt}
    (response : List (String × Json)) {c : String} (hc : c ≠ "")
    (hconflict : conflictingCharge p (.str c) = false) :
    (p.bound env response (.str c)).providerChargeId = c := by
  simp only [conflictingCharge, Json.truthy, Json.isText, Bool.and_eq_false_iff,
    bne_eq_false_iff_eq, Bool.not_eq_false', beq_iff_eq, hc, or_false] at hconflict
  by_cases hempty : p.providerChargeId = ""
  · simp [PaymentAttempt.bound, bindsCharge, hempty, hc, Env.columnText]
  · rw [PaymentAttempt.bound_chargeId hempty]
    exact (hconflict.resolve_left hempty).symm

/-- A settled success leaves its attempt settled. -/
theorem Settlement.settled {b b' : Books} {p : PaymentAttempt} {i : Invoice} {s : Subscription}
    {response : List (String × Json)} {incoming : Json} {now : DateTime} (hp : p ∈ b.attempts)
    (h : Settlement env b p i s true response incoming now b') :
    ∃ p' ∈ b'.attempts, p'.id = p.id ∧ ¬ p'.Unsettled := by
  cases h with
  | ignored hdone => exact ⟨p, hp, rfl, hdone⟩
  | mismatched =>
    exact ⟨_, Table.mem_update_self hp rfl, rfl, fun h => Bool.noConfusion h.2⟩
  | collided => exact ⟨_, Table.mem_update_self hp rfl, rfl, fun h => Bool.noConfusion h.2⟩
  | repeated _ _ hfailure => cases hfailure
  | inapplicable => exact ⟨_, Table.mem_update_self hp rfl, rfl, fun h => Bool.noConfusion h.2⟩
  | applied => exact ⟨_, Table.mem_update_self hp rfl, rfl, fun h => h.1 rfl⟩
  | declined _ _ hfailure => cases hfailure
  | declinedClosed _ _ hfailure => cases hfailure

/-- A settled success leaves its charge id on record, unless it is dropped. -/
theorem Settlement.records {b b' : Books} {p : PaymentAttempt} {i : Invoice} {s : Subscription}
    {response : List (String × Json)} {c : String} {now : DateTime} (hp : p ∈ b.attempts)
    (hc : c ≠ "") (hkept : p.Unsettled ∨ p.providerChargeId ≠ "" ∨ p.Records c)
    (h : Settlement env b p i s true response (.str c) now b') :
    ∃ p' ∈ b'.attempts, p'.id = p.id ∧ p'.Records c := by
  cases h with
  | ignored hdone h =>
    refine ⟨p, hp, rfl, ?_⟩
    rcases hkept with hopen | hrecorded | hrecords
    · exact absurd hopen hdone
    · -- the recorded charge id is the one of the result
      have hconflict := h.resolve_left (by simp)
      have hbound := PaymentAttempt.bound_chargeId_eq env response hc hconflict
      rw [PaymentAttempt.bound_chargeId hrecorded] at hbound
      exact Or.inl hbound
    · exact hrecords
  | mismatched =>
    refine ⟨_, Table.mem_update_self hp rfl, rfl, Or.inr ?_⟩
    exact .field (List.mem_cons_of_mem _ (List.mem_cons_of_mem _ List.mem_cons_self)) .text
  | collided =>
    refine ⟨_, Table.mem_update_self hp rfl, rfl, Or.inr ?_⟩
    exact .field (List.mem_cons_of_mem _ List.mem_cons_self) .text
  | repeated _ _ hfailure => cases hfailure
  | inapplicable _ hconflict =>
    exact ⟨_, Table.mem_update_self hp rfl, rfl,
      Or.inl (PaymentAttempt.bound_chargeId_eq env response hc hconflict)⟩
  | applied _ hconflict =>
    exact ⟨_, Table.mem_update_self hp rfl, rfl,
      Or.inl (PaymentAttempt.bound_chargeId_eq env response hc hconflict)⟩
  | declined _ _ hfailure => cases hfailure
  | declinedClosed _ _ hfailure => cases hfailure

/-! ## Successes are kept -/

/-- Once a success has been settled for an attempt, the attempt is SUCCESS and its invoice PAID, or
the attempt is flagged, in every later database. -/
theorem success_kept {db db₁ db₂ : Db} (h : Reachable env db) {p : PaymentAttempt}
    (hp : p ∈ db.attempts) {c : String} {op : Operation} (hbrings : op.Brings db p true c)
    (hop : op.apply env db = .ok db₁) (hlater : Reaches (Step env) db₁ db₂) :
    ∃ q ∈ db₂.attempts, q.id = p.id ∧
      ((q.status = .success ∧ ∃ i ∈ db₂.invoices, i.id = q.invoiceId ∧ i.status = .paid) ∨
        q.needsReconciliation = true) := by
  have hsound : Sound db₂.books := Reaches.sound hlater (Reaches.sound (.single ⟨op, hop⟩) h.sound)
  obtain ⟨response, now, -, i, hi, s, hs, hpi, hsi, hsettlement⟩ := hbrings.settles hp hop
  obtain ⟨p₁, hp₁, hid₁, hsettled⟩ := hsettlement.settled hp
  obtain ⟨p₂, hp₂, hid₂, hlater₂⟩ := (Reaches.attempts hlater).kept p₁ hp₁
  refine ⟨p₂, hp₂, Eq.trans hid₂ hid₁, ?_⟩
  have hsettled₂ := hlater₂.not_unsettled hsettled
  by_cases hflag : p₂.needsReconciliation = true
  · exact Or.inr hflag
  · have hsuccess : p₂.status = .success := by
      by_contra hne
      exact hsettled₂ ⟨hne, by simpa using hflag⟩
    obtain ⟨i₂, hi₂, hid, -⟩ := hsound.linked.invoice p₂ hp₂
    exact Or.inl ⟨hsuccess, i₂, hi₂, hid,
      (hsound.coupled.paid i₂ hi₂).mpr ⟨p₂, hp₂, hid.symm, hsuccess⟩⟩

/-- The first subscription is canceled while its charge is under way. -/
def canceledRun : Db :=
  Db.empty.after sampleEnv (subscribed ++
    [.prepare 1 none true "key_1" (sampleTime 0 2), .cancel 1 .voluntary (sampleTime 0 3)])

/-- The success of the charge of a canceled subscription. -/
def lateSuccess : Operation := .settle 1 true [] "ch_1" (sampleTime 0 4)

/-- The late success of the canceled run is recorded or flagged. -/
theorem success_kept_canceledRun :
    ∃ q ∈ (canceledRun.after sampleEnv [lateSuccess]).attempts, q.id = 1 ∧
      ((q.status = .success ∧ ∃ i ∈ (canceledRun.after sampleEnv [lateSuccess]).invoices,
        i.id = q.invoiceId ∧ i.status = .paid) ∨ q.needsReconciliation = true) := by
  obtain ⟨p, hp, hid⟩ : ∃ p ∈ canceledRun.attempts, p.id = 1 := by decide
  have hbrings : lateSuccess.Brings canceledRun p true "ch_1" := by
    rw [lateSuccess, ← hid]
    exact .settle _ _
  rw [← hid]
  exact success_kept (reaches_after sampleEnv Db.empty _) hp hbrings
    (apply_eq_after lateSuccess (by decide)) .refl

/-! ## Charge ids are kept -/

/-- The charge id of a settled success is on record in every later database exactly when the attempt
was not settled yet, or had a charge id, or the id was on record already. -/
theorem charge_id_kept_iff {db db₁ : Db} {p : PaymentAttempt} (hp : p ∈ db.attempts) {c : String}
    (hc : c ≠ "") {op : Operation} (hbrings : op.Brings db p true c)
    (hop : op.apply env db = .ok db₁) :
    (∀ db₂, Reaches (Step env) db₁ db₂ → ∃ q ∈ db₂.attempts, q.id = p.id ∧ q.Records c) ↔
      (p.Unsettled ∨ p.providerChargeId ≠ "" ∨ p.Records c) := by
  obtain ⟨response, now, -, i, hi, s, hs, hpi, hsi, hsettlement⟩ := hbrings.settles hp hop
  have hincoming : incomingChargeId response c = .str c := by simp [incomingChargeId, hc]
  rw [hincoming] at hsettlement
  constructor
  · intro hkept
    by_contra hnot
    rw [not_or, not_or, not_not] at hnot
    obtain ⟨hdone, hempty, hmissing⟩ := hnot
    have hnoconflict : conflictingCharge p (.str c) = false := by
      simp [conflictingCharge, hempty]
    obtain ⟨q, hq, hqid, hrecords⟩ := hkept _ .refl
    -- an attempt that is settled, without a charge id, stays as it is
    have hsame : q ∈ db.attempts := by
      have hbooks : db₁.books = db.books := by
        generalize db₁.books = b' at hsettlement ⊢
        cases hsettlement with
        | ignored => rfl
        | mismatched _ hconflict => simp [hnoconflict] at hconflict
        | collided hopen => exact absurd hopen hdone
        | repeated hopen => exact absurd hopen hdone
        | inapplicable hopen => exact absurd hopen hdone
        | applied hopen => exact absurd hopen hdone
        | declined hopen => exact absurd hopen hdone
        | declinedClosed hopen => exact absurd hopen hdone
      have hattempts : db₁.attempts = db.attempts := congrArg Books.attempts hbooks
      rwa [← hattempts]
    obtain rfl := Table.eq_of_key_eq hsame hp hqid
    exact hmissing hrecords
  · intro hkept db₂ hlater
    obtain ⟨p₁, hp₁, hid₁, hsettled⟩ := hsettlement.settled hp
    obtain ⟨p₁', hp₁', hid₁', hrecords⟩ := hsettlement.records hp hc hkept
    obtain rfl := Table.eq_of_key_eq hp₁' hp₁ (hid₁'.trans hid₁.symm)
    obtain ⟨p₂, hp₂, hid₂, hlater₂⟩ := (Reaches.attempts hlater).kept p₁' hp₁
    exact ⟨p₂, hp₂, Eq.trans hid₂ hid₁, hlater₂.evidence hsettled c hrecords⟩

/-- The late success keeps its charge id in every later state. -/
theorem charge_id_kept_canceledRun :
    ∃ p ∈ canceledRun.attempts, p.Unsettled ∧
      ∀ db₂, Reaches (Step sampleEnv) (canceledRun.after sampleEnv [lateSuccess]) db₂ →
        ∃ q ∈ db₂.attempts, q.id = p.id ∧ q.Records "ch_1" := by
  obtain ⟨p, hp, hid, hstatus, hflag⟩ : ∃ p ∈ canceledRun.attempts, p.id = 1 ∧
      p.status ≠ .success ∧ p.needsReconciliation = false := by decide
  have hbrings : lateSuccess.Brings canceledRun p true "ch_1" := by
    rw [lateSuccess, ← hid]
    exact .settle _ _
  exact ⟨p, hp, ⟨hstatus, hflag⟩, (charge_id_kept_iff hp (by decide) hbrings
    (apply_eq_after lateSuccess (by decide))).mpr (Or.inl ⟨hstatus, hflag⟩)⟩

/-- Two subscriptions, a charge of the first, and the same charge id reported for the second: the
second attempt is flagged, and has no charge id. -/
def collidedRun : Db :=
  Db.empty.after sampleEnv (subscribed ++
    [.create 1 1 (sampleTime 0 2) (sampleTime 0 3),
      .prepare 1 none true "key_1" (sampleTime 0 4), .settle 1 true [] "ch_1" (sampleTime 0 5),
      .prepare 2 none true "key_2" (sampleTime 0 6), .settle 2 true [] "ch_1" (sampleTime 0 7)])

/-- A further success of the second attempt, with a charge id of its own. -/
def secondSuccess : Operation := .settle 2 true [] "ch_2" (sampleTime 0 8)

/-- The charge id of the further success is dropped. -/
theorem charge_id_lost :
    ¬ ∀ (env : Env) (db db₁ db₂ : Db) (p : PaymentAttempt) (c : String) (op : Operation),
      Reachable env db → p ∈ db.attempts → c ≠ "" → op.Brings db p true c →
      op.apply env db = .ok db₁ → Reaches (Step env) db₁ db₂ →
      ∃ q ∈ db₂.attempts, q.id = p.id ∧ q.Records c := by
  intro hclaim
  obtain ⟨p, hp, hpid⟩ : ∃ p ∈ collidedRun.attempts, p.id = 2 := by decide
  have hbrings : secondSuccess.Brings collidedRun p true "ch_2" := by
    rw [secondSuccess, ← hpid]
    exact .settle _ _
  obtain ⟨q, hq, hqid, hrecords⟩ := hclaim sampleEnv _ _ _ p "ch_2" secondSuccess
    (reaches_after sampleEnv Db.empty _) hp (by decide) hbrings
    (apply_eq_after secondSuccess (by decide)) .refl
  have hget : (collidedRun.after sampleEnv [secondSuccess]).attempts.get? 2 = some q :=
    Table.get?_eq_some_iff.mpr ⟨hq, hqid.trans hpid⟩
  have hrow : ((collidedRun.after sampleEnv [secondSuccess]).attempts.get? 2).map
      (fun q => (q.providerChargeId, q.providerResponse)) =
      some ("", collisionResponse [] (.str "ch_1")) := by rfl
  rw [hget] at hrow
  simp only [Option.map_some, Option.some.injEq, Prod.mk.injEq] at hrow
  rw [PaymentAttempt.Records, hrow.1, hrow.2] at hrecords
  rcases hrecords with hid | hoccurs
  · exact absurd hid (by decide)
  · cases hoccurs with
    | field hfield hinside =>
      simp only [List.mem_cons, Prod.mk.injEq, List.not_mem_nil, or_false] at hfield
      rcases hfield with ⟨-, rfl⟩ | ⟨-, rfl⟩
      · cases hinside with
        | field hfield => cases hfield
      · exact absurd (Json.occurs_str.mp hinside) (by decide)

/-! ## Flags and further charges -/

/-- What keeps a further attempt of an invoice away: a flagged attempt that is PENDING or SUCCESS,
an invoice that is closed, or a CANCELED subscription. -/
inductive Blocked (db : Db) (invoiceId : ℕ) : Prop
  | attempt {p : PaymentAttempt} (hp : p ∈ db.attempts) (hinvoice : p.invoiceId = invoiceId)
      (hflag : p.needsReconciliation = true) (hstatus : p.status ≠ .failed)
  | invoice {i : Invoice} (hi : i ∈ db.invoices) (hid : i.id = invoiceId)
      (hclosed : i.status = .paid ∨ i.status = .canceled)
  | subscription {i : Invoice} {s : Subscription} (hi : i ∈ db.invoices) (hid : i.id = invoiceId)
      (hs : s ∈ db.subscriptions) (hsi : s.id = i.subscriptionId) (hcanceled : s.status = .canceled)

/-- What keeps further attempts away stays. -/
theorem Blocked.later {db db' : Db} {invoiceId : ℕ} (h : Blocked db invoiceId)
    (hlater : Reaches (Step env) db db') : Blocked db' invoiceId := by
  cases h with
  | attempt hp hinvoice hflag hstatus =>
    obtain ⟨p', hp', -, hl⟩ := (Reaches.attempts hlater).kept _ hp
    obtain ⟨hflag', hstatus'⟩ := hl.flag hflag
    exact .attempt hp' (hl.snapshot.invoiceId.trans hinvoice) hflag' (hstatus' ▸ hstatus)
  | invoice hi hid hclosed =>
    obtain ⟨i', hi', -, hl⟩ := (Reaches.invoices hlater).kept _ hi
    have hsame : i' = _ := hclosed.elim hl.paid hl.canceled
    exact .invoice hi' (hsame ▸ hid) (hsame ▸ hclosed)
  | subscription hi hid hs hsi hcanceled =>
    obtain ⟨i', hi', -, hl⟩ := (Reaches.invoices hlater).kept _ hi
    obtain ⟨s', hs', -, hl'⟩ := (Reaches.subscriptions hlater).kept _ hs
    have hsame : s' = _ := hl'.canceled hcanceled
    exact .subscription hi' (hl.id.trans hid) hs' (by rw [hl'.id, hsi, hl.subscriptionId])
      (hsame ▸ hcanceled)

/-- An invoice that is blocked may not be charged. -/
theorem Blocked.not_chargeable {db : Db} {i : Invoice} (h : Blocked db i.id) (s : Subscription) :
    ¬ Chargeable db.books s i := by
  intro hc
  cases h with
  | attempt hp hinvoice _ hstatus => exact hstatus (hc.allFailed _ hp hinvoice)
  | invoice hi hid hclosed =>
    obtain rfl := Table.eq_of_key_eq hi hc.invoice hid
    rcases Invoice.payable_iff.mp hc.payable with h | h | h <;> simp [h] at hclosed
  | subscription hi hid hs hsi hcanceled =>
    obtain rfl := Table.eq_of_key_eq hi hc.invoice hid
    obtain rfl := Table.eq_of_key_eq hs hc.subscription (hsi.trans hc.subscriptionId.symm)
    exact hc.notCanceled hcanceled

/-- An invoice whose attempt is flagged gets no further attempt in a later state. -/
theorem Blocked.no_further_attempt {db db' : Db} {invoiceId : ℕ} (h : Blocked db invoiceId)
    (hlater : Reaches (Step env) db db') :
    ∀ q ∈ db'.attempts, q.invoiceId = invoiceId → ∃ p ∈ db.attempts, p.id = q.id := by
  induction hlater with
  | refl => exact fun q hq _ => ⟨q, hq, rfl⟩
  | tail hreach hstep ih =>
    intro q hq hinvoice
    obtain ⟨_, hbooks⟩ := hstep.books
    rcases hbooks.attempt_origin hq with ⟨p, hp, hid, hl⟩ | ⟨s, i, hc, _, _, _, _, rfl, -⟩
    · obtain ⟨p₀, hp₀, hid₀⟩ := ih p hp (hl.snapshot.invoiceId.symm.trans hinvoice)
      exact ⟨p₀, hp₀, hid₀.trans hid⟩
    · subst hinvoice
      exact absurd hc ((h.later hreach).not_chargeable s)

/-- While an attempt of an invoice is flagged, no further attempt of the invoice is created, if the
flagged attempt is PENDING or SUCCESS, or the invoice is not payable, or its subscription is
CANCELED. -/
theorem no_further_attempt_while_flagged {db db' : Db} (h : Reachable env db) {p : PaymentAttempt}
    {i : Invoice} {s : Subscription} (hp : p ∈ db.attempts) (hi : i ∈ db.invoices)
    (hs : s ∈ db.subscriptions) (hpi : p.invoiceId = i.id) (hsi : s.id = i.subscriptionId)
    (hflag : p.needsReconciliation = true)
    (hwhen : p.status ≠ .failed ∨ ¬ i.Payable ∨ s.status = .canceled)
    (hlater : Reaches (Step env) db db') :
    ∀ q ∈ db'.attempts, q.invoiceId = i.id → ∃ p ∈ db.attempts, p.id = q.id := by
  have hblocked : Blocked db i.id := by
    rcases hwhen with hstatus | hunpayable | hcanceled
    · exact .attempt hp hpi hflag hstatus
    · have hissued := (h.sound.inStanding.agrees s hs i hi hsi.symm).issued
      rw [Invoice.payable_iff] at hunpayable
      refine .invoice hi rfl ?_
      cases hstatus : i.status <;> simp_all
    · exact .subscription hi rfl hs hsi hcanceled
  exact hblocked.no_further_attempt hlater

/-- The invoice of the canceled run gets no further attempt. -/
theorem no_further_attempt_canceledRun :
    ∃ i ∈ (canceledRun.after sampleEnv [lateSuccess]).invoices,
      ∀ db', Reaches (Step sampleEnv) (canceledRun.after sampleEnv [lateSuccess]) db' →
        ∀ q ∈ db'.attempts, q.invoiceId = i.id →
          ∃ p ∈ (canceledRun.after sampleEnv [lateSuccess]).attempts, p.id = q.id := by
  obtain ⟨p, hp, hinvoice, hflag, hopen⟩ :
      ∃ p ∈ (canceledRun.after sampleEnv [lateSuccess]).attempts,
        p.invoiceId = 1 ∧ p.needsReconciliation = true ∧ p.status ≠ .failed := by decide
  obtain ⟨i, hi, hid, hsubscription⟩ :
      ∃ i ∈ (canceledRun.after sampleEnv [lateSuccess]).invoices,
        i.id = 1 ∧ i.subscriptionId = 1 := by decide
  obtain ⟨s, hs, hsid⟩ :
      ∃ s ∈ (canceledRun.after sampleEnv [lateSuccess]).subscriptions, s.id = 1 := by decide
  have hreach : Reachable sampleEnv (canceledRun.after sampleEnv [lateSuccess]) :=
    (reaches_after sampleEnv Db.empty _).trans (reaches_after sampleEnv canceledRun _)
  refine ⟨i, hi, ?_⟩
  intro db' hlater
  exact no_further_attempt_while_flagged hreach hp hi hs (hinvoice.trans hid.symm)
    (hsid.trans hsubscription.symm) hflag (Or.inl hopen) hlater

/-- A charge fails, and then a success with another charge id is reported for it: the attempt is
flagged, and stays FAILED. -/
def contradictedRun : Db :=
  Db.empty.after sampleEnv (subscribed ++
    [.prepare 1 none true "key_1" (sampleTime 0 2), .settle 1 false [] "ch_1" (sampleTime 0 3),
      .settle 1 true [] "ch_2" (sampleTime 0 4)])

/-- Dunning reissues the invoice, and the charge worker prepares a further attempt. -/
theorem further_attempt_while_flagged :
    ¬ ∀ (env : Env) (db db' : Db) (p : PaymentAttempt) (i : Invoice), Reachable env db →
      p ∈ db.attempts → i ∈ db.invoices → p.invoiceId = i.id → p.needsReconciliation = true →
      Reaches (Step env) db db' → ∀ q ∈ db'.attempts, q.invoiceId = i.id →
        ∃ p ∈ db.attempts, p.id = q.id := by
  intro hclaim
  let charged := contradictedRun.after sampleEnv
    [.dun 1 (sampleTime 0 5), .prepare 1 none true "key_2" (sampleTime 0 6)]
  obtain ⟨p, hp, hinvoice, hflag⟩ : ∃ p ∈ contradictedRun.attempts,
      p.invoiceId = 1 ∧ p.needsReconciliation = true := by decide
  obtain ⟨i, hi, hid⟩ : ∃ i ∈ contradictedRun.invoices, i.id = 1 := by decide
  obtain ⟨q, hq, hfurther, hqid⟩ : ∃ q ∈ charged.attempts, q.invoiceId = 1 ∧ q.id = 2 := by decide
  obtain ⟨p₀, hp₀, hid₀⟩ := hclaim sampleEnv contradictedRun charged p i (reaches_after _ _ _) hp
    hi (hinvoice.trans hid.symm) hflag (reaches_after _ _ _) q hq (hfurther.trans hid.symm)
  have hmissing : ∀ p ∈ contradictedRun.attempts, p.id ≠ 2 := by decide
  exact hmissing p₀ hp₀ (hid₀.trans hqid)

end Chargeflow
