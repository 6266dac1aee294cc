import Chargeflow.System.Provider

/-!
# Client keys

A client key is bound to the attempt of a call when the attempt carries it: later calls with the key
return the attempt, and calls for another invoice of the organization are refused.  Of the ways in
which `_prepare` ends only the replay and the creation leave such an attempt.  A PENDING attempt of
a closed invoice, and the PENDING or SUCCESS attempt of a payable one, are handed out without
recording the key, so that the key stays free for another invoice.
-/

namespace Chargeflow

open Foundation PaymentService

variable {env : Env}

/-- The key `k` is bound to the attempt `p` of the invoice `i`. -/
structure KeyBinds (env : Env) (db : Db) (i : Invoice) (k : String) (p : PaymentAttempt) :
    Prop where
  /-- A call for the invoice finds the attempt, and changes nothing. -/
  replays : ∀ providerKey now, ∃ q ∈ db.attempts, q.id = p.id ∧
    prepare db i.id (some k) false providerKey now = .ok (db, some q, chargeable q)
  /-- A call for the invoice that runs to its end returns the attempt, and creates none. -/
  returns : ∀ {inAtomicBlock providerKey preparedAt success chargeId settledAt db' result},
    attempt env db i.id (some k) inAtomicBlock providerKey preparedAt success chargeId settledAt =
      .ok (db', result) →
    (∃ q, result = some q ∧ q.id = p.id) ∧ ∀ q ∈ db'.attempts, ∃ q₀ ∈ db.attempts, q₀.id = q.id
  /-- A call for another invoice of the organization is refused. -/
  conflicts : ∀ j ∈ db.invoices, j.organizationId = i.organizationId → j.id ≠ i.id →
    ∀ providerKey preparedAt success chargeId settledAt, ∃ message,
      attempt env db j.id (some k) false providerKey preparedAt success chargeId settledAt =
        .error (.idempotencyConflict message)

/-- A key is bound to a row of the attempt table, whatever is known of its columns. -/
theorem KeyBinds.of_id {db : Db} {i : Invoice} {k : String} {p p' : PaymentAttempt}
    (h : KeyBinds env db i k p) (hid : p.id = p'.id) : KeyBinds env db i k p' where
  replays := by
    rw [← hid]
    exact h.replays
  returns hattempt := by
    rw [← hid]
    exact h.returns hattempt
  conflicts := h.conflicts

/-! ## Replays -/

/-- A key that is not empty is normalized to itself. -/
theorem normalizeKey_some {k : String} (hk : k ≠ "") : normalizeKey (some k) = some k := by
  simp [normalizeKey, hk]

/-- The attempt that carries a key is the one the replay finds. -/
theorem findReplay_eq {db : Db} (hkeys : KeysUnique db.attempts) {p : PaymentAttempt}
    (hp : p ∈ db.attempts) {k : String} (hk : p.idempotencyKey = some k) :
    findReplay db p.organizationId k = some p := by
  cases hfind : findReplay db p.organizationId k with
  | none =>
    have := Table.head?_filter_eq_none.mp hfind p hp
    simp [hk] at this
  | some q =>
    obtain ⟨hq, htest⟩ := Table.head?_filter_eq_some hfind
    simp only [Bool.and_eq_true, beq_iff_eq] at htest
    rw [hkeys.client q hq p hp htest.1 k htest.2 hk]

/-- A call with a key that an attempt carries. -/
theorem prepare_replay {db : Db} (hlinked : Linked db.books) {i : Invoice} (hi : i ∈ db.invoices)
    {k : String} (hk : k ≠ "") {q : PaymentAttempt}
    (hreplay : findReplay db i.organizationId k = some q) (providerKey : String)
    (now : DateTime) :
    prepare db i.id (some k) false providerKey now =
      if q.invoiceId = i.id then .ok (db, some q, chargeable q)
      else .error (.idempotencyConflict
        "Idempotency key is already bound to a different invoice.") := by
  obtain ⟨s, hs, hsi, -⟩ := hlinked.subscription i hi
  have hinvoice : fetch db.invoices "Invoice" i.id = .ok i := fetch_key hi
  have hsubscription : fetch db.subscriptions "Subscription" i.subscriptionId = .ok s :=
    fetch_eq_ok_iff.mpr ⟨hs, hsi⟩
  unfold prepare
  simp only [hinvoice, hsubscription, normalizeKey_some hk, Option.bind_some, hreplay, bind,
    Except.bind, Bool.false_and, Bool.false_eq_true, if_false]
  by_cases hown : q.invoiceId = i.id
  · simp [hown, ensure, pure, Except.pure]
  · simp [hown, ensure]

/-! ## Charges -/

/-- A charge that runs to its end returns the attempt it was called for, and creates none. -/
theorem charge_eq_ok {db db' : Db} {paymentId : ℕ} {success : Bool} {chargeId : String}
    {now : DateTime} {p : PaymentAttempt}
    (h : charge env db paymentId success chargeId now = .ok (db', p)) :
    p.id = paymentId ∧ ∀ q ∈ db'.attempts, ∃ q₀ ∈ db.attempts, q₀.id = q.id := by
  simp only [charge, bind_eq_ok_iff, fetch_eq_ok_iff] at h
  obtain ⟨payment, ⟨hpayment, hid⟩, h⟩ := h
  split_ifs at h
  · simp only [pure_eq_ok_iff, Prod.mk.injEq] at h
    obtain ⟨rfl, rfl⟩ := h
    exact ⟨hid, fun q hq => ⟨q, hq, rfl⟩⟩
  · simp only [bind_eq_ok_iff, fetch_eq_ok_iff, pure_eq_ok_iff, Prod.exists, Prod.mk.injEq] at h
    obtain ⟨-, -, db₁, result, hgateway, db₂, hsettle, p', ⟨-, hpid⟩, rfl, rfl⟩ := h
    refine ⟨hpid, ?_⟩
    intro q hq
    obtain ⟨_, r, -, hanswered, -⟩ := MockPaymentGateway.finishCharge_eq_ok hgateway
    have hsame : db₁.attempts = db.attempts := by cases hanswered <;> rfl
    obtain ⟨p₀, b', -, hsettles, rfl⟩ := settle_eq_ok hsettle
    obtain ⟨q₀, hq₀, hqid, -⟩ := hsettles.attempt_origin hq
    exact ⟨q₀, hsame ▸ hq₀, hqid⟩

/-! ## Keys that bind -/

/-- A key that an attempt of the invoice carries is bound to it. -/
theorem keyBinds_of_carried {db : Db} (hsound : Sound db.books) {i : Invoice} (hi : i ∈ db.invoices)
    {p : PaymentAttempt} (hp : p ∈ db.attempts) (hinvoice : p.invoiceId = i.id)
    (horg : p.organizationId = i.organizationId) {k : String} (hk : k ≠ "")
    (hcarried : p.idempotencyKey = some k) : KeyBinds env db i k p := by
  have hreplay : ∀ {j : Invoice}, j.organizationId = i.organizationId →
      findReplay db j.organizationId k = some p := by
    intro j hj
    rw [hj, ← horg]
    exact findReplay_eq hsound.keysUnique hp hcarried
  have hprepare : ∀ providerKey now,
      prepare db i.id (some k) false providerKey now = .ok (db, some p, chargeable p) := by
    intro providerKey now
    rw [prepare_replay hsound.linked hi hk (hreplay rfl), if_pos hinvoice]
  refine ⟨fun providerKey now => ⟨p, hp, rfl, hprepare providerKey now⟩, ?_, ?_⟩
  · intro inAtomicBlock providerKey preparedAt success chargeId settledAt db' result hattempt
    simp only [attempt, hprepare, bind_eq_ok_iff, Except.ok.injEq, Prod.exists, Prod.mk.injEq]
      at hattempt
    obtain ⟨-, -, db₁, payment, shouldCharge, ⟨rfl, rfl, hcharge⟩, h⟩ := hattempt
    cases shouldCharge with
    | false =>
      simp only [pure_eq_ok_iff, Prod.mk.injEq] at h
      obtain ⟨rfl, rfl⟩ := h
      exact ⟨⟨p, rfl, rfl⟩, fun q hq => ⟨q, hq, rfl⟩⟩
    | true =>
      simp only [bind_eq_ok_iff, pure_eq_ok_iff, Prod.exists, Prod.mk.injEq] at h
      obtain ⟨db₂, q, hq, rfl, rfl⟩ := h
      obtain ⟨hqid, hnone⟩ := charge_eq_ok hq
      exact ⟨⟨q, rfl, hqid⟩, hnone⟩
  · intro j hj hjorg hji providerKey preparedAt success chargeId settledAt
    have hother : p.invoiceId ≠ j.id := fun h => hji (h.symm.trans hinvoice)
    refine ⟨"Idempotency key is already bound to a different invoice.", ?_⟩
    rw [attempt, prepare_replay hsound.linked hj hk (hreplay hjorg), if_neg hother]
    rfl

/-- A call that is handed the attempt `p` binds its key in every later database, if at the time of
the call an attempt of the organization carried the key, or all attempts of the invoice had
failed. -/
theorem keyBinds_of_prepare {db db₁ db₂ : Db} (h : Reachable env db) {i : Invoice}
    (hi : i ∈ db.invoices) {k : String} (hk : k ≠ "") {providerKey : String} {now : DateTime}
    {p : PaymentAttempt} {shouldCharge : Bool}
    (hprepare : prepare db i.id (some k) false providerKey now = .ok (db₁, some p, shouldCharge))
    (hwhen : (∃ q ∈ db.attempts, q.organizationId = i.organizationId ∧
        q.idempotencyKey = some k) ∨
      ∀ q ∈ db.attempts, q.invoiceId = i.id → q.status = .failed)
    (hlater : Reaches (Step env) db₁ db₂) :
    ∃ i₂ ∈ db₂.invoices, i₂.id = i.id ∧ KeyBinds env db₂ i₂ k p := by
  have hstep : Step env db db₁ :=
    ⟨.prepare i.id (some k) false providerKey now, map_eq_ok_iff.mpr ⟨_, hprepare, rfl⟩⟩
  have hsound₂ : Sound db₂.books := Reaches.sound hlater (Reaches.sound (.single hstep) h.sound)
  have hnormal := normalizeKey_some hk
  -- the attempt handed out carries the key
  have hcarried : p ∈ db₁.attempts ∧ p.invoiceId = i.id ∧ p.organizationId = i.organizationId ∧
      p.idempotencyKey = some k := by
    obtain ⟨i', hi', s, hs, hid, hsi, hprepared, -⟩ := prepare_eq_ok hprepare
    obtain rfl := Table.eq_of_key_eq hi' hi hid
    have hfree : Unbound db.attempts i' (some k) →
        ∀ q ∈ db.attempts, q.invoiceId = i'.id → q.status = .failed := by
      intro hunbound
      refine hwhen.resolve_left ?_
      rintro ⟨q, hq, horg, hqk⟩
      exact hunbound k hnormal q hq horg hqk
    cases hprepared with
    | replayed hq hkey horg hbound hinvoice =>
      rw [hnormal] at hkey
      obtain rfl := Option.some.inj hkey
      exact ⟨hq, hinvoice, horg, hbound⟩
    | recovered hunbound _ hq hinvoice hstatus =>
      simp [hfree hunbound _ hq hinvoice] at hstatus
    | thisIssue hunbound _ hq hinvoice _ hkey =>
      rw [hnormal] at hkey
      obtain ⟨j, hj, hjid, hjorg⟩ := h.sound.linked.invoice _ hq
      obtain rfl := Table.eq_of_key_eq hj hi (hjid.trans hinvoice)
      exact ⟨hq, hinvoice, hjorg.symm, hkey.resolve_left (by simp)⟩
    | existing hunbound _ hq hinvoice hstatus => exact absurd (hfree hunbound _ hq hinvoice) hstatus
    | created => exact ⟨Table.mem_insert_self, rfl, rfl, hnormal⟩
  obtain ⟨hp, hinvoice, horg, hkey⟩ := hcarried
  obtain ⟨p₂, hp₂, hpid, hlp⟩ := (Reaches.attempts hlater).kept p hp
  obtain ⟨i₂, hi₂, hiid, hli⟩ := (Reaches.invoices (.head hstep hlater)).kept i hi
  refine ⟨i₂, hi₂, hiid, ?_⟩
  have hbinds : KeyBinds env db₂ i₂ k p₂ := by
    refine keyBinds_of_carried hsound₂ hi₂ hp₂ ?_ ?_ hk (hlp.snapshot.idempotencyKey.trans hkey)
    · rw [hlp.snapshot.invoiceId, hinvoice, hli.id]
    · rw [hlp.snapshot.organizationId, horg, hli.organizationId]
  exact hbinds.of_id hpid

/-- A call that returns an attempt does so. -/
theorem exists_of_isSome {call : Except Err (Db × Option PaymentAttempt)}
    (h : (call.toOption.bind Prod.snd).isSome = true) : ∃ db p, call = .ok (db, some p) := by
  cases call with
  | error e => simp [Except.toOption] at h
  | ok r =>
    obtain ⟨p, hp⟩ := Option.isSome_iff_exists.mp h
    exact ⟨r.1, p, congrArg Except.ok (Prod.ext rfl hp)⟩

/-- A call of `attempt` that returns without being disturbed has prepared a charge of the attempt it
returns. -/
theorem attempt_eq_ok {db db₁ : Db} {invoiceId : ℕ} {key : Option String}
    {inAtomicBlock success : Bool} {providerKey chargeId : String} {preparedAt settledAt : DateTime}
    {p : PaymentAttempt}
    (h : attempt env db invoiceId key inAtomicBlock providerKey preparedAt success chargeId
      settledAt = .ok (db₁, some p)) :
    ∃ db' q shouldCharge,
      prepare db invoiceId key false providerKey preparedAt = .ok (db', some q, shouldCharge) ∧
      q.id = p.id ∧ Reaches (Step env) db' db₁ := by
  obtain ⟨_, -, h⟩ := bind_eq_ok_iff.mp h
  obtain ⟨⟨db', payment, shouldCharge⟩, hprepare, h⟩ := bind_eq_ok_iff.mp h
  dsimp only at h
  split at h
  · rename_i q
    obtain ⟨⟨db₂, p₂⟩, hcharge, h⟩ := bind_eq_ok_iff.mp h
    obtain ⟨rfl, hp⟩ := Prod.mk.inj (pure_eq_ok_iff.mp h)
    obtain rfl := Option.some.inj hp
    have hreach : Reaches (Step env) db' db₂ :=
      (charge_reaches hcharge []).simulation (f := Sys.db) fun _ _ => SysStep.db
    exact ⟨db', q, true, hprepare, (charge_eq_ok hcharge).1.symm, hreach⟩
  · obtain ⟨rfl, rfl⟩ := Prod.mk.inj (pure_eq_ok_iff.mp h)
    exact ⟨db', p, shouldCharge, hprepare, rfl, .refl⟩

/-- A call of `attempt` with a key binds the key to the attempt it returns in every later database,
if at the time of the call an attempt of the organization carried the key, or all attempts of the
invoice had failed.  It does so as soon as the charge is prepared, whatever runs between its phases
and whether it comes to its end. -/
theorem idempotency_key_binds {db : Db} (h : Reachable env db) {i : Invoice}
    (hi : i ∈ db.invoices) {k : String} (hk : k ≠ "")
    (hwhen : (∃ q ∈ db.attempts, q.organizationId = i.organizationId ∧
        q.idempotencyKey = some k) ∨
      ∀ q ∈ db.attempts, q.invoiceId = i.id → q.status = .failed) :
    (∀ inAtomicBlock providerKey preparedAt success chargeId settledAt db₁ p,
      attempt env db i.id (some k) inAtomicBlock providerKey preparedAt success chargeId
        settledAt = .ok (db₁, some p) →
      ∀ db₂, Reaches (Step env) db₁ db₂ → ∃ i₂ ∈ db₂.invoices, i₂.id = i.id ∧
        KeyBinds env db₂ i₂ k p) ∧
    ∀ providerKey now db₁ p shouldCharge,
      prepare db i.id (some k) false providerKey now = .ok (db₁, some p, shouldCharge) →
      ∀ db₂, Reaches (Step env) db₁ db₂ → ∃ i₂ ∈ db₂.invoices, i₂.id = i.id ∧
        KeyBinds env db₂ i₂ k p := by
  refine ⟨?_, ?_⟩
  · intro inAtomicBlock providerKey preparedAt success chargeId settledAt db₁ p hattempt db₂ hlater
    obtain ⟨db', q, shouldCharge, hprepare, hid, hreach⟩ := attempt_eq_ok hattempt
    obtain ⟨i₂, hi₂, hid₂, hbinds⟩ :=
      keyBinds_of_prepare h hi hk hprepare hwhen (hreach.trans hlater)
    exact ⟨i₂, hi₂, hid₂, hbinds.of_id hid⟩
  · intro providerKey now db₁ p shouldCharge hprepare db₂ hlater
    exact keyBinds_of_prepare h hi hk hprepare hwhen hlater

/-- The first charge of a new subscription, made by hand under a key. -/
def boundCall : Except Err (Db × Option PaymentAttempt) :=
  attempt sampleEnv (Db.empty.after sampleEnv subscribed) 1 (some "K") false "key_1"
    (sampleTime 0 2) true "ch_1" (sampleTime 0 3)

/-- A call with the key K binds it to the first invoice in every later state. -/
theorem idempotency_key_binds_subscribed :
    ∃ db₁ p, boundCall = .ok (db₁, some p) ∧
      ∀ db₂, Reaches (Step sampleEnv) db₁ db₂ → ∃ i ∈ db₂.invoices, i.id = 1 ∧
        KeyBinds sampleEnv db₂ i "K" p := by
  obtain ⟨i, hi, hid⟩ : ∃ i ∈ (Db.empty.after sampleEnv subscribed).invoices, i.id = 1 := by decide
  have hnone : ∀ q ∈ (Db.empty.after sampleEnv subscribed).attempts, q.status = .failed := by
    decide
  obtain ⟨db₁, p, hcall⟩ := exists_of_isSome (by decide : (boundCall.toOption.bind Prod.snd).isSome)
  refine ⟨db₁, p, hcall, ?_⟩
  rw [boundCall, ← hid] at hcall
  rw [← hid]
  exact (idempotency_key_binds (reaches_after sampleEnv Db.empty _) hi (by decide)
    (Or.inr fun q hq _ => hnone q hq)).1 _ _ _ _ _ _ db₁ p hcall

/-- The first charge is prepared by the worker, and then the subscription is canceled. -/
def unboundRun : Db :=
  Db.empty.after sampleEnv (subscribed ++
    [.prepare 1 none true "key_1" (sampleTime 0 2), .cancel 1 .voluntary (sampleTime 0 3)])

/-- The call for the canceled invoice, which the prepared charge is made by. -/
def unboundCall : Except Err (Db × Option PaymentAttempt) :=
  attempt sampleEnv unboundRun 1 (some "K") false "key_2" (sampleTime 0 4) true "ch_1"
    (sampleTime 0 5)

/-- After the call the customer subscribes again. -/
def resubscribedRun : Db :=
  ((unboundCall.map Prod.fst).toOption.getD unboundRun).after sampleEnv
    [.create 1 1 (sampleTime 0 6) (sampleTime 0 7)]

/-- A call for the canceled invoice returns the PENDING attempt without recording the key, and a
later call with the key charges another invoice. -/
theorem idempotency_key_unbound :
    ¬ ∀ (env : Env) (db db₁ db₂ : Db) (i : Invoice) (k : String) (inAtomicBlock : Bool)
      (providerKey : String) (preparedAt : DateTime) (success : Bool) (chargeId : String)
      (settledAt : DateTime) (p : PaymentAttempt),
      Reachable env db → i ∈ db.invoices → k ≠ "" →
      attempt env db i.id (some k) inAtomicBlock providerKey preparedAt success chargeId
        settledAt = .ok (db₁, some p) →
      Reaches (Step env) db₁ db₂ → ∃ i₂ ∈ db₂.invoices, i₂.id = i.id ∧ KeyBinds env db₂ i₂ k p := by
  intro hclaim
  obtain ⟨i, hi, hid⟩ : ∃ i ∈ unboundRun.invoices, i.id = 1 := by decide
  obtain ⟨db₁, p, hcall⟩ :=
    exists_of_isSome (by decide : (unboundCall.toOption.bind Prod.snd).isSome)
  have hlater : Reaches (Step sampleEnv) db₁ resubscribedRun := by
    unfold resubscribedRun
    rw [hcall]
    exact reaches_after _ _ _
  rw [unboundCall, ← hid] at hcall
  obtain ⟨i₂, hi₂, hid₂, hbinds⟩ := hclaim sampleEnv unboundRun db₁ resubscribedRun i "K" false
    "key_2" (sampleTime 0 4) true "ch_1" (sampleTime 0 5) p (reaches_after _ _ _) hi (by decide)
    hcall hlater
  -- the second invoice is charged under the key
  obtain ⟨j, hj, hjid⟩ : ∃ j ∈ resubscribedRun.invoices, j.id = 2 := by decide
  have horg : ∀ j ∈ resubscribedRun.invoices, j.organizationId = 1 := by decide
  obtain ⟨message, hrefused⟩ := hbinds.conflicts j hj ((horg j hj).trans (horg i₂ hi₂).symm)
    (by omega) "key_3" (sampleTime 0 8) true "ch_2" (sampleTime 0 9)
  rw [hjid] at hrefused
  have hcharged : (attempt sampleEnv resubscribedRun 2 (some "K") false "key_3" (sampleTime 0 8)
      true "ch_2" (sampleTime 0 9)).toOption.isSome = true := by decide
  rw [hrefused] at hcharged
  exact Bool.noConfusion hcharged

end Chargeflow
