import Chargeflow.System.Deliveries
import Chargeflow.System.Dunning
import Chargeflow.System.Prices

/-!
# Settlement and dunning commit

An exception in `settle` would roll back a charge that the provider has taken, and every retry would
meet it again.  In a reachable state there is none, as long as the response can be stored and the
charge id that is to be recorded fits its column; a result may carry that id itself, or inside the
response of the provider.  The outcome is given in full, so the transition that `reactivate`
attempts and whose refusal it would swallow is legal as well.
-/

namespace Chargeflow

open Foundation PaymentService

variable {env : Env}

/-! ## What is written can be stored -/

/-- A status transition, and the rest of what dunning writes, has no texts of its own. -/
theorem StatusWrite.storable {db db' : Db} (h : StatusWrite db db') (hdb : db.Storable) :
    db'.Storable := by
  have hkept := h.pricesKept.1
  have hinvoices : ∀ i ∈ db'.invoices, StorableText i.currency := by
    intro i hi
    obtain ⟨i₀, hi₀, -, -, hcurrency⟩ := hkept.origin i hi
    exact hcurrency ▸ hdb.invoices i₀ hi₀
  cases h with
  | subscriptionFields h =>
    obtain ⟨stored, -, -, rfl⟩ := Subscription.save_eq_ok h
    exact { hdb with invoices := hinvoices }
  | subscriptionStatus h =>
    obtain ⟨row, -, -, -, -, rfl⟩ := Subscription.transitionTo_writes h
    exact { hdb with invoices := hinvoices }
  | invoiceStatus h =>
    obtain ⟨row, -, -, -, -, rfl⟩ := Invoice.transitionTo_writes h
    exact { hdb with invoices := hinvoices }
  | handOff tasks => exact { hdb with invoices := hinvoices }

section

variable {b : Books} {p : PaymentAttempt} {i : Invoice} {s : Subscription}
  {response : List (String × Json)} {incoming : Json}

/-- The charge id of a result can be stored if the response and the text of its own can. -/
theorem storable_incomingChargeId {chargeId : String} (hresponse : (Json.obj response).Storable)
    (htext : StorableText (env.columnText (incomingChargeId response chargeId))) :
    (incomingChargeId response chargeId).Storable := by
  unfold incomingChargeId at htext ⊢
  split_ifs at htext ⊢
  · exact .str htext
  · exact hresponse.get (.str (by decide)) _

/-- A settlement stores the response, and the charge id, in the row of its attempt. -/
theorem settledBooks_storable (hb : ∀ q ∈ b.attempts, q.Storable) (hp : p ∈ b.attempts)
    (hresponse : (Json.obj response).Storable) (hincoming : incoming.Storable)
    (htext : StorableText (env.columnText incoming)) (success : Bool) (now : DateTime) :
    ∀ q ∈ (settledBooks env b p i s success response incoming now).attempts, q.Storable := by
  have hrow := hb p hp
  have hupdated : ∀ row : PaymentAttempt, row.id = p.id → row.Storable →
      ∀ q ∈ b.attempts.update row, q.Storable := by
    intro row hid hstorable q hq
    rcases (Table.mem_update_of_mem hp hid).mp hq with rfl | ⟨hq, -⟩
    · exact hstorable
    · exact hb q hq
  have hmismatched : (p.mismatched response incoming).Storable :=
    { hrow with
      providerResponse := .obj (by simp only [List.forall_mem_cons]; decide)
        (by simp [hrow.providerResponse, hresponse, hincoming]) }
  have hcollided : (p.collided response incoming).Storable :=
    { hrow with
      providerResponse := .obj (by simp only [List.forall_mem_cons]; decide)
        (by simp [hresponse, hincoming]) }
  have hbound : (p.bound env response incoming).Storable :=
    { hrow with
      providerResponse := hresponse
      providerChargeId := by
        unfold PaymentAttempt.bound
        dsimp only
        split_ifs
        · exact htext
        · exact hrow.providerChargeId }
  unfold settledBooks
  split_ifs
  · exact hb
  · exact hupdated _ rfl hmismatched
  · exact hupdated _ rfl hcollided
  · exact hupdated _ rfl { hbound with }
  · exact hupdated _ rfl { hbound with }
  · exact hupdated _ rfl hbound
  · exact hupdated _ rfl hrow
  · unfold declinedBooks
    split_ifs <;> exact hupdated _ rfl { hbound with }
  · exact hb

end

section

variable {db db' : Db} {now : DateTime}

/-- What a settlement writes can be stored if the response and the charge id can. -/
theorem settle_storable (hdb : db.Consistent) (hstored : db.Storable) {p : PaymentAttempt}
    (hp : p ∈ db.attempts) {success : Bool} {response : List (String × Json)} {chargeId : String}
    (hresponse : (Json.obj response).Storable)
    (hcharge : StorableText (env.columnText (incomingChargeId response chargeId)))
    (h : settle env db p.id success response chargeId now = .ok db') : db'.Storable := by
  obtain ⟨i, hi, s, hs, hpi, hsi⟩ := hdb.rows hp
  have hkept := Reaches.pricesKept (settle_writes h)
  rw [hdb.settle_eq hp hi hpi hs hsi] at h
  split_ifs at h
  obtain rfl := Except.ok.inj h
  have hattempts := settledBooks_storable (b := db.books) (i := i) (s := s) hstored.attempts hp
    hresponse (storable_incomingChargeId hresponse hcharge) hcharge success now
  refine { hstored with attempts := hattempts, invoices := ?_ }
  intro i' hi'
  obtain ⟨i₀, hi₀, -, -, hcurrency⟩ := hkept.origin i' hi'
  exact hcurrency ▸ hstored.invoices i₀ hi₀

/-- The texts and the payload of a webhook can be stored. -/
structure StorableWebhook (event : ValidWebhook) : Prop where
  eventType : StorableText event.eventType
  providerEventId : StorableText event.providerEventId
  payload : (Json.obj event.payload).Storable

end

/-- Every attempt of a reachable database can be settled, and every invoice dunned: the transaction
commits, and what it writes can be stored. -/
theorem settle_and_dun_commit {db : Db} (h : Reachable env db) (hstored : db.Storable) :
    (∀ p ∈ db.attempts, ∀ (success : Bool) (response : List (String × Json)) (chargeId : String)
        (now : DateTime), (Json.obj response).Storable →
        FitsColumn (env.columnText (incomingChargeId response chargeId)) 255 →
      ∃ i ∈ db.invoices, ∃ s ∈ db.subscriptions, i.id = p.invoiceId ∧ s.id = i.subscriptionId ∧
        ∃ db', settle env db p.id success response chargeId now = .ok db' ∧ db'.Storable ∧
          db' = db.withBooks (settledBooks env db.books p i s success response
            (incomingChargeId response chargeId) now)) ∧
    ∀ i ∈ db.invoices, ∀ now : DateTime, ∃ db', dunInvoice db i.id now = .ok db' ∧ db'.Storable := by
  have hdb := h.consistent
  refine ⟨?_, ?_⟩
  · intro p hp success response chargeId now hresponse hcharge
    obtain ⟨i, hi, s, hs, hpi, hsi⟩ := hdb.rows hp
    have hfits : ¬ tooLong env p (incomingChargeId response chargeId) :=
      fun hlong => absurd hlong.2.2 (not_lt.mpr hcharge.1)
    have hrun : settle env db p.id success response chargeId now = _ :=
      hdb.settle_eq hp hi hpi hs hsi success response chargeId now
    rw [if_neg hfits] at hrun
    exact ⟨i, hi, s, hs, hpi, hsi, _, hrun,
      settle_storable hdb hstored hp hresponse hcharge.2 hrun, rfl⟩
  · intro i hi now
    obtain ⟨db', hrun⟩ := dunInvoice_commits hdb.tenancy hi now
    exact ⟨db', hrun, (dunInvoice_writes hrun).invariant hstored fun _ _ _ ha hstep =>
      hstep.storable ha⟩

/-- The rows of the sample have no NUL character. -/
theorem preparedRun_storable : preparedRun.Storable where
  plans := by decide
  customers := by decide
  invoices := by decide
  invoiceLines := by decide
  attempts := by
    intro p hp
    obtain rfl := List.mem_singleton.mp hp
    exact ⟨by decide, by decide, by decide, by decide, by decide, by decide,
      .obj (fun f hf => absurd hf List.not_mem_nil) fun f hf => absurd hf List.not_mem_nil,
      fun k hk => nomatch hk⟩
  webhookEvents := fun e he => absurd he List.not_mem_nil
  receipts := fun r hr => absurd hr List.not_mem_nil

/-- A result of the charge that has been prepared, and a turn of dunning of its invoice. -/
theorem settle_and_dun_commit_preparedRun :
    (∃ p ∈ preparedRun.attempts, ∃ db',
      settle sampleEnv preparedRun p.id true [("note", .str "ok")] "mock_1" (sampleTime 0 3) =
        .ok db' ∧ db'.Storable) ∧
    ∃ i ∈ preparedRun.invoices, ∃ db',
      dunInvoice preparedRun i.id (sampleTime 0 3) = .ok db' ∧ db'.Storable := by
  obtain ⟨hsettle, hdun⟩ := settle_and_dun_commit reachable_preparedRun preparedRun_storable
  obtain ⟨p, hp⟩ : ∃ p, p ∈ preparedRun.attempts.rows := ⟨_, List.mem_cons_self⟩
  have hresponse : (Json.obj [("note", .str "ok")]).Storable :=
    .obj (by decide) (by simpa using .str (by decide))
  obtain ⟨i, hi, s, hs, -, -, db', heq, hstorable, -⟩ :=
    hsettle p hp true [("note", .str "ok")] "mock_1" (sampleTime 0 3) hresponse (by decide)
  exact ⟨⟨p, hp, db', heq, hstorable⟩, i, hi, hdun i hi (sampleTime 0 3)⟩

/-- A charge id of 256 characters. -/
def longChargeId : String := String.ofList (List.replicate 256 'x')

/-- A charge id one character longer than its column. -/
theorem length_longChargeId : longChargeId.length = 256 :=
  String.length_ofList.trans List.length_replicate

/-- A result without a charge id of its own may bring one in its response that does not fit. -/
theorem settle_aborts_on_long_charge_id :
    ¬ ∀ (env : Env) (db : Db), Reachable env db → ∀ p ∈ db.attempts, ∀ (success : Bool)
      (response : List (String × Json)) (chargeId : String) (now : DateTime),
      chargeId.length ≤ 255 → ∃ db', settle env db p.id success response chargeId now = .ok db' := by
  intro hclaim
  obtain ⟨p, hp, hopen, hempty⟩ : ∃ p ∈ preparedRun.attempts, p.Unsettled ∧
      p.providerChargeId = "" := by decide +kernel
  obtain ⟨db', hdb'⟩ := hclaim sampleEnv preparedRun reachable_preparedRun p hp true
    [("provider_charge_id", .str longChargeId)] "" (sampleTime 0 3) (by decide)
  have hdb := reachable_preparedRun.consistent
  obtain ⟨i, hi, s, hs, hpi, hsi⟩ := hdb.rows hp
  have hlong : tooLong sampleEnv p
      (incomingChargeId [("provider_charge_id", .str longChargeId)] "") := by
    have hlength := length_longChargeId
    have hincoming : incomingChargeId [("provider_charge_id", .str longChargeId)] "" =
        .str longChargeId := rfl
    have hnonempty : longChargeId ≠ "" := by
      intro heq
      rw [heq] at hlength
      cases hlength
    rw [hincoming]
    refine ⟨hopen, ?_, ?_⟩
    · simp only [bindsCharge, Json.truthy_str.mpr hnonempty, hempty, beq_self_eq_true,
        Bool.and_self]
    · simp only [Env.columnText, hlength]
      decide
  rw [hdb.settle_eq hp hi hpi hs hsi, if_pos hlong] at hdb'
  cases hdb'

end Chargeflow
