import Chargeflow.Books.Links

/-!
# The keys of the attempts

The unique constraints of the payment attempt table hold for the rows as they are created, and the
keys of a row never change.  So no two attempts share a key for the provider, and no two attempts of
an organization share a client key.
-/

namespace Chargeflow

open Foundation

/-- The unique columns of the attempts: the provider's key, and the client's key within an
organization. -/
structure KeysUnique (attempts : Table PaymentAttempt) : Prop where
  mock : ∀ p ∈ attempts, p.provider = "mock"
  provider : ∀ p ∈ attempts, ∀ q ∈ attempts,
    p.providerIdempotencyKey = q.providerIdempotencyKey → p = q
  client : ∀ p ∈ attempts, ∀ q ∈ attempts, p.organizationId = q.organizationId →
    ∀ k, p.idempotencyKey = some k → q.idempotencyKey = some k → p = q

/-- No stored attempt has the key of an attempt that has not been saved. -/
theorem preparedAttempt_id_ne {attempts : Table PaymentAttempt} {q : PaymentAttempt}
    (hq : q ∈ attempts) (i : Invoice) (customer : Customer) (key : Option String)
    (providerKey : String) (now : DateTime) :
    q.id ≠ (preparedAttempt i customer key providerKey now).id :=
  Nat.pos_iff_ne_zero.mp (attempts.key_pos q hq)

/-- A step keeps the keys of the attempts unique. -/
theorem BooksStep.keysUnique {env : Env} {readings : List DateTime} {b b' : Books}
    (h : BooksStep env readings b b') (hb : KeysUnique b.attempts) : KeysUnique b'.attempts := by
  have hsame : ∀ {p q : PaymentAttempt} {p' q' : PaymentAttempt}, p' ∈ b'.attempts →
      q' ∈ b'.attempts → p.id = p'.id → q.id = q'.id → p = q → p' = q' := by
    intro p q p' q' hp' hq' hpid hqid hpq
    subst hpq
    exact Table.eq_of_key_eq hp' hq' (hpid.symm.trans hqid)
  refine ⟨?_, ?_, ?_⟩
  · intro p' hp'
    rcases h.attempt_origin hp' with ⟨p, hp, -, hl⟩ | ⟨_, _, _, _, _, _, _, rfl, -⟩
    · exact hl.snapshot.provider.trans (hb.mock p hp)
    · rfl
  · intro p' hp' q' hq' hkey
    rcases h.attempt_origin hp' with ⟨p, hp, hpid, hl⟩ | ⟨_, _, _, _, _, _, _, rfl, hunique, -⟩ <;>
      rcases h.attempt_origin hq' with ⟨q, hq, hqid, hm⟩ | ⟨_, _, _, _, _, _, _, rfl, hunique', -⟩
    · refine hsame hp' hq' hpid hqid (hb.provider p hp q hq ?_)
      rw [← hl.snapshot.providerIdempotencyKey, hkey, hm.snapshot.providerIdempotencyKey]
    · refine absurd ?_ (hunique'.providerKey p hp (preparedAttempt_id_ne hp _ _ _ _ _)
        (hb.mock p hp))
      exact hl.snapshot.providerIdempotencyKey.symm.trans hkey
    · refine absurd ?_ (hunique.providerKey q hq (preparedAttempt_id_ne hq _ _ _ _ _)
        (hb.mock q hq))
      exact hm.snapshot.providerIdempotencyKey.symm.trans hkey.symm
    · exact Table.eq_of_key_eq hp' hq' rfl
  · intro p' hp' q' hq' horg k hpk hqk
    rcases h.attempt_origin hp' with ⟨p, hp, hpid, hl⟩ | ⟨_, _, _, _, _, _, _, rfl, hunique, -⟩ <;>
      rcases h.attempt_origin hq' with ⟨q, hq, hqid, hm⟩ | ⟨_, _, _, _, _, _, _, rfl, hunique', -⟩
    · refine hsame hp' hq' hpid hqid (hb.client p hp q hq ?_ k ?_ ?_)
      · rw [← hl.snapshot.organizationId, horg, hm.snapshot.organizationId]
      · exact hl.snapshot.idempotencyKey.symm.trans hpk
      · exact hm.snapshot.idempotencyKey.symm.trans hqk
    · refine absurd ?_ (hunique'.clientKey p hp (preparedAttempt_id_ne hp _ _ _ _ _) ?_ k hqk)
      · exact hl.snapshot.idempotencyKey.symm.trans hpk
      · exact hl.snapshot.organizationId.symm.trans horg
    · refine absurd ?_ (hunique.clientKey q hq (preparedAttempt_id_ne hq _ _ _ _ _) ?_ k hpk)
      · exact hm.snapshot.idempotencyKey.symm.trans hqk
      · exact hm.snapshot.organizationId.symm.trans horg.symm
    · exact Table.eq_of_key_eq hp' hq' rfl

end Chargeflow
