import Mathlib.Data.List.Basic

/-!
# Programs that take row locks

A transaction is a program that reads and writes the database and takes locks as it goes; what it
reads decides what it locks next.  The locks have the modes of PostgreSQL.  A `LockOrder` says which
locks may be taken and in which order, and `LockOrder.wp` that a program keeps to it, whatever the
other transactions do in between: they leave the rows alone that it has locked exclusively.
`Program.solo` runs a program when there are no other transactions.
-/

namespace Foundation

/-! ## Lock modes -/

/-- The modes of row locks.  A unique key is held in the mode `update`. -/
inductive LockMode where
  | keyShare
  | share
  | noKeyUpdate
  | update
  deriving DecidableEq

namespace LockMode

/-- Two transactions cannot hold these locks on one row. -/
def conflicts : LockMode → LockMode → Bool
  | keyShare, update => true
  | share, noKeyUpdate => true
  | share, update => true
  | noKeyUpdate, share => true
  | noKeyUpdate, noKeyUpdate => true
  | noKeyUpdate, update => true
  | update, _ => true
  | _, _ => false

/-- A lock of the first mode makes one of the second mode unnecessary. -/
def covers : LockMode → LockMode → Bool
  | keyShare, keyShare => true
  | share, keyShare => true
  | share, share => true
  | noKeyUpdate, keyShare => true
  | noKeyUpdate, noKeyUpdate => true
  | update, _ => true
  | _, _ => false

/-- Only one transaction at a time holds such a lock on a row, and it may change the row. -/
def exclusive : LockMode → Bool
  | noKeyUpdate => true
  | update => true
  | _ => false

/-- The conflict of two modes is symmetric. -/
theorem conflicts_comm (m n : LockMode) : m.conflicts n = n.conflicts m := by
  cases m <;> cases n <;> rfl

/-- Two exclusive modes conflict. -/
theorem conflicts_of_exclusive {m n : LockMode} (hm : m.exclusive = true)
    (hn : n.exclusive = true) : m.conflicts n = true := by
  cases m <;> cases n <;> simp_all [exclusive, conflicts]

/-- A mode covers itself. -/
@[simp] theorem covers_self (m : LockMode) : m.covers m = true := by
  cases m <;> rfl

/-- The mode of `FOR UPDATE` covers every mode. -/
@[simp] theorem update_covers (m : LockMode) : update.covers m = true := by
  cases m <;> rfl

end LockMode

/-! ## Programs -/

/-- The statements of a transaction, up to its commit, on databases `σ` with resources `ρ` to lock.
The continuation of a statement depends on what it returns. -/
inductive Program (ρ σ ε α : Type) : Type
  | pure (a : α)
  /-- An exception. -/
  | fail (e : ε)
  /-- The database as a statement sees it. -/
  | query (k : σ → Program ρ σ ε α)
  /-- The database after a statement, as the transaction sees it. -/
  | write (s : σ) (k : Program ρ σ ε α)
  /-- A lock on a row. -/
  | lock (r : ρ) (m : LockMode) (k : Program ρ σ ε α)
  /-- A unique key is inserted, unless a row that others have committed has it. -/
  | key (r : ρ) (k : Bool → Program ρ σ ε α)
  /-- A new row, which other transactions do not see before the commit. -/
  | insert (r : ρ) (k : Program ρ σ ε α)
  /-- A foreign key to the row is checked at the commit. -/
  | check (r : ρ) (k : Program ρ σ ε α)

namespace Program

variable {ρ σ ε α β : Type}

/-- One program after the other. -/
def bind : Program ρ σ ε α → (α → Program ρ σ ε β) → Program ρ σ ε β
  | .pure a, f => f a
  | .fail e, _ => .fail e
  | .query k, f => .query fun s => (k s).bind f
  | .write s k, f => .write s (k.bind f)
  | .lock r m k, f => .lock r m (k.bind f)
  | .key r k, f => .key r fun b => (k b).bind f
  | .insert r k, f => .insert r (k.bind f)
  | .check r k, f => .check r (k.bind f)

/-- Programs are sequenced by their constructors. -/
instance : Monad (Program ρ σ ε) where
  pure := .pure
  bind := .bind

/-- The result of a computation, or its exception. -/
def raising : Except ε α → Program ρ σ ε α
  | .ok a => .pure a
  | .error e => .fail e

/-- What a query finds. -/
def view (f : σ → α) : Program ρ σ ε α := .query fun s => .pure (f s)

/-- What a query finds, or the exception it raises. -/
def read (f : σ → Except ε α) : Program ρ σ ε α := .query fun s => raising (f s)

/-- A statement that writes. -/
def exec (f : σ → Except ε (σ × α)) : Program ρ σ ε α :=
  .query fun s =>
    match f s with
    | .ok (s', a) => .write s' (.pure a)
    | .error e => .fail e

/-- A statement that writes and returns nothing. -/
def update (f : σ → Except ε σ) : Program ρ σ ε Unit := exec fun s => (f s).map (·, ())

/-- A row is locked. -/
def lockRow (r : ρ) (m : LockMode) : Program ρ σ ε Unit := .lock r m (.pure ())

/-- A query `FOR UPDATE`: when the row is locked, its latest version is read. -/
def readForUpdate (r : ρ) (f : σ → Except ε α) : Program ρ σ ε α := do
  let _ ← read f
  lockRow r .update
  read f

/-- A unique key is inserted, unless it is taken. -/
def insertKey (r : ρ) : Program ρ σ ε Bool := .key r .pure

/-- A row is inserted. -/
def insertRow (r : ρ) : Program ρ σ ε Unit := .insert r (.pure ())

/-- A foreign key is checked at the commit. -/
def checkAtCommit (r : ρ) : Program ρ σ ε Unit := .check r (.pure ())

/-! ### A transaction alone -/

/-- The run of a program when there are no other transactions: every lock is granted at once, every
key is free as far as the statement that inserts it finds it free, and the database is the one the
program left. -/
def solo : Program ρ σ ε α → σ → Except ε (σ × α)
  | .pure a, s => .ok (s, a)
  | .fail e, _ => .error e
  | .query k, s => (k s).solo s
  | .write s' k, _ => k.solo s'
  | .lock _ _ k, s => k.solo s
  | .key _ k, s => (k true).solo s
  | .insert _ k, s => k.solo s
  | .check _ k, s => k.solo s

/-- A sequence runs one part after the other. -/
theorem solo_bind (x : Program ρ σ ε α) (f : α → Program ρ σ ε β) (s : σ) :
    (x >>= f).solo s = x.solo s >>= fun q => (f q.2).solo q.1 := by
  show (x.bind f).solo s = _
  induction x generalizing s with
  | pure a => rfl
  | fail e => rfl
  | query k ih => exact ih s s
  | write s' k ih => exact ih s'
  | lock r m k ih => exact ih s
  | key r k ih => exact ih true s
  | insert r k ih => exact ih s
  | check r k ih => exact ih s

/-- Alone on the database `s` the program ends as the computation `r` does; `h` takes the database
and the result of the program from that of the computation. -/
def Alone (x : Program ρ σ ε α) (s : σ) (r : Except ε γ) (h : γ → σ × α) : Prop :=
  x.solo s = r.map h

variable {γ δ : Type} {x : Program ρ σ ε α} {f : α → Program ρ σ ε β} {s : σ}

/-- A sequence does what the sequence of the models does. -/
theorem Alone.bind {r : Except ε γ} {h : γ → σ × α} {g : γ → Except ε δ} {k : δ → σ × β}
    (hx : x.Alone s r h) (hf : ∀ c, r = .ok c → (f (h c).2).Alone (h c).1 (g c) k) :
    (x >>= f).Alone s (r >>= g) k := by
  unfold Alone at *
  rw [solo_bind, hx]
  cases r with
  | error e => rfl
  | ok c => exact hf c rfl

/-- A query, and the rest of the program. -/
theorem Alone.bind_read {r : Except ε α} {g : α → Except ε δ} {k : δ → σ × β}
    (hx : x.Alone s r (s, ·)) (hf : ∀ a, r = .ok a → (f a).Alone s (g a) k) :
    (x >>= f).Alone s (r >>= g) k :=
  hx.bind hf

/-- A statement that writes, and the rest of the program. -/
theorem Alone.bind_exec {r : Except ε (σ × α)} {g : σ × α → Except ε δ} {k : δ → σ × β}
    (hx : x.Alone s r id) (hf : ∀ s' a, r = .ok (s', a) → (f a).Alone s' (g (s', a)) k) :
    (x >>= f).Alone s (r >>= g) k :=
  hx.bind fun q hq => hf q.1 q.2 hq

/-- A statement that only writes, and the rest of the program. -/
theorem Alone.bind_update {x : Program ρ σ ε Unit} {f : Unit → Program ρ σ ε β} {r : Except ε σ}
    {g : σ → Except ε δ} {k : δ → σ × β} (hx : x.Alone s r (·, ()))
    (hf : ∀ s', r = .ok s' → (f ()).Alone s' (g s') k) : (x >>= f).Alone s (r >>= g) k :=
  hx.bind hf

/-- Alone, a raised result is the result. -/
theorem alone_raising (r : Except ε α) (s : σ) :
    (raising r : Program ρ σ ε α).Alone s r (s, ·) := by
  cases r <;> rfl

/-- Alone, a read changes nothing. -/
theorem alone_read (f : σ → Except ε α) (s : σ) :
    (read f : Program ρ σ ε α).Alone s (f s) (s, ·) :=
  alone_raising (f s) s

/-- Alone, a statement does what its function does. -/
theorem alone_exec (f : σ → Except ε (σ × α)) (s : σ) :
    (exec f : Program ρ σ ε α).Alone s (f s) id := by
  unfold Alone
  simp only [exec, solo]
  cases f s <;> rfl

/-- Alone, an update does what its function does. -/
theorem alone_update (f : σ → Except ε σ) (s : σ) :
    (update f : Program ρ σ ε Unit).Alone s (f s) (·, ()) := by
  unfold Alone
  rw [update, alone_exec]
  cases f s <;> rfl

/-- Alone, a locking read changes nothing. -/
theorem alone_readForUpdate (r : ρ) (f : σ → Except ε α) (s : σ) :
    (readForUpdate r f : Program ρ σ ε α).Alone s (f s) (s, ·) := by
  unfold Alone readForUpdate
  rw [solo_bind, alone_read]
  cases hf : f s with
  | error e => rfl
  | ok a => exact (alone_read f s).trans (by rw [hf])

/-- A query that is made again. -/
theorem Alone.again {q : Except ε α} {a : α} {r : Except ε γ} {h : γ → σ × β}
    (hx : x.Alone s q (s, ·)) (ha : q = .ok a) (hf : (f a).Alone s r h) :
    (x >>= f).Alone s r h := by
  unfold Alone at *
  rw [solo_bind, hx, ha]
  exact hf

/-- A statement with a known effect. -/
theorem Alone.done {s' : σ} {a : α} {r : Except ε γ} {h : γ → σ × β}
    (hx : x.Alone s (.ok (s', a)) id) (hf : (f a).Alone s' r h) : (x >>= f).Alone s r h := by
  unfold Alone at *
  rw [solo_bind, hx]
  exact hf

/-- A program that fails skips what follows. -/
theorem Alone.fails {e : ε} {q : γ → σ × α} {h : δ → σ × β} (hx : x.Alone s (.error e) q) :
    (x >>= f).Alone s (.error e) h := by
  unfold Alone at *
  rw [solo_bind, hx]
  rfl

/-! A transaction alone gets its locks at once, and finds the keys free. -/

section

variable {r : Except ε γ} {h : γ → σ × β} {t : ρ} {m : LockMode}

/-- A view hands on what it sees. -/
theorem Alone.view {g : σ → α} (hf : (f (g s)).Alone s r h) : (view g >>= f).Alone s r h := hf

/-- Alone, a row lock changes nothing. -/
theorem Alone.lockRow {f : Unit → Program ρ σ ε β} (hf : (f ()).Alone s r h) :
    (lockRow t m >>= f).Alone s r h := hf

/-- Alone, a conditional row lock changes nothing. -/
theorem Alone.lockRowIf {c : Prop} [Decidable c] {f : Unit → Program ρ σ ε β}
    (hf : (f ()).Alone s r h) :
    (if c then Program.lockRow t m >>= f else f ()).Alone s r h := by
  split_ifs
  · exact hf
  · exact hf

/-- Alone, the insertion of a key meets no other transaction. -/
theorem Alone.insertKey {f : Bool → Program ρ σ ε β} (hf : (f true).Alone s r h) :
    (insertKey t >>= f).Alone s r h := hf

/-- Alone, the insertion of a row into the lock table changes nothing. -/
theorem Alone.insertRow {f : Unit → Program ρ σ ε β} (hf : (f ()).Alone s r h) :
    (insertRow t >>= f).Alone s r h := hf

/-- Alone, a deferred check changes nothing. -/
theorem Alone.checkAtCommit {f : Unit → Program ρ σ ε β} (hf : (f ()).Alone s r h) :
    (checkAtCommit t >>= f).Alone s r h := hf

/-- Alone, locks on several rows change nothing. -/
theorem Alone.lockRows {l : List α} {t : α → ρ} {f : Unit → Program ρ σ ε β}
    (hf : (f ()).Alone s r h) : ((l.forM fun a => Program.lockRow (t a) m) >>= f).Alone s r h := by
  induction l with
  | nil => exact hf
  | cons a l ih => exact ih

end

/-- A loop, alone, is a fold over the databases. -/
theorem alone_forM {l : List β} {f : β → Program ρ σ ε Unit} {g : σ → β → Except ε σ}
    (hf : ∀ b s, (f b).Alone s (g s b) (·, ())) : (l.forM f).Alone s (l.foldlM g s) (·, ()) := by
  induction l generalizing s with
  | nil => rfl
  | cons b l ih => exact (hf b s).bind fun s' _ => ih

end Program

/-! ## The locks of a transaction -/

/-- The locks that a transaction holds, the latest first, the rows it has inserted, and the rows
that its foreign keys refer to. -/
structure Locks (ρ : Type) where
  held : List (ρ × LockMode)
  inserted : List ρ
  checks : List ρ

namespace Locks

variable {ρ : Type}

/-- No lock is held. -/
def empty : Locks ρ := ⟨[], [], []⟩

/-- One more lock. -/
def push (h : Locks ρ) (r : ρ) (m : LockMode) : Locks ρ := { h with held := (r, m) :: h.held }

/-- One more row of its own. -/
def insert (h : Locks ρ) (r : ρ) : Locks ρ := { h with inserted := r :: h.inserted }

/-- One more row to check. -/
def check (h : Locks ρ) (r : ρ) : Locks ρ := { h with checks := r :: h.checks }

/-- No other transaction has an exclusive lock on the row, or changes it. -/
def Exclusive (h : Locks ρ) (r : ρ) : Prop := ∃ m, (r, m) ∈ h.held ∧ m.exclusive = true

/-- The locks and the rows of `h` are among those of `h'`. -/
structure Sub (h h' : Locks ρ) : Prop where
  held : h.held ⊆ h'.held
  inserted : h.inserted ⊆ h'.inserted

/-- Locks are included in themselves. -/
theorem Sub.refl (h : Locks ρ) : h.Sub h := ⟨List.Subset.refl _, List.Subset.refl _⟩

/-- Inclusion of locks is transitive. -/
theorem Sub.trans {h₁ h₂ h₃ : Locks ρ} (h : h₁.Sub h₂) (h' : h₂.Sub h₃) : h₁.Sub h₃ :=
  ⟨fun _ hl => h'.held (h.held hl), fun _ hr => h'.inserted (h.inserted hr)⟩

/-- A new lock keeps the others. -/
theorem sub_push (h : Locks ρ) (r : ρ) (m : LockMode) : h.Sub (h.push r m) :=
  ⟨List.subset_cons_self _ _, List.Subset.refl _⟩

/-- An inserted row keeps the locks. -/
theorem sub_insert (h : Locks ρ) (r : ρ) : h.Sub (h.insert r) :=
  ⟨List.Subset.refl _, List.subset_cons_self _ _⟩

/-- A deferred check keeps the locks. -/
theorem sub_check (h : Locks ρ) (r : ρ) : h.Sub (h.check r) :=
  ⟨List.Subset.refl _, List.Subset.refl _⟩

/-- An exclusive lock stays one with more locks. -/
theorem Exclusive.mono {h h' : Locks ρ} {r : ρ} (hr : h.Exclusive r) (hsub : h.Sub h') :
    h'.Exclusive r := by
  obtain ⟨m, hm, hexclusive⟩ := hr
  exact ⟨m, hsub.held hm, hexclusive⟩

end Locks

/-! ## The order of the locks -/

/-- Which locks the transactions of a system take, and in which order. -/
structure LockOrder (ρ σ : Type) where
  /-- The place of a resource in the order. -/
  rank : ρ → ℕ
  /-- The row whose exclusive lock comes before a lock on this resource. -/
  guard : ρ → Option ρ
  /-- The row whose insertion makes this resource the transaction's own. -/
  owner : ρ → ρ
  /-- The modes in which a resource is locked. -/
  allowed : ρ → LockMode → Bool
  /-- The locks that never wait. -/
  quiet : ρ → LockMode → Bool
  quiet_spec : ∀ {r m n}, quiet r m = true → allowed r n = true → m.conflicts n = false
  /-- A database that can be seen. -/
  valid : σ → Prop
  /-- A row is the same in two databases. -/
  same : ρ → σ → σ → Prop

namespace LockOrder

variable {ρ σ ε α β : Type} (L : LockOrder ρ σ)

/-- The row is the transaction's own, or locked as strongly already. -/
def Covers (h : Locks ρ) (r : ρ) (m : LockMode) : Prop :=
  L.owner r ∈ h.inserted ∨ ∃ n, (r, n) ∈ h.held ∧ n.covers m = true

/-- A lock comes later in the order than one that is held.  Several locks at one place are taken
under their guards only. -/
def After (l : ρ × LockMode) (r : ρ) : Prop :=
  L.rank l.1 < L.rank r ∨ (L.rank l.1 = L.rank r ∧ (L.guard r).isSome)

/-- The next lock keeps to the order: the guard is held, and a lock that may wait comes later than
those before it. -/
structure Admits (h : Locks ρ) (r : ρ) (m : LockMode) : Prop where
  allowed : L.allowed r m = true
  guarded : ∀ g, L.guard r = some g → h.Exclusive g
  ordered : L.quiet r m = false → ∀ l ∈ h.held, L.quiet l.1 l.2 = false → L.After l r

/-- The other transactions have changed the database, but no row that these locks protect. -/
structure Moves (h : Locks ρ) (s s' : σ) : Prop where
  valid : L.valid s'
  same : ∀ r, h.Exclusive r → L.same r s s'

variable {L} {h h' : Locks ρ} {s s' : σ}

/-- A covered row stays covered with more locks. -/
theorem Covers.mono {r : ρ} {m : LockMode} (hr : L.Covers h r m) (hsub : h.Sub h') :
    L.Covers h' r m := by
  rcases hr with hown | ⟨n, hn, hcovers⟩
  · exact Or.inl (hsub.inserted hown)
  · exact Or.inr ⟨n, hsub.held hn, hcovers⟩

/-- A lock covers the row it was taken on. -/
theorem covers_push (h : Locks ρ) (r : ρ) (m : LockMode) : L.Covers (h.push r m) r m :=
  Or.inr ⟨m, List.mem_cons_self, m.covers_self⟩

/-! ## Programs that keep to the order -/

variable (L)

/-- With the locks `h` and the database `s`, the program keeps to the order, and where it ends `Q`
holds of its result, the locks and the database. -/
def wp : Program ρ σ ε α → (α → Locks ρ → σ → Prop) → Locks ρ → σ → Prop
  | .pure a, Q, h, s => Q a h s
  | .fail _, _, _, _ => True
  | .query k, Q, h, s => ∀ s', L.Moves h s s' → wp (k s') Q h s'
  | .write s' k, Q, h, _ => wp k Q h s'
  | .lock r m k, Q, h, s => (L.Covers h r m → wp k Q h s) ∧
      (¬ L.Covers h r m → L.Admits h r m ∧ ∀ s', L.Moves h s s' → wp k Q (h.push r m) s')
  | .key r k, Q, h, s => (L.Covers h r .update → ∀ b, wp (k b) Q h s) ∧
      (¬ L.Covers h r .update → L.Admits h r .update ∧ wp (k false) Q h s ∧
        ∀ s', L.Moves h s s' → wp (k true) Q (h.push r .update) s')
  | .insert r k, Q, h, s => wp k Q (h.insert r) s
  | .check r k, Q, h, s => wp k Q (h.check r) s

variable {L} {Q : α → Locks ρ → σ → Prop}

/-- The weakest precondition is monotone in the postcondition. -/
theorem wp_mono {Q' : α → Locks ρ → σ → Prop} {x : Program ρ σ ε α} (hx : L.wp x Q h s)
    (hQ : ∀ a h' s', Q a h' s' → Q' a h' s') : L.wp x Q' h s := by
  induction x generalizing h s with
  | pure a => exact hQ a h s hx
  | fail e => trivial
  | query k ih => exact fun s' hs => ih s' (hx s' hs)
  | write s' k ih => exact ih hx
  | lock r m k ih =>
    obtain ⟨hcovered, hnew⟩ := hx
    refine ⟨fun hcovers => ih (hcovered hcovers), fun hcovers => ?_⟩
    obtain ⟨hadmits, hrest⟩ := hnew hcovers
    exact ⟨hadmits, fun s' hs => ih (hrest s' hs)⟩
  | key r k ih =>
    obtain ⟨hcovered, hnew⟩ := hx
    refine ⟨fun hcovers b => ih b (hcovered hcovers b), fun hcovers => ?_⟩
    obtain ⟨hadmits, hfalse, htrue⟩ := hnew hcovers
    exact ⟨hadmits, ih false hfalse, fun s' hs => ih true (htrue s' hs)⟩
  | insert r k ih => exact ih hx
  | check r k ih => exact ih hx

/-- The rule of `pure`. -/
theorem wp_pure {a : α} (hQ : Q a h s) : L.wp (Pure.pure a : Program ρ σ ε α) Q h s := hQ

/-- The rule of a sequence. -/
theorem wp_bind {f : α → Program ρ σ ε β} {Q : β → Locks ρ → σ → Prop} {x : Program ρ σ ε α}
    (hx : L.wp x (fun a h' s' => L.wp (f a) Q h' s') h s) : L.wp (x >>= f) Q h s := by
  show L.wp (x.bind f) Q h s
  induction x generalizing h s with
  | pure a => exact hx
  | fail e => trivial
  | query k ih => exact fun s' hs => ih s' (hx s' hs)
  | write s' k ih => exact ih hx
  | lock r m k ih =>
    obtain ⟨hcovered, hnew⟩ := hx
    refine ⟨fun hcovers => ih (hcovered hcovers), fun hcovers => ?_⟩
    obtain ⟨hadmits, hrest⟩ := hnew hcovers
    exact ⟨hadmits, fun s' hs => ih (hrest s' hs)⟩
  | key r k ih =>
    obtain ⟨hcovered, hnew⟩ := hx
    refine ⟨fun hcovers b => ih b (hcovered hcovers b), fun hcovers => ?_⟩
    obtain ⟨hadmits, hfalse, htrue⟩ := hnew hcovers
    exact ⟨hadmits, ih false hfalse, fun s' hs => ih true (htrue s' hs)⟩
  | insert r k ih => exact ih hx
  | check r k ih => exact ih hx

/-- The rule of a raised result: the postcondition is asked for only if it returns. -/
theorem wp_raising {r : Except ε α} (hQ : ∀ a, r = .ok a → Q a h s) :
    L.wp (Program.raising r) Q h s := by
  cases r with
  | error e => trivial
  | ok a => exact hQ a rfl

/-- The rule of a view: other transactions may have moved the state before it. -/
theorem wp_view {f : σ → α} (hQ : ∀ s', L.Moves h s s' → Q (f s') h s') :
    L.wp (Program.view f : Program ρ σ ε α) Q h s :=
  hQ

/-- The rule of a read. -/
theorem wp_read {f : σ → Except ε α} (hQ : ∀ a s', L.Moves h s s' → f s' = .ok a → Q a h s') :
    L.wp (Program.read f) Q h s :=
  fun s' hs => wp_raising fun a ha => hQ a s' hs ha

/-- The rule of a statement. -/
theorem wp_exec {f : σ → Except ε (σ × α)}
    (hQ : ∀ a s' t, L.Moves h s s' → f s' = .ok (t, a) → Q a h t) :
    L.wp (Program.exec f) Q h s := by
  intro s' hs
  cases hf : f s' with
  | error e =>
    dsimp only
    rw [hf]
    trivial
  | ok q =>
    dsimp only
    rw [hf]
    exact hQ q.2 s' q.1 hs hf

/-- The rule of an update. -/
theorem wp_update {f : σ → Except ε σ} {Q : Unit → Locks ρ → σ → Prop}
    (hQ : ∀ s' t, L.Moves h s s' → f s' = .ok t → Q () h t) : L.wp (Program.update f) Q h s := by
  refine wp_exec fun a s' t hs ht => hQ s' t hs ?_
  cases hf : f s' with
  | error e =>
    rw [hf] at ht
    cases ht
  | ok t' =>
    rw [hf] at ht
    cases ht
    rfl

/-- The rule of a row lock: a covered row costs nothing, any other must be admitted. -/
theorem wp_lockRow {r : ρ} {m : LockMode} {Q : Unit → Locks ρ → σ → Prop}
    (hcovered : L.Covers h r m → Q () h s) (hadmits : ¬ L.Covers h r m → L.Admits h r m)
    (hnew : ¬ L.Covers h r m → ∀ s', L.Moves h s s' → Q () (h.push r m) s') :
    L.wp (Program.lockRow r m : Program ρ σ ε Unit) Q h s :=
  ⟨hcovered, fun hcovers => ⟨hadmits hcovers, hnew hcovers⟩⟩

/-- A lock that is held already is free. -/
theorem wp_lockRow_of_covers {r : ρ} {m : LockMode} {Q : Unit → Locks ρ → σ → Prop}
    (hcovers : L.Covers h r m) (hQ : Q () h s) :
    L.wp (Program.lockRow r m : Program ρ σ ε Unit) Q h s :=
  wp_lockRow (fun _ => hQ) (absurd hcovers) (absurd hcovers)

/-- The row that a query `FOR UPDATE` returns is read under the lock. -/
theorem wp_readForUpdate {r : ρ} {f : σ → Except ε α}
    (hadmits : ¬ L.Covers h r .update → L.Admits h r .update)
    (hcovered : L.Covers h r .update → ∀ a s', L.valid s' → f s' = .ok a → Q a h s')
    (hnew : ¬ L.Covers h r .update → ∀ a s', L.valid s' → f s' = .ok a →
      Q a (h.push r .update) s') :
    L.wp (Program.readForUpdate r f) Q h s := by
  refine wp_bind (wp_read fun _ s₁ _ _ => wp_bind (wp_lockRow ?_ hadmits ?_))
  · exact fun hcovers => wp_read fun a s' hs ha => hcovered hcovers a s' hs.valid ha
  · exact fun hcovers s₂ _ => wp_read fun a s' hs ha => hnew hcovers a s' hs.valid ha

/-- The rule of the insertion of a key, which is taken or new. -/
theorem wp_insertKey {r : ρ} {Q : Bool → Locks ρ → σ → Prop}
    (hcovered : L.Covers h r .update → ∀ b, Q b h s)
    (hadmits : ¬ L.Covers h r .update → L.Admits h r .update)
    (htaken : ¬ L.Covers h r .update → Q false h s)
    (hnew : ¬ L.Covers h r .update → ∀ s', L.Moves h s s' → Q true (h.push r .update) s') :
    L.wp (Program.insertKey r : Program ρ σ ε Bool) Q h s :=
  ⟨hcovered, fun hcovers => ⟨hadmits hcovers, htaken hcovers, hnew hcovers⟩⟩

/-- A loop: what holds before every turn, and what a turn does for its element. -/
theorem wp_forM {l : List β} {f : β → Program ρ σ ε Unit} {I : Locks ρ → Prop}
    {C : β → Locks ρ → Prop} (hmono : ∀ b h h', C b h → h.Sub h' → C b h')
    (hf : ∀ b ∈ l, ∀ h s, I h → L.wp (f b) (fun _ h' _ => I h' ∧ h.Sub h' ∧ C b h') h s)
    (hI : I h) : L.wp (l.forM f) (fun _ h' _ => I h' ∧ h.Sub h' ∧ ∀ b ∈ l, C b h') h s := by
  induction l generalizing h s with
  | nil => exact ⟨hI, .refl h, fun b hb => absurd hb List.not_mem_nil⟩
  | cons b l ih =>
    refine wp_bind (wp_mono (hf b List.mem_cons_self h s hI) fun _ h₁ s₁ hturn => ?_)
    obtain ⟨hI₁, hsub₁, hb⟩ := hturn
    have hrest : ∀ c ∈ l, ∀ h s, I h → L.wp (f c) (fun _ h' _ => I h' ∧ h.Sub h' ∧ C c h') h s :=
      fun c hc => hf c (List.mem_cons_of_mem b hc)
    refine wp_mono (ih hrest hI₁) fun _ h₂ s₂ hloop => ?_
    obtain ⟨hI₂, hsub₂, hl⟩ := hloop
    refine ⟨hI₂, hsub₁.trans hsub₂, fun c hc => ?_⟩
    rcases List.mem_cons.mp hc with rfl | hc
    · exact hmono c h₁ h₂ hb hsub₂
    · exact hl c hc

/-! ## The locks after a program -/

variable (L)

/-- The lock of a foreign key check waits for nobody: the row is locked already, or the lock is
quiet. -/
def Checkable (h : Locks ρ) (r : ρ) : Prop :=
  L.Covers h r .keyShare ∨
    (L.quiet r .keyShare = true ∧ L.allowed r .keyShare = true ∧ L.guard r = none)

/-- The locks `h'` are those of `h` and some with the property `P`, and the new foreign keys can be
checked. -/
structure Grows (P : ρ × LockMode → Prop) (h h' : Locks ρ) : Prop where
  sub : h.Sub h'
  held : ∀ l ∈ h'.held, l ∈ h.held ∨ P l
  checks : ∀ r ∈ h'.checks, r ∈ h.checks ∨ L.Checkable h' r

/-- Every lock that may wait is at the place `k` or before it. -/
def AtMost (k : ℕ) (h : Locks ρ) : Prop :=
  ∀ l ∈ h.held, L.quiet l.1 l.2 = false → L.rank l.1 ≤ k

variable {L} {P P' : ρ × LockMode → Prop} {h₁ h₂ h₃ : Locks ρ} {r : ρ} {m : LockMode} {k k' : ℕ}

/-- A row that can be checked still can with more locks. -/
theorem Checkable.mono (hr : L.Checkable h r) (hsub : h.Sub h') : L.Checkable h' r :=
  hr.imp_left fun hcovers => hcovers.mono hsub

/-- The lock of a check that is not held yet keeps to the order. -/
theorem Checkable.admits (hr : L.Checkable h r) (hnew : ¬ L.Covers h r .keyShare) :
    L.Admits h r .keyShare := by
  obtain ⟨hquiet, hallowed, hguard⟩ := hr.resolve_left hnew
  refine ⟨hallowed, fun g hg => ?_, fun hnot => ?_⟩
  · rw [hguard] at hg
    cases hg
  · rw [hquiet] at hnot
    cases hnot

/-- The locks grow by nothing. -/
theorem Grows.refl (h : Locks ρ) : L.Grows P h h := ⟨.refl h, fun _ => Or.inl, fun _ => Or.inl⟩

/-- Growth of the locks is transitive. -/
theorem Grows.trans (h₁₂ : L.Grows P h₁ h₂) (h₂₃ : L.Grows P h₂ h₃) : L.Grows P h₁ h₃ where
  sub := h₁₂.sub.trans h₂₃.sub
  held l hl := (h₂₃.held l hl).elim (h₁₂.held l) Or.inr
  checks r hr := by
    rcases h₂₃.checks r hr with hold | hnew
    · exact (h₁₂.checks r hold).imp_right fun hr => hr.mono h₂₃.sub
    · exact Or.inr hnew

/-- Locks that grow by `P` grow by any weaker condition. -/
theorem Grows.mono (hgrows : L.Grows P h h') (hP : ∀ l, P l → P' l) : L.Grows P' h h' :=
  { hgrows with held := fun l hl => (hgrows.held l hl).imp_right (hP l) }

/-- The locks grow by the new one. -/
theorem grows_push (hP : P (r, m)) : L.Grows P h (h.push r m) where
  sub := h.sub_push r m
  held l hl := by
    rcases List.mem_cons.mp hl with rfl | hl
    · exact Or.inr hP
    · exact Or.inl hl
  checks _ := Or.inl

/-- The locks grow by no lock when a row is inserted. -/
theorem grows_insert : L.Grows P h (h.insert r) :=
  ⟨h.sub_insert r, fun _ => Or.inl, fun _ => Or.inl⟩

/-- The locks grow by no lock when a check is deferred. -/
theorem grows_check (hr : L.Checkable h r) : L.Grows P h (h.check r) where
  sub := h.sub_check r
  held _ := Or.inl
  checks r' hr' := by
    rcases List.mem_cons.mp hr' with rfl | hr'
    · exact Or.inr (hr.mono (h.sub_check _))
    · exact Or.inl hr'

/-- A bound on the ranks may be raised. -/
theorem AtMost.mono (hk : L.AtMost k h) (hle : k ≤ k') : L.AtMost k' h :=
  fun l hl hquiet => Nat.le_trans (hk l hl hquiet) hle

/-- Locks that grow below a rank stay below it. -/
theorem Grows.atMost (hgrows : L.Grows P h h') (hk : L.AtMost k h)
    (hP : ∀ l, P l → L.rank l.1 ≤ k) : L.AtMost k h' :=
  fun l hl hquiet => (hgrows.held l hl).elim (fun hold => hk l hold hquiet) (hP l)

/-- The rule of the insertion of a row. -/
theorem wp_insertRow {Q : Unit → Locks ρ → σ → Prop}
    (hQ : ∀ h', L.Grows P h h' → r ∈ h'.inserted → Q () h' s) :
    L.wp (Program.insertRow r : Program ρ σ ε Unit) Q h s :=
  hQ _ grows_insert List.mem_cons_self

/-- The rule of a deferred check. -/
theorem wp_checkAtCommit {Q : Unit → Locks ρ → σ → Prop} (hr : L.Checkable h r)
    (hQ : ∀ h', L.Grows P h h' → Q () h' s) :
    L.wp (Program.checkAtCommit r : Program ρ σ ε Unit) Q h s :=
  hQ _ (grows_check hr)

/-- A lock without a guard is taken after those at earlier places. -/
theorem AtMost.admits (hk : L.AtMost k h) (hlt : k < L.rank r) (hallowed : L.allowed r m = true)
    (hguard : L.guard r = none) : L.Admits h r m where
  allowed := hallowed
  guarded g hg := by
    rw [hguard] at hg
    cases hg
  ordered _ l hl hquiet := Or.inl (Nat.lt_of_le_of_lt (hk l hl hquiet) hlt)

/-- A lock under its guard is taken after those at the same place, too. -/
theorem AtMost.admits_guarded (hk : L.AtMost k h) (hle : k ≤ L.rank r)
    (hallowed : L.allowed r m = true) {g : ρ} (hguard : L.guard r = some g)
    (hg : h.Exclusive g) : L.Admits h r m where
  allowed := hallowed
  guarded g' hg' := by
    obtain rfl := Option.some.inj (hguard.symm.trans hg')
    exact hg
  ordered _ l hl hquiet := by
    have hsome : (L.guard r).isSome = true := by rw [hguard]; rfl
    rcases Nat.lt_or_eq_of_le (Nat.le_trans (hk l hl hquiet) hle) with hlt | heq
    · exact Or.inl hlt
    · exact Or.inr ⟨heq, hsome⟩

end LockOrder

end Foundation
