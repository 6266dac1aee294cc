import Mathlib.Data.List.Chain
import Chargeflow.Foundation.Table

/-!
# Status machines with stale copies

Callers hold copies of rows of a shared store and move them along the edges of a status machine.  A
call checks its target against the status of the copy, which may be stale, and writes the row only
if it still has that status; otherwise it raises and leaves everything as it was.  Whatever copies
the callers hold, and in whatever order they call, the statuses a row takes form a path of the
machine, and the row is what the moves of that path make of it (`find_run`, `isChain_run`).
-/

namespace Foundation

/-- A store of rows with a guarded change of status.  `transitionTo` gives the result of a call
together with the store and the copy it leaves behind, also when it raises. -/
structure CompareAndSet (δ ρ σ τ ε : Type*) where
  /-- The row with a given key. -/
  find : δ → ℕ → Option ρ
  /-- The key of a row. -/
  key : ρ → ℕ
  /-- The status of a row. -/
  status : ρ → σ
  /-- The statuses that a status may be followed by. -/
  edges : σ → List σ
  /-- A row with a new status, at a given time. -/
  stamp : ρ → σ → τ → ρ
  /-- The errors of a refused call. -/
  Refusal : ε → Prop
  /-- A call on a copy: the result, the store, and the copy after the call. -/
  transitionTo : δ → ρ → σ → τ → Except ε Unit × δ × ρ
  status_stamp : ∀ r s t, status (stamp r s t) = s
  /-- The target follows the status of the copy, and the row still has that status. -/
  accepts : ∀ {d i s t r}, s ∈ edges (status i) → find d (key i) = some r → status r = status i →
    ∃ d', transitionTo d i s t = (.ok (), d', stamp i s t) ∧
      ∀ n, find d' n = if n = key i then some (stamp r s t) else find d n
  /-- Any other call raises, and changes neither the store nor the copy. -/
  refuses : ∀ {d i s t},
    ¬ (s ∈ edges (status i) ∧ ∃ r, find d (key i) = some r ∧ status r = status i) →
    ∃ e, Refusal e ∧ transitionTo d i s t = (.error e, d, i)

/-! ## Rows of a table -/

section

variable {α σ τ ε : Type*} [Keyed α] [DecidableEq σ]

/-- A change of status on a table: the target is checked against the copy, the row is selected by
its key and by the status of the copy, and the copy is written last. -/
def Table.transition (status : α → σ) (edges : σ → List σ) (stamp : α → σ → τ → α)
    (refused changed : ε) (t : Table α) (a : α) (s : σ) (now : τ) : Except ε Unit × Table α × α :=
  if s ∈ edges (status a) then
    let (t', count) := t.updateWhere (fun row => key row == key a && status row == status a)
      fun row => stamp row s now
    if count = 0 then (.error changed, t', a) else (.ok (), t', stamp a s now)
  else (.error refused, t, a)

variable {status : α → σ} {edges : σ → List σ} {stamp : α → σ → τ → α} {refused changed : ε}
  {t : Table α} {a row : α} {s : σ} {now : τ}

/-- A transition along an edge from the stored status stamps the stored row. -/
theorem Table.transition_accepts (hedge : s ∈ edges (status a)) (hrow : t.get? (key a) = some row)
    (hstatus : status row = status a) :
    t.transition status edges stamp refused changed a s now =
      (.ok (), t.update (stamp row s now), stamp a s now) := by
  simp [transition, if_pos hedge, updateWhere_key, hrow, hstatus]

/-- Any other transition changes nothing. -/
theorem Table.transition_refuses
    (h : ¬ (s ∈ edges (status a) ∧ ∃ row, t.get? (key a) = some row ∧ status row = status a)) :
    t.transition status edges stamp refused changed a s now =
      (.error (if s ∈ edges (status a) then changed else refused), t, a) := by
  unfold transition
  by_cases hedge : s ∈ edges (status a)
  · rw [if_pos hedge, if_pos hedge, updateWhere_key]
    cases hrow : t.get? (key a) with
    | none => simp
    | some row =>
      have hstatus : status row ≠ status a := fun hstatus => h ⟨hedge, row, hrow, hstatus⟩
      simp [hstatus]
  · rw [if_neg hedge, if_neg hedge]

/-- The rows after the update of one of them. -/
theorem Table.get?_update (hrow : t.get? (key a) = some row) {row' : α} (hkey : key row' = key row)
    (n : ℕ) : (t.update row').get? n = if n = key a then some row' else t.get? n := by
  obtain ⟨hmem, hid⟩ := Table.get?_eq_some_iff.mp hrow
  split_ifs with hn
  · exact Table.get?_eq_some_iff.mpr
      ⟨Table.mem_update_self hmem hkey, hkey.trans (hid.trans hn.symm)⟩
  · ext b
    rw [Table.get?_eq_some_iff, Table.get?_eq_some_iff, Table.mem_update_of_mem hmem hkey]
    constructor
    · rintro ⟨rfl | ⟨hb, -⟩, hbn⟩
      · exact absurd (hbn.symm.trans (hkey.trans hid)) hn
      · exact ⟨hb, hbn⟩
    · rintro ⟨hb, hbn⟩
      refine ⟨Or.inr ⟨hb, ?_⟩, hbn⟩
      rintro rfl
      exact hn (hbn.symm.trans hid)

end

/-! ## Callers -/

/-- A shared store, and the copies that the callers hold. -/
structure Callers (δ ρ : Type*) where
  store : δ
  copies : List ρ

/-- What may happen next: a further caller reads a row, or a caller calls on its copy. -/
inductive CallerEvent (σ τ : Type*) where
  | read (n : ℕ)
  | call (caller : ℕ) (target : σ) (now : τ)

namespace CompareAndSet

variable {δ ρ σ τ ε : Type*} (M : CompareAndSet δ ρ σ τ ε)

/-- The state after an event. -/
def next (c : Callers δ ρ) : CallerEvent σ τ → Callers δ ρ
  | .read n =>
    match M.find c.store n with
    | some r => { c with copies := c.copies ++ [r] }
    | none => c
  | .call k s t =>
    match c.copies[k]? with
    | some i =>
      let (_, store, copy) := M.transitionTo c.store i s t
      ⟨store, c.copies.set k copy⟩
    | none => c

/-- The state after a list of events. -/
def run (c : Callers δ ρ) : List (CallerEvent σ τ) → Callers δ ρ
  | [] => c
  | e :: es => run (M.next c e) es

/-- The move of the row `n` that an event makes: a call on a copy of it that does not raise. -/
def move (n : ℕ) (c : Callers δ ρ) : CallerEvent σ τ → Option (σ × τ)
  | .read _ => none
  | .call k s t =>
    match c.copies[k]? with
    | some i =>
      if M.key i = n then
        match M.transitionTo c.store i s t with
        | (.ok (), _, _) => some (s, t)
        | (.error _, _, _) => none
      else none
    | none => none

/-- The moves of the row `n` in a run. -/
def history (n : ℕ) (c : Callers δ ρ) : List (CallerEvent σ τ) → List (σ × τ)
  | [] => []
  | e :: es => (M.move n c e).toList ++ history n (M.next c e) es

/-- The statuses that the row `n` is moved to in a run. -/
def targets (n : ℕ) (c : Callers δ ρ) (es : List (CallerEvent σ τ)) : List σ :=
  (M.history n c es).map Prod.fst

/-- The row `n` has gone from `r` to `r'` in a run, along a path of the machine. -/
structure Path (n : ℕ) (c : Callers δ ρ) (es : List (CallerEvent σ τ)) (r r' : ρ) : Prop where
  found : M.find (run M c es).store n = some r'
  chain : List.IsChain (fun a b => b ∈ M.edges a) (M.status r :: M.targets n c es)
  last : M.status r' = (M.status r :: M.targets n c es).getLast (List.cons_ne_nil _ _)

/-- The row that a list of moves makes of a row. -/
def moved (r : ρ) (moves : List (σ × τ)) : ρ := moves.foldl (fun r m => M.stamp r m.1 m.2) r

/-! ## One call -/

variable {M} {d : δ} {i r : ρ} {s : σ} {t : τ} {c : Callers δ ρ} {n : ℕ}

/-- A call moves the row along one edge from the status of the copy, or it raises and changes
nothing. -/
theorem call_cases (M : CompareAndSet δ ρ σ τ ε) (d : δ) (i : ρ) (s : σ) (t : τ) :
    (∃ r d', s ∈ M.edges (M.status i) ∧ M.find d (M.key i) = some r ∧ M.status r = M.status i ∧
      M.transitionTo d i s t = (.ok (), d', M.stamp i s t) ∧
      ∀ n, M.find d' n = if n = M.key i then some (M.stamp r s t) else M.find d n) ∨
    ∃ e, M.Refusal e ∧ M.transitionTo d i s t = (.error e, d, i) := by
  by_cases h : s ∈ M.edges (M.status i) ∧
      ∃ r, M.find d (M.key i) = some r ∧ M.status r = M.status i
  · obtain ⟨hedge, r, hfind, hstatus⟩ := h
    obtain ⟨d', hcall, hrows⟩ := M.accepts (t := t) hedge hfind hstatus
    exact Or.inl ⟨r, d', hedge, hfind, hstatus, hcall, hrows⟩
  · exact Or.inr (M.refuses h)

/-- An event leaves a row alone, or moves it along an edge from its status. -/
theorem find_next (hr : M.find c.store n = some r) (e : CallerEvent σ τ) :
    (M.move n c e = none ∧ M.find (M.next c e).store n = some r) ∨
    ∃ s t, M.move n c e = some (s, t) ∧ s ∈ M.edges (M.status r) ∧
      M.find (M.next c e).store n = some (M.stamp r s t) := by
  cases e with
  | read m =>
    refine Or.inl ⟨rfl, ?_⟩
    unfold next
    cases hm : M.find c.store m with
    | none => simpa [hm] using hr
    | some r' => simpa [hm] using hr
  | call k s t =>
    cases hk : c.copies[k]? with
    | none => exact Or.inl ⟨by simp [move, hk], by simpa [next, hk] using hr⟩
    | some i =>
      rcases call_cases M c.store i s t with
        ⟨r', d', hedge, hfind, hstatus, hcall, hrows⟩ | ⟨err, -, hcall⟩
      · by_cases hn : M.key i = n
        · subst hn
          obtain rfl := Option.some.inj (hfind.symm.trans hr)
          refine Or.inr ⟨s, t, by simp [move, hk, hcall], hstatus ▸ hedge, ?_⟩
          simp [next, hk, hcall, hrows]
        · refine Or.inl ⟨by simp [move, hk, hn], ?_⟩
          simp only [next, hk, hcall, hrows, if_neg fun h => hn (Eq.symm h)]
          exact hr
      · exact Or.inl ⟨by simp [move, hk, hcall], by simpa [next, hk, hcall] using hr⟩

/-! ## A run -/

/-- After a run a row is what its moves make of it. -/
theorem find_run (hr : M.find c.store n = some r) (es : List (CallerEvent σ τ)) :
    M.find (M.run c es).store n = some (M.moved r (M.history n c es)) := by
  induction es generalizing c r with
  | nil => exact hr
  | cons e es ih =>
    unfold run history
    rcases find_next hr e with ⟨hmove, hnext⟩ | ⟨s, t, hmove, -, hnext⟩
    · rw [ih hnext, hmove]
      rfl
    · rw [ih hnext, hmove]
      rfl

/-- The statuses a row takes form a path. -/
theorem isChain_run (hr : M.find c.store n = some r) (es : List (CallerEvent σ τ)) :
    List.IsChain (fun a b => b ∈ M.edges a) (M.status r :: M.targets n c es) := by
  induction es generalizing c r with
  | nil => exact .singleton _
  | cons e es ih =>
    unfold targets history
    rcases find_next hr e with ⟨hmove, hnext⟩ | ⟨s, t, hmove, hedge, hnext⟩
    · rw [hmove]
      exact ih hnext
    · rw [hmove]
      have hrest := ih hnext
      rw [M.status_stamp] at hrest
      exact .cons_cons hedge hrest

/-- The status of a row is the end of the path. -/
theorem status_moved (M : CompareAndSet δ ρ σ τ ε) (r : ρ) (moves : List (σ × τ)) :
    M.status (M.moved r moves) =
      (M.status r :: moves.map Prod.fst).getLast (List.cons_ne_nil _ _) := by
  induction moves generalizing r with
  | nil => rfl
  | cons m moves ih =>
    have hstep : M.moved r (m :: moves) = M.moved (M.stamp r m.1 m.2) moves := rfl
    rw [hstep, ih, M.status_stamp, List.map_cons, List.getLast_cons_cons]

/-- A column that the moves to one status fill is filled exactly when that status was taken. -/
theorem mark_moved [DecidableEq σ] (mark : ρ → Option τ) (s₀ : σ)
    (hmark : ∀ r s t, mark (M.stamp r s t) = if s = s₀ then some t else mark r) (r : ρ)
    (moves : List (σ × τ)) :
    mark (M.moved r moves) ≠ none ↔ mark r ≠ none ∨ s₀ ∈ moves.map Prod.fst := by
  induction moves generalizing r with
  | nil => simp [moved]
  | cons m moves ih =>
    have hstep : M.moved r (m :: moves) = M.moved (M.stamp r m.1 m.2) moves := rfl
    rw [hstep, ih, hmark, List.map_cons, List.mem_cons]
    by_cases hm : m.1 = s₀
    · simp [hm]
    · simp [hm, Ne.symm hm]

/-- The history of a caller is a path of the stored row. -/
theorem path_run (hr : M.find c.store n = some r) (es : List (CallerEvent σ τ)) :
    M.Path n c es r (M.moved r (M.history n c es)) :=
  ⟨find_run hr es, isChain_run hr es, status_moved M r _⟩

end CompareAndSet

end Foundation
