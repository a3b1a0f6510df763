import Mathlib.Data.List.Forall2
import Mathlib.Data.List.Nodup

/-!
# Go `range` loops that return at the first error

`Config.Check` is a sequence of `for i, x := range xs` loops whose bodies `return` an
error at the first violation and otherwise rewrite `x` in place and update a local map.
The three loop shapes below follow that control flow by structural recursion on the
list, and the lemmas read a successful loop back as a fact about every element.
Go `error` values are represented by their `Error()` text.
-/

namespace TlsProxy

@[simp]
theorem except_bind_eq_ok {ε α β : Type} {x : Except ε α} {f : α → Except ε β} {b : β} :
    x >>= f = .ok b ↔ ∃ a, x = .ok a ∧ f a = .ok b := by
  cases x <;> simp [bind, Except.bind]

@[simp]
theorem except_ok_bind {ε α β : Type} {a : α} {f : α → Except ε β} :
    (Except.ok a : Except ε α) >>= f = f a :=
  rfl

@[simp]
theorem except_pure_eq_ok {ε α : Type} {a b : α} : (pure a : Except ε α) = .ok b ↔ a = b := by
  simp [pure, Except.pure]

theorem forall₂_trans {α β γ : Type} {R : α → β → Prop} {S : β → γ → Prop} {T : α → γ → Prop}
    (compose : ∀ a b c, R a b → S b c → T a c) :
    ∀ {as bs cs}, List.Forall₂ R as bs → List.Forall₂ S bs cs → List.Forall₂ T as cs
  | _, _, _, .nil, .nil => .nil
  | _, _, _, .cons r rs, .cons s ss => .cons (compose _ _ _ r s) (forall₂_trans compose rs ss)

theorem forall₂_mem_right {α β : Type} {P : β → Prop} :
    ∀ {as : List α} {bs : List β}, List.Forall₂ (fun _ b => P b) as bs → ∀ b ∈ bs, P b
  | _, _, .nil => by simp
  | _, _, .cons first rest => List.forall_mem_cons.mpr ⟨first, forall₂_mem_right rest⟩

theorem forall₂_exists_left {α β : Type} {R : α → β → Prop} :
    ∀ {as : List α} {bs : List β}, List.Forall₂ R as bs → ∀ b ∈ bs, ∃ a ∈ as, R a b
  | _, _, .nil => by simp
  | _, _, .cons first rest => List.forall_mem_cons.mpr
    ⟨⟨_, List.mem_cons_self _ _, first⟩, fun b member =>
      (forall₂_exists_left rest b member).imp fun _ ⟨inTail, related⟩ =>
        ⟨List.mem_cons_of_mem _ inTail, related⟩⟩

/-- `Pairwise` carries over element by element along `Forall₂`. -/
theorem forall₂_pairwise {α β : Type} {R : α → β → Prop} {P : α → α → Prop} {Q : β → β → Prop}
    (transfer : ∀ a b a' b', R a a' → R b b' → P a b → Q a' b') :
    ∀ {as : List α} {bs : List β}, List.Forall₂ R as bs → as.Pairwise P → bs.Pairwise Q
  | _, _, .nil, _ => .nil
  | _, _, .cons first rest, pairwise => by
    rw [List.pairwise_cons] at pairwise ⊢
    refine ⟨fun b member => ?_, forall₂_pairwise transfer rest pairwise.2⟩
    obtain ⟨a, inTail, related⟩ := forall₂_exists_left rest b member
    exact transfer _ _ _ _ first related (pairwise.1 a inTail)

/-- The field path `name[i]` that Go's `fmt.Errorf("name[%d]...", i)` writes. -/
def indexed (name : String) (i : Nat) : String :=
  name ++ "[" ++ toString i ++ "]"

/-- `if cond { return errors.New(msg) }`. -/
def failIf (cond : Prop) [Decidable cond] (msg : String) : Except String Unit :=
  if cond then .error msg else .ok ()

@[simp]
theorem failIf_eq_ok {cond : Prop} [Decidable cond] {msg : String} {u : Unit} :
    failIf cond msg = .ok u ↔ ¬cond := by
  unfold failIf
  split <;> simp_all

/-- `fmt.Errorf("<field>: %w", err)` around a fallible call. -/
def wrapError {α : Type} (field : String) : Except String α → Except String α
  | .error e => .error (field ++ ": " ++ e)
  | .ok a => .ok a

@[simp]
theorem wrapError_eq_ok {α : Type} {field : String} {x : Except String α} {a : α} :
    wrapError field x = .ok a ↔ x = .ok a := by
  cases x <;> simp [wrapError]

section Loops

variable {α σ : Type}

/-- `for i, x := range xs` from index `i` with local state `s`: the body rewrites `x` and
the state, or returns an error that ends the loop. -/
def rangeLoop (body : Nat → α → σ → Except String (α × σ)) :
    Nat → List α → σ → Except String (List α × σ)
  | _, [], s => .ok ([], s)
  | i, x :: xs, s =>
    match body i x s with
    | .error e => .error e
    | .ok (y, s') =>
      match rangeLoop body (i + 1) xs s' with
      | .error e => .error e
      | .ok (ys, t) => .ok (y :: ys, t)

/-- `for i, x := range xs` without local state: the body rewrites `x` in place, or maps
it to the value appended to a result slice. -/
def rangeMap {β : Type} (body : Nat → α → Except String β) : Nat → List α → Except String (List β)
  | _, [] => .ok []
  | i, x :: xs =>
    match body i x with
    | .error e => .error e
    | .ok y =>
      match rangeMap body (i + 1) xs with
      | .error e => .error e
      | .ok ys => .ok (y :: ys)

/-- `for i, x := range xs` whose body only tests `x`. -/
def rangeCheck (body : Nat → α → Except String Unit) : Nat → List α → Except String Unit
  | _, [] => .ok ()
  | i, x :: xs =>
    match body i x with
    | .error e => .error e
    | .ok () => rangeCheck body (i + 1) xs

variable {body : Nat → α → σ → Except String (α × σ)}

theorem rangeLoop_cons_eq_ok {i : Nat} {x : α} {xs ys : List α} {s t : σ} :
    rangeLoop body i (x :: xs) s = .ok (ys, t) ↔
      ∃ y s' ys', body i x s = .ok (y, s') ∧ rangeLoop body (i + 1) xs s' = .ok (ys', t) ∧
        ys = y :: ys' := by
  simp only [rangeLoop]
  rcases first : body i x s with e | ⟨y, s'⟩
  · simp
  · rcases rest : rangeLoop body (i + 1) xs s' with e | ⟨ys', t'⟩ <;> simp [rest]
    constructor
    · rintro ⟨rfl, rfl⟩
      exact ⟨y, s', ⟨rfl, rfl⟩, ys', rest, rfl⟩
    · rintro ⟨_, _, ⟨rfl, rfl⟩, ys'', rest', rfl⟩
      rw [rest] at rest'
      cases rest'
      exact ⟨rfl, rfl⟩

/-- A successful loop relates every element to its rewrite by each relation `R` that a
successful body step establishes, as long as the steps keep the state invariant `Inv`. -/
theorem rangeLoop_forall₂ {R : α → α → Prop} (Inv : σ → Prop)
    (step : ∀ i x s y s', Inv s → body i x s = .ok (y, s') → R x y ∧ Inv s') :
    ∀ {i xs ys s t}, Inv s → rangeLoop body i xs s = .ok (ys, t) →
      List.Forall₂ R xs ys ∧ Inv t
  | _, [], _, _, _, invariant, loop => by
    simp only [rangeLoop, Except.ok.injEq, Prod.mk.injEq] at loop
    obtain ⟨rfl, rfl⟩ := loop
    exact ⟨.nil, invariant⟩
  | _, _ :: _, _, _, _, invariant, loop => by
    obtain ⟨y, s', ys', first, rest, rfl⟩ := rangeLoop_cons_eq_ok.mp loop
    have ⟨related, invariant'⟩ := step _ _ _ _ _ invariant first
    have ⟨restRelated, final⟩ := rangeLoop_forall₂ Inv step invariant' rest
    exact ⟨.cons related restRelated, final⟩

/-- A loop whose body appends `f x` to a list state ends with all the `f x` appended. -/
theorem rangeMap_forall₂ {β : Type} {body : Nat → α → Except String β} {R : α → β → Prop}
    (step : ∀ i x y, body i x = .ok y → R x y) :
    ∀ {i xs ys}, rangeMap body i xs = .ok ys → List.Forall₂ R xs ys
  | _, [], _, loop => by
    simp only [rangeMap, Except.ok.injEq] at loop
    exact loop ▸ .nil
  | i, x :: xs, ys, loop => by
    simp only [rangeMap] at loop
    split at loop <;> [simp at loop; skip]
    split at loop <;> simp only [Except.ok.injEq, reduceCtorEq] at loop
    subst loop
    exact .cons (step _ _ _ ‹_›) (rangeMap_forall₂ step ‹_›)

theorem rangeCheck_forall {body : Nat → α → Except String Unit} {P : α → Prop}
    (step : ∀ i x, body i x = .ok () → P x) :
    ∀ {i xs}, rangeCheck body i xs = .ok () → ∀ x ∈ xs, P x
  | _, [], _ => by simp
  | i, x :: xs, loop => by
    simp only [rangeCheck] at loop
    split at loop
    · simp at loop
    · exact List.forall_mem_cons.mpr ⟨step i x ‹_›, rangeCheck_forall step loop⟩

/-- A loop that registers the name of each element in a list of names seen so far, and
fails on a name already there, ends with every name registered once. -/
theorem rangeLoop_registry {β : Type} {body : Nat → α → List β → Except String (α × List β)}
    (name : α → β)
    (step : ∀ i x s y s', body i x s = .ok (y, s') →
      s' = s ++ [name x] ∧ name x ∉ s ∧ name y = name x) :
    ∀ {i xs ys s t}, s.Nodup → rangeLoop body i xs s = .ok (ys, t) →
      t = s ++ ys.map name ∧ t.Nodup
  | _, [], _, _, _, nodup, loop => by
    simp only [rangeLoop, Except.ok.injEq, Prod.mk.injEq] at loop
    obtain ⟨rfl, rfl⟩ := loop
    simpa using nodup
  | _, _ :: _, _, _, _, nodup, loop => by
    obtain ⟨y, s', ys', first, rest, rfl⟩ := rangeLoop_cons_eq_ok.mp loop
    obtain ⟨rfl, fresh, renamed⟩ := step _ _ _ _ _ first
    have nodup' : (_ ++ [name _]).Nodup :=
      nodup.append (List.nodup_singleton _) (List.disjoint_singleton.mpr fresh)
    obtain ⟨rfl, final⟩ := rangeLoop_registry name step nodup' rest
    exact ⟨by simp [renamed], final⟩

/-- In a registry loop whose body checks `Q` against the names registered so far, its own
included, each element satisfies `Q` for the names registered before the loop, those of the
elements before it, and its own. -/
theorem rangeLoop_registry_refs {β : Type} {body : Nat → α → List β → Except String (α × List β)}
    (name : α → β) (Q : List β → α → Prop)
    (step : ∀ i x s y s', body i x s = .ok (y, s') →
      s' = s ++ [name x] ∧ name y = name x ∧ Q s' y) :
    ∀ {i xs ys s t}, rangeLoop body i xs s = .ok (ys, t) →
      ∀ earlier y later, ys = earlier ++ y :: later → Q (s ++ earlier.map name ++ [name y]) y
  | _, [], _, _, _, loop, earlier, _, _, split => by
    simp only [rangeLoop, Except.ok.injEq, Prod.mk.injEq] at loop
    cases earlier <;> simp [← loop.1] at split
  | _, _ :: _, _, _, _, loop, earlier, y, later, split => by
    obtain ⟨y₀, s', ys', first, rest, rfl⟩ := rangeLoop_cons_eq_ok.mp loop
    obtain ⟨rfl, renamed, checked⟩ := step _ _ _ _ _ first
    cases earlier with
    | nil =>
      obtain ⟨rfl, -⟩ := List.cons.inj split
      simpa [renamed] using checked
    | cons e earlier =>
      obtain ⟨rfl, tail⟩ := List.cons.inj split
      simpa [renamed] using rangeLoop_registry_refs name Q step rest earlier y later tail

/-- A loop run a second time, by a body `body'`, on elements related by `R` to those the
first run returned and from a state related by `S` to the first run's: when each second
step returns its element unchanged and a related state, the second run returns the
elements unchanged. -/
theorem rangeLoop_fixpoint {body body' : Nat → α → σ → Except String (α × σ)}
    {R : α → α → Prop} {S : σ → σ → Prop}
    (fixed : ∀ i x s y s' z r, body i x s = .ok (y, s') → R y z → S s r →
      ∃ r', body' i z r = .ok (z, r') ∧ S s' r') :
    ∀ {i xs s ys t zs r}, rangeLoop body i xs s = .ok (ys, t) → List.Forall₂ R ys zs →
      S s r → ∃ t', rangeLoop body' i zs r = .ok (zs, t') ∧ S t t'
  | _, [], _, _, _, _, _, loop, related, same => by
    simp only [rangeLoop, Except.ok.injEq, Prod.mk.injEq] at loop
    obtain ⟨rfl, rfl⟩ := loop
    cases related
    exact ⟨_, rfl, same⟩
  | _, _ :: _, _, _, _, _, _, loop, related, same => by
    obtain ⟨y, s', ys', first, rest, rfl⟩ := rangeLoop_cons_eq_ok.mp loop
    cases related with
    | cons head tail =>
      obtain ⟨r', first', same'⟩ := fixed _ _ _ _ _ _ _ first head same
      obtain ⟨t', rest', final⟩ := rangeLoop_fixpoint fixed rest tail same'
      exact ⟨t', rangeLoop_cons_eq_ok.mpr ⟨_, _, _, first', rest', rfl⟩, final⟩

theorem rangeMap_cons_eq_ok {β : Type} {body : Nat → α → Except String β} {i : Nat} {x : α}
    {xs : List α} {ys : List β} :
    rangeMap body i (x :: xs) = .ok ys ↔
      ∃ y ys', body i x = .ok y ∧ rangeMap body (i + 1) xs = .ok ys' ∧ ys = y :: ys' := by
  simp only [rangeMap]
  rcases first : body i x with e | y
  · simp
  · rcases rest : rangeMap body (i + 1) xs with e | ys' <;> simp [eq_comm]

/-- `rangeLoop_fixpoint` for one body run again on its own result from the same state. -/
theorem rangeLoop_fixpoint_eq {body : Nat → α → σ → Except String (α × σ)} {i : Nat}
    {xs ys : List α} {s t : σ} (loop : rangeLoop body i xs s = .ok (ys, t))
    (fixed : ∀ j x r y r', body j x r = .ok (y, r') → body j y r = .ok (y, r')) :
    rangeLoop body i ys s = .ok (ys, t) := by
  obtain ⟨_, loop', same⟩ := rangeLoop_fixpoint (R := Eq) (S := Eq)
    (fun _ _ _ _ _ _ _ step same same' => by subst same same'; exact ⟨_, fixed _ _ _ _ _ step, rfl⟩)
    loop (List.forall₂_same.mpr fun _ _ => rfl) rfl
  rwa [← same] at loop'

/-- `rangeLoop_fixpoint` for a loop without state. -/
theorem rangeMap_fixpoint {body body' : Nat → α → Except String α} {R : α → α → Prop}
    (fixed : ∀ i x y z, body i x = .ok y → R y z → body' i z = .ok z) :
    ∀ {i xs ys zs}, rangeMap body i xs = .ok ys → List.Forall₂ R ys zs →
      rangeMap body' i zs = .ok zs
  | _, [], _, _, loop, related => by
    simp only [rangeMap, Except.ok.injEq] at loop
    subst loop
    cases related
    rfl
  | _, _ :: _, _, _, loop, related => by
    obtain ⟨y, ys', first, rest, rfl⟩ := rangeMap_cons_eq_ok.mp loop
    cases related with
    | cons head tail =>
      exact rangeMap_cons_eq_ok.mpr ⟨_, _, fixed _ _ _ _ first head,
        rangeMap_fixpoint fixed rest tail, rfl⟩

end Loops

end TlsProxy
