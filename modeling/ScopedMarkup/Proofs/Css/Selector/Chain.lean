import ScopedMarkup.Css.Selector.Chain
import ScopedMarkup.Proofs.Css.Selector.Acceptance

/-! # Chains link by link

A chain may be any length, so what is done with one goes through its links in a loop. The
loop gives what recursion on both sides of each combinator gives: for its text, and for its
scoped text at any depth.
-/

namespace ScopedMarkup.Css.Selector

variable {ε : Type}

/-! ## Loops over links -/

/-- How many combinators are passed on the way down the left of a selector. -/
def spineLength : Selector → Nat
  | .combine _ left _ => spineLength left + 1
  | _ => 0

theorem isChain_head (selector : Selector) : (unchain selector).1.isChain = false := by
  induction selector using chainInduction with
  | head selector alone => rwa [unchain_of_not_isChain alone]
  | link combinator left right induction => rwa [unchain_combine]

theorem length_links (selector : Selector) :
    (unchain selector).2.length = spineLength selector := by
  induction selector using chainInduction with
  | head selector alone =>
      rw [unchain_of_not_isChain alone]
      cases selector with
      | combine => cases alone
      | _ => rfl
  | link combinator left right induction =>
      rw [unchain_combine, List.length_append, induction, spineLength]
      rfl

/-- The text of a combinator's two sides with its join between them. The failure of the left
side comes first. -/
def joinSides (combinator : Combinator) (left right : Except ε Text) : Except ε Text :=
  match left with
  | .error error => .error error
  | .ok text => right.map fun more => text ++ combinator.join ++ more

theorem joinSides_eq_ok_iff {combinator : Combinator} {left right : Except ε Text} {out : Text} :
    joinSides combinator left right = .ok out ↔
      ∃ text more, left = .ok text ∧ right = .ok more ∧ out = text ++ combinator.join ++ more := by
  cases left <;> cases right <;> simp [joinSides, Except.map, eq_comm]

/-- The text of a chain, given the ways to write its head and the right sides of its links. -/
def writeLinks (head right : Selector → Except ε Text) (chain : Selector × List Link) :
    Except ε Text :=
  chain.2.foldl (fun text link => joinSides link.combinator text (right link.right))
    (head chain.1)

/-- A writer that recurses on both sides of a combinator goes link by link as well. -/
theorem writeLinks_unchain {write right : Selector → Except ε Text}
    (recursion : ∀ combinator left other,
      write (.combine combinator left other) = joinSides combinator (write left) (right other))
    (selector : Selector) : writeLinks write right (unchain selector) = write selector := by
  induction selector using chainInduction with
  | head selector alone =>
      rw [unchain_of_not_isChain alone]
      rfl
  | link combinator left other induction =>
      rw [recursion, ← induction, unchain_combine, writeLinks, List.foldl_append]
      rfl

/-! ## The text of a chain -/

theorem write_combine (combinator : Combinator) (left right : Selector) :
    write (.combine combinator left right) = joinSides combinator left.write right.write := by
  rw [write, foreign?, write, write]
  cases left.foreign? <;> cases right.foreign? <;> rfl

/-! ## The scoped text of a chain -/

/-- The text of the selector marked at a depth. -/
def scopeAt (limit : Nat) (marker : Text) (depth : Nat) (selector : Selector) :
    Except ScopeError Text :=
  match selector.fault? limit depth with
  | some error => .error error
  | none => .ok (selector.mark marker).render

/-- The depth of the right side of a combinator. Only a chain there is deeper. -/
def rightDepth (depth : Nat) (right : Selector) : Nat :=
  if right.isChain then depth + 1 else depth

section Scoped

variable {limit depth deeper : Nat} {marker : Text} {selector : Selector}

theorem scope_eq_scopeAt {scope : Text} (nonempty : scope ≠ []) (config : Config)
    (selector : Selector) :
    selector.scope scope config =
      scopeAt config.maxDepth (config.marker scope) 0 selector := by
  rw [Selector.scope, if_neg nonempty]
  rfl

theorem fault?_of_deep (deep : depth > limit) (selector : Selector) :
    selector.fault? limit depth = some (.selectorTooDeep limit) := by
  rw [fault?.eq_def, if_pos deep]

theorem scopeAt_combine (limit : Nat) (marker : Text) (depth : Nat) (combinator : Combinator)
    (left right : Selector) :
    scopeAt limit marker depth (.combine combinator left right) =
      joinSides combinator (scopeAt limit marker depth left)
        (scopeAt limit marker (rightDepth depth right) right) := by
  by_cases deep : depth > limit
  · rw [scopeAt, fault?_of_deep deep, scopeAt, fault?_of_deep deep]
    rfl
  · rw [scopeAt, fault?, if_neg deep, scopeAt, scopeAt, rightDepth]
    cases left.fault? limit depth <;> cases right.fault? limit _ <;> rfl

/-- What is accepted at a depth is accepted where there is less around it. -/
theorem fault?_eq_none_of_le (le : depth ≤ deeper)
    (accepted : selector.fault? limit deeper = none) : selector.fault? limit depth = none := by
  have composed := composed_of_fault?_eq_none selector accepted
  rw [fault?_of_composed limit _ selector composed, depthFault?] at accepted ⊢
  grind

theorem scopeAt_of_le {out : Text} (le : depth ≤ deeper)
    (succeeded : scopeAt limit marker deeper selector = .ok out) :
    scopeAt limit marker depth selector = .ok out := by
  unfold scopeAt at succeeded ⊢
  split at succeeded
  · cases succeeded
  · rename_i accepted
    rwa [fault?_eq_none_of_le le accepted]

/-- A chain that scoping accepts has sides that it accepts each by itself. -/
theorem exists_scope_of_combine {scope out : Text} {config : Config} {combinator : Combinator}
    {left right : Selector}
    (succeeded : (combine combinator left right).scope scope config = .ok out) :
    ∃ text more, left.scope scope config = .ok text ∧ right.scope scope config = .ok more ∧
      out = text ++ combinator.join ++ more := by
  have nonempty := (scope_eq_ok_iff.mp succeeded).1
  rw [scope_eq_scopeAt nonempty, scopeAt_combine] at succeeded
  obtain ⟨text, more, onLeft, onRight, rfl⟩ := joinSides_eq_ok_iff.mp succeeded
  rw [scope_eq_scopeAt nonempty, scope_eq_scopeAt nonempty]
  exact ⟨text, more, onLeft, scopeAt_of_le (Nat.zero_le _) onRight, rfl⟩

end Scoped

/-- A chain is its head with its links, and the loop over these is the recursion on both
sides of a combinator. Both ways give the same text or the same failure, and the same scoped
text at each depth. The sides of a chain that scoping accepts have scoped texts by
themselves, also where a chain on the right is a level deeper in the whole. -/
theorem link_by_link (selector : Selector) :
    ((unchain selector).1.isChain = false ∧
      (unchain selector).2.length = spineLength selector ∧
      ofChain (unchain selector).1 (unchain selector).2 = selector) ∧
    selector.write = writeLinks write write (unchain selector) ∧
    (∀ limit marker depth, scopeAt limit marker depth selector =
      writeLinks (scopeAt limit marker depth)
        (fun right => scopeAt limit marker (rightDepth depth right) right) (unchain selector)) ∧
    (∀ scope config, scope ≠ [] →
      selector.scope scope config = scopeAt config.maxDepth (config.marker scope) 0 selector) ∧
    ∀ combinator left right, selector = .combine combinator left right →
      selector.write = joinSides combinator left.write right.write ∧
      ∀ scope config out, selector.scope scope config = .ok out →
        ∃ text more, left.scope scope config = .ok text ∧ right.scope scope config = .ok more ∧
          out = text ++ combinator.join ++ more := by
  refine ⟨⟨isChain_head selector, length_links selector, ofChain_unchain selector⟩,
    (writeLinks_unchain write_combine selector).symm, fun limit marker depth => ?_,
    fun scope config nonempty => scope_eq_scopeAt nonempty config selector, ?_⟩
  · exact (writeLinks_unchain (scopeAt_combine limit marker depth) selector).symm
  · rintro combinator left right rfl
    exact ⟨write_combine combinator left right,
      fun scope config out succeeded => exists_scope_of_combine succeeded⟩

/-- The chain on the right is a level deeper in the whole, and none by itself. -/
theorem link_by_link_chain_on_right :
    let inner : Selector :=
      .combine .descendant (.simple (.className "b")) (.simple (.pseudo ":" "c"))
    let chain : Selector := .combine .child (.simple (.type "a")) inner
    let limited : Config := { maxDepth := 1 }
    ("x" : Text) ≠ [] ∧
    chain.scope "x" limited = scopeAt 1 "data-pc-x" 0 chain ∧
    chain.scope "x" limited = .ok "a[data-pc-x] > .b[data-pc-x] [data-pc-x]:c" ∧
    ∃ text more, Selector.scope (.simple (.type "a")) "x" limited = .ok text ∧
      inner.scope "x" limited = .ok more ∧
      "a[data-pc-x] > .b[data-pc-x] [data-pc-x]:c" = text ++ Combinator.child.join ++ more := by
  intro inner chain limited
  obtain ⟨-, -, -, atTop, sides⟩ := link_by_link chain
  have succeeded : chain.scope "x" limited =
      .ok "a[data-pc-x] > .b[data-pc-x] [data-pc-x]:c" := by decide +kernel
  exact ⟨by decide, atTop "x" limited (by decide), succeeded,
    (sides .child (.simple (.type "a")) inner rfl).2 "x" limited _ succeeded⟩

end ScopedMarkup.Css.Selector
