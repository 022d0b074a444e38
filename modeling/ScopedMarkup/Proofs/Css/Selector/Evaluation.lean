import ScopedMarkup.Proofs.Css.Stack

/-! # What scoping a selector on a stack gives

Step by step, the text that is put together is that of the marked selector, and the first
fault on the way is the one that scoping finds. The calls that are open at once grow with
the levels of a selector and not with the length of its chains.
-/

namespace ScopedMarkup.Css.Selector

/-! ## Calls -/

/-- A chain takes two calls around those for its parts. -/
def callsAround (selector : Selector) : Nat := if selector.isChain then 2 else 0

mutual
/-- The most calls that are open at once while a selector is scoped, without those around
the parts of a chain. The left of a chain is gone down in a loop. -/
def partCalls : Selector → Nat
  | .simple _ | .foreign _ => 1
  | .negation argument => partCalls argument + callsAround argument + 1
  | .combine _ left right => max (partCalls left) (partCalls right + callsAround right)
  | .group members => callsIn members + 2
  | .compound members => argumentCalls members + 2

def callsIn : List Selector → Nat
  | [] => 0
  | member :: rest => max (partCalls member + callsAround member) (callsIn rest)

/-- The calls for the arguments of negations in a compound. -/
def argumentCalls : List Selector → Nat
  | .negation argument :: rest =>
      max (partCalls argument + callsAround argument) (argumentCalls rest)
  | _ :: rest => argumentCalls rest
  | [] => 0
end

/-- The most calls that are open at once while a selector is scoped. -/
def calls (selector : Selector) : Nat := partCalls selector + callsAround selector

theorem calls_of_not_isChain {selector : Selector} (alone : selector.isChain = false) :
    calls selector = partCalls selector := by
  rw [calls, callsAround, alone]
  rfl

theorem calls_pos : ∀ selector : Selector, 0 < calls selector
  | .combine .. => Nat.succ_pos _
  | .simple _ | .foreign _ | .negation _ | .group _ | .compound _ => Nat.succ_pos _

/-! ## Runs -/

variable {marker : Text} {limit : Nat}

/-- What the functions of a run know that marks with this name. -/
abbrev contextOf (marker : Text) (limit : Nat) : Context := ⟨'[' :: marker ++ [']'], limit⟩

/-- What a function that scopes selectors on this much room gives for each of them. -/
def Scopes (marker : Text) (limit room : Nat) (textAt : Nat → Selector → Except Halt Text) :
    Prop :=
  ∀ depth selector, Runs room (calls selector) (fault? limit depth selector)
    (mark marker selector).render (textAt depth selector)

variable {room depth : Nat} {textAt : Nat → Selector → Except Halt Text}

/-! ### Groups -/

theorem Scopes.members (scopes : Scopes marker limit room textAt) (depth : Nat) :
    ∀ members : List Selector, Runs room (callsIn members) (faultIn? limit depth members)
      (renderAll (markAll marker members)) (members.mapM (textAt depth))
  | [] => .done room []
  | member :: rest => by
      rw [List.mapM_cons]
      exact (scopes depth member).bind _
        ((scopes.members depth rest).map ((mark marker member).render :: ·))

/-! ### Chains -/

theorem appendLinks_concat (textAt : Nat → Selector → Except Halt Text) (depth : Nat)
    (head : Text) (links : List Link) (link : Link) :
    appendLinks textAt depth head (links ++ [link]) =
      (appendLinks textAt depth head links >>= fun text =>
        textAt (if link.right.isChain then depth + 1 else depth) link.right >>= fun right =>
          .ok (text ++ link.combinator.join ++ right)) := by
  rw [appendLinks, List.foldlM_append]
  refine bind_congr fun text => ?_
  simp only [List.foldlM_cons, List.foldlM_nil, bind_pure]
  rfl

/-- The parts of a chain one after the other, or a selector that is no chain. -/
theorem Scopes.parts (scopes : Scopes marker limit room textAt) (within : depth ≤ limit)
    (selector : Selector) :
    Runs room (partCalls selector) (fault? limit depth selector) (mark marker selector).render
      (textAt depth (unchain selector).1 >>= fun head =>
        appendLinks textAt depth head (unchain selector).2) := by
  induction selector using chainInduction with
  | head selector alone =>
      rw [unchain_of_not_isChain alone, ← calls_of_not_isChain alone]
      exact (scopes depth selector).map id
  | link combinator left right induction =>
      rw [unchain_combine, fault?, if_neg (Nat.not_lt.mpr within)]
      simp only [appendLinks_concat]
      rw [← bind_assoc]
      exact induction.bind _ ((scopes _ right).map
        fun text => (mark marker left).render ++ combinator.join ++ text)

/-! ### Compounds -/

/-- Behind a pseudo or a negation all members belong to the tail. -/
theorem Scopes.joinTail (scopes : Scopes marker limit room textAt) (depth : Nat)
    (head : List Text) : ∀ (tail : List Text) (members : List Selector), tail.isEmpty = false →
      Runs room (argumentCalls members) (memberFault? limit depth members)
        (head.flatten ++ (marked marker).render ++ tail.flatten ++
          (renderAll (markArguments marker members)).flatten)
        (joinMembers (textAt depth) (marked marker).render head tail members)
  | tail, [], _ => by
      rw [markArguments, renderAll, List.flatten_nil, List.append_nil]
      exact .done room _
  | tail, .negation argument :: rest, _ => by
      have later := scopes.joinTail depth head
        (tail ++ [":not(" ++ (mark marker argument).render ++ [')']]) rest (by simp)
      rw [List.flatten_concat] at later
      rw [markArguments, renderAll, List.flatten_cons, render, ← List.append_assoc,
        List.append_assoc _ tail.flatten]
      exact (scopes depth argument).bind _ later
  | tail, .simple part :: rest, behind => by
      have later := scopes.joinTail depth head (tail ++ [part.render]) rest (by simp)
      rw [List.flatten_concat] at later
      have marked : markArguments marker (.simple part :: rest) =
        .simple part :: markArguments marker rest := rfl
      rw [joinMembers, behind, Bool.not_false, Bool.or_true, if_pos rfl, marked, renderAll,
        List.flatten_cons, render, ← List.append_assoc, List.append_assoc _ tail.flatten]
      exact later
  | tail, .combine .. :: rest, _ => .refused ..
  | tail, .group _ :: rest, _ => .refused ..
  | tail, .compound _ :: rest, _ => .refused ..
  | tail, .foreign _ :: rest, _ => .refused ..

/-- Before the first pseudo or negation nothing is in the tail. -/
theorem Scopes.joinHead (scopes : Scopes marker limit room textAt) (depth : Nat) :
    ∀ (head : List Text) (members : List Selector),
      Runs room (argumentCalls members) (memberFault? limit depth members)
        (head.flatten ++ (renderAll (insertMarker marker (markArguments marker members))).flatten)
        (joinMembers (textAt depth) (marked marker).render head [] members)
  | head, [] => by
      have alone : (renderAll (insertMarker marker (markArguments marker []))).flatten =
        (marked marker).render := List.append_nil _
      rw [joinMembers, List.flatten_nil, List.append_nil, alone]
      exact .done room _
  | head, .negation argument :: rest => by
      have later := scopes.joinTail depth head
        [":not(" ++ (mark marker argument).render ++ [')']] rest rfl
      rw [List.flatten_singleton, List.append_assoc, List.append_assoc] at later
      exact (scopes depth argument).bind _ later
  | head, .simple part :: rest => by
      have marked : markArguments marker (.simple part :: rest) =
        .simple part :: markArguments marker rest := rfl
      rw [joinMembers, marked, insertMarker, isPseudo, List.isEmpty_nil, Bool.not_true,
        Bool.or_false]
      cases part.isPseudo with
      | true =>
          have later := scopes.joinTail depth head [part.render] rest rfl
          rw [List.flatten_singleton, List.append_assoc, List.append_assoc] at later
          exact later
      | false =>
          have later := scopes.joinHead depth (head ++ [part.render]) rest
          rw [List.flatten_concat, List.append_assoc] at later
          exact later
  | head, .combine .. :: rest => .refused ..
  | head, .compound _ :: rest => .refused ..
  | head, .group _ :: rest => .refused ..
  | head, .foreign _ :: rest => .refused ..

/-! ### Selectors -/

/-- On less room the functions of a run scope selectors. -/
def ScopesBelow (marker : Text) (limit room : Nat) : Prop :=
  ∀ left < room, Scopes marker limit left (textWithin (contextOf marker limit) left)

theorem ScopesBelow.group (scopes : ScopesBelow marker limit room) (depth : Nat)
    (members : List Selector) :
    Runs room (callsIn members + 1) (faultIn? limit depth members)
      (renderAll (markAll marker members))
      (groupWithin (contextOf marker limit) room depth members) := by
  cases room with
  | zero => exact .outOfStack (Nat.succ_pos _)
  | succ left => exact ((scopes left (Nat.lt_succ_self left)).members depth members).call

theorem ScopesBelow.chain (scopes : ScopesBelow marker limit room) (within : depth ≤ limit)
    (selector : Selector) :
    Runs room (partCalls selector + 1) (fault? limit depth selector)
      (mark marker selector).render
      (chainWithin (contextOf marker limit) room depth selector) := by
  cases room with
  | zero => exact .outOfStack (Nat.succ_pos _)
  | succ left => exact ((scopes left (Nat.lt_succ_self left)).parts within selector).call

theorem ScopesBelow.compound (scopes : ScopesBelow marker limit room) (within : depth ≤ limit)
    (members : List Selector) :
    Runs room (argumentCalls members + 1) (fault? limit depth (.compound members))
      (mark marker (.compound members)).render
      (compoundWithin (contextOf marker limit) room depth members) := by
  cases room with
  | zero => exact .outOfStack (Nat.succ_pos _)
  | succ left =>
      cases members with
      | nil =>
          rw [fault?, if_neg (Nat.not_lt.mpr within)]
          exact .refused ..
      | cons member rest =>
          rw [fault?, if_neg (Nat.not_lt.mpr within)]
          exact ((scopes left (Nat.lt_succ_self left)).joinHead (depth + 1) []
            (member :: rest)).call

theorem render_mark_negation (marker : Text) (argument : Selector) :
    (mark marker (.negation argument)).render =
      (marked marker).render ++ ":not(" ++ (mark marker argument).render ++ [')'] := by
  rw [mark, render, renderAll, renderAll, render, renderAll, List.flatten_cons,
    List.flatten_singleton, List.append_assoc, List.append_assoc, List.append_assoc]

theorem textWithin_simple (within : depth ≤ limit) (part : Simple) :
    textWithin (contextOf marker limit) (room + 1) depth (.simple part) =
      .ok (mark marker (.simple part)).render := by
  cases part <;>
    simp [textWithin, Nat.not_lt.mpr within, mark, Simple.isPseudo, render, renderAll, marked,
      Simple.render]

/-- On any room, the functions of a run scope selectors. -/
theorem scopes_textWithin (marker : Text) (limit room : Nat) :
    Scopes marker limit room (textWithin (contextOf marker limit) room) := by
  induction room using Nat.strongRecOn with
  | ind room below =>
      intro depth selector
      cases room with
      | zero => exact .outOfStack (calls_pos selector)
      | succ room =>
          have scopes := below room (Nat.lt_succ_self room)
          have scopesBelow : ScopesBelow marker limit room := fun left less =>
            below left (Nat.lt_succ_of_lt less)
          by_cases deep : depth > limit
          · rw [textWithin.eq_def, fault?.eq_def, if_pos deep]
            dsimp only
            rw [if_pos deep]
            exact .refused ..
          · have within := Nat.not_lt.mp deep
            cases selector with
            | simple part =>
                rw [textWithin_simple within, fault?, if_neg deep]
                exact (Runs.done room _).call
            | negation argument =>
                rw [textWithin, fault?, if_neg deep, if_neg deep, render_mark_negation]
                exact ((scopes (depth + 1) argument).map
                  fun text => (marked marker).render ++ ":not(" ++ text ++ [')']).call
            | combine combinator left right =>
                rw [textWithin, if_neg deep]
                exact (scopesBelow.chain within _).call
            | group members =>
                cases members with
                | nil =>
                    rw [textWithin, fault?, if_neg deep, if_neg deep]
                    exact .refused ..
                | cons member rest =>
                    rw [textWithin, fault?, if_neg deep, if_neg deep]
                    have inside := scopesBelow.group (depth + 1) (member :: rest)
                    exact (inside.map (Text.join ", ")).call
            | compound members =>
                rw [textWithin, if_neg deep]
                exact (scopesBelow.compound within members).call
            | foreign value =>
                rw [textWithin, fault?, if_neg deep, if_neg deep]
                exact .refused ..

/-! ## Scoping a selector -/

theorem evaluate_runs {scope : Text} (nonempty : scope ≠ []) (room : Nat)
    (selector : Selector) (config : Config) :
    Runs room (calls selector + 1) (selector.fault? config.maxDepth 0)
      (selector.mark (config.marker scope)).render (selector.evaluate room scope config) := by
  cases room with
  | zero => exact .outOfStack (Nat.succ_pos _)
  | succ room =>
      rw [evaluate, Context.make, if_neg nonempty]
      exact (scopes_textWithin (config.marker scope) config.maxDepth room 0 selector).call

/-- On a stack with room for its calls a selector is scoped as on any other; with less room,
nothing else comes out. -/
theorem evaluate_eq_scope (room : Nat) (selector : Selector) (scope : Text) (config : Config) :
    (selector.evaluate room scope config = (selector.scope scope config).mapError .refused ∨
      selector.evaluate room scope config = .error .outOfStack) ∧
    (calls selector < room →
      selector.evaluate room scope config = (selector.scope scope config).mapError .refused) := by
  by_cases empty : scope = []
  · rw [Selector.scope, if_pos empty]
    cases room with
    | zero => exact ⟨.inr rfl, nofun⟩
    | succ room =>
        rw [evaluate, Context.make, if_pos empty]
        exact ⟨.inl rfl, fun _ => rfl⟩
  · have plain : (selector.scope scope config).mapError .refused =
        stopAt ((selector.fault? config.maxDepth 0).map Halt.refused)
          (selector.mark (config.marker scope)).render := by
      rw [Selector.scope, if_neg empty]
      cases selector.fault? config.maxDepth 0 <;> rfl
    have runs := evaluate_runs empty room selector config
    rw [plain]
    exact ⟨runs.agrees, runs.complete⟩

end ScopedMarkup.Css.Selector
