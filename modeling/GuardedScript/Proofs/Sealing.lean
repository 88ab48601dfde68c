import GuardedScript.Proofs.Agreement

/-!
# Sealed variables

A policy seals a variable if it never lets a context ask its parent for it and derives no other
policy for calls.  Then no program in the context can tell what the contexts around it bind the
variable to, or whether they bind it at all (`Request.serve_sealed`).

Functions that are found further out run below their caller and so behind the same seal.  Global
writes do pass through the outer contexts, and may remove bindings there, but they ask no more than
the policies and do the same whatever is bound.
-/

set_option autoImplicit false

namespace GuardedScript

/-! ### Places of contexts -/

namespace Context

/-- The contexts around a context, innermost first. -/
def outer : Context → List Context
  | root _ => []
  | nested _ parent => parent.ancestry

/-- The ancestry of a context is the context itself and what is around it. -/
theorem ancestry_eq_cons (context : Context) : context.ancestry = context :: context.outer := by
  cases context with
  | root frame => rfl
  | nested frame parent => rfl

/-- A context is known by its ancestry. -/
theorem ancestry_injective {first second : Context} (h : first.ancestry = second.ancestry) :
    first = second := by
  rw [ancestry_eq_cons, ancestry_eq_cons] at h
  exact (List.cons.inj h).1

/-- A context was opened after those around it, each at a place of its own. -/
structure Lodged (context : Context) (store : Store) : Prop where
  stored : context.id < store.size
  ordered : context.ancestry.Pairwise (fun inner outer => outer.id < inner.id)

namespace Lodged

variable {context parent : Context} {frame : Frame} {store : Store}

/-- What is around a context has an earlier place. -/
theorem outer_lt (h : context.Lodged store) : ∀ outer ∈ context.outer, outer.id < context.id := by
  cases context with
  | root frame => exact fun _ hmem => absurd hmem List.not_mem_nil
  | nested frame parent => exact (List.pairwise_cons.mp h.ordered).1

/-- What is around a context is in the store as well. -/
theorem ancestry_lt (h : context.Lodged store) :
    ∀ scope ∈ context.ancestry, scope.id < store.size := by
  have hstored := h.stored
  intro scope hmem
  cases context with
  | root frame =>
    rw [List.mem_singleton.mp hmem]
    exact hstored
  | nested frame parent =>
    rcases List.mem_cons.mp hmem with rfl | houter
    · exact hstored
    · have hbelow := h.outer_lt scope houter
      omega

/-- The contexts around a context are placed as it is itself. -/
theorem of_append {around : Context} {inner : List Context} (lodged : context.Lodged store)
    (chain : context.ancestry = inner ++ around.ancestry) : around.Lodged store := by
  have hordered := lodged.ordered
  have hmem : around ∈ context.ancestry := by
    rw [chain]
    exact List.mem_append_right _ around.mem_ancestry_self
  rw [chain] at hordered
  exact ⟨lodged.ancestry_lt around hmem, (List.pairwise_append.mp hordered).2.1⟩

/-- A context has a place apart from those inside of it. -/
theorem id_ne_of_append {around scope : Context} {inner : List Context}
    (lodged : context.Lodged store) (chain : context.ancestry = inner ++ around.ancestry)
    (hscope : scope ∈ around.ancestry) : ∀ other ∈ inner, other.id ≠ scope.id := by
  have hordered := lodged.ordered
  rw [chain] at hordered
  intro other hother
  exact Nat.ne_of_gt ((List.pairwise_append.mp hordered).2.2 other hother scope hscope)

/-- A new root is at the last place. -/
theorem root (h : frame.id = store.size) : (Context.root frame).Lodged store.extend := by
  refine ⟨?_, List.pairwise_singleton _ _⟩
  show frame.id < store.extend.size
  rw [Store.size_extend]
  omega

/-- A new context is at the last place, behind those around it. -/
theorem nested (lodged : parent.Lodged store) (h : frame.id = store.size) :
    (Context.nested frame parent).Lodged store.extend := by
  refine ⟨?_, List.pairwise_cons.mpr ⟨?_, lodged.ordered⟩⟩
  · show frame.id < store.extend.size
    rw [Store.size_extend]
    omega
  · intro outer hmem
    show outer.id < frame.id
    rw [h]
    exact lodged.ancestry_lt outer hmem

/-- A context keeps its place in larger stores. -/
theorem mono {larger : Store} (h : context.Lodged store) (hsize : store.size ≤ larger.size) :
    context.Lodged larger :=
  ⟨Nat.lt_of_lt_of_le h.stored hsize, h.ordered⟩

/-! All ways to open a context keep to this. -/

/-- A context that a host opens. -/
theorem openRoot {parent : Option Context} {state : State}
    (lodged : ∀ context, parent = some context → context.Lodged state.store)
    (policy : Option Policy) (options : Option Options) :
    (Context.openRoot parent policy options state).1.Lodged
      (Context.openRoot parent policy options state).2.store := by
  cases parent with
  | none => exact Lodged.root rfl
  | some parent => exact (lodged parent rfl).nested rfl

/-- A scope that a context opens. -/
theorem openScope {state : State} (lodged : context.Lodged state.store) (marker : String) :
    (context.openScope marker state).1.Lodged (context.openScope marker state).2.store :=
  lodged.nested rfl

/-- The context of a call. -/
theorem openCall {state : State} (lodged : context.Lodged state.store) (function : Function)
    (policy : Policy) :
    (context.openCall function policy state).1.Lodged
      (context.openCall function policy state).2.store :=
  lodged.nested rfl

end Lodged

end Context

/-! ### Seals -/

/-- No context under the policy may ask its parent for the variable. -/
structure Policy.Seals (policy : Policy) (key : String) : Prop where
  refuses : ∀ site, ∃ reason, policy.answer site (.askParentForVariable key) = .failure reason
  persists : policy.Persists

/-- Hides a variable in the contexts around a context. -/
def Veil.sealed (context : Context) (key : String) : Veil where
  locals id name := name = key ∧ ∃ outer ∈ context.outer, outer.id = id
  functions _ _ := False

/-- A context under the policy of another one, at a place apart from those around that one, where
no policy looks at what is sealed. -/
structure Behind (context : Context) (key : String) (other : Context) : Prop where
  policy : other.policy = context.policy
  apart : ∀ outer ∈ context.outer, outer.id ≠ other.id
  ignores : other.Ignores (State.Alike (.sealed context key))

section Sealed

variable {context : Context} {key : String} {lower : Nat}

/-- The read of a sealed variable ends in the context itself. -/
theorem agrees_get_of_behind (seals : context.policy.Seals key) {other : Context}
    (behind : Behind context key other) (name : String) :
    Agrees (State.Alike (.sealed context key)) lower (other.get name) := by
  by_cases hname : name = key
  · subst hname
    have hvisible : ¬ (Veil.sealed context name).locals other.id name := by
      rintro ⟨-, outer, hmem, hid⟩
      exact behind.apart outer hmem hid
    refine agrees_get (alike_likeness _) behind.ignores (fun alike => alike.locals_eq hvisible) ?_
    cases other with
    | root frame => exact agrees_pure _
    | nested frame parent =>
      refine agrees_guarded (alike_likeness _) behind.ignores (fun _ => agrees_pure _)
        (fun store permits => ?_)
      obtain ⟨reason, hreason⟩ := seals.refuses ((Context.nested frame parent).site store)
      have hrefused : (Context.nested frame parent).decision store (.askParentForVariable name) =
          .failure reason := by
        rw [Context.decision, behind.policy, hreason]
      exact absurd hrefused (permits reason)
  · refine agrees_get_of_visible (alike_likeness _) behind.ignores (fun scope _ _ _ alike => ?_)
    exact alike.locals_eq (fun hidden => hname hidden.1)

/-- No context behind the seal comes to read what is sealed. -/
theorem sealed_confines (seals : context.policy.Seals key)
    (old : ∀ outer ∈ context.outer, outer.id < lower) :
    (Veil.sealed context key).Confines lower (Behind context key) where
  inherited := by
    have hpolicy := inherited_policy seals.persists lower
    constructor
    · intro other id marker placed behind
      refine ⟨hpolicy.scope marker placed behind.policy, ?_, behind.ignores.scopeAt id marker⟩
      intro outer hmem
      have hlt := old outer hmem
      rw [Context.id_scopeAt]
      omega
    · intro other store function placed behind permits derived
      refine ⟨hpolicy.call placed behind.policy permits derived, ?_,
        behind.ignores.calleeAt store function⟩
      intro outer hmem
      have hlt := old outer hmem
      rw [Context.id_calleeAt]
      omega
  ignores := Behind.ignores
  reads := fun behind name => agrees_get_of_behind seals behind name
  searches := fun _ _ _ _ _ hidden => hidden

end Sealed

/-- Sealed variables do not leak.  Let the policy of a context seal a variable, let no policy of the
context or of those around it look at the sealed bindings, and let two states differ in the bindings
of this variable in the contexts around it only.  Then every request in the context has the same
outcome in both states, leaves the same events, and ends in states that again differ in these
bindings only. -/
theorem Request.serve_sealed {context : Context} {key : String} {left right : State}
    (lodged : context.Lodged left.store) (seals : context.policy.Seals key)
    (ignores : context.Ignores (State.Alike (.sealed context key)))
    (alike : left.Alike (.sealed context key) right) (fuel : Nat) (request : Request) :
    (request.serve (perform fuel) context left).1 =
      (request.serve (perform fuel) context right).1 ∧
      (request.serve (perform fuel) context left).2.Alike (.sealed context key)
        (request.serve (perform fuel) context right).2 ∧
      ∃ events,
        (request.serve (perform fuel) context left).2.trace = events ++ left.trace ∧
        (request.serve (perform fuel) context right).2.trace = events ++ right.trace := by
  have hold : ∀ outer ∈ context.outer, outer.id < left.store.size := by
    intro outer hmem
    exact Nat.lt_trans (lodged.outer_lt outer hmem) lodged.stored
  have hbehind : Behind context key context := by
    refine ⟨rfl, ?_, ignores⟩
    intro outer hmem
    exact Nat.ne_of_lt (lodged.outer_lt outer hmem)
  exact (sealed_confines seals hold).serve fuel hbehind request (Nat.le_refl _) alike

/-- Refuses to ask parents for the variable `k`, and nothing else. -/
def sealingPolicy : Policy :=
  .custom "sealed"
    (fun _ check =>
      match check with
      | .askParentForVariable "k" => .failure (.accessDenied "sealed")
      | _ => .empty)
    (fun _ _ => .empty)

def sealedContext : Context :=
  .nested ⟨1, .global, sealingPolicy, {}⟩ (.root ⟨0, .global, .permissive, {}⟩)

/-- A root with a function `f` that reads `k`, and an empty context below it. -/
def unbound : State where
  store := ⟨#[⟨∅, (∅ : Table _).insert "f"
    [⟨0, "f", [], false, .script ⟨defaultMarker, [.evaluate (.reference "k")]⟩⟩]⟩, {}]⟩

/-- The same with `k` bound in the root. -/
def bound : State :=
  unbound.update 0 (fun registry => registry.setVariable "k" (.int 5))

/-- The function is found in the root, but is refused what it would read there. -/
theorem serve_sealed_function :
    let request := Request.evaluate (.call "f" [])
    sealedContext.Lodged unbound.store ∧ sealedContext.policy.Seals "k" ∧
      sealedContext.Ignores (State.Alike (.sealed sealedContext "k")) ∧
      unbound.Alike (.sealed sealedContext "k") bound ∧
      ((request.serve (perform 20) sealedContext unbound).1.bind Outcome.failure?).map
        Failure.code = some .accessDenied ∧
      (request.serve (perform 20) sealedContext unbound).1 =
        (request.serve (perform 20) sealedContext bound).1 ∧
      (request.serve (perform 20) sealedContext unbound).2.Alike (.sealed sealedContext "k")
        (request.serve (perform 20) sealedContext bound).2 ∧
      ∃ events,
        (request.serve (perform 20) sealedContext unbound).2.trace = events ++ unbound.trace ∧
        (request.serve (perform 20) sealedContext bound).2.trace = events ++ bound.trace := by
  intro request
  have lodged : sealedContext.Lodged unbound.store := ⟨by decide, by decide⟩
  have seals : sealedContext.policy.Seals "k" := ⟨fun _ => ⟨_, rfl⟩, fun _ _ => rfl⟩
  have ignores : sealedContext.Ignores (State.Alike (.sealed sealedContext "k")) := by
    refine List.forall_mem_cons.mpr ⟨?_, List.forall_mem_singleton.mpr .permissive⟩
    exact .custom "sealed" (fun _ _ _ => rfl) (fun _ _ _ => rfl) (fun _ _ _ heq => by cases heq)
  have hidden : (Veil.sealed sealedContext "k").locals 0 "k" :=
    ⟨rfl, .root ⟨0, .global, .permissive, {}⟩, List.mem_singleton.mpr rfl, rfl⟩
  have alike : unbound.Alike (.sealed sealedContext "k") bound :=
    State.alike_update (fun registry => registry.alike_setVariable hidden _) unbound
  exact ⟨lodged, seals, ignores, alike, by decide +kernel,
    Request.serve_sealed lodged seals ignores alike 20 request⟩

end GuardedScript
