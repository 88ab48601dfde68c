import GuardedScript.Policy

/-!
# Contexts

A context is a chain of frames from the innermost one outward.  A frame says what the context is
for, which policy guards it, and in which registry its variables and functions are kept.  Parents
never see their children.
-/

set_option autoImplicit false

namespace GuardedScript

/-- One link of a chain of contexts. -/
structure Frame where
  /-- The place of the registry of the frame in the store. -/
  id : Nat
  kind : Kind
  policy : Policy
  options : Options

/-- A frame and the frames around it. -/
inductive Context
  | root (frame : Frame)
  | nested (frame : Frame) (parent : Context)

namespace Context

/-- The innermost frame. -/
def frame : Context → Frame
  | root frame => frame
  | nested frame _ => frame

/-- The context around this one. -/
def parent? : Context → Option Context
  | root _ => none
  | nested _ parent => some parent

/-- The place of the registry in the store. -/
def id (context : Context) : Nat :=
  context.frame.id

/-- What the context is for. -/
def kind (context : Context) : Kind :=
  context.frame.kind

/-- The policy that guards the context. -/
def policy (context : Context) : Policy :=
  context.frame.policy

/-- The options of the context. -/
def options (context : Context) : Options :=
  context.frame.options

/-- The number of contexts around this one. -/
def depth : Context → Nat
  | root _ => 0
  | nested _ parent => parent.depth + 1

/-- The context itself and the contexts around it, innermost first. -/
def ancestry : Context → List Context
  | root frame => [root frame]
  | nested frame parent => nested frame parent :: parent.ancestry

/-- The kinds of the context and of those around it, innermost first. -/
def lineage : Context → List Kind
  | root frame => [frame.kind]
  | nested frame parent => frame.kind :: parent.lineage

/-- The function that a call context runs. -/
def invoked? (context : Context) : Option Function :=
  context.kind.invoked?

/-- The registries of the context and of those around it in a store, innermost first. -/
def registries (context : Context) (store : Store) : List Registry :=
  context.ancestry.map (fun ancestor => store.registry ancestor.id)

/-- What policies see of the context in a store, which is empty unless it is given. -/
def site (context : Context) (store : Store := {}) : Site :=
  ⟨⟨fun _ => context.lineage⟩, context.options, ⟨fun _ => context.registries store⟩⟩

/-- The number of calls of a function that the context is inside of. -/
def active (context : Context) (function : Function) : Nat :=
  context.lineage.countP (Kind.isCallOf function)

/-- What a native body sees of its call context. -/
def snapshot (context : Context) (function : Function) : Snapshot :=
  ⟨function.name, context.depth, context.active function, context.lineage.length⟩

/-- A context has one kind more than there are contexts around it. -/
@[simp]
theorem length_lineage (context : Context) : context.lineage.length = context.depth + 1 := by
  induction context with
  | root frame => rfl
  | nested frame parent ih => simp [lineage, depth, ih]

/-- The ancestry has one context more than there are contexts around the innermost one. -/
@[simp]
theorem length_ancestry (context : Context) : context.ancestry.length = context.depth + 1 := by
  induction context with
  | root frame => rfl
  | nested frame parent ih => simp [ancestry, depth, ih]

/-- Policies see the depth of the context. -/
@[simp]
theorem depth_site (context : Context) (store : Store) :
    (context.site store).depth = context.depth := by
  show context.lineage.length - 1 = context.depth
  simp

/-- Policies see how many calls of a function the context is inside of. -/
@[simp]
theorem active_site (context : Context) (store : Store) (function : Function) :
    (context.site store).active function = context.active function := rfl

/-- Policies see no difference between stores with the same registries for the context and for those
around it. -/
theorem site_congr {context : Context} {store other : Store}
    (h : context.registries store = context.registries other) :
    context.site store = context.site other := by
  simp only [site, h]

/-- What the policy of the context answers to a check in a store. -/
def decision (context : Context) (store : Store) (check : Check) : Decision :=
  context.policy.answer (context.site store) check

/-- The policy of the context does not refuse: it grants, or it has no opinion. -/
def Permits (context : Context) (store : Store) (check : Check) : Prop :=
  ∀ reason, context.decision store check ≠ .failure reason

/-- A policy refuses a check for a reason, or it permits it. -/
theorem refused_or_permits (context : Context) (store : Store) (check : Check) :
    (∃ reason, context.decision store check = .failure reason) ∨ context.Permits store check := by
  by_cases h : ∃ reason, context.decision store check = .failure reason
  · exact .inl h
  · exact .inr (fun reason heq => h ⟨reason, heq⟩)

/-- What the policy of the context derives for a call in a store. -/
def derivation (context : Context) (store : Store) (function : Function) : Outcome Policy :=
  context.policy.derive (context.site store) function

end Context

end GuardedScript
