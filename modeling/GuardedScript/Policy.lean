import GuardedScript.Policy.Check
import GuardedScript.Text.Key

/-!
# Policies

A policy answers every check and says which policy a call made under it runs under.  Policies are
values: they are never changed, and what a policy answers depends only on what it is asked and on
what it sees of the place where the question comes from.

A compound policy adopts the first opinion among a starting value, its children in order, and a
finisher.  For a call it derives the compound of the policies that its children derive.
-/

set_option autoImplicit false

namespace GuardedScript

/-- The policies. -/
inductive Policy
  /-- No opinion on anything. -/
  | permissive
  /-- Refuses calls that nest too deeply. -/
  | limiter (limits : Limits)
  /-- Refuses calls once a number of nested calls is used up. -/
  | budget (remaining : Nat)
  /-- Refuses to look for the functions under some keys. -/
  | denyList (keys : List String)
  /-- The first opinion among several policies. -/
  | compound (starting : Decision) (children : List Policy) (finisher : Decision)
  /-- A policy of the host, with a label to tell it by. -/
  | custom (label : String) (answer : Site → Check → Decision)
      (derive : Site → Function → Outcome Policy)

instance : Inhabited Policy := ⟨.permissive⟩

namespace Policy

/-- Refuses to look for the functions of some names. -/
def denying (names : List String) : Policy :=
  denyList (names.map Text.key)

/-- The first opinion of the children, and else a grant. -/
def compoundPermissive (children : List Policy) : Policy :=
  compound .empty children (.success ())

/-- The first opinion of the children, and else a denial. -/
def compoundRestrictive (children : List Policy) : Policy :=
  compound .empty children (.failure (.accessDenied "no policy granted the operation"))

/-- A limit on the depth is reached by a call from this depth. -/
def depthRefusal? (limits : Limits) (depth : Nat) : Option Failure :=
  match limits.maxDepth with
  | none => none
  | some limit =>
    if limit ≤ depth then
      some (if limits.hidden then .maxDepthReachedHidden else .maxDepthReached depth limit)
    else
      none

/-- A limit on the running calls of one function is reached by one more call of it. -/
def recursionRefusal? (limits : Limits) (function : String) (active : Nat) : Option Failure :=
  match limits.maxRecursion with
  | none => none
  | some limit =>
    if limit ≤ active then
      some
        (if limits.hidden then .maxRecursionReachedHidden function
        else .maxRecursionReached function active limit)
    else
      none

/-- What limits say to a call: the depth is looked at first. -/
def limitDecision (limits : Limits) (site : Site) (function : Function) : Decision :=
  match depthRefusal? limits site.depth with
  | some refusal => .failure refusal
  | none =>
    match recursionRefusal? limits function.name (site.active function) with
    | some refusal => .failure refusal
    | none => .empty

/-- Whether a list of denied keys denies a name, compared as it stands. -/
def denies (keys : List String) (name : String) : Bool :=
  keys.contains name

/-- What a list of denied keys says to a key. -/
def denialDecision (keys : List String) (key : String) : Decision :=
  if denies keys key then
    .failure (.accessDenied ("function '" ++ key ++ "' is not available"))
  else
    .empty

mutual

/-- The answer of a policy to a check. -/
def answer (site : Site) (check : Check) : Policy → Decision
  | permissive => .empty
  | limiter limits =>
    match check with
    | .runFunction function => limitDecision limits site function
    | _ => .empty
  | budget remaining =>
    match check with
    | .runFunction function =>
      if remaining = 0 then .failure (.callBudgetExhausted function.name) else .empty
    | _ => .empty
  | denyList keys =>
    match check with
    | .askForFunction key => denialDecision keys key
    | .tryFunction key _ => denialDecision keys key
    | _ => .empty
  | compound starting children finisher =>
    (firstOpinion site check starting children).orElse finisher
  | custom _ answer _ => answer site check
termination_by structural policy => policy

/-- The first opinion among one that is held already and those of some policies. -/
def firstOpinion (site : Site) (check : Check) (held : Decision) : List Policy → Decision
  | [] => held
  | policy :: policies =>
    match held with
    | .empty => firstOpinion site check (answer site check policy) policies
    | decided => decided
termination_by structural policies => policies

end

mutual

/-- The simple policies that are asked for the answer to a check, in order. -/
def consulted (site : Site) (check : Check) : Policy → List Policy
  | compound starting children _ => consultedAmong site check starting children
  | policy => [policy]
termination_by structural policy => policy

/-- The simple policies that are asked until an opinion is found. -/
def consultedAmong (site : Site) (check : Check) (held : Decision) : List Policy → List Policy
  | [] => []
  | policy :: policies =>
    match held with
    | .empty =>
      consulted site check policy ++
        consultedAmong site check (answer site check policy) policies
    | _ => []
termination_by structural policies => policies

end

mutual

/-- The policy for a call of a function; no opinion means that the call runs under this policy. -/
def derive (site : Site) (function : Function) : Policy → Outcome Policy
  | permissive => .empty
  | limiter _ => .empty
  | budget remaining => .success (budget (remaining - 1))
  | denyList _ => .empty
  | compound starting children finisher =>
    match deriveAll site function children with
    | .ok derived => .success (compound starting derived finisher)
    | .error reason => .failure reason
  | custom _ _ derive => derive site function
termination_by structural policy => policy

/-- The policies that some policies derive: a policy without opinion stays, a failure ends it
all. -/
def deriveAll (site : Site) (function : Function) : List Policy → Except Failure (List Policy)
  | [] => .ok []
  | policy :: policies =>
    match derive site function policy with
    | .failure reason => .error reason
    | .success derived =>
      match deriveAll site function policies with
      | .ok rest => .ok (derived :: rest)
      | .error reason => .error reason
    | .empty =>
      match deriveAll site function policies with
      | .ok rest => .ok (policy :: rest)
      | .error reason => .error reason
termination_by structural policies => policies

end

mutual

/-- The simple policies that are asked for their derived policies, in order. -/
def derivers (site : Site) (function : Function) : Policy → List Policy
  | compound _ children _ => deriversAmong site function children
  | policy => [policy]
termination_by structural policy => policy

/-- The simple policies that are asked until one fails. -/
def deriversAmong (site : Site) (function : Function) : List Policy → List Policy
  | [] => []
  | policy :: policies =>
    derivers site function policy ++
      match derive site function policy with
      | .failure _ => []
      | _ => deriversAmong site function policies
termination_by structural policies => policies

end

end Policy

end GuardedScript
