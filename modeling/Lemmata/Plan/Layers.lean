import Lemmata.Plan.Basic

/-!
# Layers of a plan

The calls grouped so that each one comes right after the last of its blockers. Plans with a
repeated call, an unknown call or a cycle have no layers.
-/

namespace Lemmata.Plan

/-! ## Checks -/

/-- The first name that occurred before. -/
def firstRepeat? (seen : List String) : List String → Option String
  | [] => none
  | name :: rest => if seen.contains name then some name else firstRepeat? (name :: seen) rest

/-- The first end of a dependency that is no call, the blocker before the blocked. -/
def firstUnknown? (p : Plan) : Option String :=
  (p.dependencies.flatMap fun d => [d.blocker, d.blocked]).find? fun name =>
    !p.callIds.contains name

/-! ## Layering -/

/-- Whether everything that blocks a call is in the list. -/
def isUnblocked (p : Plan) (done : List String) (id : String) : Bool :=
  p.dependencies.all fun d => d.blocked != id || done.contains d.blocker

/-- Takes layer after layer off the pending calls; the error holds those that never come free. -/
def layersFrom (p : Plan) : (fuel : Nat) → (done pending : List String) →
    Except (List String) (List (List String))
  | 0, _, pending => if pending.isEmpty then .ok [] else .error pending
  | fuel + 1, done, pending =>
    if pending.isEmpty then .ok []
    else
      let layer := pending.filter (p.isUnblocked done)
      if layer.isEmpty then .error pending
      else
        (layersFrom p fuel (done ++ layer) (pending.filter fun id => !layer.contains id)).map
          fun further => layer :: further

/-- Each layer takes at least one call, so their number bounds the layers. -/
def layers (p : Plan) : Except Failure (List (List String)) :=
  match firstRepeat? [] p.callIds with
  | some id => .error (.duplicateCall p.id id)
  | none =>
    match p.firstUnknown? with
    | some id => .error (.unknownDependency p.id id)
    | none => (layersFrom p p.calls.length [] (sortNames p.callIds)).mapError (.cycle p.id)

end Lemmata.Plan
