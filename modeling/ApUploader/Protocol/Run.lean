import ApUploader.Logic.Transducer
import ApUploader.Protocol.Machine

/-! # Runs of the protocol

What the caller of an operation gets to see is its `Result`. With it the protocol is
a transducer from operations to results, and histories are runs of this transducer.
-/

namespace ApUploader.Protocol

inductive Result where
  | done
  | returned (event : Option Event)
  | encoded (raw : Bytes)
  | raised (error : Exn)
  deriving DecidableEq, Repr

/-- The result an operation has for its caller; `apply` has its effect. -/
def observe (p : Protocol) : Op → Result
  | .feed data => match p.feed data with | .ok _ => .done | .error e => .raised e
  | .nextEvent => match p.nextEvent.1 with | .ok event => .returned event | .error e => .raised e
  | .send event => match p.send event with | .ok (raw, _) => .encoded raw | .error e => .raised e
  | .sendFailed => .done
  | .reset => .done

def machine : Transducer Protocol Op Result := ⟨observe, apply⟩

abbrev results (p : Protocol) (ops : List Op) : List Result := machine.outputs p ops

abbrev after (p : Protocol) (ops : List Op) : Protocol := machine.run p ops

theorem Reachable.after {p : Protocol} (h : Reachable p) (ops : List Op) :
    Reachable (p.after ops) :=
  machine.run_invariant Reachable (fun _ op hp _ => .apply op hp) h fun _ _ => trivial

end ApUploader.Protocol
