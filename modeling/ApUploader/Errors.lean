import Mathlib.Logic.Basic

/-! # Exceptions

The exceptions the modelled code raises or catches. The class hierarchy of the
source shows only through the two predicates below, which decide what an
`except` clause takes.
-/

namespace ApUploader

abbrev Bytes := List UInt8

inductive Exn where
  | runtimeError (message : String)
  | localProtocolError (message : String)
  | notSupportedError (message : String)
  | excessDataError
  | timeoutError
  | assertionError
  | typeError
  | valueError
  | indexError
  | overflowError
  | recursionError
  | invalidCommandError
  | simulatedPacketLossError
  | simulatedPacketDelayError
  /-- Any other `Exception` a transport raises, such as `EndOfStream`. -/
  | transportError (name : String)
  /-- What a task group raises when one of its tasks has failed. -/
  | exceptionGroup (error : Exn)
  /-- The cancellation exception, a `BaseException`. -/
  | cancelled
  deriving DecidableEq, Repr

/-- Whether `except Exception` catches the error. -/
def Exn.isException : Exn → Bool
  | .cancelled => false
  | _ => true

/-- How an awaited call that returns nothing ends. -/
inductive Completion where
  | done
  | raised (error : Exn)
  deriving DecidableEq, Repr

end ApUploader
