import SourceAtlas.Fault
import SourceAtlas.JsonValue

/-! Replies and the envelope of errors. Faults of the caller are told in full, all others only as an
internal error. -/
namespace SourceAtlas.Http

structure Reply where
  status : Nat
  /-- Nothing is an empty body. -/
  body : Option JsonValue

structure ErrorReply where
  kind : FaultKind
  message : String
  deriving DecidableEq, Repr

namespace ErrorReply

def ofArgument (cause : ArgumentFault) : ErrorReply := ⟨.invalidArgument, cause.message⟩

def notFound (message : String) : ErrorReply := ⟨.notFound, message⟩

def internal : ErrorReply := ⟨.internal, "internal error"⟩

def ofFault (fault : Fault) : ErrorReply :=
  match fault.kind with
  | .notFound => ⟨.notFound, fault.message⟩
  | .invalidArgument => ⟨.invalidArgument, fault.message⟩
  | .buildFailure | .internal => internal

def status (e : ErrorReply) : Nat :=
  match e.kind with
  | .notFound => 404
  | .invalidArgument => 400
  | .buildFailure | .internal => 500

def toJson (e : ErrorReply) : JsonValue :=
  .object [("error_kind", .text e.kind.name), ("message", .text e.message)]

def reply (e : ErrorReply) : Reply := ⟨e.status, some e.toJson⟩

end ErrorReply

/-- The reply of a handler that succeeds with a status, or fails. -/
def Reply.of (status : Nat) : Except ErrorReply JsonValue → Reply
  | .ok body => ⟨status, some body⟩
  | .error e => e.reply

end SourceAtlas.Http
