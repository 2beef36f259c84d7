import SourceAtlas.Http.Parameters
import SourceAtlas.Http.Reply
import SourceAtlas.Query
import SourceAtlas.Rebuild

/-! The endpoints. Every request is answered from the snapshot that is published when it comes; a
request for a rebuild goes to the scheduler. -/
namespace SourceAtlas.Http

structure Request where
  method : String
  path : String
  query : String
  deriving DecidableEq, Repr

/-- What stands behind a number sign is not sent; the query stands behind the first question mark. -/
def Request.ofUri (method uri : String) : Request :=
  let cs := uri.toList.takeWhile (· ≠ '#')
  { method
    path := String.ofList (cs.takeWhile (· ≠ '?'))
    query := String.ofList ((cs.dropWhile (· ≠ '?')).drop 1) }

def Request.pairs (r : Request) : List (String × String) := Http.pairs r.query

def defaultLimit : Nat := 20

abbrev Handled := Except ErrorReply JsonValue

def orFault {α : Type} : Except Fault α → Except ErrorReply α := Except.mapError ErrorReply.ofFault

def orArgument {α : Type} : Except ArgumentFault α → Except ErrorReply α :=
  Except.mapError ErrorReply.ofArgument

def health (s : Scheduler) : JsonValue :=
  let summary := s.served.summary
  .object
    [("status", .text (if 0 < summary.version then "ok" else "empty")),
      ("node_count", .number summary.nodeCount), ("link_count", .number summary.linkCount),
      ("snapshot_version", .number summary.version.toNat),
      ("warning_count", .number summary.warningCount),
      ("rebuild_in_progress", .flag s.status.inProgress),
      ("last_rebuild_error", .ofOption .text s.status.lastError)]

def search (served : Snapshot) (pairs : List (String × String)) : Handled := do
  let parameters ← orArgument (SearchParameters.ofPairs pairs)
  match parameters.text with
  | none => throw (.ofArgument .noQuery)
  | some text =>
    let found ← orFault
      (served.search text (parameters.limit.getD defaultLimit) (parameters.offset.getD 0))
    return .ofList FoundNode.toJson found

/-- The query that the parameters ask for; without a direction it goes against the links. -/
def ImpactParameters.query (p : ImpactParameters) : Except Fault ImpactQuery := do
  let direction ← match p.direction with
    | some name => Direction.parse name
    | .none => pure .incoming
  let relations ← p.relations.mapM Relation.parse
  return ⟨direction, p.maxDepth, if relations.isEmpty then .none else some relations⟩

def impact (served : Snapshot) (cap : Nat) (pairs : List (String × String)) : Handled := do
  let parameters ← orArgument (ImpactParameters.ofPairs pairs)
  let target ← orFault (NodeRef.ofParts parameters.path parameters.id)
  let query ← orFault parameters.query
  return .ofList ReachedNode.toJson (← orFault (served.impact target query cap))

def node (served : Snapshot) (pairs : List (String × String)) : Handled := do
  let parameters ← orArgument (NodeParameters.ofPairs pairs)
  let target ← orFault (NodeRef.ofParts parameters.path parameters.id)
  return (← orFault (served.detail target)).toJson

def rebuild (s : Scheduler) : Scheduler × Reply :=
  match s.trigger with
  | (s, .stopped) => (s, ErrorReply.internal.reply)
  | (s, outcome) =>
    (s, ⟨202, some (.object
      [("status", .text outcome.name), ("snapshot_version", .number s.served.version.toNat)])⟩)

/-- What an endpoint does when it is read. -/
def read? (s : Scheduler) (cap : Nat) (r : Request) : Option Handled :=
  if r.path = "/health" then some (.ok (health s))
  else if r.path = "/search" then some (search s.served r.pairs)
  else if r.path = "/impact" then some (impact s.served cap r.pairs)
  else if r.path = "/node" then some (node s.served r.pairs)
  else none

def methodNotAllowed : Reply := ⟨405, none⟩

def noEndpoint : ErrorReply := .notFound "no such endpoint"

/-- A request of any method but the two that are answered apart. -/
def dispatch (s : Scheduler) (cap : Nat) (r : Request) : Scheduler × Reply :=
  if r.path = "/rebuild" then
    if r.method = "POST" then rebuild s else (s, methodNotAllowed)
  else
    match read? s cap r with
    | some handled =>
      (s, if r.method = "GET" || r.method = "HEAD" then .of 200 handled else methodNotAllowed)
    | none => (s, noEndpoint.reply)

/-- Every path answers to a question for options, and a request for the head alone gets no body. -/
def answer (s : Scheduler) (cap : Nat) (r : Request) : Scheduler × Reply :=
  if r.method = "OPTIONS" then (s, ⟨200, none⟩)
  else if r.method = "HEAD" then
    let (s, reply) := dispatch s cap r
    (s, { reply with body := none })
  else dispatch s cap r

end SourceAtlas.Http
