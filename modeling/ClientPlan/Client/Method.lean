/-! # Methods

The verbs of operations, and the two ways in which the client calls them. -/

namespace ClientPlan.Client

/-- The verb of an operation. -/
inductive Method where
  | get
  | post
  | put
  | delete
  | patch
  | head
  | options
  | trace
  deriving DecidableEq, Inhabited, Repr

namespace Method

/-- Every method, in the order in which the operations of a path are listed. -/
def all : List Method :=
  [get, post, put, delete, patch, head, options, trace]

/-- The verb in capitals. -/
def verb : Method → String
  | get => "GET"
  | post => "POST"
  | put => "PUT"
  | delete => "DELETE"
  | patch => "PATCH"
  | head => "HEAD"
  | options => "OPTIONS"
  | trace => "TRACE"

end Method

/-- Retrievals read, mutations change. -/
inductive Kind where
  | retrieval
  | mutation
  deriving DecidableEq, Inhabited, Repr

/-- `GET` is the only retrieval. -/
def Method.kind : Method → Kind
  | get => .retrieval
  | _ => .mutation

end ClientPlan.Client
