import ClientPlan.OrderedMap
import ClientPlan.Text.Blank
import ClientPlan.Text.Case

/-! # Options

The flags of a run. They start from defaults or from an option file, and key and value pairs
override them one after the other. -/

namespace ClientPlan

/-- The flags that can be set by name. -/
inductive Flag where
  | useReactiveResource
  | useInjectedDependency
  | splitResourceArtifacts
  | readonlyOutputModels
  | strictPathParameters
  deriving DecidableEq, Inhabited, Repr

namespace Flag

/-- Every flag, in the order in which a list of options gives them. -/
def all : List Flag :=
  [useReactiveResource, useInjectedDependency, splitResourceArtifacts, readonlyOutputModels,
    strictPathParameters]

/-- The names of a flag, the canonical one first. -/
def names : Flag → List String
  | useReactiveResource => ["useReactiveResource", "useHttpResource"]
  | useInjectedDependency => ["useInjectedDependency", "useInjectFunction"]
  | splitResourceArtifacts => ["splitResourceArtifacts", "separateResources"]
  | readonlyOutputModels => ["readonlyOutputModels", "readonlyModels"]
  | strictPathParameters => ["strictPathParameters"]

/-- The flag with the given name. -/
def named? (name : String) : Option Flag :=
  all.find? fun flag => flag.names.contains name

end Flag

/-- The options of a run. -/
structure Options where
  /-- Retrievals become resources. -/
  useReactiveResource : Bool := true
  /-- Services get their HTTP client by injection. -/
  useInjectedDependency : Bool := true
  /-- Resources go into files of their own. -/
  splitResourceArtifacts : Bool := true
  /-- The properties of received models are read-only. -/
  readonlyOutputModels : Bool := true
  /-- A placeholder without a path parameter is an error. -/
  strictPathParameters : Bool := false
  /-- Pairs that are no flag, sorted by key. -/
  additionalProperties : List (String × String) := []
  deriving DecidableEq, Inhabited, Repr

namespace Options

/-- The value of a flag. -/
def get (options : Options) : Flag → Bool
  | .useReactiveResource => options.useReactiveResource
  | .useInjectedDependency => options.useInjectedDependency
  | .splitResourceArtifacts => options.splitResourceArtifacts
  | .readonlyOutputModels => options.readonlyOutputModels
  | .strictPathParameters => options.strictPathParameters

/-- The options with a flag set. -/
def set (options : Options) (flag : Flag) (value : Bool) : Options :=
  match flag with
  | .useReactiveResource => { options with useReactiveResource := value }
  | .useInjectedDependency => { options with useInjectedDependency := value }
  | .splitResourceArtifacts => { options with splitResourceArtifacts := value }
  | .readonlyOutputModels => { options with readonlyOutputModels := value }
  | .strictPathParameters => { options with strictPathParameters := value }

/-- Sets a key of a list that is sorted by key. -/
def insertSorted (key value : String) : List (String × String) → List (String × String)
  | [] => [(key, value)]
  | (k, v) :: rest =>
    if key = k then (key, value) :: rest
    else if key < k then (key, value) :: (k, v) :: rest
    else (k, v) :: insertSorted key value rest

/-- A value sets a flag only if it is the word `true`, in any case and with any blanks around. -/
def flagValue (value : String) : Bool :=
  (Text.trim value.toList).flatMap
    (fun c => if c.toNat < 128 then Text.lowerChar c else [c]) == "true".toList

/-- The options after one pair. -/
def apply (options : Options) (property : String × String) : Options :=
  match Flag.named? property.1 with
  | some flag => options.set flag (flagValue property.2)
  | none =>
    { options with
      additionalProperties :=
        insertSorted property.1 property.2 options.additionalProperties }

/-- The options after some pairs, in order. -/
def applyAll (options : Options) (properties : List (String × String)) : Options :=
  properties.foldl apply options

/-- Resource files exist only where retrievals become resources in files of their own. -/
def resourceFiles (options : Options) : Bool :=
  options.useReactiveResource && options.splitResourceArtifacts

end Options

end ClientPlan
