import ClientPlan.Client.Parameter
import ClientPlan.OpenApi.Document
import ClientPlan.OpenApi.TypeName

/-! # Parameters of the outline

The parameters of an operation, with those that its path shares. -/

namespace ClientPlan.Outline

open OpenApi

/-- The declared type of a parameter's schema behind any reference. -/
def baseType (document : Document) (param : Parameter) : Option String :=
  (param.schema.bind document.resolve).bind Schema.primaryType?

/-- A parameter of the document as the client sees it. -/
def parameter (document : Document) (param : Parameter) : Client.Parameter :=
  let base := baseType document param
  { rawName := param.name
    location := Client.Location.ofWord param.location
    required := param.required
    dataType := (param.schema.map Schema.typeName).getD "string"
    baseType := base
    isInteger := base == some "integer"
    isNumber := base == some "number"
    identifier := param.name
    isNumeric := false }

/-- Two parameters are the same if name and location agree. -/
def sameParameter (a b : Client.Parameter) : Bool :=
  a.rawName == b.rawName && a.location == b.location

/-- Appends a parameter and drops those that it replaces. -/
def replaceParameter (params : List Client.Parameter) (param : Client.Parameter) :
    List Client.Parameter :=
  params.filter (fun other => !sameParameter other param) ++ [param]

/-- The shared parameters of a path, then those of the operation, each in place of any before it
with the same name and location. -/
def parameters (document : Document) (shared own : Option (List Parameter)) :
    List Client.Parameter :=
  ((own.getD []).map (parameter document)).foldl replaceParameter
    ((shared.getD []).map (parameter document))

/-- The parameters sent in one place. -/
def sentIn (location : Client.Location) (params : List Client.Parameter) :
    List Client.Parameter :=
  params.filter fun param => param.location = location

end ClientPlan.Outline
