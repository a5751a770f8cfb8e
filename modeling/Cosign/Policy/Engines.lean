import Cosign.Encoding.Unmarshal

/-!
# Policy engines

`cue.ValidateJSON` and `rego.ValidateJSON`: the same JSON is given to every CUE instance, and
to one Rego query that all Rego policies together define.
-/
namespace Cosign.Policy

open Cosign.Go Cosign.Encoding

/-- A CUE build instance: its load error, and what building it gives. -/
structure CueInstance where
  /-- `bi.Err`. -/
  err : Option GoError
  /-- `BuildInstance` and, if it succeeds, `Validate` against the value. -/
  value : Except GoError (Bytes → Option GoError)

/-- A Rego result set. -/
structure ResultSet where
  /-- `rs.Allowed()`: a single result with a single expression that is true. -/
  allowed : Bool
  /-- The expressions of each result, as they are printed. -/
  results : List (List String)
  deriving DecidableEq, Repr

/-- The policy engines. -/
structure Engines where
  loadInstances : List String → List CueInstance
  /-- `PrepareForEval` of the query on the loaded policies, and `Eval` of the prepared query. -/
  prepareForEval : List String → Except GoError (Json → Except GoError ResultSet)

/-- The check of one CUE instance. -/
def CueInstance.validate (bi : CueInstance) (jsonBody : Bytes) : Option GoError :=
  match bi.err with
  | some err => some err
  | none =>
    match bi.value with
    | .error err => some err
    | .ok validate => validate jsonBody

/-- `cue.ValidateJSON`: the first error of the instances. -/
def cueValidateJSON (engines : Engines) (jsonBody : Bytes) (entrypoints : List String) :
    Option GoError :=
  (engines.loadInstances entrypoints).findSome? fun bi => bi.validate jsonBody

/-- `QUERY`. -/
def query : String := "data.signature.allow"

/-- `rego.ValidateJSON`: the errors of the query, of which there are some unless it is
allowed. -/
def regoValidateJSON (engines : Engines) (jsonBody : Bytes) (entrypoints : List String) :
    List GoError :=
  match engines.prepareForEval entrypoints with
  | .error err => [err]
  | .ok eval =>
    match Json.decodeFirst jsonBody with
    | none => [syntaxError]
    | some input =>
      match eval input with
      | .error err => [err]
      | .ok rs =>
        if rs.allowed then []
        else
          let errs := rs.results.flatMap fun result => result.map fun expression =>
            (⟨"expression value, " ++ expression ++ ", is not true"⟩ : GoError)
          if errs.length = 0 then [⟨"result is undefined for query '" ++ query ++ "'"⟩]
          else errs

end Cosign.Policy
