import TagLint.Json.Printer
import TagLint.Service.Span

/-! What every operation hands back: whether it ran, its findings, its own problems. -/
namespace TagLint

structure OutcomeError where
  code : Text
  message : Text
  detail : List (Text × Json) := []
deriving Repr, Inhabited

structure Outcome where
  /-- Whether the operation ran, not whether the source is clean. -/
  ok : Bool
  op : Text
  data : List (Text × Json) := []
  warnings : List Text := []
  error : Option OutcomeError := none
  info : Option (List (Text × Json)) := none
deriving Repr, Inhabited

namespace Outcome

def failure (op code message : Text) (warnings : List Text) (detail : List (Text × Json)) :
    Outcome :=
  { ok := false, op, warnings, error := some ⟨code, message, detail⟩ }

/-- Puts the span tree of the operation beside what is known already. -/
def traced (o : Outcome) (span : Span) : Outcome :=
  { o with info := some (Json.put "telemetry".toList span.toJson (o.info.getD [])) }

def errorJson (e : OutcomeError) : Json :=
  .dict [("code".toList, .text e.code), ("message".toList, .text e.message),
    ("detail".toList, .dict e.detail)]

def toJson (o : Outcome) : Json :=
  .dict [("ok".toList, .bool o.ok), ("op".toList, .text o.op), ("data".toList, .dict o.data),
    ("warnings".toList, .texts o.warnings),
    ("error".toList, (o.error.map errorJson).getD .null),
    ("meta".toList, (o.info.map Json.dict).getD .null)]

end Outcome
end TagLint
