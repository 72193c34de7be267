import TagLint.Service.Outcome
import TagLint.Settings.Lax

/-! Outcomes from documents. Keys that are not known are passed over. -/
namespace TagLint
open Setting

def Setting.required (key : String) (check : Json → Checked α) (pairs : List (Text × Json)) :
    Checked α :=
  match Json.lookup? key.toList pairs with
  | some v => (check v).under (.key key.toList)
  | none => .error [⟨[.key key.toList], .missing⟩]

def Setting.dict : Json → Checked (List (Text × Json))
  | .dict pairs => .ok pairs
  | _ => .fail .notDict

/-- A value that may also be nothing. -/
def Setting.orNull (check : Json → Checked α) : Json → Checked (Option α)
  | .null => .ok none
  | v => (check v).map some

def OutcomeError.ofPairs (pairs : List (Text × Json)) : Checked OutcomeError :=
  let code := required "code" text pairs
  let message := required "message" text pairs
  let detail := Setting.field "detail" dict [] pairs
  (code.both (message.both detail)).map fun (c, m, d) => ⟨c, m, d⟩

def Outcome.ofPairs (pairs : List (Text × Json)) : Checked Outcome :=
  let ok := required "ok" bool pairs
  let op := required "op" text pairs
  let data := Setting.field "data" dict [] pairs
  let warnings := Setting.field "warnings" texts [] pairs
  let error :=
    Setting.field "error" (orNull (Setting.object "ServiceError" OutcomeError.ofPairs)) none pairs
  let info := Setting.field "meta" (orNull dict) none pairs
  (ok.both (op.both (data.both (warnings.both (error.both info))))).map fun (o, p, d, w, e, i) =>
    ⟨o, p, d, w, e, i⟩

end TagLint
