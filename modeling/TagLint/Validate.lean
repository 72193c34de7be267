import TagLint.Rule.Struct
import TagLint.Struct.Extract

/-! Diagnostics of structs and of source texts. -/
namespace TagLint

namespace FieldDecl

def entries (f : FieldDecl) (v : Vocabulary) : List TagEntry := TagEntry.ofSegment v f.tag

end FieldDecl

/-- The diagnostics of one field. When a rule fails, that failure is all the field has to show. -/
def validateField (r : Registry) (s : StructDecl) (f : FieldDecl) : List Diagnostic :=
  match FieldPass.findings r (f.entries r.vocabulary) with
  | .ok found => found.map fun (finding, key) => finding.on s.name f.name f.tag key
  | .error e => [⟨s.name, f.name, f.tag, "Error parsing GORM tags: " ++ e.message, .error, none⟩]

/-- Fields in order, then the struct as a whole. -/
def validateStruct (r : Registry) (s : StructDecl) : List Diagnostic :=
  let tagged := s.fields.filter FieldDecl.isTagged
  tagged.flatMap (validateField r s)
    ++ StructRule.findings s (tagged.map fun f => (f, f.entries r.vocabulary))

def validateStructs (r : Registry) (ss : List StructDecl) : List Diagnostic :=
  ss.flatMap (validateStruct r)

/-- The diagnostics of a text; with a cap, only the first that many. -/
def validateText (r : Registry) (t : Text) (cap : Option Int := none) : List Diagnostic :=
  let all := validateStructs r (structs t)
  match cap with
  | some n => all.take n.toNat
  | none => all

end TagLint
