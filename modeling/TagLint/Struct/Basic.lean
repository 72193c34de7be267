import TagLint.Text.Basic

/-! Struct declarations as a scan of the source text finds them. -/
namespace TagLint

structure FieldDecl where
  name : Text
  declaredType : Text := []
  /-- What stands between the backticks after the field. -/
  rawTag : Text := []
deriving DecidableEq, Repr, Inhabited

structure StructDecl where
  name : Text
  fields : List FieldDecl := []
deriving DecidableEq, Repr, Inhabited

end TagLint
