import StaticInjection.Text.Blank

namespace StaticInjection

/-! Type names are compared as text, after their blanks have been squeezed. -/

structure TypeName where
  text : String
  squeezed : Text.squeeze text.toList = text.toList
deriving DecidableEq

namespace TypeName

def ofText (text : String) : TypeName where
  text := String.ofList (Text.squeeze text.toList)
  squeezed := by simp

instance : Inhabited TypeName := ⟨ofText ""⟩

theorem ext_text {left right : TypeName} (equal : left.text = right.text) : left = right := by
  cases left; cases right; simp_all

@[simp] theorem ofText_text (name : TypeName) : ofText name.text = name :=
  ext_text (by simp [ofText, name.squeezed])

def isEmpty (name : TypeName) : Bool :=
  name.text.isEmpty

/-- What comes before the first `::`. -/
def beforeColons : List Char → List Char
  | ':' :: ':' :: _ => []
  | head :: tail => head :: beforeColons tail
  | [] => []

def withoutDyn : List Char → List Char
  | 'd' :: 'y' :: 'n' :: ' ' :: rest => rest
  | text => text

/-- The name without `dyn`, type arguments and the path in front. -/
def shortName (name : TypeName) : String :=
  let head := (withoutDyn name.text.toList).takeWhile (· != '<')
  String.ofList (beforeColons head.reverse).reverse

example : (ofText "dyn  crate::cache::Cache<crate::Key>").shortName = "Cache" := by decide +kernel

end TypeName

end StaticInjection
