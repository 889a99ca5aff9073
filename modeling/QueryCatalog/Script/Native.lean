import QueryCatalog.Script.Bindings
import QueryCatalog.Statement.Binding
import QueryCatalog.Dictionary

/-!
Scripts that the host program provides under names. One of them makes statements, gives values, or
does both; what it leaves out fails.
-/
namespace QueryCatalog

structure NativeScript where
  statement : Json → Json → Except String BoundStatement :=
    fun _ _ => .error "native script does not produce statements"
  evaluate : Bindings → Except String Json :=
    fun _ => .error "native script does not support evaluation"

abbrev Natives := Dictionary NativeScript

/-- Blanks around a name do not count. -/
def Natives.named? (natives : Natives) (name : String) : Option NativeScript :=
  Dictionary.find? natives (Text.trim name)

end QueryCatalog
