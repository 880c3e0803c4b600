/-!
Views: values described as a tree of records, lists and scalars.
-/
namespace Evse

/-- A described value. -/
inductive View where
  | none
  | flag (b : Bool)
  | int (n : Int)
  | text (s : String)
  | list (items : List View)
  | record (fields : List (String × View))
deriving Repr, Inhabited

namespace View

def nat (n : Nat) : View := .int n

def texts (xs : List String) : View := .list (xs.map .text)

/-- A view that is absent when the option is empty. -/
def opt {α : Type} (f : α → View) : Option α → View
  | some a => f a
  | Option.none => .none

end View

end Evse
