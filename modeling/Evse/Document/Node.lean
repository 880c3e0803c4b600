import Evse.Number.Numeral
/-!
The tree a configuration document is read into, whatever its format.
-/
namespace Evse.Document

/-- The value of a scalar. -/
inductive Scalar where
  | null
  | text (s : String)
  | integer (n : Int)
  | number (d : Number.Double)
  | flag (b : Bool)
  /-- A value of a kind no setting takes, such as a date or a symbol, named by its kind. -/
  | other (kind : String)
deriving DecidableEq, Repr

/-- A node of a document. -/
inductive Node where
  /-- A scalar and the text it was written as (quotes and escapes resolved). -/
  | scalar (written : String) (value : Scalar)
  | sequence (items : List Node)
  | mapping (entries : List (String × Node))
deriving Repr

/-- The empty node. -/
def Node.null : Node := .scalar "" .null

/-- Whether a node is the empty node. -/
def Node.isNull : Node → Bool
  | .scalar _ .null => true
  | _ => false

end Evse.Document
