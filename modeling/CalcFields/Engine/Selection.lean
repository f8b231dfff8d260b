import CalcFields.Definition
import CalcFields.Digest.Blake3
import CalcFields.Formula.Scope

/-!
A selection keeps the definitions that a calculation can use: published, complete and local ones, in
the order of collection, suggested place and field. Its signature tells two selections apart.
-/

namespace CalcFields

/-- A definition that is left out, and why. -/
structure Omission where
  collection : String
  field : String
  reason : String
deriving DecidableEq, Repr

/-- The definitions in use, and what was left out on the way. -/
structure Selection where
  formulas : List Definition
  inactive : Nat
  incomplete : Nat
  nonLocal : List Omission

/-- Suggested places in their order; a definition without one comes last. -/
def comparePlaces : Option Int → Option Int → Ordering
  | some a, some b => compare a b
  | some _, none => .lt
  | none, some _ => .gt
  | none, none => .eq

namespace Definition

/-- Definitions are ordered by collection, then suggested place, then field. -/
def order (a b : Definition) : Ordering :=
  (compare a.collection b.collection).then
    ((comparePlaces a.sort b.sort).then (compare a.field b.field))

/-- The definitions in their order, equal ones as they come. -/
def sorted (definitions : List Definition) : List Definition :=
  definitions.mergeSort fun a b => (order a b).isLE

/-- Why a definition that is not local is left out. -/
def omittedAsNonLocal (d : Definition) : Omission :=
  ⟨d.collection, d.field, "uses relations or aggregations"⟩

end Definition

/-- The bytes of a text. -/
def bytesOfText (text : String) : List UInt8 :=
  text.toUTF8.toList

/-- The eight bytes of a suggested place, the least one first. -/
def bytesOfPlace (place : Int) : List UInt8 :=
  (List.range 8).map fun i => UInt8.ofNat ((place / (Nat.pow 256 i : Nat)) % 256).toNat

/-- What a signature sees of a definition: zero bytes end its texts and a line feed ends it all. -/
def Definition.signedBytes (d : Definition) : List UInt8 :=
  bytesOfText d.collection ++ 0 :: bytesOfText d.field ++ 0 :: bytesOfText d.formula ++
    0 :: (d.sort.map bytesOfPlace).getD [] ++ [10]

/-- What a signature sees of definitions, whatever order they come in. -/
def signedBytes (definitions : List Definition) : List UInt8 :=
  (Definition.sorted definitions).flatMap Definition.signedBytes

/-- The signature of definitions. -/
def signature (definitions : List Definition) : String :=
  hexText (Blake3.digest (signedBytes definitions))

namespace Selection

/-- Selects the definitions in use. -/
def ofDefinitions (definitions : List Definition) : Selection :=
  let (active, inactive) := definitions.partition (·.status.isActive)
  let (complete, incomplete) := active.partition (·.isComplete)
  let (usable, nonLocal) := complete.partition fun d => isLocal d.formula
  ⟨Definition.sorted usable, inactive.length, incomplete.length,
    nonLocal.map Definition.omittedAsNonLocal⟩

/-- The signature of a selection. -/
def signature (selection : Selection) : String :=
  CalcFields.signature selection.formulas

end Selection

end CalcFields
