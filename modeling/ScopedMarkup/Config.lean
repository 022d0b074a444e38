import ScopedMarkup.Text.Basic

namespace ScopedMarkup

/-! Settings for reading and scoping. The limit on nesting lies between 1 and
256. Strict reading refuses closing tags that do not match and attributes that
repeat. -/

/-- The greatest limit on nesting. -/
def greatestDepth : Nat := 256

structure Config where
  /-- What the name of a marker begins with, before the scope. -/
  markerStem : Text := "data-pc-"
  maxDepth : Nat := greatestDepth
  strict : Bool := false
  one_le_maxDepth : 1 ≤ maxDepth := by decide
  maxDepth_le : maxDepth ≤ greatestDepth := by decide
deriving DecidableEq, Repr

/-- A limit on nesting outside its range. -/
structure DepthOutOfRange where
  depth : Int
deriving DecidableEq, Repr

def DepthOutOfRange.message (error : DepthOutOfRange) : Text :=
  "max_depth must be between 1 and " ++ Text.ofNat greatestDepth ++ ", got " ++
    Text.ofInt error.depth

namespace Config

/-- The settings that hold where nothing else is asked for. -/
def standard : Config := {}

/-- The standard settings, strict or not. -/
def standardWith (strict : Bool) : Config := { strict }

def make (markerStem : Text) (depth : Int) (strict : Bool) : Except DepthOutOfRange Config :=
  if inRange : 1 ≤ depth.toNat ∧ depth.toNat ≤ greatestDepth then
    .ok ⟨markerStem, depth.toNat, strict, inRange.1, inRange.2⟩
  else .error ⟨depth⟩

/-- The name of the attribute that marks the elements of a scope. -/
def marker (config : Config) (scope : Text) : Text := config.markerStem ++ scope

example : standard.marker "x7" = ("data-pc-x7" : Text) := by decide

end Config

end ScopedMarkup
