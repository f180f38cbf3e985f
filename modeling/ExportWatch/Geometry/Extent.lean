/-! Positions and axis-parallel rectangles. The coordinates are of any type with
an order, so that one definition serves doubles and exact fractions. -/

namespace ExportWatch

structure Position (Scalar : Type) where
  lon : Scalar
  lat : Scalar
  deriving DecidableEq, Repr

/-- The smallest coordinates stand in the south-west corner. -/
structure Extent (Scalar : Type) where
  west : Scalar
  south : Scalar
  east : Scalar
  north : Scalar
  deriving DecidableEq, Repr

variable {Scalar : Type} [LT Scalar] [LE Scalar] [DecidableLT Scalar] [DecidableLE Scalar]

/-! Of two coordinates one of which is no number, the other is both the lesser
and the greater. Of two equal coordinates it is the second: the zeros of both
signs are equal. -/

def lesser (first second : Scalar) : Scalar :=
  if first < second ∨ ¬ second ≤ second then first else second

def greater (first second : Scalar) : Scalar :=
  if second < first ∨ ¬ second ≤ second then first else second

example : lesser (0.0 / 0.0) 1.0 = 1.0 ∧ greater 1.0 (0.0 / 0.0) = 1.0 := by decide
example : (lesser (-0.0) 0.0).toBits = 0 ∧ (greater (-0.0) 0.0).toBits = 0 := by decide

namespace Extent

/-- Two opposite corners, in any order. -/
def ofCorners (x1 y1 x2 y2 : Scalar) : Extent Scalar where
  west := lesser x1 x2
  south := lesser y1 y2
  east := greater x1 x2
  north := greater y1 y2

def Normalized (extent : Extent Scalar) : Prop :=
  extent.west ≤ extent.east ∧ extent.south ≤ extent.north

/-- The corners as a ring that starts in the south-west. -/
def corners (extent : Extent Scalar) : List (Position Scalar) :=
  [⟨extent.west, extent.south⟩, ⟨extent.east, extent.south⟩, ⟨extent.east, extent.north⟩,
    ⟨extent.west, extent.north⟩]

def contains (extent : Extent Scalar) (point : Position Scalar) : Bool :=
  extent.west ≤ point.lon && point.lon ≤ extent.east &&
    extent.south ≤ point.lat && point.lat ≤ extent.north

def overlaps (extent other : Extent Scalar) : Bool :=
  extent.west ≤ other.east && other.west ≤ extent.east &&
    extent.south ≤ other.north && other.south ≤ extent.north

/-! The smallest extent around a point, and around several. -/

def around (point : Position Scalar) : Extent Scalar :=
  ofCorners point.lon point.lat point.lon point.lat

def widen (extent : Extent Scalar) (point : Position Scalar) : Extent Scalar where
  west := lesser extent.west point.lon
  south := lesser extent.south point.lat
  east := greater extent.east point.lon
  north := greater extent.north point.lat

def covering : List (Position Scalar) → Option (Extent Scalar)
  | [] => none
  | first :: others => some (others.foldl widen (around first))

example : covering [⟨1, 1⟩, ⟨-2, 4⟩, ⟨0, -1⟩] = some (⟨-2, -1, 1, 4⟩ : Extent Int) := by decide
example : (⟨0, 0, 1, 1⟩ : Extent Int).overlaps ⟨1, 1, 2, 2⟩ := by decide

end Extent

end ExportWatch
