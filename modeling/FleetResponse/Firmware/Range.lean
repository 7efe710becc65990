import FleetResponse.Firmware.Version

namespace FleetResponse.Firmware

structure Range where
  min : Option Version
  max : Option Version
  ordered : ∀ lo ∈ min, ∀ hi ∈ max, lo.le hi = true
deriving DecidableEq

structure RangeError where
  min : String
  max : String
deriving DecidableEq, Repr

namespace RangeError

def message (e : RangeError) : String :=
  "firmware range is empty: min " ++ e.min ++ " is above max " ++ e.max

end RangeError

namespace Range

def bound (text : String) : Option Version :=
  if Text.allBlank text.toList then none else some ⟨text⟩

def between (min max : String) : Except RangeError Range :=
  if h : ∀ lo ∈ bound min, ∀ hi ∈ bound max, lo.le hi = true then .ok ⟨bound min, bound max, h⟩
  else .error ⟨min, max⟩

def contains (range : Range) (v : Version) : Bool :=
  range.min.all (·.le v) && range.max.all (v.le ·)

def boundText (bound : Option Version) : String :=
  bound.elim "*" Version.text

def text (range : Range) : String :=
  boundText range.min ++ "–" ++ boundText range.max

end Range

end FleetResponse.Firmware
