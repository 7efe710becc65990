import FleetResponse.Firmware.Segment
import FleetResponse.Text.Blank

/-!
# Firmware versions

Every text is a firmware version. Blank ends, one leading `v` and everything from the first `+`
on are no part of its value; the first `-` of the rest separates the release from a pre-release.
-/

namespace FleetResponse.Firmware

structure Version where
  text : String
deriving DecidableEq, Repr

namespace Version

def withoutLeadingV : List Char → List Char
  | 'v' :: cs => cs
  | 'V' :: cs => cs
  | cs => cs

def body (v : Version) : List Char :=
  Text.upTo '+' (withoutLeadingV (Text.trim v.text.toList))

def parts (v : Version) : List Char × Option (List Char) :=
  match Text.cut? '-' v.body with
  | none => (v.body, none)
  | some (release, preRelease) => (release, some preRelease)

def release (v : Version) : List Segment :=
  Segment.list v.parts.1

def preRelease? (v : Version) : Option (List Segment) :=
  v.parts.2.map Segment.list

/-- Compares releases position by position. A missing segment counts as zero. -/
def compareRelease : List Segment → List Segment → Ordering
  | [], bs => bs.foldr (fun b later => (Ord.compare Segment.zero b).then later) .eq
  | a :: as, bs => (Ord.compare a (bs.headD Segment.zero)).then (compareRelease as bs.tail)

/-- A version with a pre-release is below its release; of two pre-releases a proper beginning of
the other is below it. -/
def comparePreRelease : Option (List Segment) → Option (List Segment) → Ordering
  | none, none => .eq
  | some _, none => .lt
  | none, some _ => .gt
  | some a, some b => Ord.compare a b

def compare (a b : Version) : Ordering :=
  (compareRelease a.release b.release).then (comparePreRelease a.preRelease? b.preRelease?)

instance : Ord Version where
  compare := compare

def same (a b : Version) : Bool :=
  compare a b == .eq

def le (a b : Version) : Bool :=
  (compare a b).isLE

def sorted (versions : List Version) : List Version :=
  versions.mergeSort le

def distinct (versions : List Version) : List Version :=
  versions.eraseRepsBy same

end Version

end FleetResponse.Firmware
