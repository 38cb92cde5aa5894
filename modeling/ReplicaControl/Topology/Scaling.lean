import ReplicaControl.Single
import ReplicaControl.Version

/-!
# Cache sizes

Some database versions take the memory of the host for that of their container. Processes of these
versions are given a cache size (specification, section 4.1): half of what the container's limit
leaves beyond one GB, in thousandths of a GB, and never less than the engine accepts.
-/

namespace ReplicaControl.CacheSize

/-- Whether processes of `version` are given a cache size: `>=4.0.0,<4.0.9` and `<3.6.13`. Texts
that are no version count as affected. -/
def isNeeded (version : String) : Bool :=
  match Version.parseChars? (version.toList.dropWhile (· == 'v')) with
  | none => true
  | some v =>
    (!v.before ⟨4, 0, 0⟩ && v.before ⟨4, 0, 9⟩) || v.before ⟨3, 6, 13⟩

/-- The smallest cache that the engine accepts, 0.256 GB. -/
def least : Rat := Binary.double.nearest (mkRat 256 1000)

/-- `max((limitGB - 1) * 0.5, 0.256)` for a limit of `bytes`, cut to thousandths, each step rounded
to a double. -/
def ofLimit (bytes : UInt64) : Single :=
  let rounded := Binary.double.nearest
  let gigabytes := rounded (rounded (bytes.toNat : Rat) / 1000000000)
  let half := rounded (rounded (gigabytes - 1) / 2)
  let size := if half < least then least else half
  let steps := (rounded (size * 1000)).floor
  Single.round false (rounded ((steps : Rat) / 1000))

/-- The cache size that a process of `version` is given under `limit`, if any; a limit of `0` is
none. -/
def forVersion? (version : String) (limit : Option UInt64) : Option Single :=
  if isNeeded version then
    match limit with
    | some bytes => if bytes = 0 then none else some (ofLimit bytes)
    | none => none
  else none

end ReplicaControl.CacheSize

/-!
## Scaling

A replica set grows and shrinks by one member at a time (specification, section 10.2); one without
members starts at its full size.
-/

namespace ReplicaControl.Scaling

/-- The number of members to run next, `replicas_this_reconciliation` of section 10.2. -/
def nextMembers (current desired : Int32) : Int32 :=
  if current = 0 ∨ current = desired then desired
  else if desired < current then current - 1
  else current + 1

/-- Whether the desired number of members is not yet the next one, `is_still_scaling` of section
10.2. -/
def isScaling (current desired : Int32) : Bool := nextMembers current desired != desired

end ReplicaControl.Scaling
