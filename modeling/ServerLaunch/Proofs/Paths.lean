import ServerLaunch.Path

/-!
# Paths and Their Texts

What is lost when a path is written, and what a current directory adds to it.

A path that was read from a text consists of names, pieces without a slash that are neither empty
nor a single dot. Such a path is written and read again without a loss, so its text stands for it
wherever a text is all that can be passed on. A path of names that no text has would not survive
this: `IsNormal` sets those apart.

Where a path leads depends on the current directory exactly as far as it is not absolute. A path
takes away no more names than it has, so a relative one, seen from a directory that lies deep
enough, leads to a file as deep as one likes.

## Main definitions

* `Path.IsName`: A piece of a text that names something.
* `Path.IsNormal`: A path that consists of names.

## Theorems

* `Path.isNormal_ofString`, `Path.IsNormal.ofString_toText`: Reading gives normal paths, and what
  is written of them is read back.
* `Path.isAbsolute_ofString_toText`: The text of an absolute path is one.
* `Path.resolve_of_isAbsolute`: An absolute path leads to the same file from everywhere.
* `Path.resolve_of_plain`: And through its own names, unless there are pairs of dots among them.
* `Path.exists_resolve_ne`: A relative path does not.
-/

namespace ServerLaunch

namespace Path

/-- A piece of a text that names something. -/
structure IsName (piece : List Char) : Prop where
  noSlash : '/' ∉ piece
  notIdle : isIdle piece = false

/-- A path that consists of names. -/
def IsNormal (p : Path) : Prop :=
  ∀ name ∈ p.names, IsName name.toList

section Reading

/-! ## Reading and writing -/

theorem splitSlashes_eq (cs : List Char) : splitSlashes cs = cs.splitOn '/' := by
  induction cs with
  | nil => rfl
  | cons c cs ih =>
      rw [List.splitOn_cons_eq_if_modifyHead, ← ih]
      by_cases hc : c = '/'
      · rw [hc]
        rfl
      · rw [splitSlashes.eq_3 c cs hc, if_neg (by rwa [beq_iff_eq])]
        cases hpieces : splitSlashes cs with
        | nil => exact absurd (ih.symm.trans hpieces) (List.splitOn_ne_nil _ _)
        | cons piece pieces => rfl

theorem noSlash_of_mem_splitSlashes {cs piece : List Char} (h : piece ∈ splitSlashes cs) :
    '/' ∉ piece := by
  induction cs generalizing piece with
  | nil =>
      rw [List.mem_singleton.mp h]
      exact List.not_mem_nil
  | cons c cs ih =>
      by_cases hc : c = '/'
      · rw [hc] at h
        rcases List.mem_cons.mp h with rfl | hmem
        · exact List.not_mem_nil
        · exact ih hmem
      · rw [splitSlashes.eq_3 c cs hc] at h
        cases hpieces : splitSlashes cs with
        | nil =>
            rw [hpieces] at h
            rw [List.mem_singleton.mp h, List.mem_singleton]
            exact fun hslash => hc hslash.symm
        | cons first pieces =>
            rw [hpieces] at h ih
            rcases List.mem_cons.mp h with rfl | hmem
            · rw [List.mem_cons, not_or]
              exact ⟨fun hslash => hc hslash.symm, ih List.mem_cons_self⟩
            · exact ih (List.mem_cons_of_mem first hmem)

/-- A path that is read from a text is normal. -/
theorem isNormal_ofString (s : String) : (ofString s).IsNormal := by
  intro name hname
  rcases List.mem_map.mp hname with ⟨piece, hpiece, rfl⟩
  rcases List.mem_filter.mp hpiece with ⟨hmem, hidle⟩
  rw [String.toList_ofList]
  exact ⟨noSlash_of_mem_splitSlashes hmem, by simpa using hidle⟩

variable {names : List String}

/-- Names with a slash between two of them are read back. -/
theorem namesOf_intercalate (h : ∀ name ∈ names, IsName name.toList) :
    namesOf ("/".intercalate names).toList = names := by
  have hslash : "/".toList = ['/'] := rfl
  rw [String.toList_intercalate, hslash, namesOf, splitSlashes_eq]
  cases names with
  | nil => rfl
  | cons name rest =>
      have hpieces : ∀ piece ∈ (name :: rest).map String.toList, IsName piece :=
        List.forall_mem_map.mpr h
      rw [List.splitOn_intercalate '/' (fun piece hpiece => (hpieces piece hpiece).noSlash)
        (List.cons_ne_nil _ _), List.filter_eq_self.mpr fun piece hpiece => by
          rw [(hpieces piece hpiece).notIdle, Bool.not_false], List.map_map]
      exact (List.map_congr_left fun s _ => String.ofList_toList).trans (List.map_id _)

/-- The first character of names with a slash between two of them is not a slash. -/
theorem exists_intercalate_eq_cons {name : String} (h : ∀ n ∈ name :: names, IsName n.toList) :
    ∃ c cs, c ≠ '/' ∧ ("/".intercalate (name :: names)).toList = c :: cs := by
  have hname := h name List.mem_cons_self
  cases hcs : name.toList with
  | nil =>
      rw [hcs] at hname
      exact absurd hname.notIdle Bool.true_eq_false.mp
  | cons c cs =>
      rw [hcs] at hname
      have hc : c ≠ '/' := fun hc => hname.noSlash (hc ▸ List.mem_cons_self)
      rw [String.toList_intercalate]
      cases names with
      | nil => exact ⟨c, cs, hc, by rw [List.map_singleton, List.intercalate_singleton, hcs]⟩
      | cons next rest =>
          rw [List.map_cons, List.map_cons, List.intercalate_cons_cons, hcs]
          exact ⟨c, _, hc, rfl⟩

/-- Slashes in front of another character say where a path starts from. -/
theorem rootOf_rootText {c : Char} (hc : c ≠ '/') (root : PathRoot) (cs : List Char) :
    rootOf ((rootText root).toList ++ c :: cs) = root := by
  have hne (cs' : List Char) (h : c :: cs = '/' :: cs') : False := hc (List.cons.inj h).1
  cases root with
  | relative => exact rootOf.eq_4 _ (fun _ => hne _) (fun _ => hne _) (fun _ => hne _)
  | single => exact rootOf.eq_3 _ (fun _ => hne _) (fun _ => hne _)
  | double => exact rootOf.eq_2 _ (fun _ => hne _)

/-- Slashes in front of a text add no name. -/
theorem namesOf_rootText (root : PathRoot) (cs : List Char) :
    namesOf ((rootText root).toList ++ cs) = namesOf cs := by
  cases root <;> rfl

/-- What is written of a normal path is read back. -/
theorem IsNormal.ofString_toText {p : Path} (h : p.IsNormal) : ofString p.toText = p := by
  rcases p with ⟨root, names⟩
  cases names with
  | nil => cases root <;> decide
  | cons name names =>
      rcases exists_intercalate_eq_cons h with ⟨c, cs, hc, htext⟩
      have hnames := namesOf_intercalate h
      have hwritten : toText ⟨root, name :: names⟩
          = rootText root ++ "/".intercalate (name :: names) := by
        cases root <;> rfl
      rw [hwritten, ofString, String.toList_append, namesOf_rootText, hnames, htext,
        rootOf_rootText hc]

/-- The text of an absolute path begins with a slash. -/
theorem exists_toText_eq_cons {p : Path} (h : p.isAbsolute) :
    ∃ cs, p.toText.toList = '/' :: cs := by
  rcases p with ⟨root, names⟩
  have happend (s : String) : ("/" ++ s).toList = '/' :: s.toList := String.toList_append
  cases root with
  | relative => exact absurd h Bool.false_ne_true
  | single => exact ⟨_, happend _⟩
  | double =>
      have hdouble : toText ⟨.double, names⟩ = "/" ++ ("/" ++ "/".intercalate names) := by
        rw [← String.append_assoc]
        rfl
      exact ⟨_, by rw [hdouble, happend]⟩

theorem rootOf_slash_ne (cs : List Char) : rootOf ('/' :: cs) ≠ .relative := by
  unfold rootOf
  split
  · exact PathRoot.noConfusion
  · exact PathRoot.noConfusion
  · exact PathRoot.noConfusion
  · next hnone => exact fun _ => hnone cs rfl

/-- The text of an absolute path is read as one. -/
theorem isAbsolute_ofString_toText {p : Path} (h : p.isAbsolute) :
    (ofString p.toText).isAbsolute := by
  rcases exists_toText_eq_cons h with ⟨cs, hcs⟩
  rw [isAbsolute, ofString, hcs]
  exact bne_iff_ne.mpr (rootOf_slash_ne cs)

end Reading

section Leading

/-! ## Where a path leads -/

/-- A path seen from an absolute directory is absolute. -/
theorem isAbsolute_absolute {p cwd : Path} (h : cwd.isAbsolute) : (p.absolute cwd).isAbsolute := by
  unfold absolute append
  split
  · assumption
  · exact h

/-- An absolute path leads to the same file from everywhere. -/
theorem resolve_of_isAbsolute {p : Path} (h : p.isAbsolute) (cwd cwd' : Path) :
    p.resolve cwd = p.resolve cwd' := by
  simp only [resolve, append, h, if_true]

/-- One name further on the way from the root. -/
def enter (done : List String) (name : String) : List String :=
  if name == ".." then done.dropLast else done ++ [name]

theorem foldl_enter_of_not_mem {names : List String} (h : ".." ∉ names) (done : List String) :
    names.foldl enter done = done ++ names := by
  induction names generalizing done with
  | nil => exact (List.append_nil done).symm
  | cons name names ih =>
      rw [List.mem_cons, not_or] at h
      have hname : enter done name = done ++ [name] := if_neg (by simpa using Ne.symm h.1)
      rw [List.foldl_cons, hname, ih h.2, List.append_assoc]
      rfl

/-- An absolute path without pairs of dots leads through its own names. -/
theorem resolve_of_plain {p : Path} (h : p.isAbsolute) (hplain : ".." ∉ p.names) (cwd : Path) :
    p.resolve cwd = p.names := by
  have hwalk : p.resolve cwd = (append cwd p).names.foldl enter [] := rfl
  have happend : append cwd p = p := if_pos h
  rw [hwalk, happend, foldl_enter_of_not_mem hplain, List.nil_append]

/-- A name takes away one name at the most. -/
theorem length_le_foldl_enter (names done : List String) :
    done.length ≤ (names.foldl enter done).length + names.length := by
  induction names generalizing done with
  | nil => exact Nat.le_refl _
  | cons name names ih =>
      have hstep : done.length ≤ (enter done name).length + 1 := by
        unfold enter
        split
        · rw [List.length_dropLast]
          omega
        · rw [List.length_append]
          omega
      have hrest := ih (enter done name)
      rw [List.foldl_cons, List.length_cons]
      omega

/-- A relative path leads elsewhere if the current directory lies deep enough. -/
theorem exists_resolve_ne {p : Path} (h : p.isAbsolute = false) (names : List String) :
    ∃ cwd : Path, cwd.isAbsolute ∧ p.resolve cwd ≠ names := by
  let cwd : Path := ⟨.single, List.replicate (names.length + p.names.length + 1) "x"⟩
  refine ⟨cwd, rfl, fun heq => ?_⟩
  have hplain : ".." ∉ cwd.names := fun hmem =>
    absurd (List.eq_of_mem_replicate hmem) (by decide)
  have hresolve : p.resolve cwd = p.names.foldl enter cwd.names := by
    have hnames : (append cwd p).names = cwd.names ++ p.names := by
      simp only [append, h, Bool.false_eq_true, if_false]
    have hwalk : p.resolve cwd = (append cwd p).names.foldl enter [] := rfl
    rw [hwalk, hnames, List.foldl_append, foldl_enter_of_not_mem hplain, List.nil_append]
  have hlength := length_le_foldl_enter p.names cwd.names
  rw [← hresolve, heq, List.length_replicate] at hlength
  omega

end Leading

end Path

end ServerLaunch
