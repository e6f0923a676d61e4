import ApiStubs.FileTree
import ApiStubs.Table
import ApiStubs.Traced

/-! # Writing and reading in a file tree

A path that can be walked leads to its steps without detours, whatever stands in the tree. Writing a
file leaves every directory where it is, so all paths keep their places and the file is read back.
Making directories changes no file.
-/

namespace ApiStubs.FileTree

variable {t t' : FileTree} {place other here : Place} {e : Entry} {path directory name : String}
  {content : List UInt8} {above rest : List String}

theorem at?_putAt_of_ne (h : other ≠ place) : (t.putAt place e).at? other = t.at? other := by
  simp only [at?, putAt, List.lookup_cons, beq_false_of_ne h]
  rw [lookup_filter_ne h]

theorem at?_putAt_self (h : t.at? place ≠ some .directory) :
    (t.putAt place e).at? place = some e := by
  have hout : ¬ place.isPrefixOf t.home = true := fun hin => h (by rw [at?, if_pos hin])
  rw [at?, putAt, if_neg hout, List.lookup_cons_self]

section Walking

theorem walk_eq_ok (h : t.walk here above = .ok place) : place = normalSteps here above := by
  induction above generalizing here with
  | nil => exact (Except.ok.inj h).symm
  | cons step above ih =>
    rw [walk] at h
    rw [normalSteps]
    split at h
    · cases h
    · cases h
    · split at h
      · next hs => rw [if_pos hs]; exact ih h
      · next hs =>
        rw [if_neg hs]
        split at h
        · next hup => rw [if_pos hup]; exact ih h
        · next hup => rw [if_neg hup]; exact ih h

/-- A tree in which every directory of another one is a directory still. -/
structure Keeps (t t' : FileTree) : Prop where
  home : t'.home = t.home
  directories : ∀ place, t.at? place = some .directory → t'.at? place = some .directory

theorem Keeps.trans {t'' : FileTree} (h : Keeps t t') (h' : Keeps t' t'') : Keeps t t'' :=
  ⟨h'.home.trans h.home, fun place hd => h'.directories place (h.directories place hd)⟩

theorem Keeps.walk (hk : Keeps t t') (h : t.walk here above = .ok place) :
    t'.walk here above = .ok place := by
  induction above generalizing here with
  | nil => exact h
  | cons step above ih =>
    rw [FileTree.walk] at h ⊢
    split at h
    · cases h
    · cases h
    · next hd =>
      rw [hk.directories _ hd]
      split at h
      · next hs => simp only [if_pos hs]; exact ih h
      · next hs =>
        simp only [if_neg hs]
        split at h
        · next hup => simp only [if_pos hup]; exact ih h
        · next hup => simp only [if_neg hup]; exact ih h

theorem Keeps.locate (hk : Keeps t t') (h : t.locate path = .ok place) :
    t'.locate path = .ok place := by
  unfold FileTree.locate at h ⊢
  split at h
  · cases h
  · next hne =>
    rw [if_neg hne, start, hk.home]
    exact hk.walk h

end Walking

section Writing

theorem trimmed_of_not_endsInSlash (h : endsInSlash path = false) : trimmed path = path := by
  have hhead : path.toList.reverse.dropWhile (· = '/') = path.toList.reverse := by
    match hr : path.toList.reverse with
    | [] => rfl
    | c :: cs =>
      have hlast : path.toList.getLast? = some c := by
        rw [← List.head?_reverse, hr, List.head?_cons]
      have hc : c ≠ '/' := by simpa [endsInSlash, hlast] using h
      exact List.dropWhile_cons_of_neg (by simpa using hc)
  rw [trimmed, hhead]
  split
  · rfl
  · rw [List.reverse_reverse, String.ofList_toList]

/-- What a write that succeeds has done. -/
theorem write_eq_ok (h : t.write path content = .ok t') :
    endsInSlash path = false ∧ ∃ place, t.locate path = .ok place ∧
      t.at? place ≠ some .directory ∧ t' = t.putAt place (.file content) := by
  obtain ⟨place, hl, h⟩ := except_bind_eq_ok.mp h
  split at h
  · cases h
  · next hd =>
    split at h
    · cases h
    · next hslash =>
      have hslash := Bool.eq_false_iff.mpr hslash
      rw [trimmed_of_not_endsInSlash hslash] at hl
      exact ⟨hslash, place, hl, hd, (Except.ok.inj h).symm⟩

theorem keeps_write (h : t.write path content = .ok t') : Keeps t t' := by
  obtain ⟨-, place, -, hd, rfl⟩ := write_eq_ok h
  refine ⟨rfl, fun other ho => ?_⟩
  have hne : other ≠ place := fun he => hd (he ▸ ho)
  rw [at?_putAt_of_ne hne, ho]

theorem read_of_at? (hl : t.locate path = .ok place)
    (hf : t.at? place = some (.file content)) : t.read path = .ok content := by
  simp [read, find, hl, hf, Bind.bind, Except.bind]

/-- A file that was written stands at the place of its path, from where it is read back. -/
theorem at?_write (h : t.write path content = .ok t') (hl : t.locate path = .ok place) :
    t'.locate path = .ok place ∧ t'.at? place = some (.file content) := by
  refine ⟨(keeps_write h).locate hl, ?_⟩
  obtain ⟨-, other, ho, hd, rfl⟩ := write_eq_ok h
  obtain rfl : place = other := Except.ok.inj (hl.symm.trans ho)
  exact at?_putAt_self hd

/-- A file that was written can be written again. -/
theorem exists_write (h : t.write path content = .ok t') (content' : List UInt8) :
    ∃ t'', t'.write path content' = .ok t'' := by
  obtain ⟨hslash, place, hl, -, -⟩ := write_eq_ok h
  obtain ⟨hplace, hfile⟩ := at?_write h hl
  refine ⟨t'.putAt place (.file content'), ?_⟩
  rw [write, trimmed_of_not_endsInSlash hslash, hplace]
  simp [Bind.bind, Except.bind, hfile, hslash]

end Writing

section Directories

variable {t'' : FileTree} {n : Nat}

/-- Two trees with the same files. Directories may have been made. -/
structure SameFiles (t t' : FileTree) : Prop where
  home : t'.home = t.home
  files : ∀ place content,
    t'.at? place = some (.file content) ↔ t.at? place = some (.file content)

theorem SameFiles.refl (t : FileTree) : SameFiles t t :=
  ⟨rfl, fun _ _ => .rfl⟩

theorem SameFiles.trans (h : SameFiles t t') (h' : SameFiles t' t'') : SameFiles t t'' :=
  ⟨h'.home.trans h.home, fun place content => (h'.files place content).trans (h.files place content)⟩

theorem sameFiles_makeDirectory (h : t.makeDirectory path = .ok t') : SameFiles t t' := by
  obtain ⟨place, -, h⟩ := except_bind_eq_ok.mp h
  split at h
  · cases h
  · next hfree =>
    cases h
    refine ⟨rfl, fun other content => ?_⟩
    by_cases ho : other = place
    · subst ho
      rw [at?_putAt_self (by simp [hfree]), hfree]
      simp
    · rw [at?_putAt_of_ne ho]

/-- The last step of making directories: nothing is left to do, or one more is made unless it is
there. -/
theorem sameFiles_lastDirectory {done : Prop} [Decidable done]
    (h : (if done then .ok t
      else
        match t.makeDirectory path with
        | .ok made => .ok made
        | .error e => if t.isDirectory path then .ok t else .error e) =
          (.ok t' : Except FileFailure FileTree)) : SameFiles t t' := by
  split at h
  · cases h; exact .refl t
  · split at h
    · next made hmade =>
      cases h
      exact sameFiles_makeDirectory hmade
    · split at h
      · cases h; exact .refl t
      · cases h

theorem sameFiles_makeDirectoriesUpTo (h : makeDirectoriesUpTo n t path = .ok t') :
    SameFiles t t' := by
  induction n generalizing t t' path with
  | zero => cases h; exact .refl t
  | succ n ih =>
    rw [makeDirectoriesUpTo] at h
    generalize splitLast path = ends at h
    obtain ⟨head, last⟩ := ends
    dsimp only at h
    generalize (if last = "" then splitLast head else (head, last)) = parts at h
    split at h
    · cases hmade : makeDirectoriesUpTo n t parts.1 with
      | error f =>
        rw [hmade] at h
        cases f with
        | alreadyExists => exact sameFiles_lastDirectory h
        | missing => cases h
        | isDirectory => cases h
        | notDirectory => cases h
      | ok made =>
        rw [hmade] at h
        exact (ih hmade).trans (sameFiles_lastDirectory h)
    · exact sameFiles_lastDirectory h

theorem sameFiles_makeDirectories (h : t.makeDirectories path = .ok t') : SameFiles t t' :=
  sameFiles_makeDirectoriesUpTo h

end Directories

section Joining

/-- A name that is one step of a path and leads somewhere below. -/
def IsStep (name : String) : Prop :=
  '/' ∉ name.toList ∧ name ≠ "" ∧ name ≠ "." ∧ name ≠ ".."

/-- The steps to a directory to which names are joined. -/
def stepsTo (directory : String) : List String :=
  if directory = "" ∨ endsInSlash directory then (steps directory).dropLast else steps directory

/-- The place of a name in a directory, seen from a working directory and without detours. -/
def placeIn (home : Place) (directory name : String) : Place :=
  normalSteps (if isRooted (join directory name) then [] else home) (steps (join directory name))

theorem normalSteps_append (here : Place) (above rest : List String) :
    normalSteps here (above ++ rest) = normalSteps (normalSteps here above) rest := by
  induction above generalizing here with
  | nil => rfl
  | cons step above ih =>
    simp only [List.cons_append, normalSteps]
    split
    · exact ih _
    · split <;> exact ih _

theorem steps_of_isStep (h : IsStep name) : steps name = [name] := by
  rw [steps, Text.splitOn_of_not_mem h.1, List.map_singleton, String.ofList_toList]

theorem isRooted_of_isStep (h : IsStep name) : isRooted name = false := by
  refine Bool.eq_false_iff.mpr fun hr => h.1 ?_
  exact List.mem_of_head? (by simpa [isRooted] using hr)

theorem exists_of_endsInSlash (h : endsInSlash directory = true) :
    ∃ above, directory = above ++ "/" := by
  have hlast : directory.toList.getLast? = some '/' := by simpa [endsInSlash] using h
  obtain ⟨cs, hcs⟩ := List.getLast?_eq_some_iff.mp hlast
  exact ⟨String.ofList cs, String.toList_inj.mp (by simpa using hcs)⟩

theorem steps_join (h : IsStep name) :
    steps (join directory name) = stepsTo directory ++ [name] := by
  have hname : Text.splitOn '/' name.toList = [name.toList] := Text.splitOn_of_not_mem h.1
  rw [join, isRooted_of_isStep h, if_neg Bool.false_ne_true, stepsTo]
  by_cases hd : directory = "" ∨ endsInSlash directory = true
  · rw [if_pos hd, if_pos hd]
    rcases hd with rfl | hd
    · rw [String.empty_append, steps_of_isStep h]
      rfl
    · obtain ⟨above, rfl⟩ := exists_of_endsInSlash hd
      simp [steps, Text.splitOn_append_cons, hname, Text.splitOn]
  · rw [if_neg hd, if_neg hd]
    simp [steps, Text.splitOn_append_cons, hname]

theorem isRooted_join (h : IsStep name) : isRooted (join directory name) = isRooted directory := by
  rw [join, isRooted_of_isStep h, if_neg Bool.false_ne_true]
  by_cases hne : directory = ""
  · have hempty : isRooted "" = false := by decide
    simpa [hne, hempty] using isRooted_of_isStep h
  · have hcons : ∃ c cs, directory.toList = c :: cs :=
      List.exists_cons_of_ne_nil fun hnil => hne (String.toList_eq_nil_iff.mp hnil)
    obtain ⟨c, cs, hcs⟩ := hcons
    split <;> simp [isRooted, hcs]

theorem locate_join (h : t.locate (join directory name) = .ok place) :
    place = placeIn t.home directory name := by
  unfold locate at h
  split at h
  · cases h
  · exact walk_eq_ok h

theorem placeIn_of_isStep (home : Place) (h : IsStep name) : placeIn home directory name =
    normalSteps (if isRooted directory then [] else home) (stepsTo directory) ++ [name] := by
  rw [placeIn, steps_join h, isRooted_join h, normalSteps_append]
  simp [normalSteps, h.2.1, h.2.2.1, h.2.2.2]

/-- The place of a directory, seen from a working directory and without detours. -/
def directoryPlace (home : Place) (directory : String) : Place :=
  normalSteps (if isRooted directory then [] else home) (steps directory)

/-- The empty step at the end of a path with a slash there leads nowhere. -/
theorem normalSteps_stepsTo (here : Place) (directory : String) :
    normalSteps here (stepsTo directory) = normalSteps here (steps directory) := by
  unfold stepsTo
  split
  · next hd =>
    rcases hd with rfl | hd
    · rfl
    · obtain ⟨above, rfl⟩ := exists_of_endsInSlash hd
      have hsteps : steps (above ++ "/") = steps above ++ [""] := by
        simp [steps, Text.splitOn_append_cons, Text.splitOn]
      rw [hsteps, List.dropLast_concat, normalSteps_append]
      rfl
  · rfl

theorem placeIn_eq_directoryPlace (home : Place) (h : IsStep name) :
    placeIn home directory name = directoryPlace home directory ++ [name] := by
  rw [placeIn_of_isStep home h, normalSteps_stepsTo, directoryPlace]

theorem placeIn_inj {home : Place} {a b : String} (ha : IsStep a) (hb : IsStep b) :
    placeIn home directory a = placeIn home directory b ↔ a = b := by
  simp [placeIn_of_isStep home ha, placeIn_of_isStep home hb]

end Joining

end ApiStubs.FileTree
