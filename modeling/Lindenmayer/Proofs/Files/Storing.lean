import Lindenmayer.Files.Contents

/-!
# Making files

A file is made at the place that its path leads to. The way there consists of directories,
which stay what they are, so the path leads to the same place afterwards, and nothing has
changed anywhere else. A file that has just been made is empty, and filling it with nothing
leaves it so.
-/

namespace Lindenmayer

namespace Location

variable {upper middle lower : Location} {name : String}

theorem isAbove_iff :
    upper.isAbove lower ↔
      upper.origin = lower.origin ∧ upper.names.length < lower.names.length ∧
        upper.names <+: lower.names := by
  simp only [isAbove, Bool.and_eq_true, decide_eq_true_eq, List.prefix_iff_eq_take, and_assoc]
  rw [eq_comm (a := upper.names)]

theorem isAbove_trans (first : upper.isAbove middle) (second : middle.isAbove lower) :
    upper.isAbove lower := by
  rcases isAbove_iff.mp first with ⟨firstOrigin, firstShorter, firstNames⟩
  rcases isAbove_iff.mp second with ⟨secondOrigin, secondShorter, secondNames⟩
  exact isAbove_iff.mpr ⟨firstOrigin.trans secondOrigin, Nat.lt_trans firstShorter secondShorter,
    firstNames.trans secondNames⟩

theorem not_isAbove_of_names_eq_nil (top : lower.names = []) : ¬upper.isAbove lower := by
  simp [isAbove, top]

theorem names_parent_eq_nil_or_isAbove (location : Location) :
    location.parent.names = [] ∨ location.parent.isAbove location := by
  rcases location with ⟨origin, _ | ⟨first, rest⟩⟩
  · cases origin <;> exact .inl rfl
  · exact .inr (isAbove_iff.mpr ⟨rfl, by simp [parent], List.dropLast_prefix _⟩)

theorem eq_or_isAbove_of_isAbove_child (above : upper.isAbove (lower.child name)) :
    upper = lower ∨ upper.isAbove lower := by
  rcases isAbove_iff.mp above with ⟨sameOrigin, shorter, names⟩
  simp only [child, List.length_append, List.length_singleton] at sameOrigin shorter names
  rcases List.prefix_concat_iff.mp names with whole | part
  · simp [whole] at shorter
  · rcases Nat.lt_or_eq_of_le part.length_le with less | same
    · exact .inr (isAbove_iff.mpr ⟨sameOrigin, less, part⟩)
    · rcases upper with ⟨origin, upperNames⟩
      exact .inl (congr (congrArg mk sameOrigin) (part.eq_of_length same))

end Location

namespace Disk

variable {disk : Disk} {location place upper lower here there : Location}
  {contents : ByteArray} {path : String}

/-! ## Directories -/

theorem isStandingDirectory_of_names_eq_nil (top : location.names = []) :
    isStandingDirectory location := by
  rcases location with ⟨origin, names⟩
  cases top
  rfl

theorem hasDirectory_of_names_eq_nil (top : location.names = []) : disk.hasDirectory location :=
  Bool.or_eq_true_iff.mpr (.inl (isStandingDirectory_of_names_eq_nil top))

theorem hasDirectory_of_isAbove (directory : disk.hasDirectory lower)
    (above : upper.isAbove lower) : disk.hasDirectory upper := by
  rcases Bool.or_eq_true_iff.mp directory with standing | filled
  · have shorter := (Location.isAbove_iff.mp above).2.1
    have top : upper.names = [] := by
      unfold isStandingDirectory at standing
      split at standing
      · simp at shorter
      · simpa using shorter
      · contradiction
    exact hasDirectory_of_names_eq_nil top
  · apply Bool.or_eq_true_iff.mpr
    refine .inr (List.any_eq_true.mpr ?_)
    rcases List.any_eq_true.mp filled with ⟨file, fileMem, below⟩
    exact ⟨file, fileMem, Location.isAbove_trans above below⟩

theorem hasDirectory_of_found (found : disk.entry? location = some .directory) :
    disk.hasDirectory location := by
  unfold entry? at found
  split at found
  · simp at found
  · split at found
    · simp at found
    · split at found
      · assumption
      · simp at found

/-! ## What is stored -/

theorem lookup_filter_of_ne (different : place ≠ location) (files : List (Location × ByteArray)) :
    (files.filter fun (other, _) => other ≠ location).lookup place = files.lookup place := by
  induction files with
  | nil => rfl
  | cons file rest inductionHypothesis =>
      rcases file with ⟨other, contents⟩
      by_cases replaced : other = location
      · subst replaced
        have missed : (place == other) = false := beq_false_of_ne different
        simpa [List.lookup_cons, missed] using inductionHypothesis
      · have kept : decide (other ≠ location) = true := decide_eq_true replaced
        simp only [List.filter_cons, kept, if_true, List.lookup_cons, inductionHypothesis]

theorem hasDirectory_store :
    (disk.store location contents).hasDirectory place ↔
      disk.hasDirectory place ∨ place.isAbove location := by
  simp only [hasDirectory, store, List.any_cons, List.any_filter, Bool.or_eq_true, List.any_eq_true,
    Bool.and_eq_true, decide_eq_true_eq]
  constructor
  · rintro (standing | below | ⟨file, fileMem, _, below⟩)
    · exact .inl (.inl standing)
    · exact .inr below
    · exact .inl (.inr ⟨file, fileMem, below⟩)
  · rintro ((standing | ⟨file, fileMem, below⟩) | below)
    · exact .inl standing
    · by_cases replaced : file.1 = location
      · exact .inr (.inl (replaced ▸ below))
      · exact .inr (.inr ⟨file, fileMem, replaced, below⟩)
    · exact .inr (.inl below)

theorem entry?_store_self :
    entry? (disk.store location contents) location = some (.file contents) := by
  unfold entry?
  simp [store]

/-- A file that is made where there is a way to changes nothing at any other place. -/
theorem entry?_store_of_ne (way : disk.HasWayTo location) (different : place ≠ location) :
    entry? (disk.store location contents) place = disk.entry? place := by
  have sameFile : (disk.store location contents).files.lookup place = disk.files.lookup place := by
    have missed : (place == location) = false := beq_false_of_ne different
    simp only [store, List.lookup_cons, missed]
    exact lookup_filter_of_ne different disk.files
  have sameDirectory :
      (disk.store location contents).hasDirectory place = disk.hasDirectory place := by
    rw [Bool.eq_iff_iff, hasDirectory_store]
    exact or_iff_left_of_imp (way place)
  unfold entry?
  rw [sameFile, sameDirectory]

theorem store_store (earlier later : ByteArray) :
    (disk.store location earlier).store location later = disk.store location later := by
  simp [store, List.filter_filter]

/-! ## Following a path again -/

theorem hasWayTo_of_hasDirectory (directory : disk.hasDirectory location) :
    disk.HasWayTo location :=
  fun _ => hasDirectory_of_isAbove directory

/-- From a directory there is a way to wherever a step leads. -/
theorem hasWayTo_follow (directory : disk.hasDirectory here) (step : PathStep) :
    disk.HasWayTo (here.follow step) := by
  intro upper above
  cases step with
  | stay => exact hasDirectory_of_isAbove directory above
  | up =>
      rcases here.names_parent_eq_nil_or_isAbove with top | below
      · exact absurd above (Location.not_isAbove_of_names_eq_nil top)
      · exact hasDirectory_of_isAbove directory (Location.isAbove_trans above below)
  | down name =>
      rcases Location.eq_or_isAbove_of_isAbove_child above with rfl | higher
      · exact directory
      · exact hasDirectory_of_isAbove directory higher

theorem hasDirectory_of_descend {steps : List PathStep} (directory : disk.hasDirectory here)
    (reached : disk.descend here steps = .ok there) : disk.hasDirectory there := by
  induction steps generalizing here with
  | nil =>
      cases reached
      exact directory
  | cons step rest inductionHypothesis =>
      unfold descend at reached
      split at reached
      · contradiction
      · split at reached
        · contradiction
        · contradiction
        · rename_i found
          exact inductionHypothesis (hasDirectory_of_found found) reached

/-- What has been gone through stays what it was if a file is made where there is no directory. -/
theorem descend_store (way : disk.HasWayTo location)
    (noDirectory : disk.entry? location ≠ some .directory) {steps : List PathStep}
    (reached : disk.descend here steps = .ok there) :
    (disk.store location contents).descend here steps = .ok there := by
  induction steps generalizing here with
  | nil => exact reached
  | cons step rest inductionHypothesis =>
      unfold descend at reached ⊢
      split at reached
      · contradiction
      · rename_i short
        rw [if_neg short]
        split at reached
        · contradiction
        · contradiction
        · rename_i found
          have different : here.follow step ≠ location := by
            rintro rfl
            exact noDirectory found
          rw [entry?_store_of_ne way different, found]
          exact inductionHypothesis reached

theorem names_start (path : String) : (Route.ofText path).start.names = [] := by
  simp only [Route.ofText]
  split <;> rfl

/-- A path that leads somewhere has been followed to the directory before its last step. -/
theorem exists_descend_of_locate {route : Route}
    (located : disk.locate path = .ok (route, location)) :
    ∃ directory,
      disk.descend (Route.ofText path).start (Route.ofText path).steps.dropLast = .ok directory ∧
      (Route.ofText path).steps.getLast?.elim directory directory.follow = location := by
  simp only [locate] at located
  split at located
  · contradiction
  · split at located
    · contradiction
    · split at located
      · contradiction
      · rename_i directory reached
        cases located
        exact ⟨directory, reached, rfl⟩

theorem hasWayTo_of_locate {route : Route} (located : disk.locate path = .ok (route, location)) :
    disk.HasWayTo location := by
  rcases exists_descend_of_locate located with ⟨directory, reached, rfl⟩
  have isDirectory : disk.hasDirectory directory :=
    hasDirectory_of_descend (hasDirectory_of_names_eq_nil (names_start path)) reached
  cases (Route.ofText path).steps.getLast? with
  | none => exact hasWayTo_of_hasDirectory isDirectory
  | some step => exact hasWayTo_follow isDirectory step

/-- A path still leads to the file that has been made at its end. -/
theorem locate_store {route : Route} (located : disk.locate path = .ok (route, location))
    (noDirectory : disk.entry? location ≠ some .directory) :
    (disk.store location contents).locate path = .ok (route, location) := by
  rcases exists_descend_of_locate located with ⟨directory, reached, _⟩
  have again : (disk.store location contents).descend (Route.ofText path).start
      (Route.ofText path).steps.dropLast = .ok directory :=
    descend_store (hasWayTo_of_locate located) noDirectory reached
  rw [← located]
  simp only [locate, reached, again]

theorem place?_eq_some_iff :
    disk.place? path = some location ↔ ∃ route, disk.locate path = .ok (route, location) := by
  unfold place?
  split <;> rename_i located <;> simp [located]

/-! ## Making a file -/

theorem place?_emptied (found : disk.place? path = some location)
    (noDirectory : disk.entry? location ≠ some .directory) :
    (disk.emptied location).place? path = some location := by
  rcases place?_eq_some_iff.mp found with ⟨route, located⟩
  unfold emptied
  split
  · exact found
  · exact place?_eq_some_iff.mpr ⟨route, locate_store located noDirectory⟩

theorem entry?_emptied_self :
    entry? (disk.emptied location) location =
      if KeepsNothing location then disk.entry? location else some (.file ByteArray.empty) := by
  unfold emptied
  split
  · rfl
  · exact entry?_store_self

theorem entry?_emptied_of_ne (found : disk.place? path = some location)
    (different : place ≠ location) :
    entry? (disk.emptied location) place = disk.entry? place := by
  rcases place?_eq_some_iff.mp found with ⟨route, located⟩
  unfold emptied
  split
  · rfl
  · exact entry?_store_of_ne (hasWayTo_of_locate located) different

theorem emptied_emptied : (disk.emptied location).emptied location = disk.emptied location := by
  unfold emptied
  split
  · rfl
  · exact store_store _ _

theorem exists_file_of_keepsNothing (lost : KeepsNothing location) :
    ∃ contents, disk.entry? location = some (.file contents) := by
  have isDevice : (device? location).isSome := by
    rcases lost with sink | full
    · simp [sink]
    · simp [full]
  unfold entry?
  split
  · exact ⟨_, rfl⟩
  · exact ⟨_, if_pos isDevice⟩

theorem write_empty :
    disk.write location ByteArray.empty = (.ok (), disk.emptied location) := by
  unfold write emptied KeepsNothing
  split
  · simp [*]
  · simp only [*, or_true, if_true]
    rfl
  · simp [*]
  · simp [*]

/--
Making a file fails and does nothing, or the path leads to a place that is not a directory and
is emptied.
-/
theorem create_cases (disk : Disk) (path : String) :
    (∃ fault, disk.create path = (.error fault, disk)) ∨
      ∃ location, disk.place? path = some location ∧ disk.entry? location ≠ some .directory ∧
        disk.create path = (.ok (), disk.emptied location) := by
  unfold create
  split
  · rename_i fault _
    exact .inl ⟨fault, rfl⟩
  · rename_i route location located
    split
    · exact .inl ⟨_, rfl⟩
    · split
      · exact .inl ⟨_, rfl⟩
      · split
        · exact .inl ⟨_, rfl⟩
        · rename_i noDirectory
          refine .inr ⟨location, place?_eq_some_iff.mpr ⟨route, located⟩, noDirectory, ?_⟩
          exact write_empty

theorem fill_of_file (found : disk.place? path = some location)
    (file : disk.entry? location = some (.file contents)) (later : ByteArray) :
    disk.fill path later = disk.write location later := by
  rcases place?_eq_some_iff.mp found with ⟨route, located⟩
  simp only [fill, located, file]

/-- A file that has just been emptied is not changed if it is filled with nothing. -/
theorem fill_empty_emptied (found : disk.place? path = some location)
    (noDirectory : disk.entry? location ≠ some .directory) :
    (disk.emptied location).fill path ByteArray.empty = (.ok (), disk.emptied location) := by
  have file : ∃ contents, entry? (disk.emptied location) location = some (.file contents) := by
    rw [entry?_emptied_self]
    split
    · rename_i lost
      exact exists_file_of_keepsNothing lost
    · exact ⟨_, rfl⟩
  rcases file with ⟨contents, file⟩
  rw [fill_of_file (place?_emptied found noDirectory) file, write_empty, emptied_emptied]

/-! ## What making a file leaves behind -/

theorem entry?_create_of_ne (elsewhere : disk.place? path ≠ some place) :
    entry? (disk.create path).2 place = disk.entry? place := by
  rcases create_cases disk path with ⟨fault, refused⟩ | ⟨location, found, _, made⟩
  · rw [refused]
  · rw [made]
    apply entry?_emptied_of_ne found
    rintro rfl
    exact elsewhere found

theorem entryAt?_emptied (found : disk.place? path = some location)
    (noDirectory : disk.entry? location ≠ some .directory) :
    (disk.emptied location).entryAt? path =
      if KeepsNothing location then disk.entryAt? path else some (.file ByteArray.empty) := by
  simp only [entryAt?, place?_emptied found noDirectory, found, Option.bind_some,
    entry?_emptied_self]

/-- Making a file leaves what is at the end of its path alone, or empties it. -/
theorem entryAt?_create_eq_or (disk : Disk) (path : String) :
    (disk.create path).2.entryAt? path = disk.entryAt? path ∨
      (disk.create path).2.entryAt? path = some (.file ByteArray.empty) := by
  rcases create_cases disk path with ⟨fault, refused⟩ | ⟨location, found, noDirectory, made⟩
  · rw [refused]
    exact .inl rfl
  · rw [made, entryAt?_emptied found noDirectory]
    split
    · exact .inl rfl
    · exact .inr rfl

theorem entryAt?_create_eq_iff :
    (disk.create path).2.entryAt? path = disk.entryAt? path ↔
      (∃ fault, disk.create path = (.error fault, disk)) ∨
        disk.entryAt? path = some (.file ByteArray.empty) ∨
        ∃ location, disk.place? path = some location ∧ KeepsNothing location := by
  rcases create_cases disk path with ⟨fault, refused⟩ | ⟨location, found, noDirectory, made⟩
  · simp [refused]
  · rw [made, entryAt?_emptied found noDirectory]
    split
    · rename_i lost
      simp [found, lost]
    · rename_i kept
      simp [found, kept, eq_comm]

end Disk

end Lindenmayer
