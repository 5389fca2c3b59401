import MmsInbox.File.Directory

namespace MmsInbox.File

/-!
# Removing files side by side

A path is decided by the entries at its waypoints alone. So a file can be removed without any effect on a
path that neither leads to it nor through it (`Directory.Avoids.file_remove`), and two files whose paths are
apart in this way can be removed in either order (`Directory.Apart.remove_comm`).
-/

/-- The place that a name leads to from a folder. -/
def onward
    (place : Place)
    (name : String) :
    Place :=
  if name = "" ∨ name = "." then place
  else if name = ".." then above place
  else place ++ [name]

/-- The places that names lead through from a place, and the place they lead to, if all that is passed
through is a folder. -/
def waypoints : Place → List String → List Place
  | place, [] => [place]
  | place, name :: rest => place :: waypoints (onward place name) rest

/-- The places that a path leads through, and the place it leads to. -/
def waypointsOf (path : String) : List Place :=
  waypoints (if path.startsWith "/" then rootPlace else []) (names path)

namespace Directory

/-- A path does not lead to the file at the end of another path, nor through it. -/
def Avoids
    (directory : Directory)
    (path other : String) :
    Prop :=
  ∀ place content, directory.file other = .ok (place, content) → place ∉ waypointsOf path

/-- Two paths of which neither leads to the file at the end of the other, nor through it. -/
structure Apart
    (directory : Directory)
    (path other : String) :
    Prop where
  avoids : directory.Avoids path other
  avoided : directory.Avoids other path

/-- An erased entry is missing at its place only. -/
theorem lookup_filter_ne
    (entries : List (Place × Entry))
    {gone place : Place}
    (different : place ≠ gone) :
    (entries.filter (·.1 ≠ gone)).lookup place = entries.lookup place := by
  induction entries with
  | nil => rfl
  | cons first rest inductionHypothesis =>
      obtain ⟨there, entry⟩ := first
      by_cases erased : there = gone
      · subst erased
        have unequal : (place == there) = false := by simpa using different
        simpa [List.lookup_cons, unequal] using inductionHypothesis
      · by_cases found : place = there
        · simp [erased, found]
        · have unequal : (place == there) = false := by simpa using found
          simpa [erased, List.lookup_cons, unequal] using inductionHypothesis

theorem entry?_erase_of_ne
    (directory : Directory)
    {gone place : Place}
    (different : place ≠ gone) :
    Directory.entry? (directory.erase gone) place = directory.entry? place := by
  unfold entry? erase
  rw [lookup_filter_ne directory.entries different]

/-- An entry that is left when another is erased was there before. -/
theorem entry?_of_entry?_erase
    {directory : Directory}
    {gone place : Place}
    {entry : Entry}
    (left : Directory.entry? (directory.erase gone) place = some entry) :
    directory.entry? place = some entry := by
  by_cases same : place = gone
  · subst same
    have missing : (directory.entries.filter (·.1 ≠ place)).lookup place = none := by
      refine List.lookup_eq_none_iff.mpr fun pair member => ?_
      have other : pair.1 ≠ place := by simpa using (List.mem_filter.mp member).2
      simpa using Ne.symm other
    unfold entry? erase at left
    unfold entry?
    rw [missing] at left
    split at left
    · rwa [if_pos ‹_›]
    · cases left
  · rwa [entry?_erase_of_ne directory same] at left

/-- What names lead to from a folder is what the names after the first lead to from the next place. -/
theorem follow_cons_of_folder
    {directory : Directory}
    {place : Place}
    (folder : directory.entry? place = some .folder)
    (name : String)
    (rest : List String) :
    directory.follow place (name :: rest) =
      if maxNameLength < name.utf8ByteSize then .error .nameTooLong
      else directory.follow (onward place name) rest := by
  rw [follow, folder, onward]
  dsimp only
  by_cases staying : name = "" ∨ name = "."
  · have short : ¬ maxNameLength < name.utf8ByteSize := by
      rcases staying with rfl | rfl <;> decide
    rw [if_pos staying, if_pos staying, if_neg short]
  · by_cases upward : name = ".."
    · have short : ¬ maxNameLength < name.utf8ByteSize := by
        subst upward
        decide
      rw [if_neg staying, if_neg staying, if_pos upward, if_pos upward, if_neg short]
    · rw [if_neg staying, if_neg staying, if_neg upward, if_neg upward]

/-- Where names lead is one of their waypoints. -/
theorem mem_waypoints_of_follow
    {directory : Directory}
    {place reached : Place}
    {names : List String}
    (follows : directory.follow place names = .ok reached) :
    reached ∈ waypoints place names := by
  induction names generalizing place with
  | nil =>
      cases follows
      exact List.mem_cons_self
  | cons name rest inductionHypothesis =>
      cases there : directory.entry? place with
      | none => simp [follow, there] at follows
      | some entry =>
          cases entry with
          | file content => simp [follow, there] at follows
          | folder =>
              rw [follow_cons_of_folder there] at follows
              split at follows
              · cases follows
              · exact List.mem_cons_of_mem _ (inductionHypothesis follows)

/-- Where names lead is decided at their waypoints. -/
theorem follow_erase_of_not_mem
    (directory : Directory)
    {gone place : Place}
    {names : List String}
    (aside : gone ∉ waypoints place names) :
    (directory.erase gone).follow place names = directory.follow place names := by
  induction names generalizing place with
  | nil => rfl
  | cons name rest inductionHypothesis =>
      simp only [waypoints, List.mem_cons, not_or] at aside
      obtain ⟨different, restAside⟩ := aside
      have same : Directory.entry? (directory.erase gone) place = directory.entry? place :=
        entry?_erase_of_ne directory (Ne.symm different)
      cases there : directory.entry? place with
      | none => simp [follow, same, there]
      | some entry =>
          cases entry with
          | file content => simp [follow, same, there]
          | folder =>
              rw [follow_cons_of_folder there, follow_cons_of_folder (same.trans there),
                inductionHypothesis restAside]

/-- Names that lead somewhere after an entry was erased led there before. -/
theorem follow_of_follow_erase
    {directory : Directory}
    {gone place reached : Place}
    {names : List String}
    (follows : (directory.erase gone).follow place names = .ok reached) :
    directory.follow place names = .ok reached := by
  induction names generalizing place with
  | nil => exact follows
  | cons name rest inductionHypothesis =>
      cases there : Directory.entry? (directory.erase gone) place with
      | none => simp [follow, there] at follows
      | some entry =>
          cases entry with
          | file content => simp [follow, there] at follows
          | folder =>
              rw [follow_cons_of_folder there] at follows
              rw [follow_cons_of_folder (entry?_of_entry?_erase there)]
              split
              · rw [if_pos ‹_›] at follows
                cases follows
              · rw [if_neg ‹_›] at follows
                exact inductionHypothesis follows

/-- A path that is not malformed leads where its names lead. -/
theorem resolve_eq_ok_iff
    {directory : Directory}
    {path : String}
    {place : Place} :
    directory.resolve path = .ok place ↔
      (path.contains '\x00' = false ∧ path ≠ "" ∧ path.utf8ByteSize < maxPathLength) ∧
        directory.follow (if path.startsWith "/" then rootPlace else []) (names path) =
          .ok place := by
  unfold resolve
  by_cases nul : path.contains '\x00' = true
  · simp [nul]
  · by_cases empty : path = ""
    · simp [empty]
    · by_cases long : maxPathLength ≤ path.utf8ByteSize
      · simp [nul, empty, long, Nat.not_lt_of_le long]
      · simp [nul, empty, long, Nat.lt_of_not_le long]

/-- Where a path leads is one of its waypoints. -/
theorem mem_waypointsOf_of_resolve
    {directory : Directory}
    {path : String}
    {place : Place}
    (resolved : directory.resolve path = .ok place) :
    place ∈ waypointsOf path :=
  mem_waypoints_of_follow (resolve_eq_ok_iff.mp resolved).2

/-- A file is found where its path leads. -/
theorem file_eq_ok_iff
    {directory : Directory}
    {path : String}
    {place : Place}
    {content : Bytes} :
    directory.file path = .ok (place, content) ↔
      directory.resolve path = .ok place ∧ directory.entry? place = some (.file content) := by
  unfold file
  cases reached : directory.resolve path with
  | error error => simp
  | ok there =>
      simp only [Except.ok.injEq]
      cases held : directory.entry? there with
      | none =>
          refine ⟨fun found => (by cases found), ?_⟩
          rintro ⟨rfl, there⟩
          cases held.symm.trans there
      | some entry =>
          cases entry with
          | file kept =>
              simp only [Except.ok.injEq, Prod.mk.injEq]
              refine and_congr_right ?_
              rintro rfl
              simp [held]
          | folder =>
              refine ⟨fun found => (by cases found), ?_⟩
              rintro ⟨rfl, there⟩
              cases held.symm.trans there

/-- All that names lead through is a folder. -/
theorem folder_of_mem_waypoints
    {directory : Directory}
    {place reached waypoint : Place}
    {names : List String}
    (follows : directory.follow place names = .ok reached)
    (passed : waypoint ∈ waypoints place names)
    (notReached : waypoint ≠ reached) :
    directory.entry? waypoint = some .folder := by
  induction names generalizing place with
  | nil =>
      cases follows
      exact absurd (List.mem_singleton.mp passed) notReached
  | cons name rest inductionHypothesis =>
      cases there : directory.entry? place with
      | none => simp [follow, there] at follows
      | some entry =>
          cases entry with
          | file content => simp [follow, there] at follows
          | folder =>
              rw [follow_cons_of_folder there] at follows
              split at follows
              · cases follows
              · rcases List.mem_cons.mp passed with rfl | later
                · exact there
                · exact inductionHypothesis follows later

/-- A path to a file avoids every other file. -/
theorem avoids_of_file
    {directory : Directory}
    {path other : String}
    {place otherPlace : Place}
    {content otherContent : Bytes}
    (found : directory.file path = .ok (place, content))
    (otherFound : directory.file other = .ok (otherPlace, otherContent))
    (different : place ≠ otherPlace) :
    directory.Avoids path other := by
  intro gone goneContent goneFound passed
  obtain ⟨rfl, _⟩ := Prod.mk.inj (Except.ok.inj (otherFound.symm.trans goneFound))
  obtain ⟨resolved, _⟩ := file_eq_ok_iff.mp found
  obtain ⟨_, held⟩ := file_eq_ok_iff.mp otherFound
  have folder : directory.entry? otherPlace = some .folder :=
    folder_of_mem_waypoints (resolve_eq_ok_iff.mp resolved).2 passed (Ne.symm different)
  cases held.symm.trans folder

/-- Paths to two files are apart. -/
theorem apart_of_files
    {directory : Directory}
    {path other : String}
    {place otherPlace : Place}
    {content otherContent : Bytes}
    (found : directory.file path = .ok (place, content))
    (otherFound : directory.file other = .ok (otherPlace, otherContent))
    (different : place ≠ otherPlace) :
    directory.Apart path other :=
  ⟨avoids_of_file found otherFound different,
    avoids_of_file otherFound found (Ne.symm different)⟩

/-- A path whose waypoints avoid a place leads to the same file when the entry there is erased. -/
theorem file_erase_of_not_mem
    (directory : Directory)
    {gone : Place}
    {path : String}
    (aside : gone ∉ waypointsOf path) :
    (directory.erase gone).file path = directory.file path := by
  have resolved : (directory.erase gone).resolve path = directory.resolve path := by
    unfold resolve
    rw [follow_erase_of_not_mem directory aside]
  unfold file
  rw [resolved]
  cases reached : directory.resolve path with
  | error error => rfl
  | ok place =>
      have different : place ≠ gone := fun same =>
        aside (same ▸ mem_waypointsOf_of_resolve reached)
      dsimp only
      rw [entry?_erase_of_ne directory different]

/-- A file that a path leads to after an entry was erased was there before. -/
theorem file_of_file_erase
    {directory : Directory}
    {gone place : Place}
    {path : String}
    {content : Bytes}
    (found : (directory.erase gone).file path = .ok (place, content)) :
    directory.file path = .ok (place, content) := by
  obtain ⟨resolved, held⟩ := file_eq_ok_iff.mp found
  obtain ⟨valid, follows⟩ := resolve_eq_ok_iff.mp resolved
  exact file_eq_ok_iff.mpr
    ⟨resolve_eq_ok_iff.mpr ⟨valid, follow_of_follow_erase follows⟩, entry?_of_entry?_erase held⟩

section Removing

variable
  {directory : Directory}
  {path other : String}

/-- A file can be removed, and then its entry is gone. -/
theorem remove_of_file
    {place : Place}
    {content : Bytes}
    (found : directory.file path = .ok (place, content)) :
    directory.remove path = (.ok (), directory.erase place) := by
  simp [remove, found]

/-- What is no file cannot be removed. -/
theorem remove_of_error
    {error : Error}
    (missing : directory.file path = .error error) :
    directory.remove path = (.error error, directory) := by
  simp [remove, missing]

/-- Removing a file does not change what a path leads to that avoids it. -/
theorem Avoids.file_remove (avoids : directory.Avoids path other) :
    (directory.remove other).2.file path = directory.file path := by
  cases found : directory.file other with
  | error error => rw [remove_of_error found]
  | ok file => rw [remove_of_file found, file_erase_of_not_mem directory (avoids _ _ found)]

/-- Whether a file can be removed depends on what the path leads to alone. -/
theorem remove_fst_congr
    {changed : Directory}
    (same : changed.file path = directory.file path) :
    (changed.remove path).1 = (directory.remove path).1 := by
  cases found : directory.file path with
  | error error => rw [remove_of_error found, remove_of_error (same.trans found)]
  | ok file => rw [remove_of_file found, remove_of_file (same.trans found)]

/-- A path that avoids a file avoids it as well when some file has been removed. -/
theorem Avoids.remove
    (avoids : directory.Avoids path other)
    (gone : String) :
    (directory.remove gone).2.Avoids path other := by
  intro place content found
  cases held : directory.file gone with
  | error error =>
      rw [remove_of_error held] at found
      exact avoids place content found
  | ok file =>
      rw [remove_of_file held] at found
      exact avoids place content (file_of_file_erase found)

theorem Apart.symm (apart : directory.Apart path other) : directory.Apart other path :=
  ⟨apart.avoided, apart.avoids⟩

theorem Apart.remove
    (apart : directory.Apart path other)
    (gone : String) :
    (directory.remove gone).2.Apart path other :=
  ⟨apart.avoids.remove gone, apart.avoided.remove gone⟩

theorem erase_comm
    (directory : Directory)
    (place other : Place) :
    (directory.erase place).erase other = (directory.erase other).erase place := by
  simp [erase, List.filter_filter, Bool.and_comm]

/-- Files whose paths are apart may be removed in either order. -/
theorem Apart.remove_comm (apart : directory.Apart path other) :
    ((directory.remove path).2.remove other).2 = ((directory.remove other).2.remove path).2 := by
  have kept : (directory.remove other).2.file path = directory.file path := apart.avoids.file_remove
  have keptToo : (directory.remove path).2.file other = directory.file other :=
    apart.avoided.file_remove
  cases found : directory.file path with
  | error error =>
      rw [remove_of_error (kept.trans found), remove_of_error found]
  | ok file =>
      cases foundToo : directory.file other with
      | error error =>
          rw [remove_of_error (keptToo.trans foundToo), remove_of_error foundToo]
      | ok held =>
          rw [remove_of_file (keptToo.trans foundToo), remove_of_file (kept.trans found),
            remove_of_file found, remove_of_file foundToo, erase_comm]

end Removing

end Directory

end MmsInbox.File
